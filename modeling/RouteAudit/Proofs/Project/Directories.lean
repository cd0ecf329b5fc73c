import RouteAudit.Autoload
import RouteAudit.Proofs.Project.Check

/-!
# The directories of a namespace

The controllers of a namespace are looked for in the directories to which the autoload table leads,
and a class of the namespace is looked for in the files to which its own name leads.  The two ways
are worked out apart, one from the namespace and one from the name of the class, and they come to
the same places (`directories_agree`).

The directories are told only if none that the table leads to is too long.
-/

namespace RouteAudit

/-- A namespace, without a backslash at either end. -/
structure IsNamespace (space : String) : Prop where
  nonempty : space ≠ ""
  first : space.toList.head? ≠ some '\\'
  last : space.toList.getLast? ≠ some '\\'

/-- The name of a file of a class, without its extension. -/
structure IsStem (stem : String) : Prop where
  nonempty : stem ≠ ""
  backslash : '\\' ∉ stem.toList
  slash : '/' ∉ stem.toList

namespace Autoload

/-- The starts of a table end where a segment of a name ends. -/
def Segmented (autoload : Autoload) : Prop :=
  ∀ entry ∈ autoload, entry.1 = "" ∨ Text.endsWith entry.1 "\\" = true

/-- The directories to which a table leads for a namespace: a base itself, where its start is the
whole namespace, or else where the rest of the namespace leads from there. -/
inductive Offers (autoload : Autoload) (space : String) : Path → Prop
  | whole {bases : List String} {base : String} : (space ++ "\\", bases) ∈ autoload →
    base ∈ bases → Offers autoload space (Path.ofString base)
  | below {start rest base : String} {bases : List String} : (start, bases) ∈ autoload →
    base ∈ bases → space = start ++ rest → rest ≠ "" →
    Offers autoload space
      ((Path.ofString base).join (Path.ofString (Text.replaceChar '\\' '/' rest)))

end Autoload

namespace Path

/-- The path of an entry of a directory.  Where a namespace with slashes leads to the root, the root
may be written with one slash in the one path and with two in the other. -/
inductive EntryFrom (space name : String) (d : Path) : Path → Prop
  | child : EntryFrom space name d (d.child name)
  | root {f : Path} : '/' ∈ space.toList → d.isAbsolute = true → d.parts = [] →
    f.isAbsolute = true → f.parts = [name] → EntryFrom space name d f

/-- A relative path goes on from where it is joined. -/
lemma join_relative (p : Path) {q : Path} (h : q.isAbsolute = false) :
    p.join q = { p with parts := p.parts ++ q.parts } := by
  rw [join, h, if_neg Bool.false_ne_true]

/-- An absolute path stands for itself. -/
lemma join_absolute (p : Path) {q : Path} (h : q.isAbsolute = true) : p.join q = q := by
  rw [join, if_pos h]

/-- A name is joined as a child. -/
lemma join_name (p : Path) {name : String} (hslash : '/' ∉ name.toList) (hempty : name ≠ "")
    (hpoint : name ≠ ".") : p.join (ofString name) = p.child name := by
  rw [ofString_name hslash hempty hpoint]
  exact p.join_relative rfl

/-- A name behind a text that is not all slashes is that of an entry. -/
lemma join_below (p : Path) {text name : String} {c : Char} (hc : c ∈ text.toList) (hne : c ≠ '/')
    (hname : names name = [name]) :
    p.join (ofString (text ++ "/" ++ name)) = (p.join (ofString text)).child name := by
  have hslashes : (ofString (text ++ "/" ++ name)).slashes = (ofString text).slashes := by
    rw [String.append_assoc, slashes_append hc hne]
  have hparts : (ofString (text ++ "/" ++ name)).parts = (ofString text).parts ++ [name] := by
    show names _ = names text ++ [name]
    rw [names_append, hname]
  cases habsolute : (ofString text).isAbsolute with
  | true =>
    have h : (ofString (text ++ "/" ++ name)).isAbsolute = true := by
      rwa [isAbsolute, hslashes]
    rw [join_absolute p h, join_absolute p habsolute, child, ← hslashes, ← hparts]
  | false =>
    have h : (ofString (text ++ "/" ++ name)).isAbsolute = false := by
      rwa [isAbsolute, hslashes]
    rw [join_relative p h, join_relative p habsolute, child, hparts, List.append_assoc]

/-- A name behind slashes is that of an entry of the root. -/
lemma join_slashes (p : Path) {text name : String} (h : ∀ c ∈ text.toList, c = '/')
    (hempty : text ≠ "") (hname : names name = [name]) :
    (p.join (ofString text)).isAbsolute = true ∧ (p.join (ofString text)).parts = [] ∧
      (p.join (ofString (text ++ "/" ++ name))).isAbsolute = true ∧
      (p.join (ofString (text ++ "/" ++ name))).parts = [name] := by
  obtain ⟨cs, hcs⟩ : ∃ cs, text.toList = '/' :: cs := by
    cases htext : text.toList with
    | nil => exact absurd (String.toList_eq_nil_iff.1 htext) hempty
    | cons c cs => exact ⟨cs, by rw [h c (htext ▸ List.mem_cons_self)]⟩
  have directory : (ofString text).isAbsolute = true := by
    rw [isAbsolute_ofString, hcs]
    rfl
  have file : (ofString (text ++ "/" ++ name)).isAbsolute = true := by
    rw [isAbsolute_ofString, String.toList_append, String.toList_append, hcs]
    rfl
  rw [join_absolute p directory, join_absolute p file]
  refine ⟨directory, names_slashes h, file, ?_⟩
  show names (text ++ "/" ++ name) = [name]
  rw [names_append, names_slashes h, hname, List.nil_append]

end Path

variable {autoload : Autoload} {space stem start : String}

/-! ## The starts of a namespace and of its classes -/

/-- The file of a class is a single name. -/
lemma IsStem.isName (h : IsStem stem) :
    '/' ∉ (stem ++ ".php").toList ∧ stem ++ ".php" ≠ "" ∧ stem ++ ".php" ≠ "." := by
  have long {s : String} (hs : s.length < 4) : stem ++ ".php" ≠ s := by
    rintro rfl
    rw [String.length_append] at hs
    exact absurd hs (Nat.not_lt.2 (Nat.le_add_left 4 _))
  refine ⟨?_, long (by decide), long (by decide)⟩
  rw [String.toList_append, List.mem_append, not_or]
  exact ⟨h.slash, by decide⟩

/-- A namespace is no start of a table. -/
lemma IsNamespace.not_start (h : IsNamespace space) :
    ¬(space = "" ∨ Text.endsWith space "\\" = true) := by
  rintro (hempty | hend)
  · exact h.nonempty hempty
  · obtain ⟨front, rfl⟩ := Text.endsWith_iff.1 hend
    apply h.last
    rw [String.toList_append, List.getLast?_append]
    rfl

/-- A start of a namespace is the whole of it, or leaves a rest. -/
lemma startsWith_space (hspace : IsNamespace space)
    (hstart : start = "" ∨ Text.endsWith start "\\" = true) :
    Text.startsWith (space ++ "\\") start = true ↔
      start = space ++ "\\" ∨ ∃ rest, rest ≠ "" ∧ space = start ++ rest := by
  constructor
  · intro h
    obtain ⟨back, h⟩ := Text.startsWith_iff.1 h
    have hlist : space.toList ++ ['\\'] = start.toList ++ back.toList := by
      rw [← String.toList_append, ← h, String.toList_append]
      rfl
    rcases List.append_eq_append_iff.1 hlist with ⟨more, hmore, hback⟩ | ⟨rest, hrest, -⟩
    · cases more with
      | nil =>
        rw [List.append_nil, String.toList_inj] at hmore
        exact absurd (hmore ▸ hstart) hspace.not_start
      | cons c more =>
        obtain ⟨rfl, hnil⟩ := List.cons.inj hback
        obtain ⟨rfl, -⟩ := List.append_eq_nil_iff.1 hnil.symm
        refine .inl ?_
        rw [← String.toList_inj, hmore, String.toList_append]
        rfl
    · refine .inr ⟨String.ofList rest, ?_, ?_⟩
      · intro e
        have hnil : rest = [] := by simpa using congrArg String.toList e
        rw [hnil, List.append_nil, String.toList_inj] at hrest
        exact absurd (hrest ▸ hstart) hspace.not_start
      · rw [← String.toList_inj, String.toList_append, String.toList_ofList, hrest]
  · rintro (rfl | ⟨rest, -, rfl⟩)
    · exact Text.startsWith_iff.2 ⟨"", String.append_empty.symm⟩
    · exact Text.startsWith_iff.2 ⟨rest ++ "\\", String.append_assoc⟩

/-- A class of a namespace has the starts of the namespace. -/
lemma startsWith_class (hstem : IsStem stem)
    (hstart : start = "" ∨ Text.endsWith start "\\" = true) :
    Text.startsWith (space ++ "\\" ++ stem) start = Text.startsWith (space ++ "\\") start := by
  rw [Bool.eq_iff_iff, Text.startsWith_iff, Text.startsWith_iff]
  constructor
  · rintro ⟨back, h⟩
    have hlist : (space ++ "\\").toList ++ stem.toList = start.toList ++ back.toList := by
      rw [← String.toList_append, h, String.toList_append]
    rcases List.append_eq_append_iff.1 hlist with ⟨more, hmore, hback⟩ | ⟨rest, hrest, -⟩
    · -- a longer start would end within the name of the class, which holds no backslash
      cases hlast : more.getLast? with
      | none =>
        rw [List.getLast?_eq_none_iff.1 hlast, List.append_nil, String.toList_inj] at hmore
        exact ⟨"", hmore ▸ String.append_empty.symm⟩
      | some c =>
        have hstartLast : start.toList.getLast? = some c := by
          rw [hmore, List.getLast?_append, hlast, Option.some_or]
        have hc : c ∈ stem.toList := hback ▸ List.mem_append_left _ (List.mem_of_getLast? hlast)
        rcases hstart with rfl | hend
        · cases hstartLast
        · obtain ⟨front, rfl⟩ := Text.endsWith_iff.1 hend
          rw [String.toList_append, List.getLast?_append] at hstartLast
          cases hstartLast
          exact absurd hc hstem.backslash
    · refine ⟨String.ofList rest, ?_⟩
      rw [← String.toList_inj, hrest, String.toList_append, String.toList_ofList]
  · rintro ⟨rest, h⟩
    exact ⟨rest ++ stem, by rw [h, String.append_assoc]⟩

/-! ## Where one start leads -/

/-- Where a base leads for a namespace. -/
def directoryAt (space start base : String) : Path :=
  (Path.ofString base).join
    (Path.ofString (Text.replaceChar '\\' '/' (Text.dropFirst start.length space)))

/-- Where a base leads for a class. -/
def fileAt (className start base : String) : Path :=
  (Path.ofString base).join
    (Path.ofString (Text.replaceChar '\\' '/' (Text.dropFirst start.length className) ++ ".php"))

/-- A directory of a namespace is one below the start of the namespace. -/
lemma mem_directoriesUnder {bases : List String} {d : Path} :
    d ∈ Audit.directoriesUnder space start bases ↔
      Text.startsWith (space ++ "\\") start = true ∧
        ∃ base ∈ bases, directoryAt space start base = d := by
  rw [Audit.directoriesUnder]
  split
  · next h => simp only [List.mem_map, h, true_and]; rfl
  · next h => simp [h]

/-- A candidate for a class is a file below the start of its name. -/
lemma mem_candidatesUnder {className : String} {bases : List String} {f : Path} :
    f ∈ ClassTable.candidatesUnder className start bases ↔
      Text.startsWith className start = true ∧ ∃ base ∈ bases, fileAt className start base = f := by
  rw [ClassTable.candidatesUnder]
  split
  · next h => simp only [List.mem_map, h, true_and]; rfl
  · next h => simp [h]

/-- The directory of a whole start is its base. -/
lemma directoryAt_whole (base : String) :
    directoryAt space (space ++ "\\") base = Path.ofString base := by
  have hlength : space.length ≤ (space ++ "\\").length := by
    rw [String.length_append]
    exact Nat.le_add_right _ _
  rw [directoryAt, Text.dropFirst_of_length_le hlength]
  show Path.mk _ (_ ++ []) = _
  rw [List.append_nil]

/-- The file of a class right below a start is in the base. -/
lemma fileAt_whole (hstem : IsStem stem) (base : String) :
    fileAt (space ++ "\\" ++ stem) (space ++ "\\") base =
      (Path.ofString base).child (stem ++ ".php") := by
  obtain ⟨hslash, hempty, hpoint⟩ := hstem.isName
  rw [fileAt, Text.dropFirst_append, Text.replaceChar_of_notMem hstem.backslash]
  exact Path.join_name _ hslash hempty hpoint

/-- The directory of a namespace below a start has the rest of its name below the base. -/
lemma directoryAt_below (rest base : String) :
    directoryAt (start ++ rest) start base =
      (Path.ofString base).join (Path.ofString (Text.replaceChar '\\' '/' rest)) := by
  rw [directoryAt, Text.dropFirst_append]

/-- The file of a class below a start has the rest of its name below the base. -/
lemma fileAt_below (hstem : IsStem stem) (rest base : String) :
    fileAt (start ++ rest ++ "\\" ++ stem) start base =
      (Path.ofString base).join
        (Path.ofString (Text.replaceChar '\\' '/' rest ++ "/" ++ (stem ++ ".php"))) := by
  rw [fileAt, String.append_assoc, String.append_assoc, Text.dropFirst_append,
    Text.replaceChar_append, Text.replaceChar_append,
    Text.replaceChar_of_notMem hstem.backslash, String.append_assoc, String.append_assoc,
    String.append_assoc]
  rfl

/-- What is left of a namespace ends in a slash if nothing but slashes comes of it. -/
lemma slash_mem_of_rest {rest : String} (hspace : IsNamespace (start ++ rest)) (hrest : rest ≠ "")
    (h : ∀ c ∈ (Text.replaceChar '\\' '/' rest).toList, c = '/') :
    '/' ∈ (start ++ rest).toList := by
  rw [Text.toList_replaceChar, List.forall_mem_map] at h
  cases hlast : rest.toList.getLast? with
  | none => exact absurd (String.toList_eq_nil_iff.1 (List.getLast?_eq_none_iff.1 hlast)) hrest
  | some c =>
    have hc : c ∈ rest.toList := List.mem_of_getLast? hlast
    have hne : c ≠ '\\' := by
      rintro rfl
      apply hspace.last
      rw [String.toList_append, List.getLast?_append, hlast, Option.some_or]
    have hslash := h c hc
    rw [if_neg hne] at hslash
    rw [String.toList_append, ← hslash]
    exact List.mem_append_right _ hc

/-- A base leads to a file of a class in the directory to which it leads for the namespace. -/
lemma entryFrom_fileAt (hspace : IsNamespace space) (hstem : IsStem stem)
    (hstart : start = "" ∨ Text.endsWith start "\\" = true)
    (h : Text.startsWith (space ++ "\\") start = true) (base : String) :
    Path.EntryFrom space (stem ++ ".php") (directoryAt space start base)
      (fileAt (space ++ "\\" ++ stem) start base) := by
  rcases (startsWith_space hspace hstart).1 h with rfl | ⟨rest, hrest, rfl⟩
  · rw [directoryAt_whole, fileAt_whole hstem]
    exact .child
  · obtain ⟨hslash, hempty, hpoint⟩ := hstem.isName
    have hname := Path.names_name hslash hempty hpoint
    rw [directoryAt_below, fileAt_below hstem]
    by_cases hall : ∀ c ∈ (Text.replaceChar '\\' '/' rest).toList, c = '/'
    · have hreplaced : Text.replaceChar '\\' '/' rest ≠ "" := by
        intro e
        have hnil := congrArg String.toList e
        rw [Text.toList_replaceChar] at hnil
        exact hrest (String.toList_eq_nil_iff.1 (List.map_eq_nil_iff.1 hnil))
      obtain ⟨hd, hdparts, hf, hfparts⟩ :=
        (Path.ofString base).join_slashes hall hreplaced hname
      exact .root (slash_mem_of_rest hspace hrest hall) hd hdparts hf hfparts
    · obtain ⟨c, hc, hne⟩ : ∃ c ∈ (Text.replaceChar '\\' '/' rest).toList, c ≠ '/' := by
        simpa using hall
      rw [Path.join_below _ hc hne hname]
      exact .child

/-! ## The whole table -/

/-- A directory is offered where some base leads to it. -/
lemma offers_iff (hspace : IsNamespace space) (segmented : autoload.Segmented) {d : Path} :
    autoload.Offers space d ↔
      d ∈ autoload.flatMap fun entry => Audit.directoriesUnder space entry.1 entry.2 := by
  rw [List.mem_flatMap]
  constructor
  · intro h
    cases h with
    | @whole bases base hentry hbase =>
      refine ⟨_, hentry, mem_directoriesUnder.2 ⟨?_, base, hbase, directoryAt_whole base⟩⟩
      exact (startsWith_space hspace (segmented _ hentry)).2 (.inl rfl)
    | @below start rest base bases hentry hbase hsplit hrest =>
      subst hsplit
      refine ⟨_, hentry, mem_directoriesUnder.2 ⟨?_, base, hbase, directoryAt_below rest base⟩⟩
      exact (startsWith_space hspace (segmented _ hentry)).2 (.inr ⟨rest, hrest, rfl⟩)
  · rintro ⟨⟨start, bases⟩, hentry, hd⟩
    obtain ⟨hstarts, base, hbase, rfl⟩ := mem_directoriesUnder.1 hd
    rcases (startsWith_space hspace (segmented _ hentry)).1 hstarts with hwhole | ⟨rest, hrest, rfl⟩
    · dsimp only at hwhole
      subst hwhole
      rw [directoryAt_whole]
      exact .whole hentry hbase
    · rw [directoryAt_below]
      exact .below hentry hbase rfl hrest

/-- A class of a namespace is written without backslashes at the ends of its name. -/
lemma bare_class (hspace : IsNamespace space) (hstem : IsStem stem) :
    Source.ClassName.bare (space ++ "\\" ++ stem) = space ++ "\\" ++ stem := by
  apply Text.trim_of_wanted
  · intro c hc
    cases hfirst : space.toList.head? with
    | none =>
      have hnil := String.toList_eq_nil_iff.1 (List.head?_eq_none_iff.1 hfirst)
      exact absurd hnil hspace.nonempty
    | some d =>
      rw [String.toList_append, String.toList_append, List.append_assoc, List.head?_append, hfirst,
        Option.some_or] at hc
      cases hc
      refine beq_eq_false_iff_ne.2 ?_
      rintro rfl
      exact hspace.first hfirst
  · intro c hc
    cases hlast : stem.toList.getLast? with
    | none =>
      have hnil := String.toList_eq_nil_iff.1 (List.getLast?_eq_none_iff.1 hlast)
      exact absurd hnil hstem.nonempty
    | some d =>
      rw [String.toList_append, List.getLast?_append, hlast, Option.some_or] at hc
      cases hc
      refine beq_eq_false_iff_ne.2 ?_
      rintro rfl
      exact hstem.backslash (List.mem_of_getLast? hlast)

/-- The files for a class are those to which some base leads. -/
lemma mem_candidates (hspace : IsNamespace space) (hstem : IsStem stem)
    (segmented : autoload.Segmented) {f : Path} :
    f ∈ (ClassTable.ofAutoload autoload).candidates
        (Source.ClassName.bare (space ++ "\\" ++ stem)) ↔
      ∃ entry ∈ autoload, Text.startsWith (space ++ "\\") entry.1 = true ∧
        ∃ base ∈ entry.2, fileAt (space ++ "\\" ++ stem) entry.1 base = f := by
  rw [bare_class hspace hstem, ClassTable.candidates, ClassTable.ofAutoload, List.mem_flatMap]
  constructor
  · rintro ⟨entry, hentry, hf⟩
    rw [List.mem_mergeSort] at hentry
    obtain ⟨hstarts, base, hbase, rfl⟩ := mem_candidatesUnder.1 hf
    rw [startsWith_class hstem (segmented entry hentry)] at hstarts
    exact ⟨entry, hentry, hstarts, base, hbase, rfl⟩
  · rintro ⟨entry, hentry, hstarts, base, hbase, rfl⟩
    refine ⟨entry, List.mem_mergeSort.2 hentry, mem_candidatesUnder.2 ⟨?_, base, hbase, rfl⟩⟩
    rwa [startsWith_class hstem (segmented entry hentry)]

namespace Audit

variable {tree : FileTree}

/-- Of some directories those that exist are told. -/
lemma existing_of_short {paths : List Path}
    (short : ∀ p ∈ paths, tree.locate p ≠ .error .nameTooLong) :
    Answers tree (existing paths) (.ok (paths.filter fun p => tree.isDirectory p = .ok true)) := by
  induction paths with
  | nil => exact Answers.pure []
  | cons p paths ih =>
    obtain ⟨hp, hpaths⟩ := List.forall_mem_cons.1 short
    refine Answers.read.ok_bind ?_
    rcases tree.isDirectory_cases p with ⟨h, -⟩ | ⟨h, -⟩ | ⟨-, long⟩
    · rw [h, List.filter_cons_of_pos (by simp [h])]
      exact (Answers.ofAccess (.ok true)).ok_bind ((ih hpaths).ok_bind (Answers.pure _))
    · rw [h, List.filter_cons_of_neg (by simp [h])]
      exact (Answers.ofAccess (.ok false)).ok_bind ((ih hpaths).ok_bind (Answers.pure _))
    · exact absurd long hp

/-- If one of some directories is too long, none is told. -/
lemma existing_of_long {paths : List Path} {p : Path} (hp : p ∈ paths)
    (long : tree.locate p = .error .nameTooLong) :
    Answers tree (existing paths) (.error (.file .nameTooLong)) := by
  induction paths with
  | nil => cases hp
  | cons q paths ih =>
    refine Answers.read.ok_bind ?_
    rcases tree.isDirectory_cases q with ⟨h, short⟩ | ⟨h, short, -⟩ | ⟨h, -⟩
    · rcases List.mem_cons.1 hp with rfl | hp
      · exact absurd long short
      · rw [h]
        exact (Answers.ofAccess (.ok true)).ok_bind ((ih hp).error_bind _)
    · rcases List.mem_cons.1 hp with rfl | hp
      · exact absurd long short
      · rw [h]
        exact (Answers.ofAccess (.ok false)).ok_bind ((ih hp).error_bind _)
    · rw [h]
      exact (Answers.ofAccess (.error .nameTooLong)).error_bind _

/-- The directories told for a namespace and the files tried for a class in it agree. -/
structure PlacesAgree (tree : FileTree) (autoload : Autoload) (space stem : String) : Prop where
  /-- A directory holds a file that is tried. -/
  file : ∀ d, autoload.Offers space d →
    ∃ f ∈ (ClassTable.ofAutoload autoload).candidates
        (Source.ClassName.bare (space ++ "\\" ++ stem)),
      Path.EntryFrom space (stem ++ ".php") d f
  /-- A file that is tried is in a directory. -/
  directory : ∀ f ∈ (ClassTable.ofAutoload autoload).candidates
      (Source.ClassName.bare (space ++ "\\" ++ stem)),
    ∃ d, autoload.Offers space d ∧ Path.EntryFrom space (stem ++ ".php") d f
  /-- The directories that exist are told. -/
  told : (∀ d, autoload.Offers space d → tree.locate d ≠ .error .nameTooLong) →
    ∃ found, Answers tree (directoriesOf space autoload) (.ok found) ∧
      ∀ d, d ∈ found ↔ autoload.Offers space d ∧ tree.isDirectory d = .ok true
  /-- A directory that is too long keeps all others from being told. -/
  untold : ∀ d, autoload.Offers space d → tree.locate d = .error .nameTooLong →
    Answers tree (directoriesOf space autoload) (.error (.file .nameTooLong))

/-- **Controllers and classes are looked for in the same places.**  Only where the table leads to a
directory that is too long is no directory told, though there may be some. -/
theorem directories_agree (tree : FileTree) (hspace : IsNamespace space) (hstem : IsStem stem)
    (segmented : autoload.Segmented) : PlacesAgree tree autoload space stem := by
  refine ⟨?_, ?_, ?_, ?_⟩
  · intro d hd
    obtain ⟨entry, hentry, hd⟩ := List.mem_flatMap.1 ((offers_iff hspace segmented).1 hd)
    obtain ⟨hstarts, base, hbase, rfl⟩ := mem_directoriesUnder.1 hd
    have tried := (mem_candidates hspace hstem segmented).2
      ⟨entry, hentry, hstarts, base, hbase, rfl⟩
    exact ⟨_, tried, entryFrom_fileAt hspace hstem (segmented entry hentry) hstarts base⟩
  · intro f hf
    obtain ⟨entry, hentry, hstarts, base, hbase, rfl⟩ :=
      (mem_candidates hspace hstem segmented).1 hf
    have offered := (offers_iff hspace segmented).2
      (List.mem_flatMap.2 ⟨entry, hentry, mem_directoriesUnder.2 ⟨hstarts, base, hbase, rfl⟩⟩)
    exact ⟨_, offered, entryFrom_fileAt hspace hstem (segmented entry hentry) hstarts base⟩
  · intro short
    refine ⟨_, existing_of_short fun d hd => short d ((offers_iff hspace segmented).2 hd), ?_⟩
    intro d
    rw [List.mem_filter, ← offers_iff hspace segmented, decide_eq_true_iff]
  · intro d hd long
    exact existing_of_long ((offers_iff hspace segmented).1 hd) long

/-- A table with one start and some bases. -/
def sampleTable (more : List String) : Autoload :=
  [("app\\", "templates" :: more)]

/-- The namespace of the sample is one. -/
lemma isNamespace_app : IsNamespace "app" :=
  ⟨by decide, by decide, by decide⟩

/-- The starts of the sample are whole namespaces. -/
lemma segmented_sampleTable (more : List String) : (sampleTable more).Segmented := by
  intro entry hentry
  obtain rfl := List.mem_singleton.1 hentry
  refine .inr ?_
  show Text.endsWith "app\\" "\\" = true
  decide

/-- The only directory is told, and the file of a class in it is tried.  With a base that is too
long beside it, it is not told. -/
theorem directories_agree_sample :
    (∃ found, Answers sampleTree (directoriesOf "app" (sampleTable [])) (.ok found) ∧
      Path.ofString "templates" ∈ found) ∧
    (Path.ofString "templates").child "Page.php" ∈
      (ClassTable.ofAutoload (sampleTable [])).candidates (Source.ClassName.bare "app\\Page") ∧
    Answers sampleTree (directoriesOf "app" (sampleTable [nameOfLength 300]))
      (.error (.file .nameTooLong)) := by
  have agree (more : List String) : PlacesAgree sampleTree (sampleTable more) "app" "Page" :=
    directories_agree sampleTree isNamespace_app ⟨by decide, by decide, by decide⟩
      (segmented_sampleTable more)
  have offered {more : List String} {base : String} (h : base ∈ "templates" :: more) :
      (sampleTable more).Offers "app" (Path.ofString base) :=
    .whole List.mem_cons_self h
  refine ⟨?_, ?_, ?_⟩
  · have exists_templates : sampleTree.isDirectory (Path.ofString "templates") = .ok true := by
      cbv
    have all_offered : ((sampleTable []).flatMap fun entry =>
        directoriesUnder "app" entry.1 entry.2) = [Path.ofString "templates"] := by
      cbv
    obtain ⟨found, run, exact⟩ := (agree []).told fun d hd long => by
      rw [offers_iff isNamespace_app (segmented_sampleTable []), all_offered,
        List.mem_singleton] at hd
      rw [hd] at long
      rw [FileTree.isDirectory, long] at exists_templates
      cases exists_templates
    exact ⟨found, run, (exact _).2 ⟨offered List.mem_cons_self, exists_templates⟩⟩
  · obtain ⟨f, hf, hentry⟩ := (agree []).file _ (offered List.mem_cons_self)
    cases hentry with
    | child => exact hf
    | root slash => exact absurd slash (by decide)
  · have long : sampleTree.locate (Path.ofString (nameOfLength 300)) = .error .nameTooLong :=
      locate_nameOfLength rfl (by decide) (by decide)
    exact (agree [nameOfLength 300]).untold _
      (offered (List.mem_cons_of_mem _ List.mem_cons_self)) long

end Audit

end RouteAudit
