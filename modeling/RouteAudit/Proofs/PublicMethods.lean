import RouteAudit.Proofs.Hierarchy
import RouteAudit.Proofs.Text.Ascii
import RouteAudit.Proofs.Source.Grammar.ClassFile

/-!
# The public methods of a class

A method is listed among the public methods of a class if any declaration of it in the hierarchy is
public (`publicMethods_listed`).  In PHP only the nearest declaration counts: one that is private or
protected hides those that are farther.
-/

namespace RouteAudit

namespace Source.ClassText

/-- Whether a class declares a method, whatever the case of its letters. -/
def declares (method : String) (c : ClassText) : Bool :=
  c.members.methods.any fun m => Text.lower m.name == Text.lower method

/-- Whether a class declares a method that is neither private nor protected. -/
def shows (method : String) (c : ClassText) : Bool :=
  c.members.methods.any fun m => Text.lower m.name == Text.lower method && !m.isHidden

end Source.ClassText

namespace Audit
open Source (Declaration ClassText)

/-- A list of names holds a method, whatever the case of its letters. -/
def Lists (names : List String) (method : String) : Prop :=
  ∃ name ∈ names, Text.lower name = Text.lower method

/-- A declaration is what a class text in its file declares. -/
def WrittenAs (tree : FileTree) (d : Declaration) (c : ClassText) : Prop :=
  ∃ path bytes, tree.read path = .ok bytes ∧ c ∈ Declaration.texts (sourceText bytes) ∧
    c.declaration (some path) = d

/-- The nearest class that declares a method shows it. -/
def NearestShows (texts : List ClassText) (method : String) : Prop :=
  ∃ c, texts.find? (ClassText.declares method) = some c ∧ c.shows method

/-- The nearest class that declares a method hides it, and a farther class shows it. -/
def NearestHides (texts : List ClassText) (method : String) : Prop :=
  ∃ c, texts.find? (ClassText.declares method) = some c ∧ ¬c.shows method ∧
    ∃ farther ∈ texts, farther.shows method

variable {tree : FileTree} {s s' : Session} {d : Declaration} {ds : List Declaration}

/-! ## What a list of methods holds -/

/-- An empty list lists nothing. -/
lemma lists_nil (method : String) : ¬Lists [] method := by
  rintro ⟨name, hname, -⟩
  cases hname

/-- A list lists its first name in any case, and what the rest lists. -/
lemma lists_cons (name : String) (names : List String) (method : String) :
    Lists (name :: names) method ↔ Text.lower name = Text.lower method ∨ Lists names method := by
  rw [Lists, List.exists_mem_cons_iff, Lists]

/-- A method is added unless a name of the list is the same but for case. -/
lemma lists_addMethod (names : List String) (name method : String) :
    Lists (if (names.map Text.lower).contains (Text.lower name) then names else names ++ [name])
        method ↔ Lists names method ∨ Text.lower name = Text.lower method := by
  split
  · next h =>
    obtain ⟨other, hother, hlower⟩ := List.mem_map.1 (List.contains_iff_mem.1 h)
    refine ⟨.inl, fun hm => hm.elim id fun hname => ?_⟩
    exact ⟨other, hother, hlower.trans hname⟩
  · rw [Lists, Lists]
    simp only [List.mem_append, List.mem_singleton, or_and_right, exists_or, exists_eq_left]

/-- The methods of a class are added. -/
lemma lists_addMethods (names : List String) (d : Declaration) (method : String) :
    Lists (addMethods names d) method ↔ Lists names method ∨ Lists d.methods method := by
  rw [addMethods]
  induction d.methods generalizing names with
  | nil => exact (or_iff_left (lists_nil method)).symm
  | cons name more ih => rw [List.foldl_cons, ih, lists_addMethod, lists_cons, or_assoc]

/-- The methods of all classes are added. -/
lemma lists_foldl (names : List String) (ds : List Declaration) (method : String) :
    Lists (ds.foldl addMethods names) method ↔
      Lists names method ∨ ∃ d ∈ ds, Lists d.methods method := by
  induction ds generalizing names with
  | nil => simp
  | cons d ds ih => rw [List.foldl_cons, ih, lists_addMethods, or_assoc, List.exists_mem_cons_iff]

/-- The methods of a declaration are those that its text shows. -/
lemma lists_of_writtenAs {c : ClassText} (written : WrittenAs tree d c) (method : String) :
    Lists d.methods method ↔ c.shows method := by
  obtain ⟨path, bytes, -, -, rfl⟩ := written
  rw [Lists, ClassText.declaration, Source.Members.shown, ClassText.shows, List.any_eq_true]
  dsimp only
  constructor
  · rintro ⟨name, hname, hlower⟩
    obtain ⟨m, hm, rfl⟩ := List.mem_map.1 hname
    rw [List.mem_filter] at hm
    exact ⟨m, hm.1, by simp [hlower, hm.2]⟩
  · rintro ⟨m, hm, hshows⟩
    rw [Bool.and_eq_true, beq_iff_eq] at hshows
    exact ⟨m.name, List.mem_map.2 ⟨m, List.mem_filter.2 ⟨hm, hshows.2⟩, rfl⟩, hshows.1⟩

/-! ## What is nearest -/

/-- A method that is shown is declared. -/
lemma declares_of_shows {c : ClassText} {method : String} (h : c.shows method) :
    c.declares method := by
  rw [ClassText.shows, List.any_eq_true] at h
  obtain ⟨m, hm, hshows⟩ := h
  rw [ClassText.declares, List.any_eq_true]
  rw [Bool.and_eq_true] at hshows
  exact ⟨m, hm, hshows.1⟩

/-- A method that some class shows is shown or hidden by the nearest class that declares it. -/
lemma shown_iff (texts : List ClassText) (method : String) :
    (∃ c ∈ texts, c.shows method) ↔ NearestShows texts method ∨ NearestHides texts method := by
  constructor
  · rintro ⟨c, hc, hshows⟩
    have found : (texts.find? (ClassText.declares method)).isSome := by
      rw [List.find?_isSome]
      exact ⟨c, hc, declares_of_shows hshows⟩
    obtain ⟨nearest, hnearest⟩ := Option.isSome_iff_exists.1 found
    by_cases h : nearest.shows method
    · exact .inl ⟨nearest, hnearest, h⟩
    · exact .inr ⟨nearest, hnearest, h, c, hc, hshows⟩
  · rintro (⟨c, hc, hshows⟩ | ⟨-, -, -, h⟩)
    · exact ⟨c, List.mem_of_find?_eq_some hc, hshows⟩
    · exact h

/-- The nearest class does not both show and hide a method. -/
lemma not_nearestHides {texts : List ClassText} {method : String}
    (shows : NearestShows texts method) : ¬NearestHides texts method := by
  rintro ⟨c, hc, hides, -⟩
  obtain ⟨c', hc', h⟩ := shows
  obtain rfl : c = c' := Option.some.inj (hc.symm.trans hc')
  exact hides h

/-- The declarations of a walk list what their texts show. -/
lemma lists_iff_shows {texts : List ClassText} (written : List.Forall₂ (WrittenAs tree) ds texts)
    (method : String) :
    (∃ d ∈ ds, Lists d.methods method) ↔ ∃ c ∈ texts, c.shows method := by
  induction written with
  | nil => simp
  | cons first rest ih =>
    rw [List.exists_mem_cons_iff, List.exists_mem_cons_iff, lists_of_writtenAs first, ih]

/-! ## Walks have texts -/

/-- What a walk visits stands in files, if the class does and those that are known do. -/
lemma ClassWalk.standsIn (walk : ClassWalk tree s [] d ds s')
    (known : ∀ entry ∈ s.classes.classes, entry.2.StandsIn tree) (hd : d.StandsIn tree) :
    ∀ e ∈ ds, e.StandsIn tree := by
  obtain ⟨others, rfl, visited⟩ := walk.visited
  intro e he
  rcases List.mem_cons.1 he with rfl | he
  · exact hd
  · have entry := Assoc.mem_of_get? (visited.known e he)
    exact (visited.grows.learns _ entry).elim (known _) id

/-- Declarations of files have texts that they are written as. -/
lemma exists_texts (stand : ∀ e ∈ ds, e.StandsIn tree) :
    ∃ texts, List.Forall₂ (WrittenAs tree) ds texts := by
  induction ds with
  | nil => exact ⟨[], .nil⟩
  | cons d ds ih =>
    obtain ⟨⟨path, bytes, hread, hd⟩, stand⟩ := List.forall_mem_cons.1 stand
    obtain ⟨c, hc, hdecl⟩ := List.mem_map.1 hd
    obtain ⟨texts, written⟩ := ih stand
    exact ⟨c :: texts, .cons ⟨path, bytes, hread, hc, hdecl⟩ written⟩

/-- **A method is listed if the nearest class that declares it shows it, and also if that class
hides it and a farther class shows it.**  So the list is right for just those methods that no
farther class shows against the nearest.  This holds of every class that stands in a file, like the
classes known before, and whose ancestors and traits can be loaded. -/
theorem publicMethods_listed {hierarchy : Declaration → Prop}
    (loadable : Loadable tree s hierarchy) (hd : hierarchy d) (stands : d.StandsIn tree)
    (known : ∀ entry ∈ s.classes.classes, entry.2.StandsIn tree) :
    ∃ ds s' names, ClassWalk tree s [] d ds s' ∧ publicMethods d tree s = .ok names s' ∧
      (∃ texts, List.Forall₂ (WrittenAs tree) ds texts) ∧
      ∀ texts, List.Forall₂ (WrittenAs tree) ds texts → ∀ method,
        (Lists names method ↔ NearestShows texts method ∨ NearestHides texts method) ∧
        ((Lists names method ↔ NearestShows texts method) ↔ ¬NearestHides texts method) := by
  obtain ⟨ds, s', walk⟩ := loadable.exists_walk hd
  refine ⟨ds, s', ds.foldl addMethods [], walk, ?_, exists_texts (walk.standsIn known stands),
    fun texts written method => ?_⟩
  · rw [publicMethods, run_bind, members_classWalk walk]
    rfl
  · have listed : Lists (ds.foldl addMethods []) method ↔
        NearestShows texts method ∨ NearestHides texts method := by
      rw [lists_foldl, or_iff_right (lists_nil method), lists_iff_shows written, shown_iff]
    refine ⟨listed, fun right hides => ?_, fun noHides => ?_⟩
    · exact not_nearestHides (right.1 (listed.2 (.inr hides))) hides
    · rw [listed, or_iff_left noHides]

section Sample

open Source.Grammar

/-- A public method, but for its marks. -/
def openMethod (marks : List (Mark memberModifiers)) : Member :=
  ⟨marks, .method ⟨⟨"function", by decide⟩, by decide⟩ false ⟨"open", by decide⟩
    ⟨⟨[], by simp, .nil⟩, none, some ⟨[], by simp, .nil⟩⟩⟩

/-- A class that hides a method and uses a trait. -/
def hidingClass : ClassDecl where
  marks := []
  kind := .class
  keyword := ⟨⟨"class", stands_class⟩, by decide⟩
  name := letterC
  isSimple := by decide
  ancestry := .root
  interfaces? := none
  members :=
    [⟨[], .traits useKeyword ⟨"T", by decide⟩ [] none⟩,
      openMethod [.modifier ⟨⟨"private", by decide⟩, by decide⟩]]

/-- A trait that shows the method. -/
def showingTrait : ClassDecl where
  marks := []
  kind := .trait
  keyword := ⟨⟨"trait", by decide⟩, by decide⟩
  name := ⟨"T", by decide⟩
  isSimple := by decide
  ancestry := .root
  interfaces? := none
  members := [openMethod []]

/-- A file with one class. -/
def soleFile (c : ClassDecl) : ClassFile where
  front := [.class c]
  spaces := []

/-- The declaration of the one class. -/
def soleDeclaration (c : ClassDecl) (file : String) : Declaration :=
  (c.text {}).declaration (some (Path.ofString file))

/-- The text of a class that hides the method of its trait. -/
def hidingText : String :=
  "<?php class C \x7b use T ; private function open ( ) \x7b \x7d \x7d "

/-- The text of the trait. -/
def showingText : String :=
  "<?php trait T \x7b function open ( ) \x7b \x7d \x7d "

/-- The first text is the source of its class. -/
lemma sourceText_hidingText :
    sourceText (Text.Utf8.encode hidingText) = (soleFile hidingClass).source := by
  have source : (soleFile hidingClass).source = hidingText.toList := by decide
  rw [source]
  exact sourceText_encode (Source.Lexer.forall_mem_of_all (by decide))

/-- The second text is the source of its trait. -/
lemma sourceText_showingText :
    sourceText (Text.Utf8.encode showingText) = (soleFile showingTrait).source := by
  have source : (soleFile showingTrait).source = showingText.toList := by decide
  rw [source]
  exact sourceText_encode (Source.Lexer.forall_mem_of_all (by decide))

/-- A tree with both files. -/
def hidingTree : FileTree :=
  { entries := [(["C.php"], .file (Text.Utf8.encode hidingText)),
      (["T.php"], .file (Text.Utf8.encode showingText))] }

/-- Both files are read, whatever stands in them. -/
lemma read_files (first second : List UInt8) :
    FileTree.read { entries := [(["C.php"], .file first), (["T.php"], .file second)] }
        (Path.ofString "C.php") = .ok first ∧
      FileTree.read { entries := [(["C.php"], .file first), (["T.php"], .file second)] }
        (Path.ofString "T.php") = .ok second := by
  constructor <;> cbv

/-- A class that stands alone in a file is written as its text. -/
lemma writtenAs_sole {c : ClassDecl} {file : String} {bytes : List UInt8}
    (hread : hidingTree.read (Path.ofString file) = .ok bytes)
    (hsource : sourceText bytes = (soleFile c).source) :
    WrittenAs hidingTree (soleDeclaration c file) (c.text {}) := by
  refine ⟨Path.ofString file, bytes, hread, ?_, rfl⟩
  rw [hsource, texts_classFile]
  exact List.mem_singleton.2 rfl

/-- A declaration that is written in a file stands in it. -/
lemma WrittenAs.standsIn {c : Source.ClassText} (written : WrittenAs tree d c) :
    d.StandsIn tree := by
  obtain ⟨path, bytes, hread, hc, rfl⟩ := written
  exact ⟨path, bytes, hread, List.mem_map.2 ⟨c, hc, rfl⟩⟩

/-- A session that knows the trait. -/
def hidingSession : Session :=
  { classes :=
      { classes := [("t", soleDeclaration showingTrait "T.php")]
        keyed := List.forall_mem_singleton.2 (by decide) } }

/-- The trait is loaded. -/
lemma loads_showingTrait (grows : hidingSession.classes.Grows tree s.classes) :
    Loads tree s "T" (soleDeclaration showingTrait "T.php") s :=
  ⟨find_of_known (grows.keeps "t" _ (by decide)), by decide⟩

/-- The method that the class hides is listed. -/
theorem publicMethods_hidden :
    ∃ names s', publicMethods (soleDeclaration hidingClass "C.php") hidingTree hidingSession =
        .ok names s' ∧ Lists names "open" ∧
      ¬NearestShows [hidingClass.text {}, showingTrait.text {}] "open" := by
  have writtenClass : WrittenAs hidingTree (soleDeclaration hidingClass "C.php")
      (hidingClass.text {}) :=
    writtenAs_sole (read_files _ _).1 sourceText_hidingText
  have writtenTrait : WrittenAs hidingTree (soleDeclaration showingTrait "T.php")
      (showingTrait.text {}) :=
    writtenAs_sole (read_files _ _).2 sourceText_showingText
  have loadable : Loadable hidingTree hidingSession
      (· ∈ [soleDeclaration hidingClass "C.php", soleDeclaration showingTrait "T.php"]) := by
    intro e he name hname s₁ grows
    have htrait : name = "T" := by
      rcases List.mem_pair.1 he with rfl | rfl
      · rcases hname with hname | hname
        · exact List.mem_singleton.1 hname
        · cases hname
      · rcases hname with hname | hname <;> cases hname
    obtain rfl := htrait
    exact ⟨_, s₁, loads_showingTrait grows, List.mem_of_mem_tail List.mem_cons_self⟩
  obtain ⟨ds, s', names, walk, run, -, listed⟩ :=
    publicMethods_listed loadable List.mem_cons_self writtenClass.standsIn
      (List.forall_mem_singleton.2 writtenTrait.standsIn)
  have hidingWalk : ClassWalk hidingTree hidingSession [] (soleDeclaration hidingClass "C.php")
      [soleDeclaration hidingClass "C.php", soleDeclaration showingTrait "T.php"] hidingSession :=
    .root (.trait (by decide) (loads_showingTrait (.refl _)) .done .done) rfl
  -- there is no other walk
  obtain rfl := (walk.unique hidingWalk).1
  have hides : NearestHides [hidingClass.text {}, showingTrait.text {}] "open" :=
    ⟨hidingClass.text {}, by decide, by decide, showingTrait.text {}, by decide, by decide⟩
  have listedOpen := (listed _ (.cons writtenClass (.cons writtenTrait .nil)) "open").1
  exact ⟨names, s', run, listedOpen.2 (.inr hides), fun shows => not_nearestHides shows hides⟩

end Sample

end Audit

end RouteAudit
