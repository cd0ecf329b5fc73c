import RouteAudit.Proofs.Assoc
import RouteAudit.Proofs.Json.Scalar

/-!
# Documents are read back

A document that is laid out with blanks is read back as it is (`parseWithin?_write`), if its numbers
are integers with no more digits than the reader takes and the members of each object have different
names.  It is written in ASCII (`ascii_write`).
-/

namespace RouteAudit.Json

variable {limit : Nat}

/-- The documents that are read back: numbers are integers with at most `limit` digits, and the
members of an object have different names. -/
inductive Readable (limit : Nat) : Json → Prop
  | null : Readable limit .null
  | bool (b : Bool) : Readable limit (.bool b)
  | integer {n : Int} : (Nat.toDigits 10 n.natAbs).length ≤ limit → Readable limit (.integer n)
  | string (s : String) : Readable limit (.string s)
  | array {items : List Json} : (∀ item ∈ items, Readable limit item) →
    Readable limit (.array items)
  | object {members : Assoc String Json} : members.keys.Nodup →
    (∀ member ∈ members, Readable limit member.2) → Readable limit (.object members)

/-- A layout puts nothing but blanks between the parts of a document. -/
structure Layout.Blank (layout : Layout) : Prop where
  lineBreak (depth : Nat) : ∀ c ∈ layout.lineBreak depth, isSpace c = true
  afterComma (depth : Nat) : ∀ c ∈ layout.afterComma depth, isSpace c = true
  afterColon : ∀ c ∈ layout.afterColon, isSpace c = true

/-- The layout in lines has nothing but space between tokens. -/
lemma Layout.blank_block : Layout.block.Blank := by
  have newLine (depth : Nat) : ∀ c ∈ newLine depth, isSpace c = true := by
    intro c hc
    rcases List.mem_cons.1 hc with rfl | hc
    · rfl
    · rw [List.eq_of_mem_replicate hc]
      rfl
  exact ⟨newLine, newLine, List.forall_mem_singleton.2 rfl⟩

/-- Space is one of four characters. -/
lemma mem_of_isSpace {c : Char} (h : isSpace c = true) : c ∈ [' ', '\t', '\n', '\r'] := by
  simpa [isSpace, or_assoc] using h

/-- Space is skipped up to the next character. -/
lemma skipSpace_append {blank : List Char} (hblank : ∀ c ∈ blank, isSpace c = true) {c : Char}
    (hc : isSpace c = false) (cs : List Char) : (skipSpace (blank ++ c :: cs)).val = c :: cs := by
  show (blank ++ c :: cs).dropWhile isSpace = c :: cs
  rw [List.dropWhile_append_of_pos hblank, List.dropWhile_cons_of_neg (by simp [hc])]

/-- A character that is no space is not skipped. -/
lemma skipSpace_cons {c : Char} (hc : isSpace c = false) (cs : List Char) :
    (skipSpace (c :: cs)).val = c :: cs :=
  skipSpace_append (List.forall_mem_nil _) hc cs

section Rules

variable {cs rest : List Char}

/-- A text that is quoted is read back. -/
lemma readValue_quote (s : String) (rest : List Char) :
    outcome (readValue limit (quote s ++ rest)) = some (.string s, rest) := by
  obtain ⟨shorter, h⟩ := exists_of_outcome (readString_quote s rest)
  rw [quote, List.cons_append, List.cons_append, List.append_assoc, List.singleton_append]
  simp only [readValue, if_true, h]
  rfl

/-- What is written as a named value or a number is read as one. -/
lemma readValue_scalar {word : List Char} {value : Json}
    (hopen : ∃ c cs, word = c :: cs ∧ c ∉ ['"', '[', '\x7b'])
    (h : scalar? limit (word ++ rest) = some (value, word.length)) :
    outcome (readValue limit (word ++ rest)) = some (value, rest) := by
  obtain ⟨c, word, rfl, hc⟩ := hopen
  simp only [List.mem_cons, List.not_mem_nil, or_false, not_or] at hc
  obtain ⟨hquote, hbracket, hbrace⟩ := hc
  rw [List.cons_append] at h ⊢
  simp only [readValue, if_neg hquote, if_neg hbracket, if_neg hbrace, readScalar, h]
  have behind : (c :: (word ++ rest)).drop (c :: word).length = rest := List.drop_left
  rw [dif_pos ⟨Nat.succ_pos _, Nat.succ_pos _⟩, outcome, Option.map_some]
  simp only [behind]

variable {item value : Json} {d : Char} {r r' : List Char}

/-- An array is empty if its closing bracket is next. -/
lemma readValue_array (hskip : (skipSpace cs).val = d :: r) :
    outcome (readValue limit ('[' :: cs)) =
      if d = ']' then some (.array [], r)
      else (outcome (readItems limit (d :: r))).map fun read => (.array read.1, read.2) := by
  rw [readValue]
  generalize skipSpace cs = skipped at hskip ⊢
  obtain ⟨_, _⟩ := skipped
  subst hskip
  by_cases hd : d = ']'
  · simp only [hd, if_true]
    rfl
  · simp only [if_neg hd]
    cases readItems limit (d :: r) with
    | none => rfl
    | some read => rfl

/-- An object is empty if its closing brace is next. -/
lemma readValue_object (hskip : (skipSpace cs).val = d :: r) :
    outcome (readValue limit ('\x7b' :: cs)) =
      if d = '\x7d' then some (.object [], r)
      else (outcome (readMembers limit [] (d :: r))).map fun read => (.object read.1, read.2) := by
  rw [readValue]
  generalize skipSpace cs = skipped at hskip ⊢
  obtain ⟨_, _⟩ := skipped
  subst hskip
  by_cases hd : d = '\x7d'
  · simp only [hd, if_true]
    rfl
  · simp only [if_neg hd]
    cases readMembers limit [] (d :: r) with
    | none => rfl
    | some read => rfl

/-- Behind an item, a bracket closes the array or a comma goes on with it. -/
lemma readItems_item (hitem : outcome (readValue limit cs) = some (item, r))
    (hskip : (skipSpace r).val = d :: r') :
    outcome (readItems limit cs) =
      if d = ']' then some ([item], r')
      else if d = ',' then
        (outcome (readItems limit (skipSpace r').val)).map fun read => (item :: read.1, read.2)
      else none := by
  obtain ⟨_, hitem⟩ := exists_of_outcome hitem
  rw [readItems]
  simp only [hitem]
  generalize skipSpace r = skipped at hskip ⊢
  obtain ⟨_, _⟩ := skipped
  subst hskip
  dsimp only
  split_ifs
  · rfl
  · cases readItems limit (skipSpace r').val with
    | none => rfl
    | some read => rfl
  · rfl

/-- A name, a colon and a value are read, up to the next part. -/
def MemberRead (limit : Nat) (cs : List Char) (name : String) (value : Json)
    (rest : List Char) : Prop :=
  ∃ r r' r'', outcome (readString cs) = some (name, r) ∧ (skipSpace r).val = ':' :: r' ∧
    outcome (readValue limit (skipSpace r').val) = some (value, r'') ∧ (skipSpace r'').val = rest

/-- Behind a member, a brace closes the object or a comma goes on with it. -/
lemma readMembers_member (before : Assoc String Json) {name : String}
    (h : MemberRead limit cs name value (d :: r)) :
    outcome (readMembers limit before ('"' :: cs)) =
      if d = '\x7d' then some (Assoc.insert name value before, r)
      else if d = ',' then
        outcome (readMembers limit (Assoc.insert name value before) (skipSpace r).val)
      else none := by
  obtain ⟨r₁, r₂, r₃, hname, hcolon, hvalue, hskip⟩ := h
  obtain ⟨_, hname⟩ := exists_of_outcome hname
  obtain ⟨_, hvalue⟩ := exists_of_outcome hvalue
  rw [readMembers]
  simp only [if_true, hname]
  generalize skipSpace r₁ = skipped at hcolon ⊢
  obtain ⟨_, _⟩ := skipped
  subst hcolon
  simp only [if_true, hvalue]
  generalize skipSpace r₃ = skipped at hskip ⊢
  obtain ⟨_, _⟩ := skipped
  subst hskip
  dsimp only
  split_ifs
  · rfl
  · cases readMembers limit (Assoc.insert name value before) (skipSpace r).val with
    | none => rfl
    | some read => rfl
  · rfl

end Rules

section Written

variable {layout : Layout} {j : Json} {blank rest : List Char}

/-- An integer starts with no blank and no sign of a document. -/
lemma toString_eq_cons (n : Int) : ∃ c cs, (toString n).toList = c :: cs ∧
    isSpace c = false ∧ c ∉ [']', '"', '[', '\x7b'] := by
  obtain ⟨sign, hsign, hwritten, -⟩ := exists_sign n
  have hdigits := Text.allDigits_toDigits n.natAbs
  obtain ⟨c, ds, hcons⟩ := List.exists_cons_of_ne_nil
    (Nat.toDigits_ne_nil (b := 10) (n := n.natAbs))
  rw [hcons] at hwritten hdigits
  rcases hsign with rfl | rfl
  · refine ⟨c, ds, hwritten, ?_⟩
    have hc := hdigits c List.mem_cons_self
    constructor
    · rw [Bool.eq_false_iff]
      intro hspace
      have hmem := mem_of_isSpace hspace
      fin_cases hmem <;> cases hc
    · intro hmem
      fin_cases hmem <;> cases hc
  · exact ⟨'-', _, hwritten, rfl, by decide⟩

/-- The written form of a document starts with neither a blank nor a closing bracket. -/
lemma write_eq_cons (h : Readable limit j) (layout : Layout) (depth : Nat) :
    ∃ c cs, write layout depth j = c :: cs ∧ isSpace c = false ∧ c ≠ ']' := by
  cases h with
  | null => exact ⟨_, _, rfl, rfl, by decide⟩
  | bool b => cases b <;> exact ⟨_, _, rfl, rfl, by decide⟩
  | @integer n h =>
    obtain ⟨c, cs, hcons, hspace, hc⟩ := toString_eq_cons n
    exact ⟨c, cs, hcons, hspace, fun e => hc (e ▸ List.mem_cons_self)⟩
  | string s => exact ⟨'"', _, rfl, rfl, by decide⟩
  | @array items h => cases items <;> exact ⟨_, _, rfl, rfl, by decide⟩
  | @object members hnames h => cases members <;> exact ⟨_, _, rfl, rfl, by decide⟩

/-- Space in front of a value is skipped. -/
lemma skipSpace_write (hblank : ∀ c ∈ blank, isSpace c = true) (h : Readable limit j)
    (depth : Nat) (cs : List Char) :
    (skipSpace (blank ++ (write layout depth j ++ cs))).val = write layout depth j ++ cs := by
  obtain ⟨c, written, hwritten, hc, -⟩ := write_eq_cons h layout depth
  rw [hwritten]
  exact skipSpace_append hblank hc _

/-- A number ends at a character that no number has. -/
lemma ends_cons {c : Char} (hc : c.isDigit = false ∧ c ∉ ['.', 'e', 'E']) (cs : List Char) :
    Ends (c :: cs) := by
  intro d hd
  cases hd
  exact hc

/-- A number ends at space. -/
lemma ends_blank (hblank : ∀ c ∈ blank, isSpace c = true) (h : Ends rest) :
    Ends (blank ++ rest) := by
  cases blank with
  | nil => exact h
  | cons c blank =>
    apply ends_cons
    have hmem := mem_of_isSpace (hblank c List.mem_cons_self)
    fin_cases hmem <;> exact ⟨rfl, by decide⟩

/-- A document is read back where it stands. -/
def IsRead (limit : Nat) (layout : Layout) (j : Json) : Prop :=
  ∀ depth rest, Ends rest →
    outcome (readValue limit (write layout depth j ++ rest)) = some (j, rest)

/-- An item is written behind a comma, and the others behind it. -/
lemma writeItems_cons (layout : Layout) (depth : Nat) (item : Json) (items : List Json)
    (rest : List Char) : writeItems layout depth (item :: items) ++ rest =
      ',' :: (layout.afterComma depth ++ (write layout depth item ++
        (writeItems layout depth items ++ rest))) := by
  rw [writeItems]
  simp only [List.cons_append, List.append_assoc]

/-- The items of an array are read back if each is. -/
lemma readItems_write (hlayout : layout.Blank) {items : List Json} {item : Json}
    (h : ∀ j ∈ item :: items, Readable limit j ∧ IsRead limit layout j) (depth : Nat)
    (hblank : ∀ c ∈ blank, isSpace c = true) (rest : List Char) :
    outcome (readItems limit (write layout depth item ++ (writeItems layout depth items ++
      (blank ++ ']' :: rest)))) = some (item :: items, rest) := by
  induction items generalizing item with
  | nil =>
    have close : Ends (']' :: rest) := ends_cons ⟨rfl, by decide⟩ rest
    have hitem := (h item List.mem_cons_self).2 depth _ (ends_blank hblank close)
    exact readItems_item hitem (skipSpace_append hblank rfl rest)
  | cons next items ih =>
    obtain ⟨⟨-, hitem⟩, hnext⟩ := List.forall_mem_cons.1 h
    rw [writeItems_cons, readItems_item (hitem depth _ (ends_cons ⟨rfl, by decide⟩ _))
      (skipSpace_cons rfl _), skipSpace_write (hlayout.afterComma depth)
      (hnext next List.mem_cons_self).1 depth, ih hnext]
    rfl

/-- A member with a text behind it, from behind the quote that opens its name. -/
def memberForm (layout : Layout) (depth : Nat) (name : String) (value : Json)
    (rest : List Char) : List Char :=
  name.toList.flatMap escape ++ '"' :: ':' :: (layout.afterColon ++
    (write layout depth value ++ rest))

/-- A member is written behind a comma, and the others behind it. -/
lemma writeMembers_cons (layout : Layout) (depth : Nat) (name : String) (value : Json)
    (members : List (String × Json)) (rest : List Char) :
    writeMembers layout depth ((name, value) :: members) ++ rest =
      ',' :: (layout.afterComma depth ++ '"' :: memberForm layout depth name value
        (writeMembers layout depth members ++ rest)) := by
  rw [writeMembers, quote, memberForm]
  simp only [List.cons_append, List.append_assoc, List.nil_append]

/-- A member of an object is read back if its value is. -/
lemma memberRead_memberForm (hlayout : layout.Blank) (name : String)
    (h : Readable limit j ∧ IsRead limit layout j) (depth : Nat) (hrest : Ends rest) :
    MemberRead limit (memberForm layout depth name j rest) name j (skipSpace rest).val := by
  refine ⟨_, _, _, readString_quote name _, skipSpace_cons rfl _, ?_, rfl⟩
  rw [skipSpace_write hlayout.afterColon h.1]
  exact h.2 depth rest hrest

/-- A member with a new name comes last. -/
lemma insert_of_nodup {before members : Assoc String Json} {name : String}
    (h : (Assoc.keys (before ++ (name, j) :: members)).Nodup) :
    Assoc.insert name j before = before ++ [(name, j)] := by
  apply Assoc.insert_of_new
  rintro member hmember rfl
  rw [Assoc.keys, List.map_append, List.map_cons, List.nodup_append] at h
  exact h.2.2 _ (List.mem_map_of_mem hmember) _ List.mem_cons_self rfl

/-- The members of an object are read back behind others with different names, if the values are. -/
lemma readMembers_write (hlayout : layout.Blank) {members : Assoc String Json} {name : String}
    (h : ∀ member ∈ (name, j) :: members, Readable limit member.2 ∧ IsRead limit layout member.2)
    (before : Assoc String Json) (hnames : (Assoc.keys (before ++ (name, j) :: members)).Nodup)
    (depth : Nat) (hblank : ∀ c ∈ blank, isSpace c = true) (rest : List Char) :
    outcome (readMembers limit before ('"' :: memberForm layout depth name j
      (writeMembers layout depth members ++ (blank ++ '\x7d' :: rest)))) =
        some (before ++ (name, j) :: members, rest) := by
  induction members generalizing name j before with
  | nil =>
    have close : Ends ('\x7d' :: rest) := ends_cons ⟨rfl, by decide⟩ rest
    have hmember := memberRead_memberForm hlayout name (h _ List.mem_cons_self) depth
      (ends_blank hblank close)
    rw [skipSpace_append hblank rfl] at hmember
    rw [writeMembers, List.nil_append, readMembers_member before hmember, if_pos rfl,
      insert_of_nodup hnames]
  | cons next members ih =>
    obtain ⟨name', j'⟩ := next
    obtain ⟨hj, hnext⟩ := List.forall_mem_cons.1 h
    have hmember (cs : List Char) :
        MemberRead limit (memberForm layout depth name j (',' :: cs)) name j (',' :: cs) := by
      have hcomma : Ends (',' :: cs) := ends_cons ⟨rfl, by decide⟩ cs
      have hread := memberRead_memberForm hlayout name hj depth hcomma
      rwa [skipSpace_cons rfl] at hread
    have hinsert := insert_of_nodup hnames
    have hkeys : before ++ (name, j) :: (name', j') :: members =
        before ++ [(name, j)] ++ (name', j') :: members := by
      rw [List.append_assoc, List.singleton_append]
    rw [hkeys] at hnames ⊢
    rw [writeMembers_cons, readMembers_member before (hmember _), if_neg (by decide), if_pos rfl,
      skipSpace_append (hlayout.afterComma depth) rfl, hinsert]
    exact ih hnext _ hnames

/-- A document is read back where it stands. -/
lemma isRead (hlayout : layout.Blank) (h : Readable limit j) : IsRead limit layout j := by
  induction h with
  | null =>
    intro depth rest _
    exact readValue_scalar ⟨_, _, rfl, by decide⟩ rfl
  | bool b =>
    intro depth rest _
    cases b
    · exact readValue_scalar ⟨_, _, rfl, by decide⟩ rfl
    · exact readValue_scalar ⟨_, _, rfl, by decide⟩ rfl
  | @integer n h =>
    intro depth rest hrest
    obtain ⟨c, cs, hcons, -, hc⟩ := toString_eq_cons n
    exact readValue_scalar ⟨c, cs, hcons, fun hmem => hc (List.mem_cons_of_mem _ hmem)⟩
      (scalar?_integer h hrest)
  | string s =>
    intro depth rest _
    exact readValue_quote s rest
  | @array items h ih =>
    intro depth rest _
    cases items with
    | nil => exact readValue_array (skipSpace_cons rfl rest)
    | cons item items =>
      have hitems := readItems_write hlayout (fun j hj => ⟨h j hj, ih j hj⟩) (depth + 1)
        (hlayout.lineBreak depth) rest
      have form : write layout depth (.array (item :: items)) ++ rest =
          '[' :: (layout.lineBreak (depth + 1) ++ (write layout (depth + 1) item ++
            (writeItems layout (depth + 1) items ++ (layout.lineBreak depth ++ ']' :: rest)))) := by
        rw [write]
        simp only [List.cons_append, List.append_assoc, List.nil_append]
      have hitem := h item List.mem_cons_self
      obtain ⟨c, cs, hcons, hspace, hc⟩ := write_eq_cons hitem layout (depth + 1)
      rw [hcons, List.cons_append] at hitems
      rw [form, hcons, List.cons_append,
        readValue_array (skipSpace_append (hlayout.lineBreak (depth + 1)) hspace _), if_neg hc,
        hitems]
      rfl
  | @object members hnames h ih =>
    intro depth rest _
    cases members with
    | nil => exact readValue_object (skipSpace_cons rfl rest)
    | cons member members =>
      obtain ⟨name, value⟩ := member
      have form : write layout depth (.object ((name, value) :: members)) ++ rest =
          '\x7b' :: (layout.lineBreak (depth + 1) ++ '"' :: memberForm layout (depth + 1) name value
            (writeMembers layout (depth + 1) members ++
              (layout.lineBreak depth ++ '\x7d' :: rest))) := by
        rw [write, quote, memberForm]
        simp only [List.cons_append, List.append_assoc, List.nil_append]
      rw [form]
      have hmembers := readMembers_write hlayout
        (fun member hmember => ⟨h member hmember, ih member hmember⟩) [] hnames (depth + 1)
        (hlayout.lineBreak depth) rest
      rw [readValue_object (skipSpace_append (hlayout.lineBreak (depth + 1)) rfl _),
        if_neg (by decide), hmembers]
      rfl

end Written

/-- **A document is read back**, also with blanks behind it. -/
theorem parseWithin?_write {layout : Layout} (hlayout : layout.Blank) {j : Json}
    (h : Readable limit j) {blank : List Char} (hblank : ∀ c ∈ blank, isSpace c = true) :
    parseWithin? limit (write layout 0 j ++ blank) = some j := by
  have hends : Ends blank := by
    have hnil : Ends [] := fun c hc => by cases hc
    have hall := ends_blank hblank hnil
    rwa [List.append_nil] at hall
  have hread := isRead hlayout h 0 blank hends
  have hstart : (skipSpace (write layout 0 j ++ blank)).val = write layout 0 j ++ blank :=
    skipSpace_write (List.forall_mem_nil _) h 0 blank
  have hend : (skipSpace blank).val = [] := List.dropWhile_eq_nil_iff.2 hblank
  rw [← hstart] at hread
  obtain ⟨_, hread⟩ := exists_of_outcome hread
  rw [parseWithin?]
  simp only [hread, hend]
  rfl

/-! ## ASCII -/

/-- Space is ASCII. -/
lemma ascii_blank {blank : List Char} (h : ∀ c ∈ blank, isSpace c = true) : Ascii blank := by
  intro c hc
  have hmem := mem_of_isSpace (h c hc)
  fin_cases hmem <;> decide

section Layouts

variable {layout : Layout} (hlayout : layout.Blank)
include hlayout

/-- Written items are ASCII if each of them is. -/
lemma ascii_writeItems {items : List Json}
    (h : ∀ item ∈ items, ∀ depth, Ascii (write layout depth item)) (depth : Nat) :
    Ascii (writeItems layout depth items) := by
  induction items with
  | nil => exact ascii_nil
  | cons item items ih =>
    obtain ⟨hitem, hitems⟩ := List.forall_mem_cons.1 h
    have comma := (ascii_blank (hlayout.afterComma depth)).cons (c := ',') (by decide)
    exact (comma.append (hitem depth)).append (ih hitems)

/-- A written member is ASCII if its value is. -/
lemma ascii_writeMember (name : String) {value : Json} {depth : Nat}
    (h : Ascii (write layout depth value)) :
    Ascii (quote name ++ ':' :: layout.afterColon ++ write layout depth value) :=
  ((ascii_quote name).append ((ascii_blank hlayout.afterColon).cons (by decide))).append h

/-- Written members are ASCII if each value is. -/
lemma ascii_writeMembers {members : List (String × Json)}
    (h : ∀ member ∈ members, ∀ depth, Ascii (write layout depth member.2)) (depth : Nat) :
    Ascii (writeMembers layout depth members) := by
  induction members with
  | nil => exact ascii_nil
  | cons member members ih =>
    obtain ⟨hmember, hmembers⟩ := List.forall_mem_cons.1 h
    have comma := (ascii_blank (hlayout.afterComma depth)).cons (c := ',') (by decide)
    have hfirst := ascii_writeMember hlayout member.1 (hmember depth)
    rw [writeMembers, List.append_assoc (',' :: _), List.append_assoc (',' :: _)]
    exact (comma.append hfirst).append (ih hmembers)

/-- **A document is written in ASCII.** -/
theorem ascii_write {j : Json} (h : Readable limit j) (depth : Nat) :
    Ascii (write layout depth j) := by
  have line (depth : Nat) {c : Char} (hc : c.toNat < 0x80) :
      Ascii (c :: layout.lineBreak depth) :=
    (ascii_blank (hlayout.lineBreak depth)).cons hc
  have close (depth : Nat) {c : Char} (hc : c.toNat < 0x80) :
      Ascii (layout.lineBreak depth ++ [c]) :=
    (ascii_blank (hlayout.lineBreak depth)).append (ascii_nil.cons hc)
  induction h generalizing depth with
  | null => exact .of_all rfl
  | bool b => cases b <;> exact .of_all rfl
  | integer => exact ascii_integer _
  | string s => exact ascii_quote s
  | @array items h ih =>
    cases items with
    | nil => exact .of_all rfl
    | cons item items =>
      obtain ⟨hitem, hitems⟩ := List.forall_mem_cons.1 ih
      rw [write, List.append_assoc _ (layout.lineBreak depth)]
      exact (((line _ (by decide)).append (hitem _)).append
        (ascii_writeItems hlayout hitems _)).append (close _ (by decide))
  | @object members hnames h ih =>
    cases members with
    | nil => exact .of_all rfl
    | cons member members =>
      obtain ⟨hmember, hmembers⟩ := List.forall_mem_cons.1 ih
      have hfirst := ascii_writeMember hlayout member.1 (hmember (depth + 1))
      have shape : write layout depth (.object (member :: members)) =
          '\x7b' :: layout.lineBreak (depth + 1) ++
            (quote member.1 ++ ':' :: layout.afterColon ++ write layout (depth + 1) member.2) ++
            writeMembers layout (depth + 1) members ++ (layout.lineBreak depth ++ ['\x7d']) := by
        rw [write]
        simp only [List.cons_append, List.append_assoc]
      rw [shape]
      exact (((line _ (by decide)).append hfirst).append
        (ascii_writeMembers hlayout hmembers _)).append (close _ (by decide))

end Layouts

end RouteAudit.Json
