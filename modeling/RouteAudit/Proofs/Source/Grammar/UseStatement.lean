import RouteAudit.Proofs.Assoc
import RouteAudit.Proofs.Source.Declaration.Suffix
import RouteAudit.Proofs.Source.Grammar.Word
import RouteAudit.Proofs.Text.Cut

/-!
# Use statements

The grammar of the statements that import names: a list of classes, a group behind a common start,
and the same for functions and constants, marked as a whole or, in a group, one by one.  A statement
that is marked adds nothing.  The mark of an item in a group is read as if it were a class, like the
item behind it; so a statement adds its classes and no more just if it has no such mark
(`read_useStatement`).  The statements without such marks are the class imports of class files and
scripts (`read_imports`).
-/

namespace RouteAudit.Source

/-- The scope with some more imports, of which a later one counts. -/
def NameScope.importAll (scope : NameScope) (entries : List (String × String)) : NameScope :=
  { scope with imports := entries.foldl (fun imports e => imports.insert e.1 e.2) scope.imports }

namespace Grammar
open Token UseClause

/-! ## The grammar -/

/-- The words that mark what is imported as no class. -/
def otherKinds : List String :=
  ["function", "const"]

/-- A class, possibly with an alias. -/
structure Imported where
  name : Name
  alias? : Option (Keyword "as" × Name)

/-- An item of a group, possibly marked.  The word behind a mark is no alias. -/
structure GroupItem where
  mark? : Option (OneOf otherKinds)
  item : Imported
  isNamed : mark?.isSome = true → Text.lower item.name.text ≠ "as"

/-- A part of a statement: a class, or a group, which may have a comma behind its last item. -/
inductive UsePart where
  | single (item : Imported)
  | group (start : Name) (first : GroupItem) (more : List GroupItem) (trailing : Bool)

/-- The name that a part starts with. -/
def UsePart.opener : UsePart → Name
  | single item => item.name
  | group start _ _ _ => start

/-- A statement, possibly marked as a whole. -/
structure UseStatement where
  mark? : Option (OneOf otherKinds)
  first : UsePart
  more : List UsePart
  unmarked : mark? = none → Text.lower first.opener.text ∉ otherKinds

/-- The items of the groups of a statement. -/
def UseStatement.groupItems (u : UseStatement) : List GroupItem :=
  (u.first :: u.more).flatMap fun
    | .single _ => []
    | .group _ first more _ => first :: more

/-- No item of a statement is marked by itself, unless the whole statement is. -/
def UseStatement.Plain (u : UseStatement) : Prop :=
  u.mark? = none → ∀ i ∈ u.groupItems, i.mark? = none

/-- A statement that imports classes, or as a whole none. -/
structure Imports where
  keyword : Keyword "use"
  statement : UseStatement
  plain : statement.Plain

/-! ## How it is written -/

/-- The tokens of a class with its alias. -/
def Imported.tokens (i : Imported) : List Token :=
  i.name.token ::
    match i.alias? with
    | none => []
    | some (keyword, short) => [keyword.token, short.token]

/-- The token of a mark. -/
def markTokens (mark? : Option (OneOf otherKinds)) : List Token :=
  mark?.toList.map fun mark => mark.token

/-- The tokens of an item of a group. -/
def GroupItem.tokens (i : GroupItem) : List Token :=
  markTokens i.mark? ++ i.item.tokens

/-- The lone backslash in front of a group. -/
def groupMark : Token :=
  ⟨.other, "\\", 0⟩

/-- The comma behind the last item of a group. -/
def trailingTokens (trailing : Bool) : List Token :=
  if trailing then [op ","] else []

/-- The tokens of a part of a statement. -/
def UsePart.tokens : UsePart → List Token
  | single item => item.tokens
  | group start first more trailing =>
    start.token :: groupMark :: op "\x7b" ::
      (commas GroupItem.tokens first more ++ (trailingTokens trailing ++ [op "\x7d"]))

/-- The tokens of a statement behind its keyword. -/
def UseStatement.body (u : UseStatement) : List Token :=
  markTokens u.mark? ++ (commas UsePart.tokens u.first u.more ++ [op ";"])

/-- The tokens of class imports. -/
def Imports.tokens (i : Imports) : List Token :=
  i.keyword.token :: i.statement.body

/-! ## What it means -/

/-- What a class adds: its alias or last segment without regard to case, and its whole name, which
`start` begins. -/
def Imported.entry (start : String) (i : Imported) : String × String :=
  let name := ClassName.bare (start ++ i.name.text)
  (Text.lower ((i.alias?.map (·.2.text)).getD (ClassName.short name)), name)

/-- The classes that an item stands for. -/
def GroupItem.classes (i : GroupItem) : List Imported :=
  if i.mark?.isSome then [] else [i.item]

/-- The classes that an item is taken for. -/
def GroupItem.taken (i : GroupItem) : List Imported :=
  i.mark?.toList.map (⟨·.toWord, none⟩) ++ [i.item]

section Entries

variable (classes : GroupItem → List Imported)

/-- What a part of a statement adds; `classes` tells what the items of a group are taken for. -/
def UsePart.entries : UsePart → List (String × String)
  | single item => [item.entry ""]
  | group start first more _ =>
    ((first :: more).flatMap classes).map (Imported.entry (start.text ++ "\\"))

/-- What a statement adds. -/
def UseStatement.entries (u : UseStatement) : List (String × String) :=
  if u.mark?.isSome then [] else (u.first :: u.more).flatMap (UsePart.entries classes)

end Entries

/-- The scope with imported classes. -/
def Imports.addTo (scope : NameScope) (i : Imports) : NameScope :=
  scope.importAll (i.statement.entries GroupItem.classes)

/-! ## What is added -/

/-- Imports are added one after the other. -/
lemma importAll_append (scope : NameScope) (front back : List (String × String)) :
    scope.importAll (front ++ back) = (scope.importAll front).importAll back := by
  rw [NameScope.importAll, List.foldl_append]
  rfl

/-- What is imported last for a key is found. -/
lemma get?_importAll (scope : NameScope) (entries : List (String × String)) (key : String) :
    (scope.importAll entries).imports.get? key =
      (Assoc.latest? entries key).or (scope.imports.get? key) := by
  have h := Assoc.get?_foldl_insert id entries scope.imports key
  rwa [Option.map_id_fun, id] at h

/-- A class is imported by its entry. -/
lemma addImport_eq (start : String) (scope : NameScope) (i : Imported) :
    scope.addImport (start ++ i.name.text) (i.alias?.map (·.2.text)) =
      scope.importAll [i.entry start] :=
  rfl

/-- Backslashes in front of a group do not count. -/
lemma entry_trimStart (start : String) :
    Imported.entry (Text.trimStart (· == '\\') start ++ "\\") =
      Imported.entry (start ++ "\\") := by
  funext i
  have name : ClassName.bare (Text.trimStart (· == '\\') start ++ "\\" ++ i.name.text) =
      ClassName.bare (start ++ "\\" ++ i.name.text) := by
    rw [String.append_assoc, String.append_assoc]
    exact Text.trim_trimStart_append _ _ _
  rw [Imported.entry, name, Imported.entry]

/-- In a plain statement the items of groups are taken for the classes that they are. -/
lemma UseStatement.Plain.entries_eq {u : UseStatement} (h : u.Plain) :
    u.entries GroupItem.taken = u.entries GroupItem.classes := by
  rw [entries, entries]
  cases hmark : u.mark? with
  | some mark => rfl
  | none =>
    refine congrArg (ite _ [] ·) (List.flatMap_congr fun part hpart => ?_)
    cases part with
    | single item => rfl
    | group start first more trailing =>
      rw [UsePart.entries, UsePart.entries]
      refine congrArg (List.map _) (List.flatMap_congr fun i hi => ?_)
      have unmarked : i.mark? = none := h hmark i (List.mem_flatMap.2 ⟨_, hpart, hi⟩)
      rw [GroupItem.taken, GroupItem.classes, unmarked]
      rfl

/-! ## How it is read -/

section Reading

variable {start : String} {scope : NameScope} {s : String}

/-- A semicolon ends a clause. -/
lemma readItems_semicolon (start : String) (scope : NameScope) (rest : List Token) :
    readItems start scope (op ";" :: rest) = (scope, rest) := by
  rw [readItems.eq_def]
  simp

/-- A closing brace ends a group. -/
lemma readItems_close (start : String) (scope : NameScope) (rest : List Token) :
    readItems start scope (op "\x7d" :: rest) = readItems "" scope rest := by
  rw [readItems.eq_def]
  simp

/-- Any other operator is passed over. -/
lemma readItems_op (hs : s ∉ [";", "\x7d"]) (start : String) (scope : NameScope)
    (rest : List Token) : readItems start scope (op s :: rest) = readItems start scope rest := by
  simp only [List.mem_cons, List.not_mem_nil, or_false, not_or] at hs
  rw [readItems.eq_def]
  simp [hs]

/-- The start of a group is remembered. -/
lemma readItems_group (start : Name) (scope : NameScope) (rest : List Token) :
    readItems "" scope (start.token :: groupMark :: rest) =
      readItems (Text.trimStart (· == '\\') start.text ++ "\\") scope rest := by
  rw [readItems.eq_def]
  have mark : isGroupMark groupMark = true := rfl
  simp [mark]

/-- A class is read up to the operator behind it. -/
lemma readItems_imported (start : String) (scope : NameScope) (i : Imported)
    (rest : List Token) :
    readItems start scope (i.tokens ++ op s :: rest) =
      readItems start (scope.importAll [i.entry start]) (op s :: rest) := by
  rw [← addImport_eq]
  obtain ⟨name, _ | ⟨keyword, short⟩⟩ := i
  · rw [Imported.tokens, List.singleton_append, readItems.eq_def]
    simp [isGroupMark]
  · simp only [Imported.tokens, List.cons_append, List.nil_append]
    rw [readItems.eq_def]
    have mark : isGroupMark keyword.token = false := rfl
    simp [mark]

/-- A list is read up to what ends it if each of its members is. -/
lemma readItems_list {α : Type} {tokens : α → List Token} {entries : α → List (String × String)}
    (each : ∀ scope a s rest, readItems start scope (tokens a ++ op s :: rest) =
      readItems start (scope.importAll (entries a)) (op s :: rest))
    (scope : NameScope) (first : α) (more : List α) (s : String) (rest : List Token) :
    readItems start scope (commas tokens first more ++ op s :: rest) =
      readItems start (scope.importAll ((first :: more).flatMap entries)) (op s :: rest) := by
  induction more generalizing first scope with
  | nil => rw [commas_nil, each, List.flatMap_singleton]
  | cons next more ih =>
    rw [commas_cons, List.append_assoc, List.cons_append, each, readItems_op (by simp), ih,
      ← importAll_append, List.flatMap_cons, List.flatMap_cons, List.flatMap_cons]

/-- The mark of an item is taken for a class, like what it marks. -/
lemma readItems_item (start : String) (scope : NameScope) (i : GroupItem) (rest : List Token) :
    readItems start scope (i.tokens ++ op s :: rest) =
      readItems start (scope.importAll (i.taken.map (Imported.entry start))) (op s :: rest) := by
  obtain ⟨_ | mark, item, isNamed⟩ := i
  · exact readItems_imported start scope item rest
  · have tokens : ∃ ts, item.tokens = item.name.token :: ts := ⟨_, rfl⟩
    obtain ⟨ts, hts⟩ := tokens
    have word : readItems start scope (mark.token :: (item.tokens ++ op s :: rest)) =
        readItems start (scope.importAll [Imported.entry start ⟨mark.toWord, none⟩])
          (item.tokens ++ op s :: rest) := by
      rw [hts, readItems.eq_def, ← addImport_eq]
      have noMark : isGroupMark item.name.token = false := rfl
      simp [noMark, isNamed rfl]
    refine word.trans ((readItems_imported start _ item rest).trans ?_)
    rw [← importAll_append]
    rfl

/-- The items of a group are read past the brace that closes it, before which a comma may come. -/
lemma readItems_items (start : String) (scope : NameScope) (first : GroupItem)
    (more : List GroupItem) (trailing : Bool) (rest : List Token) :
    readItems start scope
        (commas GroupItem.tokens first more ++ (trailingTokens trailing ++ op "\x7d" :: rest)) =
      readItems "" (scope.importAll
        (((first :: more).flatMap GroupItem.taken).map (Imported.entry start))) rest := by
  have list := readItems_list fun scope i s rest => readItems_item (s := s) start scope i rest
  rw [List.map_flatMap]
  cases trailing with
  | false =>
    rw [trailingTokens, if_neg Bool.false_ne_true, List.nil_append, list, readItems_close]
  | true =>
    rw [trailingTokens, if_pos rfl, List.singleton_append, list, readItems_op (by simp),
      readItems_close]

/-- A part of a statement is read up to the separator behind it. -/
lemma readItems_part (scope : NameScope) (part : UsePart) (rest : List Token) :
    readItems "" scope (part.tokens ++ op s :: rest) =
      readItems "" (scope.importAll (part.entries GroupItem.taken)) (op s :: rest) := by
  cases part with
  | single item => exact readItems_imported "" scope item rest
  | group start first more trailing =>
    simp only [UsePart.tokens, List.cons_append, List.append_assoc, List.nil_append]
    rw [readItems_group, readItems_op (by simp), readItems_items, entry_trimStart,
      UsePart.entries]

/-- The parts of a statement are read up to and with its semicolon. -/
lemma readItems_parts (scope : NameScope) (first : UsePart) (more : List UsePart)
    (rest : List Token) :
    readItems "" scope (commas UsePart.tokens first more ++ op ";" :: rest) =
      (scope.importAll ((first :: more).flatMap (UsePart.entries GroupItem.taken)), rest) := by
  rw [readItems_list fun scope part s rest => readItems_part (s := s) scope part rest,
    readItems_semicolon]

end Reading

/-! ## Statements that are marked as a whole -/

/-- A class is a run up to the semicolon. -/
lemma Imported.run (i : Imported) : Run [";"] i.tokens := by
  obtain ⟨name, _ | ⟨keyword, short⟩⟩ := i
  · exact run_name name .nil
  · exact run_name name (run_name keyword.toWord (run_name short .nil))

/-- An item of a group is balanced. -/
lemma GroupItem.run (i : GroupItem) : Run [] i.tokens := by
  obtain ⟨_ | mark, item, isNamed⟩ := i
  · exact item.run.balanced
  · exact run_name mark.toWord item.run.balanced

/-- A part of a statement is a run up to the semicolon. -/
lemma UsePart.run (part : UsePart) : Run [";"] part.tokens := by
  cases part with
  | single item => exact item.run
  | group start first more trailing =>
    have items : Run [] (commas GroupItem.tokens first more ++ trailingTokens trailing) := by
      refine (run_commas GroupItem.run (by simp) first more).append ?_
      cases trailing with
      | false => exact .nil
      | true => exact run_sign (by simp) (by simp) .nil
    have mark : groupMark.isOp [";"] = false := rfl
    rw [UsePart.tokens, ← List.append_assoc]
    exact run_name start (.plain mark rfl rfl
      (run_group (by simp) (by simp) items (by simp) .nil))

/-- The first token of a part is its opening name. -/
lemma UsePart.tokens_eq_cons (part : UsePart) :
    ∃ ts, part.tokens = part.opener.token :: ts := by
  cases part <;> exact ⟨_, rfl⟩

/-- The tokens of a statement are read to its end. -/
lemma read_body (scope : NameScope) (u : UseStatement) (rest : List Token) :
    UseClause.read scope (u.body ++ rest) =
      (scope.importAll (u.entries GroupItem.taken), rest) := by
  obtain ⟨_ | mark, first, more, unmarked⟩ := u
  · have items := readItems_parts scope first more rest
    obtain ⟨ts, hts⟩ := first.tokens_eq_cons
    have notMark : first.opener.token.isKeyword ["function", "const"] = false := by
      simpa [otherKinds] using unmarked rfl
    have body : commas UsePart.tokens first more ++ op ";" :: rest =
        first.opener.token ::
          (ts ++ (more.flatMap fun a => op "," :: a.tokens) ++ op ";" :: rest) := by
      rw [commas, hts]
      rfl
    rw [UseStatement.body, markTokens, Option.toList_none, List.map_nil, List.nil_append,
      List.append_assoc, List.singleton_append, body, UseClause.read, if_neg (by simp [notMark]),
      ← body, items]
    rfl
  · have run := run_name mark.toWord (run_commas UsePart.run (by simp) first more)
    have isMark : mark.token.isKeyword ["function", "const"] = true := by
      simpa [otherKinds] using mark.mem
    have skip := skipPast_run run (t := op ";") (by simp) rest
    rw [UseStatement.body, markTokens, Option.toList_some, List.map_singleton,
      List.singleton_append, List.cons_append, List.append_assoc, List.singleton_append,
      UseClause.read, if_pos isMark]
    exact congrArg (Prod.mk scope) skip

/-- A clause that imports classes adds them to the scope. -/
theorem read_imports (scope : NameScope) (i : Imports) (rest : List Token) :
    UseClause.read scope (i.statement.body ++ rest) = (i.addTo scope, rest) := by
  rw [read_body, i.plain.entries_eq, Imports.addTo]

/-! ## It stands -/

/-- A class with its alias stands. -/
lemma Imported.allStand (i : Imported) : AllStand i.tokens := by
  obtain ⟨name, _ | ⟨keyword, short⟩⟩ := i <;> simp [tokens]

/-- A mark stands. -/
lemma allStand_markTokens (mark? : Option (OneOf otherKinds)) : AllStand (markTokens mark?) := by
  cases mark? <;> simp [markTokens]

/-- An item of a group stands. -/
lemma GroupItem.allStand (i : GroupItem) : AllStand i.tokens :=
  allStand_append.2 ⟨allStand_markTokens i.mark?, i.item.allStand⟩

/-- A part of a statement stands. -/
lemma UsePart.allStand (part : UsePart) : AllStand part.tokens := by
  cases part with
  | single item => exact item.allStand
  | group start first more trailing =>
    have mark : groupMark.Stands := by decide +kernel
    have comma : AllStand (trailingTokens trailing) := by
      cases trailing <;> simp [trailingTokens, operators]
    simp [tokens, mark, comma, allStand_commas GroupItem.allStand, operators]

/-- Class imports stand. -/
theorem Imports.allStand (i : Imports) : AllStand i.tokens := by
  simp [tokens, UseStatement.body, allStand_markTokens, allStand_commas UsePart.allStand,
    operators]

/-! ## Places -/

/-- A statement is read past its semicolon, wherever its tokens stand. -/
lemma read_of_written (scope : NameScope) {u : UseStatement} {ts : List Token}
    (written : ts.map unplaced = u.body) (rest : List Token) :
    UseClause.read scope (ts ++ rest) = (scope.importAll (u.entries GroupItem.taken), rest) := by
  have read := read_unplaced scope (ts ++ rest)
  rw [List.map_append, written, read_body] at read
  obtain ⟨hscope, hrest⟩ := Prod.mk.inj read
  have left : (UseClause.read scope (ts ++ rest)).2 <:+ ts ++ rest := read_suffix scope _
  have length : (UseClause.read scope (ts ++ rest)).2.length = rest.length := by
    have := congrArg List.length hrest
    rwa [List.length_map, List.length_map, eq_comm] at this
  have inner := List.suffix_of_suffix_length_le left (List.suffix_append ts rest) length.le
  have same := inner.eq_of_length length
  exact Prod.ext hscope.symm same

/-- **A use statement is read to its end, and adds its classes in order.**  The items of a group
that are marked as functions or constants are no classes, but they are taken for such, and their
marks too.  So the classes are all that is added if no item is marked, or the whole statement is;
and otherwise each marked item, and its mark, is among the imports then. -/
theorem read_useStatement (scope : NameScope) (u : UseStatement) {ts : List Token}
    (written : ts.map unplaced = u.body) (rest : List Token) :
    UseClause.read scope (ts ++ rest) = (scope.importAll (u.entries GroupItem.taken), rest) ∧
    (u.Plain →
      UseClause.read scope (ts ++ rest) = (scope.importAll (u.entries GroupItem.classes), rest)) ∧
    (u.mark? = none → ∀ start first more trailing,
      UsePart.group start first more trailing ∈ u.first :: u.more →
      ∀ i ∈ first :: more, ∀ c ∈ i.taken,
        ((UseClause.read scope (ts ++ rest)).1.imports.get?
          (c.entry (start.text ++ "\\")).1).isSome) := by
  have read := read_of_written scope written rest
  refine ⟨read, fun plain => plain.entries_eq ▸ read, ?_⟩
  intro unmarked start first more trailing hpart i hi c hc
  have entry : c.entry (start.text ++ "\\") ∈ u.entries GroupItem.taken := by
    rw [UseStatement.entries, unmarked]
    refine List.mem_flatMap.2 ⟨_, hpart, List.mem_map.2 ⟨c, ?_, rfl⟩⟩
    exact List.mem_flatMap.2 ⟨i, hi, hc⟩
  rw [read, get?_importAll, Option.isSome_or, Bool.or_eq_true]
  exact .inl (Assoc.isSome_latest? entry)

section Sample

/-- The keyword of an alias stands. -/
lemma stands_as : Lexer.Stands .name "as".toList := by
  decide

/-- The keyword of an alias. -/
def asKeyword : Keyword "as" := ⟨⟨"as", stands_as⟩, List.mem_singleton_self _⟩

/-- The mark of a function. -/
def functionMark : OneOf otherKinds := ⟨⟨"function", stands_function⟩, List.mem_cons_self⟩

/-- A group with an alias and a comma at its end. -/
def classStatement : UseStatement where
  mark? := none
  first := .group ⟨"\\a", by decide⟩
    ⟨none, ⟨⟨"B", by decide⟩, some (asKeyword, letterC)⟩, by decide⟩
    [⟨none, ⟨⟨"d\\E", by decide⟩, none⟩, by decide⟩] true
  more := []
  unmarked _ := by decide

/-- A group with a function. -/
def functionStatement : UseStatement where
  mark? := none
  first := .group ⟨"a", by decide⟩
    ⟨some functionMark, ⟨⟨"f", by decide⟩, none⟩, by decide⟩
    [⟨none, ⟨⟨"B", by decide⟩, none⟩, by decide⟩] false
  more := []
  unmarked _ := by decide

/-- From the one group the classes are imported, from the other the function and its mark too. -/
theorem read_useStatement_groups :
    let classTokens := scan "\\a\\\x7bB as C, d\\E,\x7d;".toList
    let functionTokens := scan "a\\\x7bfunction f, B\x7d;".toList
    classTokens.map unplaced = classStatement.body ∧
    classStatement.Plain ∧
    UseClause.read {} (classTokens ++ [op ";"]) =
      ({ imports := [("c", "a\\B"), ("e", "a\\d\\E")] }, [op ";"]) ∧
    functionTokens.map unplaced = functionStatement.body ∧
    UseClause.read {} (functionTokens ++ [op ";"]) =
      ({ imports := [("function", "a\\function"), ("f", "a\\f"), ("b", "a\\B")] }, [op ";"]) ∧
    functionStatement.entries GroupItem.classes = [("b", "a\\B")] := by
  intro classTokens functionTokens
  have classWritten : classTokens.map unplaced = classStatement.body := by
    decide
  have functionWritten : functionTokens.map unplaced = functionStatement.body := by
    decide
  have plain : classStatement.Plain := by
    intro _ i hi
    obtain rfl | rfl := List.mem_pair.1 hi <;> rfl
  refine ⟨classWritten, plain, ?_, functionWritten, ?_, by decide⟩
  · exact ((read_useStatement {} classStatement classWritten [op ";"]).2.1 plain).trans (by decide)
  · exact (read_useStatement {} functionStatement functionWritten [op ";"]).1.trans (by decide)

end Sample

end Grammar

end RouteAudit.Source
