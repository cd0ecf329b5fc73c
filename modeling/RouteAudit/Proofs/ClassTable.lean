import Mathlib
import RouteAudit.ClassSearch
import RouteAudit.Proofs.Assoc

/-!
# How class tables grow

A table never forgets a class and learns only classes that files declare.  The classes in it and the
bytes that are yet to be read come to a number that never rises (`ClassTable.Grows`).
-/

namespace RouteAudit
open Source (Declaration)

/-- The number of bytes of an entry. -/
def Node.size : Node → Nat
  | .file content => content.length
  | _ => 0

namespace FileTree

/-- The number of bytes of an entry, if it was not read before. -/
def unreadSize (files : Assoc Path (List Declaration)) (entry : List String × Node) : Nat :=
  if { slashes := 1, parts := entry.1 } ∈ files.keys then 0 else entry.2.size

/-- The number of bytes in the files that were not read before. -/
def unread (tree : FileTree) (files : Assoc Path (List Declaration)) : Nat :=
  (tree.entries.map (unreadSize files)).sum

/-- A sum is the smaller by what one of its terms is. -/
lemma sum_map_add_le {α : Type} {f g : α → Nat} (h : ∀ a, f a ≤ g a) {l : List α} {a : α}
    (ha : a ∈ l) {n : Nat} (hn : f a + n ≤ g a) : (l.map f).sum + n ≤ (l.map g).sum := by
  induction l with
  | nil => cases ha
  | cons b l ih =>
    rw [List.map_cons, List.map_cons, List.sum_cons, List.sum_cons]
    rcases List.mem_cons.1 ha with rfl | ha
    · have := List.sum_le_sum fun b (_ : b ∈ l) => h b
      omega
    · have := h b
      have := ih ha
      omega

variable {tree : FileTree} {files : Assoc Path (List Declaration)}

/-- No more bytes are unread than there are. -/
lemma unread_le_size : tree.unread files ≤ tree.size := by
  have hsize : tree.size = (tree.entries.map (·.2.size)).sum := by
    rw [size, List.sum_eq_foldl]
    congr 2
  rw [hsize]
  refine List.sum_le_sum fun entry _ => ?_
  rw [unreadSize]
  split
  · exact Nat.zero_le _
  · exact Nat.le_refl _

/-- To read a file leaves no more of an entry unread. -/
lemma unreadSize_insert_le (file : Path) (declarations : List Declaration)
    (entry : List String × Node) :
    unreadSize (files.insert file declarations) entry ≤ unreadSize files entry := by
  rw [unreadSize, unreadSize]
  by_cases h : { slashes := 1, parts := entry.1 } ∈ files.keys
  · rw [if_pos h, if_pos (Assoc.mem_keys_insert.2 (.inl h))]
  · rw [if_neg h]
    split
    · exact Nat.zero_le _
    · exact Nat.le_refl _

/-- To read a file leaves no more bytes unread. -/
lemma unread_insert_le (file : Path) (declarations : List Declaration) :
    tree.unread (files.insert file declarations) ≤ tree.unread files :=
  List.sum_le_sum fun entry _ => unreadSize_insert_le file declarations entry

/-- Once a file is read, its bytes are no longer to be read. -/
lemma unread_insert_add_le {names : List String} {bytes : List UInt8}
    (entry : (names, .file bytes) ∈ tree.entries)
    (hnew : files.get? { slashes := 1, parts := names } = none) (declarations : List Declaration) :
    tree.unread (files.insert { slashes := 1, parts := names } declarations) + bytes.length ≤
      tree.unread files := by
  refine sum_map_add_le (unreadSize_insert_le _ declarations) entry ?_
  rw [unreadSize, unreadSize, if_pos (Assoc.mem_keys_insert.2 (.inr rfl)),
    if_neg (Assoc.get?_eq_none.1 hnew), Nat.zero_add]
  exact Nat.le_refl _

end FileTree

/-- A declaration stands in a file of the tree. -/
def Source.Declaration.StandsIn (tree : FileTree) (d : Declaration) : Prop :=
  ∃ path bytes, tree.read path = .ok bytes ∧
    d ∈ Declaration.parse (some path) (sourceText bytes)

namespace ClassTable

/-- The number of classes that are known, and of the bytes in which others may be declared. -/
def potential (tree : FileTree) (table : ClassTable) : Nat :=
  table.classes.length + tree.unread table.files

/-- A table knows all classes that another does and others from files, and has no more to learn than
the other. -/
structure Grows (tree : FileTree) (table table' : ClassTable) : Prop where
  keeps : ∀ key d, table.get? key = some d → table'.get? key = some d
  learns : ∀ entry ∈ table'.classes, entry ∈ table.classes ∨ entry.2.StandsIn tree
  potential_le : table'.potential tree ≤ table.potential tree

variable {tree : FileTree} {table table' table'' : ClassTable}

/-- A table grows into itself. -/
lemma Grows.refl (table : ClassTable) : Grows tree table table :=
  ⟨fun _ _ h => h, fun _ h => .inl h, Nat.le_refl _⟩

/-- What a table grows into goes on to grow. -/
lemma Grows.trans (h : Grows tree table table') (h' : Grows tree table' table'') :
    Grows tree table table'' where
  keeps key d hd := h'.keeps key d (h.keeps key d hd)
  learns entry hentry := (h'.learns entry hentry).elim (h.learns entry) .inr
  potential_le := h'.potential_le.trans h.potential_le

/-- A class is found under its own key. -/
lemma key_of_get? {key : String} {d : Declaration} (h : table.get? key = some d) : d.key = key :=
  (table.keyed (key, d) (Assoc.mem_of_get? h)).symm

/-- A class that is found stays, whatever class is added. -/
lemma get?_addClass {classes : Assoc String Declaration} {key : String} {d : Declaration}
    (h : classes.get? key = some d) (new : Declaration) :
    (addClass classes new).get? key = some d := by
  rw [addClass]
  split
  · exact h
  · next hnew =>
    have hne : key ≠ new.key := by
      rintro rfl
      rw [Assoc.contains_eq_isSome, h] at hnew
      exact hnew rfl
    rw [Assoc.get?_insert_of_ne hne, h]

/-- At most one class is added at a time. -/
lemma length_addClass_le (classes : Assoc String Declaration) (new : Declaration) :
    (addClass classes new).length ≤ classes.length + 1 := by
  rw [addClass]
  split
  · exact Nat.le_succ _
  · exact Assoc.length_insert_le _ _ _

/-- A class that is found stays, whatever classes are added. -/
lemma get?_foldl {classes : Assoc String Declaration} {key : String} {d : Declaration}
    (h : classes.get? key = some d) (more : List Declaration) :
    (more.foldl addClass classes).get? key = some d := by
  induction more generalizing classes with
  | nil => exact h
  | cons new more ih => exact ih (get?_addClass h new)

/-- No more classes are added than there are in the list. -/
lemma length_foldl_le (classes : Assoc String Declaration) (more : List Declaration) :
    (more.foldl addClass classes).length ≤ classes.length + more.length := by
  induction more generalizing classes with
  | nil => exact Nat.le_refl _
  | cons new more ih =>
    have := ih (addClass classes new)
    have := length_addClass_le classes new
    simp only [List.foldl_cons, List.length_cons]
    omega

/-- What is known after some classes were added was known before, or is one of them. -/
lemma mem_foldl {classes : Assoc String Declaration} {more : List Declaration}
    {entry : String × Declaration} (h : entry ∈ more.foldl addClass classes) :
    entry ∈ classes ∨ entry.2 ∈ more := by
  induction more generalizing classes with
  | nil => exact .inl h
  | cons new more ih =>
    rcases ih h with hadded | hmore
    · rw [addClass] at hadded
      split at hadded
      · exact .inl hadded
      · rcases Assoc.mem_insert hadded with hold | rfl
        · exact .inl hold
        · exact .inr List.mem_cons_self
    · exact .inr (List.mem_cons_of_mem _ hmore)

/-- A table grows by the declarations of a file if these are no more than the bytes read. -/
lemma grows_record {file : Path} {declarations : List Declaration}
    (stand : ∀ d ∈ declarations, d.StandsIn tree)
    (room : tree.unread (table.files.insert file declarations) + declarations.length ≤
      tree.unread table.files) : Grows tree table (table.record file declarations) where
  keeps _ _ h := get?_foldl h declarations
  learns _ h := (mem_foldl h).imp_right (stand _)
  potential_le := by
    have := length_foldl_le table.classes declarations
    rw [potential, potential, record]
    dsimp only
    omega

end ClassTable

end RouteAudit
