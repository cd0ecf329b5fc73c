import RouteAudit.Files.Path
import RouteAudit.Proofs.Text.Cut

/-!
# The texts of paths

A text without a slash is a path of one name, and a path holds a character other than a slash if one
of its names does.
-/

namespace RouteAudit

namespace Path

/-- A name is the only one in its text. -/
lemma names_name {s : String} (hslash : '/' ∉ s.toList) (hempty : s ≠ "") (hpoint : s ≠ ".") :
    names s = [s] := by
  rw [names, Text.split, Text.splitList_of_notMem hslash]
  simp [hempty, hpoint]

/-- A name is a path. -/
lemma ofString_name {s : String} (hslash : '/' ∉ s.toList) (hempty : s ≠ "") (hpoint : s ≠ ".") :
    ofString s = { parts := [s] } := by
  have hstart : s.toList.takeWhile (· == '/') = [] := by
    cases hs : s.toList with
    | nil => rfl
    | cons c cs =>
      have hc : c ≠ '/' := fun h => hslash (hs ▸ h ▸ List.mem_cons_self)
      rw [List.takeWhile_cons, if_neg (by simpa using hc)]
  rw [ofString, names_name hslash hempty hpoint, hstart]
  rfl

/-- The names before a slash come before those behind it. -/
lemma names_append (s t : String) : names (s ++ "/" ++ t) = names s ++ names t := by
  have pieces : (s ++ "/" ++ t).toList = s.toList ++ '/' :: t.toList := by simp
  rw [names, names, names, Text.split, pieces, Text.splitList_append, List.map_append,
    List.filter_append]
  rfl

/-- Slashes hold no name. -/
lemma names_slashes {s : String} (h : ∀ c ∈ s.toList, c = '/') : names s = [] := by
  have empty {cs : List Char} (h : ∀ c ∈ cs, c = '/') :
      ∀ piece ∈ Text.splitList '/' cs, piece = [] := by
    induction cs with
    | nil => simp [Text.splitList]
    | cons c cs ih =>
      obtain ⟨rfl, hcs⟩ := List.forall_mem_cons.1 h
      rw [Text.splitList, if_pos rfl]
      exact List.forall_mem_cons.2 ⟨rfl, ih hcs⟩
  rw [names, Text.split, List.filter_eq_nil_iff]
  intro name hname
  obtain ⟨piece, hpiece, rfl⟩ := List.mem_map.1 hname
  rw [empty h piece hpiece]
  decide

/-- A path is absolute if its text starts with a slash. -/
lemma isAbsolute_ofString (s : String) :
    (ofString s).isAbsolute = true ↔ s.toList.head? = some '/' := by
  rw [ofString, isAbsolute]
  cases s.toList with
  | nil => simp
  | cons c cs =>
    rw [List.takeWhile_cons, List.head?_cons]
    by_cases h : c = '/'
    · simp only [h, beq_self_eq_true, if_true]
      split <;> simp
    · simp [h]

/-- What stands behind a name does not change how a path starts. -/
lemma slashes_append {s : String} {c : Char} (hc : c ∈ s.toList) (hne : c ≠ '/') (t : String) :
    (ofString (s ++ t)).slashes = (ofString s).slashes := by
  have hshort : (s.toList.takeWhile (· == '/')).length ≠ s.toList.length := by
    intro h
    have hall := (List.takeWhile_prefix (l := s.toList) (· == '/')).eq_of_length h
    rw [List.takeWhile_eq_self_iff] at hall
    exact hne (by simpa using hall c hc)
  rw [ofString, ofString, String.toList_append, List.takeWhile_append, if_neg hshort]

/-- Names without a null character. -/
def CleanNames (names : List String) : Prop :=
  ∀ name ∈ names, '\x00' ∉ name.toList

/-- The empty list of names holds no null character. -/
@[simp]
lemma cleanNames_nil : CleanNames [] :=
  List.forall_mem_nil _

/-- Names hold no null character if none of them does. -/
@[simp]
lemma cleanNames_cons {name : String} {names : List String} :
    CleanNames (name :: names) ↔ '\x00' ∉ name.toList ∧ CleanNames names :=
  List.forall_mem_cons

/-- Joined names hold no null character if the two parts do not. -/
@[simp]
lemma cleanNames_append {front back : List String} :
    CleanNames (front ++ back) ↔ CleanNames front ∧ CleanNames back :=
  List.forall_mem_append

/-- Some of the names hold no null character if all of them do not. -/
lemma CleanNames.sublist {some all : List String} (h : CleanNames all) (sub : some.Sublist all) :
    CleanNames some :=
  fun name hname => h name (sub.subset hname)

/-- The names of a path hold no null character. -/
def Clean (p : Path) : Prop :=
  CleanNames p.parts

/-- A character other than a slash is in a path if it is in one of its names. -/
lemma mem_intercalate {c : Char} (hc : c ≠ '/') (names : List String) :
    c ∈ ("/".intercalate names).toList ↔ ∃ name ∈ names, c ∈ name.toList := by
  match names with
  | [] => simp
  | [name] => simp
  | name :: next :: rest =>
    have ih := mem_intercalate hc (next :: rest)
    rw [String.intercalate_cons_cons, String.toList_append, String.toList_append, List.mem_append,
      List.mem_append, ih]
    simp [hc]

/-- A path is handed to the file system as a text without null characters. -/
lemma contains_eq_false (p : Path) : p.toString.contains '\x00' = false ↔ p.Clean := by
  rw [String.contains_char_eq, decide_eq_false_iff_not, toString]
  by_cases h : p.slashes = 0 ∧ p.parts = []
  · rw [if_pos h]
    simp [Clean, CleanNames, h.2]
  · rw [if_neg h, String.toList_append, List.mem_append, mem_intercalate (by simp)]
    simp [Clean, CleanNames]

end Path

end RouteAudit
