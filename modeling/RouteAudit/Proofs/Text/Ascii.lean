import Mathlib
import RouteAudit.ClassSearch

/-!
# ASCII texts

The bytes of ASCII characters are their numbers, and a text of ASCII characters without carriage
returns is read from its bytes as it is.
-/

namespace RouteAudit.Text

/-- The bytes of ASCII characters. -/
def ascii (cs : List Char) : List UInt8 :=
  cs.map fun c => UInt8.ofNat c.toNat

namespace Utf8

/-- The bytes of ASCII characters are these characters. -/
lemma characters_ascii {cs : List Char} (h : ∀ c ∈ cs, c.toNat < 0x80) :
    characters (ascii cs) = cs.map some := by
  induction cs with
  | nil => rfl
  | cons c cs ih =>
    obtain ⟨hc, hcs⟩ := List.forall_mem_cons.1 h
    have value : (UInt8.ofNat c.toNat).toNat = c.toNat := by
      rw [UInt8.toNat_ofNat']
      omega
    have first : characters (ascii (c :: cs)) =
        some (Char.ofNat c.toNat) :: characters (ascii cs) := by
      rw [characters, ascii, List.map_cons, charactersFrom, value, lead?, if_pos hc]
      rfl
    rw [first, ih hcs, Char.ofNat_toNat, List.map_cons]

/-- ASCII is decoded to itself. -/
lemma decodeLossy_ascii {cs : List Char} (h : ∀ c ∈ cs, c.toNat < 0x80) :
    decodeLossy (ascii cs) = cs := by
  rw [decodeLossy, characters_ascii h, List.map_map]
  exact List.map_id cs

/-- The bytes of an array are listed in order, behind those that were listed before. -/
lemma toList_loop (bytes : ByteArray) (i : Nat) (before : List UInt8) :
    ByteArray.toList.loop bytes i before = before.reverse ++ bytes.data.toList.drop i := by
  fun_induction ByteArray.toList.loop bytes i before with
  | case1 i before inside ih =>
    have size : i < bytes.data.toList.length := inside
    rw [ih, List.reverse_cons, List.append_assoc, List.singleton_append,
      List.drop_eq_getElem_cons size]
    congr 2
    exact getElem!_pos bytes.data i inside
  | case2 i before outside =>
    have size : bytes.data.toList.length ≤ i := Nat.not_lt.1 outside
    rw [List.drop_eq_nil_of_le size, List.append_nil]

/-- A text is encoded character by character. -/
lemma encode_eq_flatMap (s : String) : encode s = s.toList.flatMap String.utf8EncodeChar := by
  have bytes : s.toUTF8 = s.toList.utf8Encode := by
    conv_lhs => rw [← String.ofList_toList (s := s)]
    exact String.toByteArray_ofList
  rw [encode, ByteArray.toList, toList_loop, bytes, List.utf8Encode, List.data_toByteArray]
  rfl

/-- An ASCII text is encoded byte by byte. -/
lemma encode_ascii {s : String} (h : ∀ c ∈ s.toList, c.toNat < 0x80) :
    encode s = ascii s.toList := by
  rw [encode_eq_flatMap, ascii, List.map_eq_flatMap]
  refine List.flatMap_congr fun c hc => ?_
  have value : c.val.toNat ≤ 0x7F := Nat.le_of_lt_succ (h c hc)
  rw [String.utf8EncodeChar]
  exact if_pos value

end Utf8

/-- Without carriage returns line ends stay as they are. -/
lemma unifyNewlines_of_notMem {cs : List Char} (h : '\r' ∉ cs) : unifyNewlines cs = cs := by
  induction cs with
  | nil => rfl
  | cons c cs ih =>
    rw [List.mem_cons, not_or] at h
    obtain ⟨hc, hcs⟩ := h
    rw [unifyNewlines.eq_4 c cs (fun _ e => absurd e (Ne.symm hc)) (Ne.symm hc), ih hcs]

end RouteAudit.Text

namespace RouteAudit

/-- A source of ASCII characters without carriage returns. -/
lemma sourceText_ascii {cs : List Char} (h : ∀ c ∈ cs, c.toNat < 0x80 ∧ c ≠ '\r') :
    sourceText (Text.ascii cs) = cs := by
  rw [sourceText, Text.Utf8.decodeLossy_ascii fun c hc => (h c hc).1]
  exact Text.unifyNewlines_of_notMem fun hmem => (h _ hmem).2 rfl

/-- The source of an ASCII text without carriage returns is the text. -/
lemma sourceText_encode {s : String} (h : ∀ c ∈ s.toList, c.toNat < 0x80 ∧ c ≠ '\r') :
    sourceText (Text.Utf8.encode s) = s.toList := by
  rw [Text.Utf8.encode_ascii fun c hc => (h c hc).1, sourceText_ascii h]

end RouteAudit
