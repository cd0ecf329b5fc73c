import RouteAudit.Proofs.Source.Grammar.Meaning

/-!
# The data of a running script

What the expressions of a script compute when it is run, and what it means that a value tells the
truth about such a datum (`Covers`): it is unresolved, or it is the same, where the entries of an
array may be unresolved one by one, but none is missing, more or under another key.
-/

namespace RouteAudit.Source.Execution
open Grammar

/-! ## Data -/

/-- A key of an array; a text is held as its bytes. -/
inductive Slot where
  | index (i : Int)
  | text (bytes : ByteArray)
  deriving DecidableEq

/-- What a variable holds while a script is run. -/
inductive Datum where
  | null
  | integer (n : Nat)
  | double (bits : UInt64)
  | text (bytes : ByteArray)
  | array (entries : List (Slot × Datum))

/-- What a datum is in a concatenation.  The digits of a floating-point number are left open. -/
inductive Prints : Datum → ByteArray → Prop where
  | null :
    Prints .null "".toByteArray
  | integer {n} :
    Prints (.integer n) (Nat.repr n).toByteArray
  | double {bits printed} :
    Prints (.double bits) printed
  | text {bytes} :
    Prints (.text bytes) bytes
  | array {entries} :
    Prints (.array entries) "Array".toByteArray

/-- The first number that is no integer. -/
def integerBound : Nat := 2 ^ 63

/-- Whether a number is an integer of the language. -/
def InRange (i : Int) : Prop :=
  -integerBound ≤ i ∧ i < integerBound

/-- The key that a datum is turned into.  A text that is the decimal form of an integer stands for
this integer; which integer a floating-point number is cut to is left open. -/
inductive KeyOf : Datum → Slot → Prop where
  | null :
    KeyOf .null (.text "".toByteArray)
  | integer {n : Nat} :
    KeyOf (.integer n) (.index n)
  | double {bits i} :
    KeyOf (.double bits) (.index i)
  | decimal {i} :
    InRange i →
    KeyOf (.text (toString i).toByteArray) (.index i)
  | text {bytes} :
    (∀ i, InRange i → bytes ≠ (toString i).toByteArray) →
    KeyOf (.text bytes) (.text bytes)

/-- The index that an element without a key takes behind the greatest index so far.  Behind one
below zero some versions of the language go on, and others start at zero. -/
inductive Next : Option Int → Int → Prop where
  | first :
    Next none 0
  | behind {greatest} :
    Next (some greatest) (greatest + 1)
  | zero {greatest} :
    greatest < 0 →
    Next (some greatest) 0

/-- The greatest index once another is there. -/
def raise (greatest : Option Int) (i : Int) : Option Int :=
  some (greatest.elim i (max i))

/-- The keys of the elements of an array, where those without a key take the next index, as long as
there is one. -/
inductive Fills : Option Int → List (Option Slot × Datum) → List (Slot × Datum) → Prop where
  | nil {greatest} :
    Fills greatest [] []
  | unkeyed {greatest i w elements filled} :
    Next greatest i →
    i < integerBound →
    Fills (raise greatest i) elements filled →
    Fills greatest ((none, w) :: elements) ((.index i, w) :: filled)
  | index {greatest i w elements filled} :
    Fills (raise greatest i) elements filled →
    Fills greatest ((some (.index i), w) :: elements) ((.index i, w) :: filled)
  | text {greatest bytes w elements filled} :
    Fills greatest elements filled →
    Fills greatest ((some (.text bytes), w) :: elements) ((.text bytes, w) :: filled)

/-! ## True values -/

/-- The key as a running script has it. -/
def slotOf : Key → Slot
  | .index n => .index n
  | .text s => .text s.toByteArray

/-- Whether a value tells the truth about a datum. -/
inductive Covers : Value → Datum → Prop where
  | unresolved {w} :
    Covers .unresolved w
  | integer {n} :
    Covers (.integer n) (.integer n)
  | text {s} :
    Covers (.text s) (.text s.toByteArray)
  | list {items entries} :
    entries.map (·.1) = (List.range items.length).map (fun n => .index (n : Int)) →
    List.Forall₂ Covers items (entries.map (·.2)) →
    Covers (.list items) (.array entries)
  | keyed {pairs entries} :
    entries.map (·.1) = pairs.map (slotOf ·.1) →
    List.Forall₂ Covers (pairs.map (·.2)) (entries.map (·.2)) →
    Covers (.keyed pairs) (.array entries)

/-- Whether an entry of a map tells the truth about an entry of an array. -/
def Alike (e : Key × Value) (f : Slot × Datum) : Prop :=
  slotOf e.1 = f.1 ∧ Covers e.2 f.2

/-- Whether an element, whose key may be missing, tells the truth about one of a running script. -/
inductive Matches : Option Value × Value → Option Slot × Datum → Prop where
  | unkeyed {v w} :
    Covers v w →
    Matches (none, v) (none, w)
  | keyed {kv key v w} :
    keyOf? kv = some key →
    Covers v w →
    Matches (some kv, v) (some (slotOf key), w)

/-- Whether a value is known and is taken for the right key: it is not the decimal form of an
integer below zero, which is kept as a text, or of a number that is no integer, which is taken for an
index. -/
def RightKey (v : Value) : Prop :=
  v ≠ .unresolved ∧
    ∀ i : Int, v = .text (toString i) → i < -integerBound ∨ 0 ≤ i ∧ i < integerBound

/-! ## Texts -/

/-- Different keys are different slots. -/
lemma slotOf_injective : Function.Injective slotOf := by
  intro a b h
  cases a with
  | index n =>
    cases b with
    | index m => rw [Int.ofNat_inj.1 (Slot.index.inj h)]
    | text t => cases h
  | text s =>
    cases b with
    | index m => cases h
    | text t => rw [String.toByteArray_inj.1 (Slot.text.inj h)]

/-- The text of a value is what the datum is in a concatenation. -/
lemma prints_of_textOf? {v : Value} {w : Datum} {s : String} {printed : ByteArray}
    (h : Covers v w) (hs : textOf? v = some s) (hp : Prints w printed) :
    printed = s.toByteArray := by
  cases h with
  | integer =>
    cases hs
    cases hp
    rfl
  | text =>
    cases hs
    cases hp
    rfl
  | _ => cases hs

/-- A concatenation of true values is true. -/
lemma covers_join {v v' : Value} {w w' : Datum} {printed printed' : ByteArray} (h : Covers v w)
    (h' : Covers v' w') (hp : Prints w printed) (hp' : Prints w' printed') :
    Covers (join v v') (.text (printed ++ printed')) := by
  rw [join]
  split
  · next s t hs ht =>
    rw [prints_of_textOf? h hs hp, prints_of_textOf? h' ht hp', ← String.toByteArray_append]
    exact .text
  · exact .unresolved

/-- A value of a text is unresolved, or it is the text. -/
lemma covers_text {v : Value} {bytes : ByteArray} (h : Covers v (.text bytes))
    (hv : v ≠ .unresolved) : ∃ s, v = .text s ∧ s.toByteArray = bytes := by
  cases h with
  | unresolved => exact absurd rfl hv
  | text => exact ⟨_, rfl, rfl⟩

/-! ## Keys -/

/-- A known value is the key that a running script makes of the datum. -/
lemma keyOf?_of_covers {v : Value} {w : Datum} {slot : Slot} (h : Covers v w)
    (hv : RightKey v) (hk : KeyOf w slot) : ∃ key, keyOf? v = some key ∧ slotOf key = slot := by
  obtain ⟨known, right⟩ := hv
  cases hk with
  | null =>
    cases h
    exact absurd rfl known
  | integer =>
    cases h with
    | unresolved => exact absurd rfl known
    | integer => exact ⟨_, rfl, rfl⟩
  | double =>
    cases h
    exact absurd rfl known
  | @decimal i hi =>
    obtain ⟨s, rfl, hs⟩ := covers_text h known
    rw [String.toByteArray_inj] at hs
    rcases right i (congrArg Value.text hs) with hlow | ⟨hpos, -⟩
    · exact absurd hi.1 (Int.not_le.2 hlow)
    · obtain ⟨n, rfl⟩ := Int.eq_ofNat_of_zero_le hpos
      have hn : numberOf? s = some n := numberOf?_eq_some.2 hs
      refine ⟨.index n, ?_, rfl⟩
      rw [keyOf?, hn]
      rfl
  | text hdecimal =>
    obtain ⟨s, rfl, rfl⟩ := covers_text h known
    have hn : numberOf? s = none := by
      cases hs : numberOf? s with
      | none => rfl
      | some n =>
        rw [numberOf?_eq_some] at hs
        rcases right n (congrArg Value.text hs) with hlow | ⟨hpos, hhigh⟩
        · omega
        · exact absurd (congrArg String.toByteArray hs) (hdecimal n ⟨by omega, hhigh⟩)
    refine ⟨.text s, ?_, rfl⟩
    rw [keyOf?, hn]
    rfl

/-- A right key is within the limit of conversions. -/
lemma keyFits_of_rightKey {v : Value} (h : RightKey v) : KeyFits v := by
  rintro n rfl
  rcases h.2 n rfl with hlow | ⟨-, hhigh⟩
  · omega
  · exact (Nat.length_repr_le_iff (by decide)).2
      (Text.Numeral.lt_limit (Int.ofNat_lt.1 hhigh))

/-- Alike entries stay alike with one more on both sides. -/
lemma alike_insert {e : Key × Value} {f : Slot × Datum} (h : Alike e f)
    {pairs : List (Key × Value)} {entries : List (Slot × Datum)}
    (hm : List.Forall₂ Alike pairs entries) :
    List.Forall₂ Alike (Assoc.insert e.1 e.2 pairs) (Assoc.insert f.1 f.2 entries) := by
  induction hm with
  | nil => exact .cons h .nil
  | @cons p q pairs entries hpq hm ih =>
    rw [Assoc.insert, Assoc.insert]
    by_cases hk : p.1 = e.1
    · have hq : q.1 = f.1 := by rw [← hpq.1, hk, h.1]
      rw [if_pos (by simpa using hk), if_pos (by simpa using hq)]
      exact .cons ⟨hpq.1, h.2⟩ hm
    · have hq : q.1 ≠ f.1 := by
        rw [← hpq.1, ← h.1]
        exact fun hs => hk (slotOf_injective hs)
      rw [if_neg (by simpa using hk), if_neg (by simpa using hq)]
      exact .cons hpq ih

/-- Maps that are built from true entries are true. -/
lemma alike_ofList {pairs : List (Key × Value)} {entries : List (Slot × Datum)}
    (h : List.Forall₂ Alike pairs entries) :
    List.Forall₂ Alike (Assoc.ofList pairs) (Assoc.ofList entries) := by
  have hfold : ∀ {m : List (Key × Value)} {m' : List (Slot × Datum)},
      List.Forall₂ Alike m m' →
        List.Forall₂ Alike (pairs.foldl (fun m p => Assoc.insert p.1 p.2 m) m)
          (entries.foldl (fun m p => Assoc.insert p.1 p.2 m) m') := by
    induction h with
    | nil => exact fun hm => hm
    | cons hp _ ih => exact fun hm => ih (alike_insert hp hm)
  exact hfold .nil

/-- Whether an index is the next one behind the greatest so far, where none is below zero. -/
def Behind (greatest : Option Int) (next : Nat) : Prop :=
  (next : Int) = greatest.elim 0 (· + 1) ∧ ∀ i ∈ greatest, 0 ≤ i

/-- The next index is the one behind the greatest so far. -/
lemma Behind.next {greatest : Option Int} {next : Nat} (h : Behind greatest next) {i : Int}
    (hi : Next greatest i) : i = next := by
  cases hi with
  | first => exact h.1.symm
  | behind => exact h.1.symm
  | zero hneg => exact absurd (h.2 _ rfl) (Int.not_le.2 hneg)

/-- An index leaves the next one behind the greatest so far. -/
lemma Behind.raise {greatest : Option Int} {next : Nat} (h : Behind greatest next) (n : Nat) :
    Behind (raise greatest n) (max next (n + 1)) := by
  obtain ⟨hnext, hpos⟩ := h
  cases greatest with
  | none =>
    rw [Option.elim_none] at hnext
    refine ⟨?_, fun i hi => ?_⟩
    · rw [Execution.raise, Option.elim_none, Option.elim_some]
      omega
    · cases hi
      exact Int.natCast_nonneg n
  | some g =>
    have hg := hpos g rfl
    rw [Option.elim_some] at hnext
    refine ⟨?_, fun i hi => ?_⟩
    · rw [Execution.raise, Option.elim_some, Option.elim_some]
      omega
    · cases hi
      exact le_max_of_le_right hg

/-- Both sides place their elements under the same keys. -/
lemma alike_place {greatest : Option Int} {next : Nat} (hb : Behind greatest next)
    {elements : List (Option Value × Value)} {data : List (Option Slot × Datum)}
    {filled : List (Slot × Datum)} (h : List.Forall₂ Matches elements data)
    (hf : Fills greatest data filled) : List.Forall₂ Alike (place next elements) filled := by
  -- the invariant is that both sides go on behind the same index
  induction h generalizing greatest next filled with
  | nil =>
    cases hf
    exact .nil
  | cons hm _ ih =>
    cases hm with
    | unkeyed hc =>
      cases hf with
      | unkeyed hi _ hf =>
        have hraise := hb.raise next
        rw [Nat.max_eq_right (Nat.le_succ next)] at hraise
        rw [hb.next hi] at hf ⊢
        exact .cons ⟨rfl, hc⟩ (ih hraise hf)
    | @keyed kv key v w hk hc =>
      rw [place, hk]
      cases key with
      | index n =>
        cases hf with
        | index hf => exact .cons ⟨rfl, hc⟩ (ih (hb.raise n) hf)
      | text s =>
        cases hf with
        | text hf => exact .cons ⟨rfl, hc⟩ (ih hb hf)

/-- Alike entries make arrays of which one covers the other. -/
lemma covers_keyed {pairs : List (Key × Value)} {entries : List (Slot × Datum)}
    (h : List.Forall₂ Alike pairs entries) : Covers (.keyed pairs) (.array entries) := by
  refine .keyed ?_ ?_
  · induction h with
    | nil => rfl
    | cons hp _ ih => rw [List.map_cons, List.map_cons, ih, hp.1]
  · induction h with
    | nil => exact .nil
    | cons hp _ ih => exact .cons hp.2 ih

/-- Elements without keys take the indices in a row. -/
lemma fills_unkeyed {greatest : Option Int} {next : Nat} (hb : Behind greatest next)
    {elements : List (Option Value × Value)} {data : List (Option Slot × Datum)}
    {filled : List (Slot × Datum)} (hnone : elements.all (·.1.isNone) = true)
    (h : List.Forall₂ Matches elements data) (hf : Fills greatest data filled) :
    filled.map (·.1) = (List.range' next elements.length).map (fun n => .index (n : Int)) ∧
      List.Forall₂ Covers (elements.map (·.2)) (filled.map (·.2)) := by
  induction h generalizing greatest next filled with
  | nil =>
    cases hf
    exact ⟨rfl, .nil⟩
  | cons hm _ ih =>
    cases hm with
    | unkeyed hc =>
      cases hf with
      | unkeyed hi _ hf =>
        have hraise := hb.raise next
        rw [Nat.max_eq_right (Nat.le_succ next)] at hraise
        rw [hb.next hi] at hf ⊢
        obtain ⟨hkeys, hvalues⟩ := ih hraise (by simpa using hnone) hf
        refine ⟨?_, .cons hc hvalues⟩
        rw [List.map_cons, hkeys]
        rfl
    | keyed => simp at hnone

/-- In an empty array the next index is zero. -/
lemma behind_start : Behind none 0 :=
  ⟨rfl, by simp⟩

/-- An array of true elements is true. -/
theorem covers_arrayOf {elements : List (Option Value × Value)}
    {data : List (Option Slot × Datum)} {filled : List (Slot × Datum)}
    (h : List.Forall₂ Matches elements data) (hf : Fills none data filled) :
    Covers (arrayOf elements) (.array (Assoc.ofList filled)) := by
  rw [arrayOf]
  split
  · next hnone =>
    obtain ⟨hkeys, hvalues⟩ := fills_unkeyed behind_start hnone h hf
    have hnodup : (filled.map (·.1)).Nodup := by
      rw [hkeys]
      exact (List.nodup_range' (s := 0)).map fun a b e => Int.ofNat_inj.1 (Slot.index.inj e)
    rw [Assoc.ofList_of_nodup hnodup]
    refine .list ?_ hvalues
    rw [hkeys, List.length_map, List.range_eq_range']
  · exact covers_keyed (alike_ofList (alike_place behind_start h hf))

end RouteAudit.Source.Execution
