import Mathlib.Data.List.Basic
import Mathlib.Data.Nat.Digits.Defs
import Primer.Text.Decimal

/-!
# Numerals

A text spells a number if it consists of digits, of which there may be any number, behind at most
one sign; the number is the sum of the digits by their places.  A text is read as the number that it
spells, and nothing is read from any other text.  A number is written as a numeral of digits, with a
minus sign in front where it is negative, and reading the numeral gives the number back.  For signed
32-bit numbers this includes the least of them, whose absolute value is out of range.

## Main definitions

* `Primer.Text.IsDigits`, `Primer.Text.decimalValue` — a run of digits, and its value by places.
* `Primer.Text.Spells` — a text spells a number.
* `Primer.Text.IsNumeral` — a text spells a number within the range of 32 bits.

## Main results

* `Primer.Text.ofDigitChars_eq` — reading digits from the left sums them up by their places.
* `Primer.Text.toInt?_eq_some_iff`, `Primer.Text.toInt32?_eq_some_iff` — which numbers are read.
* `Primer.Text.toInt32?_ofInt` — every signed 32-bit number is read back from its numeral.
* `Primer.Text.bounds_of_mem_ofInt` — where the characters of a numeral lie in the code table.
-/

set_option relaxedAutoImplicit false
set_option autoImplicit false

namespace Primer

namespace Text

/-! ## Spelling numbers -/

/-- One or more digits. -/
def IsDigits (t : Text) : Prop := t ≠ [] ∧ ∀ c ∈ t, '0' ≤ c ∧ c ≤ '9'

/-- The value of digits by their places, the last of which is that of the units. -/
def decimalValue (t : Text) : Nat := Nat.ofDigits 10 (t.reverse.map fun c => c.toNat - '0'.toNat)

/-- A text that spells a number: digits, alone or behind one sign. -/
inductive Spells : Text → Int → Prop
  | plain {t : Text} (ht : IsDigits t) : Spells t (decimalValue t)
  | plus {t : Text} (ht : IsDigits t) : Spells ('+' :: t) (decimalValue t)
  | minus {t : Text} (ht : IsDigits t) : Spells ('-' :: t) (-(decimalValue t : Int))

/-- A numeral: a text that spells a number within the range of 32 bits. -/
def IsNumeral (t : Text) : Prop := ∃ i, Spells t i ∧ -2 ^ 31 ≤ i ∧ i ≤ 2 ^ 31 - 1

/-! ## Reading numerals -/

/-- `toInt?` reads a text `c :: t` with a digit `c` in front as `toNat?` does, without a sign. -/
lemma toInt?_of_isDigit {c : Char} {t : Text} (hc : c.isDigit = true) {n : Nat}
    (hn : toNat? (c :: t) = some n) : toInt? (c :: t) = some (n : Int) := by
  unfold toInt?
  split
  · next heq =>
    obtain ⟨rfl, -⟩ := List.cons.inj heq
    exact absurd hc (by decide)
  · next heq =>
    obtain ⟨rfl, -⟩ := List.cons.inj heq
    exact absurd hc (by decide)
  · rw [hn]
    rfl

/-- `IsDigits t` is what `toNat?` tests: `t` is not empty, and `Char.isDigit` holds of its
characters. -/
lemma isDigits_iff {t : Text} : IsDigits t ↔ t ≠ [] ∧ t.all Char.isDigit = true := by
  have hdigit : ∀ c : Char, c.isDigit = true ↔ '0' ≤ c ∧ c ≤ '9' := by
    intro c
    rw [Char.isDigit, Bool.and_eq_true, decide_eq_true_eq, decide_eq_true_eq]
    rfl
  simp only [IsDigits, List.all_eq_true, hdigit]

/-- In `decimalValue (c :: t)` the digit `c` counts for the place given by the length of `t`. -/
lemma decimalValue_cons (c : Char) (t : Text) :
    decimalValue (c :: t) = (c.toNat - '0'.toNat) * 10 ^ t.length + decimalValue t := by
  unfold decimalValue
  rw [List.reverse_cons, List.map_append, Nat.ofDigits_append, List.map_singleton,
    Nat.ofDigits_singleton, List.length_map, List.length_reverse, Nat.mul_comm, Nat.add_comm]

/-- **Reading digits from the left sums them up by their places**: `Nat.ofDigitChars 10 t n` is
`decimalValue t` with `n` in front.

**Proof sketch.** Induction on the digits, with any number read before.  The next digit moves this
number by one place, and the digits that follow move it by as many places as they are. -/
lemma ofDigitChars_eq (t : Text) (n : Nat) :
    Nat.ofDigitChars 10 t n = n * 10 ^ t.length + decimalValue t := by
  induction t generalizing n with
  | nil => simp [Nat.ofDigitChars, decimalValue]
  | cons c t ih =>
    have hstep : Nat.ofDigitChars 10 (c :: t) n =
        Nat.ofDigitChars 10 t (10 * n + (c.toNat - '0'.toNat)) := rfl
    calc Nat.ofDigitChars 10 (c :: t) n
        = (10 * n + (c.toNat - '0'.toNat)) * 10 ^ t.length + decimalValue t := by rw [hstep, ih]
      _ = n * 10 ^ (t.length + 1) +
          ((c.toNat - '0'.toNat) * 10 ^ t.length + decimalValue t) := by ring
      _ = n * 10 ^ (c :: t).length + decimalValue (c :: t) := by
        rw [decimalValue_cons, List.length_cons]

/-- `toNat?` reads exactly the texts with `IsDigits`, as their `decimalValue`. -/
lemma toNat?_eq_some_iff {t : Text} {n : Nat} :
    toNat? t = some n ↔ IsDigits t ∧ n = decimalValue t := by
  rw [toNat?, ofDigitChars_eq, Nat.zero_mul, Nat.zero_add, isDigits_iff]
  split_ifs with h
  · rw [Option.some.injEq, eq_comm, and_iff_right h]
  · exact iff_of_false not_false fun hn => h hn.1

/-- Behind a sign, `toNat?` reads exactly the texts with `IsDigits`, as `f` of their
`decimalValue`. -/
lemma map_toNat?_eq_some_iff {t : Text} {f : Int → Int} {i : Int} :
    (toNat? t >>= fun n => pure (n : Int)).map f = some i ↔
      IsDigits t ∧ i = f (decimalValue t) := by
  constructor
  · intro h
    cases hn : toNat? t with
    | none => simp [hn] at h
    | some n =>
      obtain ⟨ht, rfl⟩ := toNat?_eq_some_iff.1 hn
      exact ⟨ht, by simpa [hn] using h.symm⟩
  · rintro ⟨ht, rfl⟩
    simp [toNat?_eq_some_iff.2 ⟨ht, rfl⟩]

/-- **`toInt?` reads a text as the number that it spells**, and as no other.

**Proof sketch.** One case for each constructor of `Spells`.  A sign is taken off before the digits
are read.  Without a sign the first character is a digit, so that none is taken off. -/
lemma toInt?_eq_some_iff {t : Text} {i : Int} : toInt? t = some i ↔ Spells t i := by
  constructor
  · intro h
    unfold toInt? at h
    split at h
    · obtain ⟨ht, rfl⟩ := map_toNat?_eq_some_iff.1 h
      exact .minus ht
    · obtain ⟨ht, rfl⟩ := map_toNat?_eq_some_iff.1 h
      exact .plus ht
    · obtain ⟨ht, rfl⟩ := map_toNat?_eq_some_iff.1 h
      exact .plain ht
  · intro h
    cases h with
    | plain ht =>
      -- the first character is a digit, so that no sign is taken off
      obtain ⟨c, u, rfl⟩ := List.exists_cons_of_ne_nil ht.1
      have hc : c.isDigit = true := List.all_eq_true.1 (isDigits_iff.1 ht).2 c List.mem_cons_self
      exact toInt?_of_isDigit hc (toNat?_eq_some_iff.2 ⟨ht, rfl⟩)
    | plus ht => exact map_toNat?_eq_some_iff.2 ⟨ht, rfl⟩
    | minus ht => exact map_toNat?_eq_some_iff.2 ⟨ht, rfl⟩

/-- `toInt32?` reads `v` exactly from the texts that spell the value of `v`. -/
lemma toInt32?_eq_some_iff {t : Text} {v : Int32} : toInt32? t = some v ↔ Spells t v.toInt := by
  rw [← toInt?_eq_some_iff, toInt32?]
  cases ht : toInt? t with
  | none => simp
  | some i =>
    simp only [Option.some.injEq]
    split_ifs with hrange
    · rw [Option.some.injEq]
      constructor
      · rintro rfl
        exact Int32.toInt_ofIntLE.symm
      · rintro rfl
        exact v.ofIntLE_toInt
    · refine iff_of_false not_false ?_
      rintro rfl
      exact hrange ⟨v.minValue_le_toInt, v.toInt_le⟩

/-- A text spells the value of at most one `v : Int32`. -/
lemma Spells.unique {t : Text} {v v' : Int32} (h : Spells t v.toInt) (h' : Spells t v'.toInt) :
    v = v' :=
  Option.some.inj ((toInt32?_eq_some_iff.2 h).symm.trans (toInt32?_eq_some_iff.2 h'))

/-- The values of `Int32` are the integers from -2³¹ to 2³¹ - 1. -/
lemma exists_int32_iff {i : Int} : (∃ v : Int32, v.toInt = i) ↔ -2 ^ 31 ≤ i ∧ i ≤ 2 ^ 31 - 1 := by
  constructor
  · rintro ⟨v, rfl⟩
    exact ⟨v.minValue_le_toInt, v.toInt_le⟩
  · rintro ⟨hlow, hhigh⟩
    exact ⟨.ofIntLE i hlow hhigh, Int32.toInt_ofIntLE⟩

/-- `t` is a numeral if and only if it spells the value of some `v : Int32`. -/
lemma isNumeral_iff {t : Text} : IsNumeral t ↔ ∃ v : Int32, Spells t v.toInt := by
  constructor
  · rintro ⟨i, hi, hrange⟩
    obtain ⟨v, rfl⟩ := exists_int32_iff.2 hrange
    exact ⟨v, hi⟩
  · rintro ⟨v, hv⟩
    exact ⟨v.toInt, hv, exists_int32_iff.1 ⟨v, rfl⟩⟩

/-- `toInt32? t` is `none` if and only if `t` spells no number within the range. -/
lemma toInt32?_eq_none_iff {t : Text} : toInt32? t = none ↔ ¬ IsNumeral t := by
  rw [isNumeral_iff, Option.eq_none_iff_forall_ne_some, not_exists]
  exact forall_congr' fun v => not_congr toInt32?_eq_some_iff

instance (t : Text) : Decidable (IsNumeral t) :=
  decidable_of_iff (toInt32? t ≠ none) (not_congr toInt32?_eq_none_iff |>.trans not_not)

/-! ## Writing numerals -/

/-- The characters of `ofNat n` are digits. -/
lemma isDigit_of_mem_ofNat {n : Nat} {c : Char} (h : c ∈ ofNat n) : c.isDigit = true :=
  Nat.isDigit_of_mem_toDigits (by decide) (by decide) h

/-- `ofNat n` has at least one digit. -/
lemma ofNat_ne_nil (n : Nat) : ofNat n ≠ [] := Nat.toDigits_ne_nil

/-- `toNat?` reads `n` back from `ofNat n`. -/
lemma toNat?_ofNat (n : Nat) : toNat? (ofNat n) = some n := by
  have hall : (ofNat n).all Char.isDigit = true :=
    List.all_eq_true.2 fun _ => isDigit_of_mem_ofNat
  rw [toNat?, if_pos ⟨ofNat_ne_nil n, hall⟩]
  exact congrArg some Nat.ofDigitChars_ten_toDigits

/-- `toInt?` reads `i` back from `ofInt i`. -/
lemma toInt?_ofInt (i : Int) : toInt? (ofInt i) = some i := by
  unfold ofInt
  split_ifs with hneg
  · have hi : -(i.natAbs : Int) = i := by omega
    rw [toInt?, toNat?_ofNat]
    exact congrArg some hi
  · have hi : (i.natAbs : Int) = i := by omega
    -- the first character is a digit, so that no sign is taken off
    obtain ⟨c, t, hdigits⟩ := List.exists_cons_of_ne_nil (ofNat_ne_nil i.natAbs)
    have hc : c.isDigit = true := isDigit_of_mem_ofNat (n := i.natAbs) (by simp [hdigits])
    have hread : toNat? (c :: t) = some i.natAbs := hdigits ▸ toNat?_ofNat i.natAbs
    rw [hdigits, toInt?_of_isDigit hc hread, hi]

/-- **`toInt32?` reads every `v : Int32` back from its numeral `ofInt v.toInt`.** -/
lemma toInt32?_ofInt (v : Int32) : toInt32? (ofInt v.toInt) = some v := by
  simp only [toInt32?, toInt?_ofInt]
  rw [dif_pos ⟨v.minValue_le_toInt, v.toInt_le⟩, v.ofIntLE_toInt]

/-- The numeral `ofInt v.toInt` spells the value of `v`. -/
lemma spells_ofInt (v : Int32) : Spells (ofInt v.toInt) v.toInt :=
  toInt32?_eq_some_iff.1 (toInt32?_ofInt v)

/-- `ofInt i` is not empty. -/
lemma ofInt_ne_nil (i : Int) : ofInt i ≠ [] := by
  unfold ofInt
  split_ifs
  · simp
  · exact ofNat_ne_nil _

/-- The characters of `ofInt i` lie between the minus sign and the digit nine in the code table. -/
lemma bounds_of_mem_ofInt {i : Int} {c : Char} (h : c ∈ ofInt i) :
    45 ≤ c.toNat ∧ c.toNat ≤ 57 := by
  have hdigits : ∀ d ∈ ofNat i.natAbs, 45 ≤ d.toNat ∧ d.toNat ≤ 57 := by
    intro d hd
    have hbounds := isDigit_of_mem_ofNat hd
    simp only [Char.isDigit, ge_iff_le, Bool.and_eq_true, decide_eq_true_eq,
      UInt32.le_iff_toNat_le] at hbounds
    exact ⟨Nat.le_trans (by decide) hbounds.1, hbounds.2⟩
  unfold ofInt at h
  split_ifs at h with hneg
  · rcases List.mem_cons.1 h with rfl | h
    · decide
    · exact hdigits c h
  · exact hdigits c h

end Text

end Primer
