import Primer.Text.Basic

/-!
# Decimal numerals

Numbers are written with as few digits as possible and a minus sign where needed.  Reading is
more liberal: a sign of either kind may come first and leading zeros are allowed, but the number
has to fit in 32 bits.

## Main definitions

* `Primer.Text.ofNat`, `Primer.Text.ofInt` — a number in decimal.
* `Primer.Text.toInt32?` — the signed 32-bit number that a text spells.
-/

set_option relaxedAutoImplicit false
set_option autoImplicit false

namespace Primer

namespace Text

/-- A natural number in decimal. -/
def ofNat (n : Nat) : Text := Nat.toDigits 10 n

/-- An integer in decimal. -/
def ofInt (i : Int) : Text := if i < 0 then '-' :: ofNat i.natAbs else ofNat i.natAbs

/-- The number that a non-empty run of ASCII digits spells. -/
def toNat? (t : Text) : Option Nat :=
  if t ≠ [] ∧ t.all Char.isDigit then some (Nat.ofDigitChars 10 t 0) else none

/-- The number that a text spells: digits behind at most one sign. -/
def toInt? : Text → Option Int
  | '-' :: t => (toNat? t).map fun n => -n
  | '+' :: t => (toNat? t).map fun n => n
  | t => (toNat? t).map fun n => n

/-- The number that a text spells, if it is within the range of signed 32-bit numbers. -/
def toInt32? (t : Text) : Option Int32 :=
  match toInt? t with
  | none => none
  | some i =>
    if h : Int32.minValue.toInt ≤ i ∧ i ≤ Int32.maxValue.toInt then some (.ofIntLE i h.1 h.2)
    else none

end Text

end Primer
