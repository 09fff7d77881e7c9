import Primer.Table
import Primer.Text.Decimal

/-!
# Labels

The labels of a session with the numbers of the lines that they mark.  They are shown by line
number, and labels of one line, which different programs can give it, by the labels themselves.

## Main definitions

* `Primer.Labels` — the table of labels.
* `Primer.Labels.define` — records a label.
* `Primer.Labels.byLine` — entries, however they are enumerated, arranged by line number.
* `Primer.Labels.rows` — the entries by line number, then by label.
* `Primer.Labels.table` — the lines of the label table as it is shown.
* `Primer.Labels.Separate` — no two labels mark the same line.
-/

set_option relaxedAutoImplicit false
set_option autoImplicit false

namespace Primer

/-- The labels with the numbers of their lines. -/
abbrev Labels := Table Nat

/-- A label can be defined only once; `line` is where it was. -/
structure AlreadyDefined where
  label : Text
  line : Nat
deriving DecidableEq, Repr

/-- The sentence that reports a second definition. -/
def AlreadyDefined.message (e : AlreadyDefined) : Text :=
  "The label ".toList ++ e.label ++ " is already defined at line ".toList ++ Text.ofNat e.line ++
    ['.']

namespace Labels

/-- Records that a label marks a line. -/
def define (t : Labels) (label : Text) (line : Nat) : Except AlreadyDefined Labels :=
  match Table.define t label line with
  | .ok t' => .ok t'
  | .error first => .error ⟨label, first⟩

/-- Arranges an enumeration of labels by line number, and leaves labels of one line in the order
of the enumeration. -/
def byLine (entries : List (Text × Nat)) : List (Text × Nat) :=
  entries.mergeSort fun a b => decide (a.2 ≤ b.2)

/-- Arranges an enumeration of labels by the labels themselves, code point by code point. -/
def byLabel (entries : List (Text × Nat)) : List (Text × Nat) :=
  entries.mergeSort fun a b => Text.le a.1 b.1

/-- The entries by line number, and those of one line by label. -/
def rows (t : Labels) : List (Text × Nat) := byLine (byLabel t.entries)

/-- The lines of the label table. -/
def table (t : Labels) : List Text :=
  Table.printed "Label".toList (t.rows.map fun e => (e.1, Text.ofNat e.2))

/-- No two labels mark the same line, so that the line numbers alone fix the order of the
table. -/
def Separate (t : Labels) : Prop := (t.entries.map Prod.snd).Nodup

instance (t : Labels) : Decidable t.Separate := by unfold Separate; infer_instance

end Labels

end Primer
