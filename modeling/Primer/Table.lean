import Primer.Text.Basic

/-!
# Write-once tables

A table gives values to names.  A name is defined at most once: the entries are kept in the order
of their definitions, none is ever changed or removed, and an attempt to define a name again is
refused and shows the value that the name already has.  The interpreter keeps two such tables, one
for its variables and one for its labels.

## Main definitions

* `Primer.Table` — a table, as the list of its entries in the order of their definitions.
* `Primer.Table.get?`, `Primer.Table.contains` — looking a name up.
* `Primer.Table.define` — defining a name, unless it is taken.
* `Primer.Table.printed` — the lines of a table as it is shown.
-/

set_option relaxedAutoImplicit false
set_option autoImplicit false

namespace Primer

/-- A write-once table of named values, as the list of its entries in the order of their
definitions. -/
structure Table (α : Type) where
  entries : List (Text × α) := []
deriving DecidableEq, Repr

namespace Table

variable {α : Type}

/-- The value of a name. -/
def get? (t : Table α) (name : Text) : Option α := t.entries.lookup name

/-- Whether a name is defined. -/
def contains (t : Table α) (name : Text) : Bool := (t.get? name).isSome

/-- The number of entries. -/
def size (t : Table α) : Nat := t.entries.length

/-- Whether nothing is defined. -/
def isEmpty (t : Table α) : Bool := t.entries.isEmpty

/-- Defines a name.  A name that is taken is left alone, and its value is the error. -/
def define (t : Table α) (name : Text) (value : α) : Except α (Table α) :=
  match t.get? name with
  | some present => .error present
  | none => .ok ⟨t.entries ++ [(name, value)]⟩

/-! ## The printed form -/

/-- One line of a printed table. -/
def printedRow (name value : Text) : Text := name ++ ['\t'] ++ value ++ ['\n']

/-- The lines of a printed table: a heading, a rule, and a row for each entry. -/
def printed (heading : Text) (rows : List (Text × Text)) : List Text :=
  printedRow heading "Value".toList :: "---------------\n".toList ::
    rows.map fun row => printedRow row.1 row.2

end Table

end Primer
