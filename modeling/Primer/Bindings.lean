import Primer.Table
import Primer.Text.Decimal

/-!
# Bindings

The variables of a session with their values, signed 32-bit numbers, in the order in which they
were declared.

## Main definitions

* `Primer.Bindings` — the table of variables.
* `Primer.Bindings.declare` — gives a new variable its value.
* `Primer.Bindings.table` — the lines of the variable table as it is shown.
-/

set_option relaxedAutoImplicit false
set_option autoImplicit false

namespace Primer

/-- The variables with their values. -/
abbrev Bindings := Table Int32

/-- A variable can be declared only once. -/
structure AlreadyDeclared where
  name : Text
deriving DecidableEq, Repr

/-- The sentence that reports a second declaration. -/
def AlreadyDeclared.message (e : AlreadyDeclared) : Text :=
  "The variable ".toList ++ e.name ++ " is already defined.".toList

namespace Bindings

/-- Gives a new variable its value. -/
def declare (b : Bindings) (name : Text) (value : Int32) : Except AlreadyDeclared Bindings :=
  match b.define name value with
  | .ok b' => .ok b'
  | .error _ => .error ⟨name⟩

/-- The lines of the variable table, in the order of declaration. -/
def table (b : Bindings) : List Text :=
  Table.printed "Var".toList (b.entries.map fun e => (e.1, Text.ofInt e.2.toInt))

end Bindings

end Primer
