import Primer.Bindings
import Primer.Labels

/-!
# Faults

What can be wrong with a line of a program, and how it is reported: the number and the text of
the line, and the reason in a sentence.

## Main definitions

* `Primer.Cause` — what is wrong; `Primer.Cause.reason` — the sentence that says so.
* `Primer.Fault` — a cause at a line; `Primer.Fault.message` — the whole report.
* `Primer.AlreadyDeclared.cause`, `Primer.AlreadyDefined.cause` — a refusal of one of the tables,
  as what is wrong with the line that asked.
-/

set_option relaxedAutoImplicit false
set_option autoImplicit false

namespace Primer

/-- What is wrong with a line. -/
inductive Cause where
  /-- The line is no statement. -/
  | unrecognized
  /-- The line's label already marks another line. -/
  | duplicateLabel (label : Text)
  /-- The line declares a variable that exists. -/
  | duplicateDeclaration (name : Text)
  /-- The line gives a variable something other than an integer. -/
  | invalidLiteral (name literal : Text)
deriving DecidableEq, Repr

/-- The sentence that says what is wrong. -/
def Cause.reason : Cause → Text
  | .unrecognized => "Unrecognized statement.".toList
  | .duplicateLabel label => "The label ".toList ++ label ++ " is already defined.".toList
  | .duplicateDeclaration name => "The variable ".toList ++ name ++ " is already defined.".toList
  | .invalidLiteral name _ =>
    "The variable ".toList ++ name ++ " must have an integer value.".toList

/-- What is wrong at which line. -/
structure Fault where
  line : Nat
  text : Text
  cause : Cause
deriving DecidableEq, Repr

/-- The report of a fault. -/
def Fault.message (f : Fault) : Text :=
  "Error on line ".toList ++ Text.ofNat f.line ++ "\n  ".toList ++ f.text ++ "\n  ".toList ++
    f.cause.reason

/-- A refused declaration, as what is wrong with its line. -/
def AlreadyDeclared.cause (e : AlreadyDeclared) : Cause := .duplicateDeclaration e.name

/-- A refused label, as what is wrong with its line. -/
def AlreadyDefined.cause (e : AlreadyDefined) : Cause := .duplicateLabel e.label

end Primer
