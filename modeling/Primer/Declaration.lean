import Primer.Reading
import Primer.Text.Alphabetic
import Primer.Text.Numeric
import Primer.Text.Escaped

/-!
# Declarations

A declaration `LET name = literal` gives a variable its value.  Spaces and tabs may stand before
it, around the equals sign and behind it, and have to stand after `LET`.  The name is a letter
followed by letters, digits and underscores; the literal is any run of characters without a blank,
and whether it is a number is a question for the execution.

## Main definitions

* `Primer.Declaration` — a name and a literal.
* `Primer.Declaration.read` — takes a declaration off the front of a text.
* `Primer.Declaration.parse` — reads a whole text as a declaration.
-/

set_option relaxedAutoImplicit false
set_option autoImplicit false

namespace Primer

/-- Gives a variable its value. -/
structure Declaration where
  name : Text
  literal : Text
deriving DecidableEq, Repr

namespace Declaration

/-- Whether a character may stand inside a name. -/
def isNameChar (c : Char) : Bool := Text.isAlphabetic c || Text.isNumeric c || c == '_'

/-- The word that opens a declaration. -/
def keyword : Text := "LET".toList

/-- Takes a name off the front of a text: a run of letters, and then as many letters, digits and
underscores as there are. -/
def readName (t : Text) : Except Stop (Text × Text) := do
  let (letters, t) ← Reading.run Text.isAlphabetic t
  return (letters ++ t.takeWhile isNameChar, t.dropWhile isNameChar)

/-- Takes a literal off the front of a text. -/
def readLiteral (t : Text) : Except Stop (Text × Text) :=
  Reading.run (fun c => !Text.isBlank c) t

/-- Takes a declaration off the front of a text. -/
def read (t : Text) : Except Stop (Declaration × Text) := do
  let t ← Reading.word keyword (Text.skipSpacing t)
  let t ← Reading.spacing t
  let (name, t) ← readName t
  let t ← Reading.word ['='] (Text.skipSpacing t)
  let (literal, t) ← readLiteral (Text.skipSpacing t)
  return (⟨name, literal⟩, t)

/-- Reads a whole text as a declaration. -/
def parse (t : Text) : Except (Misread Declaration) Declaration :=
  Reading.whole (fun t => (read t).mapError ([·])) t

/-- A declaration as it is shown in a report. -/
def describe (d : Declaration) : Text :=
  "Declaration \x7b name: ".toList ++ Text.quoted d.name ++ ", literal: ".toList ++
    Text.quoted d.literal ++ " \x7d".toList

end Declaration

end Primer
