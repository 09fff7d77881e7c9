import Primer.Text.Blank
import Primer.Text.Decimal

/-!
# Reading from the left

A reading takes a piece off the front of a text and leaves the rest, or stops and tells what it
looked for there.  A text as a whole is read when nothing but spacing is left over.  What stopped
a reading is kept as data, the unread rest included; the report with line and column is made from
it afterwards.

## Main definitions

* `Primer.Stop` — where a reading stopped, and what it looked for.
* `Primer.Reading.word`, `Primer.Reading.spacing`, `Primer.Reading.run` — the basic readings.
* `Primer.Misread` — why a text as a whole could not be read.
* `Primer.Reading.whole` — reads a whole text.
* `Primer.Misread.message` — the report.
-/

set_option relaxedAutoImplicit false
set_option autoImplicit false

namespace Primer

/-- What a reading looks for. -/
inductive Expected where
  /-- A fixed word. -/
  | word
  /-- At least one space or tab. -/
  | spacing
  /-- At least one character of a class. -/
  | run
  /-- Anything that does not begin with a given word. -/
  | exclusion
  /-- One of several forms. -/
  | choice
deriving DecidableEq, Repr

/-- The name of an expectation in a report. -/
def Expected.name : Expected → Text
  | .word => "Tag".toList
  | .spacing => "Space".toList
  | .run => "TakeWhile1".toList
  | .exclusion => "Not".toList
  | .choice => "Alt".toList

/-- Where a reading stopped: what it looked for, and the text that was still unread. -/
structure Stop where
  expected : Expected
  rest : Text
deriving DecidableEq, Repr

/-! ## Basic readings -/

namespace Reading

/-- Takes a fixed word off the front. -/
def word (w t : Text) : Except Stop Text :=
  match w.isPrefixOf? t with
  | some rest => .ok rest
  | none => .error ⟨.word, t⟩

/-- Takes all spaces and tabs off the front; there has to be one. -/
def spacing (t : Text) : Except Stop Text :=
  if t.head?.any Text.isSpacing then .ok (Text.skipSpacing t) else .error ⟨.spacing, t⟩

/-- Takes the longest run of characters that satisfy `p` off the front; there has to be one. -/
def run (p : Char → Bool) (t : Text) : Except Stop (Text × Text) :=
  if t.head?.any p then .ok (t.takeWhile p, t.dropWhile p) else .error ⟨.run, t⟩

end Reading

/-! ## Whole texts -/

/-- Why a text as a whole could not be read as a value. -/
inductive Misread (α : Type) where
  /-- No reading got through; the stops are listed from the inside out. -/
  | failed (input : Text) (stops : List Stop)
  /-- A value was read, and text was left over. -/
  | leftover (value : α) (rest : Text)
deriving DecidableEq, Repr

/-- Reads a whole text: behind the value only spacing may be left. -/
def Reading.whole {α : Type} (read : Text → Except (List Stop) (α × Text)) (t : Text) :
    Except (Misread α) α :=
  match read t with
  | .error stops => .error (.failed t stops)
  | .ok (value, rest) =>
    match Text.skipSpacing rest with
    | [] => .ok value
    | rest => .error (.leftover value rest)

/-! ## Reports -/

namespace Stop

/-- The part of the input that was read before the stop. -/
def before (s : Stop) (input : Text) : Text := input.take (input.length - s.rest.length)

/-- The number of the input's line that holds the stop. -/
def lineNumber (s : Stop) (input : Text) : Nat := 1 + (s.before input).count '\n'

/-- What stands before the stop on its line. -/
def column (s : Stop) (input : Text) : Text :=
  ((s.before input).reverse.takeWhile (· != '\n')).reverse

/-- The report of the stop with the given number: the line that holds it, and a mark below. -/
def report (s : Stop) (input : Text) (number : Nat) : Text :=
  if input = [] then
    Text.ofNat number ++ ": in ".toList ++ s.expected.name ++ ", got empty input\n\n".toList
  else
    Text.ofNat number ++ ": at line ".toList ++ Text.ofNat (s.lineNumber input) ++
      ", in ".toList ++ s.expected.name ++ ":\n".toList ++
      Text.trimEnd (s.column input ++ s.rest.takeWhile (· != '\n')) ++ ['\n'] ++
      List.replicate (Text.size (s.column input)) ' ' ++ "^\n\n".toList

end Stop

/-- The report of a text that could not be read; `noun` names what was to be read. -/
def Misread.message {α : Type} (noun : Text) (describe : α → Text) : Misread α → Text
  | .failed input stops =>
    "Failed to parse ".toList ++ noun ++ ":\n".toList ++
      stops.zipIdx.flatMap fun s => s.1.report input s.2
  | .leftover value rest =>
    "Incomplete parse of ".toList ++ noun ++ ":\nParsed: ".toList ++ describe value ++
      "\nRest: ".toList ++ rest

end Primer
