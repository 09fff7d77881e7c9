import Primer.Outcome

/-!
# Lines

A line of a program may carry a label, which ends at the first colon; the rest is its body, a
statement.  Classifying a line first records its label and then reads its body.  The label stays
recorded whatever becomes of the body.

## Main definitions

* `Primer.Line` — a numbered line with its statement.
* `Primer.Line.splitLabel` — a line's label and body.
* `Primer.Line.classify` — turns a text into a line.
-/

set_option relaxedAutoImplicit false
set_option autoImplicit false

namespace Primer

/-- A line of a program: its number, its text, the text without label and outer blanks, and the
statement that this body is. -/
structure Line where
  number : Nat
  raw : Text
  body : Text
  statement : Statement
deriving DecidableEq, Repr

/-- A line as it is listed. -/
def Line.display (l : Line) : Text := Text.ofNat l.number ++ "\t| ".toList ++ l.raw

/-- The fault of a line for a cause. -/
def Line.fault (l : Line) (cause : Cause) : Fault := ⟨l.number, l.raw, cause⟩

namespace Line

/-- Splits a line at its first colon into label and body, both without outer blanks.  A line
without a colon is all body. -/
def splitLabel (raw : Text) : Option Text × Text :=
  match raw.dropWhile (· != ':') with
  | [] => (none, Text.trim raw)
  | _ :: body => (some (Text.trim (raw.takeWhile (· != ':'))), Text.trim body)

/-- Records the label of a line, if there is one. -/
def register (number : Nat) (raw : Text) (label : Option Text) (labels : Labels) :
    Outcome Labels Unit :=
  match label with
  | none => ⟨labels, [], .ok ()⟩
  | some label =>
    match Labels.define labels label number with
    | .ok labels' => ⟨labels', [.labelRegistered label number], .ok ()⟩
    | .error e => ⟨labels, [], .error ⟨number, raw, e.cause⟩⟩

/-- Reads the body of a line.  A body of no kind gives nothing; so does one that is not the
declaration that it looks like, and this is logged. -/
def readBody (number : Nat) (raw body : Text) : Option Line × List Event :=
  match Kind.of? body with
  | none => (none, [])
  | some kind =>
    match kind.read body with
    | .ok statement => (some ⟨number, raw, body, statement⟩, [])
    | .error e => (none, [.declarationRejected e])

/-- Turns a text into the line with the given number, if it is one, and records its label. -/
def classify (number : Nat) (raw : Text) (labels : Labels) : Outcome Labels (Option Line) :=
  let (label, body) := splitLabel raw
  let registered := register number raw label labels
  match registered.result with
  | .error fault => ⟨registered.state, registered.log, .error fault⟩
  | .ok () =>
    let (line, log) := readBody number raw body
    ⟨registered.state, registered.log ++ log, .ok line⟩

end Line

end Primer
