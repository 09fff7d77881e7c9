import Primer.Execution

/-!
# Line numbers as words

In store a line number is a word of 64 bits.  Executing a line leads on to the line with the next
word as its number, and behind the last word there is none.  What happens there is left open: the
program stops, or the words begin anew.  The next number is worked out last, so that a variable
which the line declares is bound by then.

## Main definitions

* `Primer.Overflow` — what comes behind the last word.
* `Primer.WordLine` — a line whose number is a word.
* `Primer.WordLine.execute` — executes such a line: the bindings after it, and how to go on.
-/

set_option relaxedAutoImplicit false
set_option autoImplicit false

namespace Primer

/-- What comes behind the last word. -/
inductive Overflow where
  /-- The program stops. -/
  | stops
  /-- The words begin anew from zero. -/
  | wraps
deriving DecidableEq, Repr

/-- The word behind `n`, unless the program stops. -/
def Overflow.next? : Overflow → UInt64 → Option UInt64
  | .stops, n => if n.toNat + 1 < UInt64.size then some (n + 1) else none
  | .wraps, n => some (n + 1)

/-- A line whose number is a word. -/
structure WordLine where
  number : UInt64
  raw : Text
  body : Text
  statement : Statement
deriving DecidableEq, Repr

/-- How to go on after a line. -/
inductive Advance where
  /-- With the line that has this number. -/
  | next (number : UInt64)
  /-- Not at all, since the line has a fault. -/
  | failed (fault : Fault)
  /-- Not at all, since the program stopped for want of a number. -/
  | stopped
deriving DecidableEq, Repr

namespace WordLine

/-- The line with its number as a natural number. -/
def toLine (l : WordLine) : Line := ⟨l.number.toNat, l.raw, l.body, l.statement⟩

/-- The line with its number as a word, which has to be small enough for that. -/
def ofLine (l : Line) : WordLine := ⟨UInt64.ofNat l.number, l.raw, l.body, l.statement⟩

/-- Executes a line: the bindings after it, and how to go on. -/
def execute (overflow : Overflow) (l : WordLine) (b : Bindings) : Bindings × Advance :=
  match l.toLine.perform b with
  | .error fault => (b, .failed fault)
  | .ok b' =>
    match overflow.next? l.number with
    | some next => (b', .next next)
    | none => (b', .stopped)

end WordLine

end Primer
