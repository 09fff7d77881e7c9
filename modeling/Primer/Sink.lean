import Primer.IoError

/-!
# Outputs

An output takes texts in UTF-8.  It may have room for a limited number of bytes: then a write
that does not fit puts out what does and fails.

## Main definitions

* `Primer.Sink` — an output: the bytes that it has taken, and the room that is left.
* `Primer.Sink.write` — writes a text.
* `Primer.Sink.writeAll` — writes texts one after the other, up to the first failure.
-/

set_option relaxedAutoImplicit false
set_option autoImplicit false

namespace Primer

/-- An output: the bytes that it has taken, and the room that is left, if it is limited. -/
structure Sink where
  room : Option Nat := none
  written : List UInt8 := []
deriving DecidableEq, Repr

namespace Sink

/-- Writes a text, or as many of its bytes as there is room for. -/
def write (s : Sink) (t : Text) : Sink × Except IoError Unit :=
  match s.room with
  | none => ({ s with written := s.written ++ Text.bytes t }, .ok ())
  | some n =>
    let taken := (Text.bytes t).take n
    (⟨some (n - taken.length), s.written ++ taken⟩,
      if (Text.bytes t).length ≤ n then .ok () else .error .outputFull)

/-- Writes texts one after the other, up to the first failure. -/
def writeAll : Sink → List Text → Sink × Except IoError Unit
  | s, [] => (s, .ok ())
  | s, t :: ts =>
    match s.write t with
    | (s', .ok ()) => s'.writeAll ts
    | (s', .error e) => (s', .error e)

end Sink

end Primer
