import Primer.Text.Basic

/-!
# Failures of input and output

## Main definitions

* `Primer.IoError` — why a file could not be read, or an output not be written.
* `Primer.IoError.message` — the failure in the words of the system.
* `Primer.IoError.text` — what reading gave, as text.
-/

set_option relaxedAutoImplicit false
set_option autoImplicit false

namespace Primer

/-- Why a file could not be read, or an output not be written. -/
inductive IoError where
  /-- The path leads nowhere. -/
  | notFound
  /-- The path goes on behind something that is no directory. -/
  | notDirectory
  /-- The path leads to a directory. -/
  | isDirectory
  /-- The path, or a part of it, is too long. -/
  | nameTooLong
  /-- The path holds the character NUL. -/
  | nulInName
  /-- The bytes are not well-formed UTF-8. -/
  | invalidText
  /-- The output takes no more bytes. -/
  | outputFull
  /-- Any other failure, as the system words it. -/
  | other (text : Text)
deriving DecidableEq, Repr

/-- A failure in the words of the system. -/
def IoError.message : IoError → Text
  | .notFound => "No such file or directory (os error 2)".toList
  | .notDirectory => "Not a directory (os error 20)".toList
  | .isDirectory => "Is a directory (os error 21)".toList
  | .nameTooLong => "File name too long (os error 36)".toList
  | .nulInName => "file name contained an unexpected NUL byte".toList
  | .invalidText => "stream did not contain valid UTF-8".toList
  | .outputFull => "output is full".toList
  | .other text => text

/-- What reading bytes gave, as text. -/
def IoError.text (content : Except IoError (List UInt8)) : Except IoError Text :=
  match content with
  | .error e => .error e
  | .ok bytes =>
    match Text.ofBytes? bytes with
    | some text => .ok text
    | none => .error .invalidText

end Primer
