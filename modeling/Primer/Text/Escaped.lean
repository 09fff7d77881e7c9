import Primer.Text.Basic
import Primer.Text.Extender
import Primer.Text.Unprintable

/-!
# Escaped texts

Two ways to show a text whose characters cannot all be shown as they are.  Between double quotes
its ends and its invisible characters can be seen: quotes, backslashes and the commonest controls
are escaped by a letter, and what shows nothing of its own, or would join the quote before it, is
escaped by its code point.  A disarmed text has only those controls escaped by which it could take
command of a terminal.

## Main definitions

* `Primer.Text.escape` — a character as it stands between quotes.
* `Primer.Text.quoted` — a text between quotes.
* `Primer.Text.disarm` — a character without power over a terminal.
* `Primer.Text.disarmed` — a text without power over a terminal.
-/

set_option relaxedAutoImplicit false
set_option autoImplicit false

namespace Primer

namespace Text

/-- A character by its code point, in hexadecimal between braces. -/
def byCode (c : Char) : Text := ['\\', 'u', '\x7b'] ++ Nat.toDigits 16 c.toNat ++ ['\x7d']

/-! ## Quotes -/

/-- A character as it stands between quotes. -/
def escape (c : Char) : Text :=
  match c with
  | '"' => ['\\', '"']
  | '\\' => ['\\', '\\']
  | '\t' => ['\\', 't']
  | '\r' => ['\\', 'r']
  | '\n' => ['\\', 'n']
  | '\x00' => ['\\', '0']
  | c => if isExtender c || isUnprintable c then byCode c else [c]

/-- A text between double quotes. -/
def quoted (t : Text) : Text := ['"'] ++ t.flatMap escape ++ ['"']

/-! ## Terminals -/

/-- The controls of one byte by which a text commands a terminal: bell, backspace, form feed,
escape and delete. -/
def commanding : List Char := ['\x07', '\x08', '\x0c', '\x1b', '\x7f']

/-- A character without power over a terminal: a commanding control is shown by its byte, and one
of the second block of controls by its code point. -/
def disarm (c : Char) : Text :=
  if c ∈ commanding then
    ['\\', 'x', Nat.digitChar (c.toNat / 16), Nat.digitChar (c.toNat % 16)]
  else if 0x80 ≤ c.toNat ∧ c.toNat ≤ 0x9F then byCode c
  else [c]

/-- A text without power over a terminal. -/
def disarmed (t : Text) : Text := t.flatMap disarm

end Text

end Primer
