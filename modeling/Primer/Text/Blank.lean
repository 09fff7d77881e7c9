import Primer.Text.Basic
import Primer.Text.Ranges

/-!
# Blank characters

Two classes of blanks matter.  The wide one, the Unicode property `White_Space`, is what trimming
removes and what ends a literal.  The narrow one, the plain space and the tab, is all that may
stand between the parts of a statement or a command.

## Main definitions

* `Primer.Text.isBlank` — the wide class; `Primer.Text.isSpacing` — the narrow one.
* `Primer.Text.trimStart`, `Primer.Text.trimEnd`, `Primer.Text.trim` — a text without its outer
  blanks.
* `Primer.Text.skipSpacing` — a text without its leading spaces and tabs.
-/

set_option relaxedAutoImplicit false
set_option autoImplicit false

namespace Primer

namespace Text

/-- The code points with the property `White_Space`. -/
def blank : Ranges :=
  [ (0x9, 0xD), (0x20, 0x20), (0x85, 0x85), (0xA0, 0xA0), (0x1680, 0x1680), (0x2000, 0x200A),
    (0x2028, 0x2029), (0x202F, 0x202F), (0x205F, 0x205F), (0x3000, 0x3000) ]

/-- Whether a character is blank, in the wide sense. -/
def isBlank (c : Char) : Bool := blank.contains c.toNat

/-- Whether a character is a plain space or a tab. -/
def isSpacing (c : Char) : Bool := c == ' ' || c == '\t'

/-- A text without its leading blanks. -/
def trimStart (t : Text) : Text := t.dropWhile isBlank

/-- A text without its trailing blanks. -/
def trimEnd (t : Text) : Text := (t.reverse.dropWhile isBlank).reverse

/-- A text without its outer blanks. -/
def trim (t : Text) : Text := trimEnd (trimStart t)

/-- A text without its leading spaces and tabs. -/
def skipSpacing (t : Text) : Text := t.dropWhile isSpacing

end Text

end Primer
