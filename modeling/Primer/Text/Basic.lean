/-!
# Texts

Every text of the interpreter (a source, a line, a name, a message) is the list of its
characters, so that a scan is a recursion on the list and its laws are laws of lists.  Strings
appear only where texts enter or leave the program.

## Main definitions

* `Primer.Text` — a text, as the list of its characters.
* `Primer.Text.bytes`, `Primer.Text.ofBytes?` — a text in UTF-8, and the text that bytes spell.
* `Primer.Text.byteLines` — the lines of bytes that need not spell a text.
* `Primer.Text.size` — the number of bytes of a text in UTF-8.
* `Primer.Text.lines` — the lines of a source text.
* `Primer.Text.joinLines` — lines put together again, with a newline between any two.
* `Primer.Text.le` — the dictionary order by code point.
-/

set_option relaxedAutoImplicit false
set_option autoImplicit false

namespace Primer

/-- A text, as the list of its characters. -/
abbrev Text := List Char

namespace Text

/-! ## Bytes -/

/-- The UTF-8 bytes of a text. -/
def bytes (t : Text) : List UInt8 := t.flatMap String.utf8EncodeChar

/-- The text that the bytes spell in UTF-8, if they are well formed. -/
def ofBytes? (bs : List UInt8) : Option Text := (String.fromUTF8? bs.toByteArray).map String.toList

/-- The lines of bytes, each with the newline that ends it. -/
def byteLines : List UInt8 → List (List UInt8)
  | [] => []
  | b :: bs =>
    if b = 10 then [b] :: byteLines bs
    else
      match byteLines bs with
      | [] => [[b]]
      | l :: ls => (b :: l) :: ls

/-- The number of bytes of a text in UTF-8. -/
def size : Text → Nat
  | [] => 0
  | c :: t => c.utf8Size + size t

/-! ## Lines -/

/-- Puts a character in front of the first line; where there is none, it makes one. -/
def consFirst (c : Char) : List Text → List Text
  | [] => [[c]]
  | l :: ls => (c :: l) :: ls

/-- The lines of a text.  A newline ends a line, alone or behind one carriage return; what follows
the last newline is a line only if it is not empty. -/
def lines : Text → List Text
  | [] => []
  | '\r' :: '\n' :: t => [] :: lines t
  | '\n' :: t => [] :: lines t
  | c :: t => consFirst c (lines t)

/-- The lines with a newline between any two of them. -/
def joinLines (ls : List Text) : Text := ['\n'].intercalate ls

/-! ## Order -/

/-- Whether a text stands before another one, or equals it, in the dictionary order by code
point. -/
def le : Text → Text → Bool
  | [], _ => true
  | _ :: _, [] => false
  | a :: s, b :: t => decide (a.toNat < b.toNat) || (a == b && le s t)

end Text

end Primer
