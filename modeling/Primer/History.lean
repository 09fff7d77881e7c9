import Primer.Text.Basic

/-!
# The history

The lines typed at the console are kept in a file for the next conversation.  A history is written
in its second format: it begins with a mark, and in its lines a newline is escaped as `\n` and a
backslash as two.  A history of the first format, without the mark, has its lines as they are.

## Main definitions

* `Primer.History.escape`, `Primer.History.unescape?` — a line as it is kept, and the line that a
  kept one stands for.
* `Primer.History.readable` — the lines of a file that can be read.
* `Primer.History.badLines` — the badly escaped ones among them.
* `Primer.History.kept` — the history that a file holds.
* `Primer.History.add` — a history with one line more.
* `Primer.History.text` — a history as it is written.

## Main results

* `Primer.History.unescape?_escape` — an escaped line can be read back.
-/

set_option relaxedAutoImplicit false
set_option autoImplicit false

namespace Primer

namespace History

/-! ## Escapes -/

/-- A line as it is kept. -/
def escape : Text → Text
  | [] => []
  | c :: t =>
    if c = '\\' then '\\' :: '\\' :: escape t
    else if c = '\n' then '\\' :: 'n' :: escape t
    else c :: escape t

/-- The line that a kept one stands for, unless a backslash begins neither escape. -/
def unescape? : Text → Option Text
  | [] => some []
  | '\\' :: 'n' :: t => (unescape? t).map ('\n' :: ·)
  | '\\' :: '\\' :: t => (unescape? t).map ('\\' :: ·)
  | '\\' :: _ => none
  | c :: t => (unescape? t).map (c :: ·)

/-- An escaped line can be read back. -/
theorem unescape?_escape (t : Text) : unescape? (escape t) = some t := by
  induction t with
  | nil => rfl
  | cons c t ih =>
    by_cases hb : c = '\\'
    · simp [escape, unescape?, hb, ih]
    · by_cases hn : c = '\n' <;> simp [escape, unescape?, hb, hn, ih]

/-! ## Reading -/

/-- The first line of a history of the second format. -/
def mark : Text := "#V2".toList

/-- The texts that lines of bytes spell, up to the first that spells none. -/
def leading : List (List UInt8) → List Text
  | [] => []
  | l :: ls =>
    match Text.ofBytes? l with
    | some t => t :: leading ls
    | none => []

/-- The lines of a file that can be read: those before the first that is no text. -/
def readable (bytes : List UInt8) : List Text :=
  Text.lines (leading (Text.byteLines bytes)).flatten

/-- The badly escaped lines of a file.  Only the second format has any. -/
def badLines (bytes : List UInt8) : List Text :=
  match readable bytes with
  | [] => []
  | first :: rest => if first = mark then rest.filter fun l => (unescape? l).isNone else []

/-! ## Keeping lines -/

/-- The greatest number of lines in a history. -/
def maxLines : Nat := 100

/-- A history with one line more.  An empty line and one that repeats the last are left out; the
oldest lines make room. -/
def add (history : List Text) (line : Text) : List Text :=
  if line = [] ∨ history.getLast? = some line then history
  else (history ++ [line]).drop (history.length + 1 - maxLines)

/-- The history that a file holds; a badly escaped line stands for itself. -/
def kept (bytes : List UInt8) : List Text :=
  match readable bytes with
  | [] => []
  | first :: rest =>
    if first = mark then (rest.map fun l => (unescape? l).getD l).foldl add []
    else (first :: rest).foldl add []

/-- A history as it is written. -/
def text (history : List Text) : Text :=
  (mark :: history.map escape).flatMap fun l => l ++ ['\n']

end History

end Primer
