import Primer.Reading
import Primer.Text.Escaped

/-!
# Commands

What is typed at the console is a command if it begins with a colon, and otherwise a line of a
program.  A command is one of a few words, behind which only spaces and tabs may stand; loading
takes the rest of the line as a path.

## Main definitions

* `Primer.Command` — a command.
* `Primer.Command.keywords` — the commands that are single words.
* `Primer.Command.forms` — the forms of a command, tried in turn.
* `Primer.Command.read` — takes a command off the front of a text.
* `Primer.Command.parse` — reads a whole text as a command.
-/

set_option relaxedAutoImplicit false
set_option autoImplicit false

namespace Primer

/-- A command to the console. -/
inductive Command where
  /-- Shows the lines of the buffer. -/
  | list
  /-- Runs the lines of the buffer. -/
  | run
  /-- Shows the labels of the last run. -/
  | showLabels
  /-- Shows the variables of the last run. -/
  | showVars
  /-- Replaces the buffer by the lines of a file. -/
  | load (path : Text)
  /-- Empties the buffer. -/
  | clear
  /-- Leaves the console. -/
  | quit
  /-- Adds a line to the buffer. -/
  | append (line : Text)
deriving DecidableEq, Repr

namespace Command

/-- The commands that are single words, in the order in which they are tried. -/
def keywords : List (Text × Command) :=
  [(":list".toList, .list), (":run".toList, .run), (":labels".toList, .showLabels),
   (":vars".toList, .showVars), (":clear".toList, .clear), (":quit".toList, .quit)]

/-- Takes the word of a command, and the spacing behind it, off the front of a text. -/
def readKeyword (keyword : Text × Command) (t : Text) : Option (Command × Text) :=
  (keyword.1.isPrefixOf? t).map fun rest => (keyword.2, Text.skipSpacing rest)

/-- Reads a text as a command to load a file: the word, spacing, and the path to the end of the
text. -/
def readLoad (t : Text) : Option (Command × Text) :=
  match Reading.word ":load".toList t >>= Reading.spacing with
  | .ok path => some (.load (Text.trim path), [])
  | .error _ => none

/-- Reads a text as a line of a program; it must not begin with a colon. -/
def readLine (t : Text) : Option (Command × Text) :=
  if t.head? = some ':' then none else some (.append t, [])

/-- The forms that a command can have, in the order in which they are tried. -/
def forms : List (Text → Option (Command × Text)) :=
  keywords.map readKeyword ++ [readLoad, readLine]

/-- Takes a command off the front of a text.  A text of no form is refused as a whole: it cannot
be a line of a program, and it is none of the commands. -/
def read (t : Text) : Except (List Stop) (Command × Text) :=
  match forms.findSome? (· t) with
  | some found => .ok found
  | none => .error [⟨.exclusion, t⟩, ⟨.choice, t⟩]

/-- Reads a whole text as a command. -/
def parse (t : Text) : Except (Misread Command) Command := Reading.whole read t

/-- A command as it is shown in a report. -/
def describe : Command → Text
  | .list => "List".toList
  | .run => "Run".toList
  | .showLabels => "ShowLabels".toList
  | .showVars => "ShowVars".toList
  | .load path => "Load(".toList ++ Text.quoted path ++ [')']
  | .clear => "Clear".toList
  | .quit => "Quit".toList
  | .append line => "Append(".toList ++ Text.quoted line ++ [')']

end Command

end Primer
