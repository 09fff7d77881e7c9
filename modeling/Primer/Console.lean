import Primer.Command
import Primer.Session
import Primer.Sink

/-!
# The console

At the console a program is put together line by line in a buffer, listed and run, and the
variables and labels of the last run are shown.  Every run starts a session of its own.

## Main definitions

* `Primer.Console` — the buffer and the session of the last run.
* `Primer.Console.execute` — carries out a command.
* `Primer.Console.obey` — carries out what was typed.
* `Primer.Console.answer` — the answer to what was heard, with the reply printed.
* `Primer.Console.hear` — one turn of a conversation.
* `Primer.Console.converse` — a whole conversation.
-/

set_option relaxedAutoImplicit false
set_option autoImplicit false

namespace Primer

/-- The lines put together so far, and the session of the last run. -/
structure Console where
  buffer : List Text := []
  last : Option Session := none
deriving DecidableEq, Repr

/-- Whether the conversation goes on. -/
inductive Flow where
  | proceed
  | quit
deriving DecidableEq, Repr

/-- Why a command was not carried out. -/
inductive CommandError where
  /-- The text is no command. -/
  | parse (e : Misread Command)
  /-- The program that was run has a fault. -/
  | program (f : Fault)
  /-- A file could not be read, or the output not be written. -/
  | io (e : IoError)
deriving DecidableEq, Repr

/-- The report of a command that was not carried out. -/
def CommandError.message : CommandError → Text
  | .parse e => "Parse error: ".toList ++ e.message "command".toList Command.describe
  | .program f => f.message
  | .io e => "I/O error: ".toList ++ e.message

/-- What a command leaves behind. -/
structure Reply where
  console : Console
  sink : Sink
  log : List Event
  result : Except CommandError Flow

namespace Console

/-! ## Commands -/

/-- Writes texts.  The console is `after` if they could all be written, and `before` if not. -/
def print (before after : Console) (log : List Event) (texts : List Text) (out : Sink) : Reply :=
  match out.writeAll texts with
  | (out', .ok ()) => ⟨after, out', log, .ok .proceed⟩
  | (out', .error e) => ⟨before, out', log, .error (.io e)⟩

/-- The lines of the buffer as they are listed: numbered from one and in upper case. -/
def listing (c : Console) : List Text :=
  (c.buffer.zipIdx 1).map fun l =>
    Text.ofNat l.2 ++ "\t| ".toList ++ Text.upper l.1 ++ ['\n']

/-- Runs the buffer in a session of its own.  The session becomes the last one after its variables
were shown, or at once if the run ends in a fault. -/
def run (c : Console) (out : Sink) : Reply :=
  let o := Session.run {} (Text.joinLines c.buffer)
  let after := { c with last := some o.state }
  match o.result with
  | .ok _ => print c after o.log (Bindings.table o.state.bindings) out
  | .error fault => ⟨after, out, o.log, .error (.program fault)⟩

/-- Shows a table of the last run. -/
def showLast (c : Console) (table : Session → List Text) (out : Sink) : Reply :=
  let texts := match c.last with
    | some s => table s
    | none => ["No program has run yet.\n".toList]
  print c c [] texts out

/-- Replaces the buffer by the lines of a file, given what reading the file gave. -/
def load (c : Console) (path : Text) (content : Except IoError Text) (out : Sink) : Reply :=
  match content with
  | .error e => ⟨c, out, [], .error (.io e)⟩
  | .ok source =>
    let c' : Console := { buffer := Text.lines source }
    print c' c' [] ["Loaded ".toList ++ Text.ofNat c'.buffer.length ++ " lines from ".toList ++
      path ++ ['\n']] out

/-- Carries out a command; `read` gives the content of a file. -/
def execute (read : Text → Except IoError Text) (c : Console) (command : Command) (out : Sink) :
    Reply :=
  match command with
  | .append line => ⟨{ c with buffer := c.buffer ++ [line] }, out, [], .ok .proceed⟩
  | .list => print c c [] c.listing out
  | .run => c.run out
  | .showLabels => c.showLast (fun s => Labels.table s.labels) out
  | .showVars => c.showLast (fun s => Bindings.table s.bindings) out
  | .load path => c.load path (read path) out
  | .clear => ⟨{}, out, [], .ok .proceed⟩
  | .quit => ⟨c, out, [], .ok .quit⟩

/-- Carries out what was typed. -/
def obey (read : Text → Except IoError Text) (c : Console) (line : Text) (out : Sink) : Reply :=
  match Command.parse line with
  | .ok command => c.execute read command out
  | .error e => ⟨c, out, [], .error (.parse e)⟩

/-! ## Conversations -/

/-- What the console may get to hear. -/
inductive Input where
  | line (t : Text)
  /-- Bytes that are no text. -/
  | garbled
  /-- The end of the input. -/
  | finish
deriving DecidableEq, Repr

/-- One turn of a conversation: what it leaves, what was put out and logged, and whether it was the
last one. -/
structure Turn where
  console : Console
  output : List UInt8
  log : List Event
  ends : Bool

/-- The answer to what was heard.  The report of a command that was not carried out is printed. -/
def answer (read : Text → Except IoError Text) (c : Console) : Input → Turn
  | .finish => ⟨c, Text.bytes "CTRL-D\n".toList, [], true⟩
  | .garbled =>
    ⟨c, Text.bytes ("Error: Io(Error \x7b kind: InvalidData, message: \"".toList ++
      IoError.message .invalidText ++ "\" \x7d)\n".toList), [], true⟩
  | .line t =>
    let r := c.obey read t {}
    match r.result with
    | .ok flow => ⟨r.console, r.sink.written, r.log, flow = .quit⟩
    | .error e => ⟨r.console, r.sink.written ++ Text.bytes (e.message ++ ['\n']), r.log, false⟩

/-- One turn of a conversation: a line is asked for without a prompt, and what is heard is
answered. -/
def hear (read : Text → Except IoError Text) (c : Console) (input : Input) : Turn :=
  let t := c.answer read input
  { t with log := .promptSkipped :: t.log }

/-- A conversation to its end: all that was put out, and the whole log. -/
def converse (read : Text → Except IoError Text) (c : Console) :
    List Input → List UInt8 × List Event
  | [] => let t := c.hear read .finish; (t.output, t.log)
  | input :: inputs =>
    let t := c.hear read input
    if t.ends then (t.output, t.log)
    else
      let rest := converse read t.console inputs
      (t.output ++ rest.1, t.log ++ rest.2)

end Console

end Primer
