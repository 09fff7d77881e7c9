import Primer.CommandLine.Log
import Primer.CommandLine.Options
import Primer.Console
import Primer.History

/-!
# Running from the command line

With a file the interpreter runs its program and, if asked to, shows listing and tables around the
run.  Without one it takes up the history of the conversation before and holds a conversation at
the console over its standard input, whose lines keep their endings.  Logs and faults go to
standard error.

What reading and writing files gives, and what the log shows of an event, is not decided here.  A
run takes all of it from its `Launch`.

## Main definitions

* `Primer.CommandLine.runFile` — runs a program from a file, given what reading the file gave.
* `Primer.CommandLine.respond` — answers a request, unless it starts the console.
* `Primer.CommandLine.inputs` — what the console hears when bytes are its input.
* `Primer.CommandLine.Launch` — all that a run depends on.
* `Primer.CommandLine.run` — a whole run: exit code, standard output and standard error.
-/

set_option relaxedAutoImplicit false
set_option autoImplicit false

namespace Primer

namespace CommandLine

/-- What a run of a program puts out: texts, a log, and the report of a failure. -/
structure Transcript where
  output : Text
  log : List Event
  failure : Option Text

/-- What is shown before a program runs. -/
def preamble (path : Text) (p : Program) (labels : Labels) : Text :=
  "\nInterpreting Program: ".toList ++ path ++ "\n\nProgram Source Code:\n".toList ++
    p.listing.flatten ++
    (if labels.isEmpty then [] else "\nLine Labels:\n\n".toList ++ (Labels.table labels).flatten) ++
    "\nOutput from Program Execution:\n\n".toList

/-- What is shown after a program has run. -/
def epilogue (b : Bindings) : Text :=
  "\nFinal Variable Map:\n\n".toList ++ (Bindings.table b).flatten

/-- Runs a program from the source text of a file. -/
def runSource (path : Text) (debug : Bool) (source : Text) : Transcript :=
  let loaded := Session.load {} source
  match loaded.result with
  | .error fault => ⟨[], loaded.log, some fault.message⟩
  | .ok p =>
    let executed := loaded.state.execute p
    let before := if debug then preamble path p loaded.state.labels else []
    let after := if debug then epilogue executed.state.bindings else []
    match executed.result with
    | .error fault => ⟨before, loaded.log ++ executed.log, some fault.message⟩
    | .ok () => ⟨before ++ after, loaded.log ++ executed.log, none⟩

/-- Runs a program from a file, given what reading the file gave. -/
def runFile (path : Text) (debug : Bool) (content : Except IoError Text) : Transcript :=
  match content with
  | .error e => ⟨[], [], some ("Error: ".toList ++ path ++ ": ".toList ++ e.message)⟩
  | .ok source => runSource path debug source

/-! ## The console -/

/-- A line of bytes as the console hears it. -/
def inputOf (line : List UInt8) : Console.Input :=
  match Text.ofBytes? line with
  | some t => .line t
  | none => .garbled

/-- What the console hears when bytes are its input. -/
def inputs (bytes : List UInt8) : List Console.Input := (Text.byteLines bytes).map inputOf

/-- The file in which the lines typed at the console are kept. -/
def historyPath : Text := "history.txt".toList

/-- What the console says first, given what reading the history gave: that there is none, unless
all of it is text. -/
def greeting (history : Except IoError (List UInt8)) : Text :=
  match IoError.text history with
  | .ok _ => []
  | .error _ => "No previous history.\n".toList

/-- What is logged first, given what reading the history gave. -/
def historyLog : Except IoError (List UInt8) → List Event
  | .ok bytes => (History.badLines bytes).map .historyLineRejected
  | .error _ => []

/-- What is logged last, given what writing the history gave, which matters only if there is a line
to keep. -/
def keepHistory (written : Except IoError Unit) (heard : List Console.Input) : List Event :=
  match heard, written with
  | .line _ :: _, .error e => [.historyUnsaved e]
  | _, _ => []

/-! ## Whole runs -/

/-- All that a run depends on. -/
structure Launch where
  arguments : List Text := []
  /-- What the log shows, by the number of times that more was asked for. -/
  log : Nat → LogWriter
  /-- What reading the file with a given path gives. -/
  read : Text → Except IoError (List UInt8)
  /-- What writing the history gives. -/
  written : Except IoError Unit := .ok ()
  stdin : List UInt8 := []

/-- What a run leaves. -/
structure Exit where
  code : Nat
  stdout : List UInt8
  stderr : List UInt8
deriving DecidableEq, Repr

/-- The help text. -/
def helpText : Text :=
  ("Interpreter for the SILLI teaching language\n\nUsage: silli [OPTIONS] [SOURCE]\n\n" ++
    "Arguments:\n  [SOURCE]  Program to run; starts an interactive session when omitted\n\n" ++
    "Options:\n  -d, --debug       Print the program listing and label table before running " ++
    "and the variable table afterwards\n" ++
    "  -v, --verbose...  Log more (-v debug, -vv trace); RUST_LOG takes precedence\n" ++
    "  -h, --help        Print help\n  -V, --version     Print version\n").toList

/-- The version text. -/
def versionText : Text := "silli 0.1.0\n".toList

/-- Answers a request, given what reading the file with a given path gives.  There is no answer if
the console is to be started. -/
def respond (content : Text → Except IoError Text) : Request → Option Transcript
  | .help => some ⟨helpText, [], none⟩
  | .version => some ⟨versionText, [], none⟩
  | .start o => o.source.map fun path => runFile path o.debug (content path)

/-- The exit of a transcript, its log kept by a log writer. -/
def Transcript.exit (t : Transcript) (w : LogWriter) : Exit :=
  match t.failure with
  | none => ⟨0, Text.bytes t.output, w.log t.log⟩
  | some report => ⟨1, Text.bytes t.output, w.log t.log ++ Text.bytes (report ++ ['\n'])⟩

/-- The exit of a conversation at the console. -/
def converse (l : Launch) (w : LogWriter) : Exit :=
  let heard := inputs l.stdin
  let history := l.read historyPath
  let (output, log) := Console.converse (fun path => IoError.text (l.read path)) {} heard
  ⟨0, Text.bytes (greeting history) ++ output,
    w.log (historyLog history ++ log ++ keepHistory l.written heard)⟩

/-- A whole run. -/
def run (l : Launch) : Except UsageError Exit :=
  match parse l.arguments with
  | .error e => .error e
  | .ok request =>
    let w := l.log request.verbosity
    match respond (fun path => IoError.text (l.read path)) request with
    | some t => .ok (t.exit w)
    | none => .ok (converse l w)

end CommandLine

end Primer
