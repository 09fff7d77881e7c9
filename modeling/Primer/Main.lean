import Primer.CommandLine.Run

/-!
# The program

The command line at work: arguments, environment, files and the standard streams are handed to the
functions that decide what is put out.

## Main definitions

* `Primer.Main.readBytes`, `Primer.Main.readFile` — the bytes and the text of a file.
* `Primer.Main.converse` — a conversation at the console, turn by turn.
* `main` — the program.
-/

set_option relaxedAutoImplicit false
set_option autoImplicit false

namespace Primer

namespace Main

open CommandLine

/-- The number of a failure; some parts of the system give it with a minus sign. -/
def codeOf (code : UInt32) : Nat := code.toInt32.toInt.natAbs

/-- A failure of the system as the interpreter knows it. -/
def failureOf (e : IO.Error) : IoError :=
  match e with
  | .noFileOrDirectory .. => .notFound
  | .inappropriateType _ code _ => if codeOf code = 21 then .isDirectory else .notDirectory
  | .invalidArgument _ code details | .otherError code details =>
    if codeOf code = 36 then .nameTooLong else .other details.toList
  | e => .other (toString e).toList

/-- The bytes of a file. -/
def readBytes (path : Text) : IO (Except IoError (List UInt8)) := do
  if '\x00' ∈ path then return .error .nulInName
  try return .ok (← IO.FS.readBinFile (String.ofList path)).toList
  catch e => return .error (failureOf e)

/-- The text of a file. -/
def readFile (path : Text) : IO (Except IoError Text) :=
  return IoError.text (← readBytes path)

/-- Writes bytes to a stream. -/
def put (stream : IO.FS.Stream) (bytes : List UInt8) : IO Unit := do
  stream.write bytes.toByteArray
  stream.flush

/-- Writes what a log shows of events to standard error. -/
def putLog (w : LogWriter) (events : List Event) : IO Unit := do
  put (← IO.getStderr) (w.log events)

/-- Reads bytes up to the end of the line or of the input. -/
partial def readLine (stream : IO.FS.Stream) (line : ByteArray) : IO ByteArray := do
  let next ← stream.read 1
  if next.isEmpty then return line
  let line := line ++ next
  if next.toList = [10] then return line else readLine stream line

/-- What the console hears next. -/
def listen : IO Console.Input := do
  let line ← readLine (← IO.getStdin) .empty
  return if line.isEmpty then .finish else inputOf line.toList

/-- A conversation at the console, turn by turn; the result is the lines that were heard.  A file
is read before the turn that asks for it. -/
partial def converse (w : LogWriter) (c : Console) (heard : List Text) : IO (List Text) := do
  let input ← listen
  let heard := match input with
    | .line t => heard ++ [t]
    | _ => heard
  let content ← match input with
    | .line t =>
      match Command.parse t with
      | .ok (.load path) => readFile path
      | _ => pure (.error .notFound)
    | _ => pure (.error .notFound)
  let turn := c.hear (fun _ => content) input
  putLog w turn.log
  put (← IO.getStdout) turn.output
  if turn.ends then return heard else converse w turn.console heard

/-- Starts the console, and keeps the lines that were typed. -/
def runConsole (w : LogWriter) : IO Unit := do
  let history ← readBytes historyPath
  putLog w (historyLog history)
  put (← IO.getStdout) (Text.bytes (greeting history))
  let heard ← converse w {} []
  unless heard.isEmpty do
    let lines := heard.foldl History.add (history.toOption.elim [] History.kept)
    try IO.FS.writeFile (String.ofList historyPath) (String.ofList (History.text lines))
    catch e => putLog w [.historyUnsaved (failureOf e)]

/-- Writes what a finished run leaves, and gives its exit code. -/
def finish (e : Exit) : IO UInt32 := do
  put (← IO.getStdout) e.stdout
  put (← IO.getStderr) e.stderr
  return UInt32.ofNat e.code

end Main

end Primer

open Primer in
/-- Runs the interpreter from the command line.  A file is read before the request is answered. -/
def main (arguments : List String) : IO UInt32 := do
  match CommandLine.parse (arguments.map String.toList) with
  | .error e => Main.finish ⟨2, [], Text.bytes (e.message ++ ['\n'])⟩
  | .ok request =>
    let setting := (← IO.getEnv "RUST_LOG").map String.toList
    let w := CommandLine.LogWriter.plain (CommandLine.Filter.choose setting request.verbosity)
    let content ← match request.path? with
      | some path => Main.readFile path
      | none => pure (.error .notFound)
    match CommandLine.respond (fun _ => content) request with
    | some t => Main.finish (t.exit w)
    | none =>
      Main.runConsole w
      return 0
