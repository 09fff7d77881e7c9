import Primer.Text.Basic

/-!
# The options of the command line

Arguments are gone through from left to right.  Flags may be given in a long and in a short form,
short ones also joined behind one dash; all else names the program to run.  Asking for help or for
the version ends the walk, and so does the first argument that does not fit.

## Main definitions

* `Primer.CommandLine.Options` — what a program is to be run with.
* `Primer.CommandLine.Request` — what the arguments ask for.
* `Primer.CommandLine.UsageError` — why arguments do not fit.
* `Primer.CommandLine.parse` — what a list of arguments asks for.
-/

set_option relaxedAutoImplicit false
set_option autoImplicit false

namespace Primer

namespace CommandLine

/-- What the interpreter is started with. -/
structure Options where
  /-- Whether listing and tables are shown. -/
  debug : Bool := false
  /-- How often more logging was asked for. -/
  verbosity : Nat := 0
  /-- The file to run; without one the console is started. -/
  source : Option Text := none
deriving DecidableEq, Repr

/-- What the arguments ask for. -/
inductive Request where
  | help
  | version
  | start (options : Options)
deriving DecidableEq, Repr

namespace Request

/-- The file that a request is to run. -/
def path? : Request → Option Text
  | .start o => o.source
  | .help | .version => none

/-- The number of times that a request asks for more logging. -/
def verbosity : Request → Nat
  | .start o => o.verbosity
  | .help | .version => 0

end Request

/-- Why arguments do not fit. -/
inductive UsageError where
  /-- The argument is no flag, or it is one file too many. -/
  | unexpected (argument : Text)
  /-- The flag may be given only once. -/
  | repeated (flag : Text)
  /-- The name of the file is empty. -/
  | emptySource
deriving DecidableEq, Repr

/-- The report of arguments that do not fit. -/
def UsageError.message : UsageError → Text
  | .unexpected argument => "error: unexpected argument '".toList ++ argument ++ "' found".toList
  | .repeated flag =>
    "error: the argument '".toList ++ flag ++ "' cannot be used multiple times".toList
  | .emptySource => "error: a value is required for '[SOURCE]' but none was supplied".toList

/-- The flags. -/
inductive Flag where
  | debug
  | verbose
  | help
  | version
deriving DecidableEq, Repr

namespace Flag

/-- The flag with a long name. -/
def ofLong? (name : Text) : Option Flag :=
  [("--debug".toList, Flag.debug), ("--verbose".toList, .verbose), ("--help".toList, .help),
    ("--version".toList, .version)].lookup name

/-- The flag with a short name. -/
def ofShort? (c : Char) : Option Flag :=
  [('d', Flag.debug), ('v', .verbose), ('h', .help), ('V', .version)].lookup c

end Flag

/-- How far the walk through the arguments has come. -/
inductive Progress where
  /-- The options collected so far. -/
  | going (options : Options)
  /-- Nothing that follows matters any more. -/
  | done (request : Request)
deriving DecidableEq, Repr

/-- Takes a flag into account. -/
def raise (flag : Flag) (o : Options) : Except UsageError Progress :=
  match flag with
  | .debug =>
    if o.debug then .error (.repeated "--debug".toList)
    else .ok (.going { o with debug := true })
  | .verbose => .ok (.going { o with verbosity := o.verbosity + 1 })
  | .help => .ok (.done .help)
  | .version => .ok (.done .version)

/-- Takes short flags joined behind one dash into account. -/
def raiseAll : List Char → Options → Except UsageError Progress
  | [], o => .ok (.going o)
  | c :: cs, o =>
    match Flag.ofShort? c with
    | none => .error (.unexpected ['-', c])
    | some flag =>
      match raise flag o with
      | .ok (.going o') => raiseAll cs o'
      | finished => finished

/-- Takes the name of a file into account. -/
def setSource (name : Text) (o : Options) : Except UsageError Options :=
  if o.source.isSome then .error (.unexpected name)
  else if name = [] then .error .emptySource
  else .ok { o with source := some name }

/-- What arguments without flags ask for. -/
def parseSources (o : Options) : List Text → Except UsageError Request
  | [] => .ok (.start o)
  | name :: names =>
    match setSource name o with
    | .error e => .error e
    | .ok o' => parseSources o' names

/-- What arguments ask for, given the options collected before them.  Behind two dashes there are
no flags, and a single dash is the name of a file. -/
def parseFrom (o : Options) : List Text → Except UsageError Request
  | [] => .ok (.start o)
  | ['-', '-'] :: names => parseSources o names
  | argument :: arguments =>
    let progress :=
      match argument with
      | '-' :: '-' :: _ =>
        match Flag.ofLong? argument with
        | some flag => raise flag o
        | none => .error (.unexpected argument)
      | '-' :: c :: cs => raiseAll (c :: cs) o
      | name => (setSource name o).map .going
    match progress with
    | .error e => .error e
    | .ok (.done request) => .ok request
    | .ok (.going o') => parseFrom o' arguments

/-- What a list of arguments asks for. -/
def parse (arguments : List Text) : Except UsageError Request := parseFrom {} arguments

end CommandLine

end Primer
