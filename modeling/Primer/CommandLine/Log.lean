import Primer.Event

/-!
# Logs

The interpreter tells what it does by events.  What a log shows of them is up to a *log writer*: of
each event nothing, or bytes, which may depend on its place in the run too, as a time stamp does.

The program itself keeps a plain log, with one line for each event that a filter lets through.  The
filter is a list of directives for origins and levels.  The environment may hold a setting that
gives them; otherwise the number of flags that ask for more decides.

## Main definitions

* `Primer.CommandLine.LogWriter` — what a log shows of an event.
* `Primer.CommandLine.LogWriter.log` — what a log shows of the events of a run.
* `Primer.CommandLine.Filter` — which events a plain log shows.
* `Primer.CommandLine.Filter.parse?` — the filter that a setting asks for.
* `Primer.CommandLine.Filter.ofVerbosity` — the filter that flags ask for.
* `Primer.CommandLine.LogWriter.plain` — the plain log under a filter.
-/

set_option relaxedAutoImplicit false
set_option autoImplicit false

namespace Primer

namespace CommandLine

/-- What a log shows of an event, given the number of events before it. -/
structure LogWriter where
  shown : Nat → Event → List UInt8

/-- What a log shows of the events of a run, one after the other. -/
def LogWriter.log (w : LogWriter) (events : List Event) : List UInt8 :=
  events.zipIdx.flatMap fun e => w.shown e.2 e.1

/-! ## Filters -/

/-- A directive lets events through whose origin begins with `origin`, up to a rank. -/
structure Directive where
  origin : Text := []
  rank : Nat
deriving DecidableEq, Repr

namespace Directive

/-- The greatest rank that a level's name, in letters of either case, lets through. -/
def rank? (name : Text) : Option Nat :=
  let name := name.map Char.toUpper
  if name = "OFF".toList then some 0
  else (Level.all.find? fun l => l.name = name).map Level.rank

/-- The directive that a text asks for: a level, an origin, or both with an equals sign between
them. -/
def parse? (t : Text) : Option Directive :=
  match t.dropWhile (· != '=') with
  | [] => some ((rank? t).elim ⟨t, Level.rank .trace⟩ fun rank => ⟨[], rank⟩)
  | _ :: level => (rank? level).map fun rank => ⟨t.takeWhile (· != '='), rank⟩

end Directive

/-- Which events a log shows.  Of the directives for the origin of an event, the one with the
longest origin decides. -/
structure Filter where
  directives : List Directive
deriving DecidableEq, Repr

namespace Filter

/-- The filter that a setting asks for: directives with commas between them. -/
def parse? (setting : Text) : Option Filter :=
  (((setting.splitOnP (· == ',')).filter (· != [])).mapM Directive.parse?).map fun ds => ⟨ds⟩

/-- The filter for the number of times that more was asked for. -/
def ofVerbosity : Nat → Filter
  | 0 => ⟨[⟨[], Level.rank .warn⟩]⟩
  | 1 => ⟨[⟨[], Level.rank .debug⟩]⟩
  | _ => ⟨[⟨[], Level.rank .trace⟩]⟩

/-- The filter in force: the setting of the environment, if there is one that can be read, goes
before the flags. -/
def choose (setting : Option Text) (verbosity : Nat) : Filter :=
  (setting.bind parse?).getD (ofVerbosity verbosity)

/-- The directive that decides about an origin, if there is one. -/
def decisive? (f : Filter) (origin : Text) : Option Directive :=
  (f.directives.filter fun d => d.origin.isPrefixOf origin).foldl
    (fun best d => if best.any (d.origin.length < ·.origin.length) then best else some d) none

/-- Whether an event is shown. -/
def admits (f : Filter) (e : Event) : Bool :=
  (f.decisive? e.target).any fun d => e.level.rank ≤ d.rank

end Filter

/-! ## The plain log -/

/-- An event as a line of a plain log: level, origin, disarmed message and fields.  The levels are
aligned on the right. -/
def plainLine (e : Event) : Text :=
  List.replicate (5 - e.level.name.length) ' ' ++ e.level.name ++ [' '] ++ e.target ++
    ": ".toList ++ Text.disarmed e.message ++
    (e.fields.flatMap fun f => [' '] ++ f.1 ++ ['='] ++ f.2.text) ++ ['\n']

/-- The plain log under a filter. -/
def LogWriter.plain (f : Filter) : LogWriter where
  shown _ e := if f.admits e then Text.bytes (plainLine e) else []

end CommandLine

end Primer
