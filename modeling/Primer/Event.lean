import Primer.IoError
import Primer.Statement

/-!
# Events

The interpreter tells what it does through a log of events.  An event is data; its level, where it
comes from, its message and its fields are read off it, and whether it is shown is decided by
whoever keeps the log.

## Main definitions

* `Primer.Event` — an event.
* `Primer.Event.level`, `Primer.Event.message`, `Primer.Event.fields`, `Primer.Event.target` — what
  a log shows of an event.
-/

set_option relaxedAutoImplicit false
set_option autoImplicit false

namespace Primer

/-- How much detail an event or a log has, from the least to the most. -/
inductive Level where
  | error
  | warn
  | info
  | debug
  | trace
deriving DecidableEq, Repr

namespace Level

/-- The rank of a level; more detail ranks higher. -/
def rank : Level → Nat
  | .error => 1
  | .warn => 2
  | .info => 3
  | .debug => 4
  | .trace => 5

/-- The name of a level. -/
def name : Level → Text
  | .error => "ERROR".toList
  | .warn => "WARN".toList
  | .info => "INFO".toList
  | .debug => "DEBUG".toList
  | .trace => "TRACE".toList

/-- All levels, from the least detail to the most. -/
def all : List Level := [.error, .warn, .info, .debug, .trace]

end Level

/-- Something that the interpreter did. -/
inductive Event where
  /-- A label was recorded for a line. -/
  | labelRegistered (label : Text) (line : Nat)
  /-- A text looked like a declaration and is none. -/
  | declarationRejected (e : Misread Declaration)
  /-- A program was loaded; the counts are its lines and all labels known after it. -/
  | programLoaded (lines labels : Nat)
  /-- A line is about to be executed. -/
  | execution (pc : Nat) (kind : Kind) (text : Text)
  /-- A run came to the end of its program. -/
  | programFinished (steps exit : Nat)
  /-- A line kept from an earlier conversation is badly escaped. -/
  | historyLineRejected (line : Text)
  /-- The console asks for a line, and its input is no terminal. -/
  | promptSkipped
  /-- The lines read by the console could not be kept for the next time. -/
  | historyUnsaved (e : IoError)
deriving DecidableEq, Repr

/-- The value of an event's field. -/
inductive Event.Field where
  | number (n : Nat)
  /-- A text that the log shows between quotes. -/
  | quoted (t : Text)
  /-- A text that the log shows as it is. -/
  | bare (t : Text)
deriving DecidableEq, Repr

namespace Event

/-- The level of an event. -/
def level : Event → Level
  | .historyLineRejected _ => .warn
  | .execution .. => .trace
  | _ => .debug

/-- The part of the interpreter that an event comes from. -/
def target : Event → Text
  | .labelRegistered .. | .declarationRejected _ => "silli::statement::registry".toList
  | .programLoaded .. => "silli::program".toList
  | .execution .. | .programFinished .. => "silli::machine".toList
  | .historyLineRejected _ | .promptSkipped => "rustyline".toList
  | .historyUnsaved _ => "silli::interpreter".toList

/-- What happened, in words. -/
def message : Event → Text
  | .labelRegistered .. => "registered label".toList
  | .declarationRejected e => e.message "declaration".toList Declaration.describe
  | .programLoaded .. => "program loaded".toList
  | .execution .. => "execute".toList
  | .programFinished .. => "program finished".toList
  | .historyLineRejected line => "bad escaped line: ".toList ++ line
  | .promptSkipped => "stdin is not a tty".toList
  | .historyUnsaved e => "could not save history: ".toList ++ e.message

/-- The particulars of an event, in the order in which they are shown. -/
def fields : Event → List (Text × Field)
  | .labelRegistered label line =>
    [("label".toList, .quoted label), ("line".toList, .number line)]
  | .declarationRejected _ => []
  | .programLoaded lines labels =>
    [("lines".toList, .number lines), ("labels".toList, .number labels)]
  | .execution pc kind text =>
    [("pc".toList, .number pc), ("kind".toList, .quoted kind.name), ("text".toList, .bare text)]
  | .programFinished steps exit =>
    [("steps".toList, .number steps), ("exit".toList, .number exit)]
  | .historyLineRejected _ | .promptSkipped | .historyUnsaved _ => []

/-- The value of a field as the log shows it. -/
def Field.text : Field → Text
  | .number n => Text.ofNat n
  | .quoted t => Text.quoted t
  | .bare t => t

end Event

end Primer
