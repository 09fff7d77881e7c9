import Primer.Execution

/-!
# Sessions

A session holds the variables and the labels that programs run in it leave behind.  Both only
grow: a program that fails to load keeps the labels recorded before the failure, and one that
fails to run keeps the variables bound before it.

## Main definitions

* `Primer.Session` — the variables and the labels.
* `Primer.Session.load` — loads a program; `Primer.Session.execute` — runs a loaded program.
* `Primer.Session.run` — loads a program and runs it.
-/

set_option relaxedAutoImplicit false
set_option autoImplicit false

namespace Primer

/-- The variables and the labels that programs leave behind. -/
structure Session where
  bindings : Bindings := {}
  labels : Labels := {}
deriving DecidableEq, Repr

namespace Session

/-- Loads a program in a session. -/
def load (s : Session) (source : Text) : Outcome Session Program :=
  let loaded := Program.load source s.labels
  ⟨{ s with labels := loaded.state }, loaded.log, loaded.result⟩

/-- Runs a loaded program in a session. -/
def execute (s : Session) (p : Program) : Outcome Session Unit :=
  let run := p.run s.bindings
  ⟨{ s with bindings := run.state }, run.log, run.result⟩

/-- Loads a program and runs it; the result is the program. -/
def run (s : Session) (source : Text) : Outcome Session Program :=
  let loaded := s.load source
  match loaded.result with
  | .error fault => ⟨loaded.state, loaded.log, .error fault⟩
  | .ok p =>
    let executed := loaded.state.execute p
    ⟨executed.state, loaded.log ++ executed.log, executed.result.map fun _ => p⟩

end Session

end Primer
