import Primer.Event
import Primer.Fault

/-!
# Outcomes

## Main definitions

* `Primer.Outcome` — what a step of the interpreter leaves behind: a state, a log and a result.
-/

set_option relaxedAutoImplicit false
set_option autoImplicit false

namespace Primer

/-- What a step of the interpreter leaves behind.  State and log are there also when the step
ends in a fault: what was done before the fault is not undone. -/
structure Outcome (σ α : Type) where
  state : σ
  log : List Event
  result : Except Fault α

end Primer
