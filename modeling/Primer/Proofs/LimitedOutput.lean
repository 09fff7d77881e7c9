import Primer.Proofs.ConsoleHistory
import Primer.Proofs.Loading

/-!
# Outputs that fail

An output with room for a limited number of bytes takes these and then fails.  What a command does
on such an output can be told from what it does on one without limit.  The texts that it prints are
the same, so that the bytes are those that fit, and the command fails if and only if not all of them
do.  The console does not notice the failure, with one exception: a run makes its session the last
one only after its variables were shown.

## Main definitions

* `Primer.Console.Plan` — what carrying out a command comes to, whatever the output.
* `Primer.Console.Plan.carryOut` — the reply of a plan on an output.

## Main results

* `Primer.Sink.writeAll_limited` — writing texts to an output with limited room.
* `Primer.Console.exists_plan` — every command has a plan, and only a run that succeeds has one in
  which the console depends on the output.
* `Primer.Console.execute_limited` — a command on an output with limited room.
-/

set_option relaxedAutoImplicit false
set_option autoImplicit false

namespace Primer

/-! ## Writing -/

/-- `writeAll texts` on an output with room for `n` bytes writes the first `n` bytes of `texts`, and
fails if and only if there are more.

**Proof sketch.** Induction on the texts.  The first one fits or it does not.  If it does, the rest
is written to an output with less room.  If it does not, nothing of the rest is written, and there
is no room for it either. -/
lemma Sink.writeAll_limited (n : Nat) (written : List UInt8) (texts : List Text) :
    (⟨some n, written⟩ : Sink).writeAll texts =
      (⟨some (n - (texts.flatMap Text.bytes).length),
          written ++ (texts.flatMap Text.bytes).take n⟩,
        if (texts.flatMap Text.bytes).length ≤ n then .ok () else .error .outputFull) := by
  induction texts generalizing n written with
  | nil => simp [writeAll]
  | cons t texts ih =>
    rw [List.flatMap_cons, List.length_append, List.take_append]
    generalize texts.flatMap Text.bytes = rest at ih ⊢
    by_cases hfits : (Text.bytes t).length ≤ n
    · have hiff : rest.length ≤ n - (Text.bytes t).length ↔
          (Text.bytes t).length + rest.length ≤ n := by omega
      simp [writeAll, write, hfits, List.take_of_length_le hfits, ih, hiff, Nat.sub_sub]
    · have hmore : n < (Text.bytes t).length + rest.length := by omega
      have hnone : n - (Text.bytes t).length = 0 := by omega
      have htaken : min n (Text.bytes t).length = n := by omega
      simp [writeAll, write, hfits, hnone, hmore, htaken, Nat.sub_eq_zero_of_le hmore.le]

namespace Console

/-! ## Plans -/

/-- What carrying out a command comes to, whatever the output is: the texts to be printed, the log,
and what console and result are if all texts can be printed.  If not, the console is
`interrupted`. -/
structure Plan where
  texts : List Text := []
  log : List Event := []
  finished : Console
  interrupted : Console := finished
  result : Except CommandError Flow := .ok .proceed

namespace Plan

/-- The bytes that a plan prints if there is room for them. -/
def full (p : Plan) : List UInt8 := p.texts.flatMap Text.bytes

/-- The reply that comes from a plan on an output. -/
def carryOut (p : Plan) (out : Sink) : Reply :=
  match out.writeAll p.texts with
  | (out', .ok ()) => ⟨p.finished, out', p.log, p.result⟩
  | (out', .error e) => ⟨p.interrupted, out', p.log, .error (.io e)⟩

/-- On an output without limit `p.carryOut` writes `p.full`, and finishes. -/
lemma carryOut_unlimited (p : Plan) (written : List UInt8) :
    p.carryOut ⟨none, written⟩ = ⟨p.finished, ⟨none, written ++ p.full⟩, p.log, p.result⟩ := by
  simp [carryOut, Sink.writeAll_unlimited, full]

/-- On an output with room for `p.full`, `p.carryOut` writes `p.full`, and finishes. -/
lemma carryOut_of_le (p : Plan) {n : Nat} (h : p.full.length ≤ n) (written : List UInt8) :
    p.carryOut ⟨some n, written⟩ =
      ⟨p.finished, ⟨some (n - p.full.length), written ++ p.full⟩, p.log, p.result⟩ := by
  unfold full at h
  simp only [carryOut, Sink.writeAll_limited, if_pos h, full, List.take_of_length_le h]

/-- On an output with room for less than `p.full`, `p.carryOut` writes what fits, and is
interrupted. -/
lemma carryOut_of_lt (p : Plan) {n : Nat} (h : n < p.full.length) (written : List UInt8) :
    p.carryOut ⟨some n, written⟩ =
      ⟨p.interrupted, ⟨some (n - p.full.length), written ++ p.full.take n⟩, p.log,
        .error (.io .outputFull)⟩ := by
  unfold full at h
  simp only [carryOut, Sink.writeAll_limited, if_neg (Nat.not_le.2 h), full]

end Plan

/-- A command runs the buffer, and there is no fault. -/
def RunsThrough (c : Console) (command : Command) : Prop :=
  command = .run ∧ ∃ p, (Session.run {} (Text.joinLines c.buffer)).result = .ok p

/-- A plan is one for a command: on every output the command is answered as the plan says.  If the
plan is interrupted, the console is the same as otherwise, except that a run without a fault leaves
the last session alone.  For want of room the plan itself fails only if reading a file does. -/
structure Plan.For (p : Plan) (read : Text → Except IoError Text) (c : Console)
    (command : Command) : Prop where
  reply : ∀ out, c.execute read command out = p.carryOut out
  interrupted : ¬ c.RunsThrough command → p.interrupted = p.finished
  interrupted_run : c.RunsThrough command → p.interrupted = { p.finished with last := c.last }
  result : p.result = .error (.io .outputFull) → ∃ path, read path = .error .outputFull

/-- A plan that answers as `command` does is one `For` this command, if the console does not depend
on the output and the command is no run without a fault. -/
lemma Plan.for_steady {p : Plan} {read : Text → Except IoError Text} {c : Console}
    {command : Command} (hreply : ∀ out, c.execute read command out = p.carryOut out)
    (hrun : ¬ c.RunsThrough command) (hsame : p.interrupted = p.finished)
    (hresult : p.result = .error (.io .outputFull) → ∃ path, read path = .error .outputFull) :
    p.For read c command :=
  ⟨hreply, fun _ => hsame, fun h => absurd h hrun, hresult⟩

/-- **Every command has a plan**: some `p : Plan` is one `For` the command.

**Proof sketch.** One case for each command.  All of them but a run without a fault change the
console before they print anything, or not at all. -/
lemma exists_plan (read : Text → Except IoError Text) (c : Console) (command : Command) :
    ∃ p : Plan, p.For read c command := by
  have hother : command ≠ .run → ¬ c.RunsThrough command := fun hne h => hne h.1
  cases command with
  | append line =>
    exact ⟨{ finished := { c with buffer := c.buffer ++ [line] } },
      Plan.for_steady (fun _ => rfl) (hother (by simp)) rfl (by simp)⟩
  | list =>
    exact ⟨{ texts := c.listing, finished := c },
      Plan.for_steady (fun _ => rfl) (hother (by simp)) rfl (by simp)⟩
  | run =>
    cases hr : (Session.run {} (Text.joinLines c.buffer)).result with
    | ok p =>
      refine ⟨{ texts := Bindings.table (sessionOf c.buffer).bindings
                log := (Session.run {} (Text.joinLines c.buffer)).log
                finished := { c with last := some (sessionOf c.buffer) }
                interrupted := c },
        fun out => ?_, fun h => absurd ⟨rfl, p, hr⟩ h, fun _ => rfl, by simp⟩
      simp only [execute, run, hr]
      rfl
    | error fault =>
      refine ⟨{ log := (Session.run {} (Text.joinLines c.buffer)).log
                finished := { c with last := some (sessionOf c.buffer) }
                result := .error (.program fault) },
        Plan.for_steady (fun out => ?_) (by simp [RunsThrough, hr]) rfl (by simp)⟩
      simp only [execute, run, hr]
      rfl
  | showLabels | showVars =>
    exact ⟨{ texts := _, finished := c },
      Plan.for_steady (fun _ => rfl) (hother (by simp)) rfl (by simp)⟩
  | load path =>
    cases hr : read path with
    | error e =>
      refine ⟨{ finished := c, result := .error (.io e) },
        Plan.for_steady (fun out => congrArg (c.load path · out) hr) (hother (by simp)) rfl ?_⟩
      rintro ⟨⟩
      exact ⟨path, hr⟩
    | ok source =>
      exact ⟨{ texts := _, finished := { buffer := Text.lines source } },
        Plan.for_steady (fun out => congrArg (c.load path · out) hr) (hother (by simp)) rfl
          (by simp)⟩
  | clear =>
    exact ⟨{ finished := {} }, Plan.for_steady (fun _ => rfl) (hother (by simp)) rfl (by simp)⟩
  | quit =>
    exact ⟨{ finished := c, result := .ok .quit },
      Plan.for_steady (fun _ => rfl) (hother (by simp)) rfl (by simp)⟩

/-- **A command on an output with limited room.**  It puts out what fits of the bytes that it puts
out without limit.  It fails for want of room if and only if not all of them fit (reading a file
does not fail in this way), and otherwise has the same result as without limit.  The console is the
same as without limit, except that a run without a fault whose table does not fit leaves the last
session as it was before.

**Proof sketch.** All replies to the command come from one plan (`exists_plan`), and a plan is
carried out in one of two ways (`Plan.carryOut_of_le`, `Plan.carryOut_of_lt`). -/
theorem execute_limited (read : Text → Except IoError Text) (c : Console) (command : Command)
    (n : Nat) (written : List UInt8) :
    let free := c.execute read command {}
    let full := free.sink.written
    let r := c.execute read command ⟨some n, written⟩
    r.sink = ⟨some (n - full.length), written ++ full.take (min n full.length)⟩ ∧
    (n < full.length → r.result = .error (.io .outputFull)) ∧
    (full.length ≤ n → r.result = free.result) ∧
    ((∀ path, read path ≠ .error .outputFull) →
      (r.result = .error (.io .outputFull) ↔ n < full.length)) ∧
    (c.RunsThrough command → n < full.length →
      r.console = { free.console with last := c.last }) ∧
    (¬ (c.RunsThrough command ∧ n < full.length) → r.console = free.console) ∧
    r.log = free.log := by
  obtain ⟨p, hp⟩ := exists_plan read c command
  have hfree : c.execute read command {} = ⟨p.finished, ⟨none, p.full⟩, p.log, p.result⟩ :=
    (hp.reply {}).trans (p.carryOut_unlimited [])
  simp only [hfree, hp.reply ⟨some n, written⟩]
  rcases Nat.lt_or_ge n p.full.length with h | h
  · rw [p.carryOut_of_lt h, Nat.min_eq_left h.le]
    exact ⟨rfl, fun _ => rfl, fun hle => absurd h hle.not_gt, fun _ => ⟨fun _ => h, fun _ => rfl⟩,
      fun hrun _ => hp.interrupted_run hrun, fun hnot => hp.interrupted fun hrun => hnot ⟨hrun, h⟩,
      rfl⟩
  · have hnot : ¬ n < p.full.length := h.not_gt
    rw [p.carryOut_of_le h, Nat.min_eq_right h, List.take_length]
    refine ⟨rfl, fun hlt => absurd hlt hnot, fun _ => rfl, fun hread => ⟨fun hfull => ?_, fun hlt =>
      absurd hlt hnot⟩, fun _ hlt => absurd hlt hnot, fun _ => rfl, rfl⟩
    obtain ⟨path, hpath⟩ := hp.result hfull
    exact absurd hpath (hread path)

/-- A console with a program in its buffer, and the session of an earlier run. -/
def rerun : Console where
  buffer := ["let a = 5".toList]
  last := some { bindings := ⟨[("B".toList, 7)]⟩ }

/-- The table of the variables is cut in its second line, and the earlier session stays. -/
theorem execute_limited_cut :
    let r := rerun.execute (fun _ => .error .notFound) .run ⟨some 12, []⟩
    r.sink.written = Text.bytes "Var\tValue\n--".toList ∧
    r.result = .error (.io .outputFull) ∧ r.console = rerun := by
  have hfull : (rerun.execute (fun _ => .error .notFound) .run {}).sink.written =
      Text.bytes "Var\tValue\n---------------\nA\t5\n".toList := by decide +kernel
  have hrun : rerun.RunsThrough .run :=
    ⟨rfl, Program.faultOf_eq_none_iff.1 (by decide +kernel)⟩
  obtain ⟨hsink, -, -, hresult, hconsole, -⟩ :=
    execute_limited (fun _ => .error .notFound) rerun .run 12 []
  rw [hfull] at hsink hresult hconsole
  refine ⟨?_, (hresult fun _ => by simp).2 (by decide),
    (hconsole hrun (by decide)).trans (by decide +kernel)⟩
  rw [hsink]
  decide

end Console

end Primer
