import Mathlib.Data.List.DropRight
import Mathlib.Data.List.Induction
import Mathlib.Tactic.Lemma
import Primer.Console

/-!
# The console after a history

What happens at the console is a history of steps: commands given and lines typed, the latter
perhaps no commands at all.  On an output that takes everything, the state of the console can be
told from the history without going through it.  The buffer holds the lines that the last *reset*
put there (a file loaded, or the buffer cleared) and the lines appended since; the last session is a
fresh run of the buffer as it was at the last run since then.

## Main definitions

* `Primer.Console.Step` — a step; `Primer.Console.Step.reply` — what it leaves behind.
* `Primer.Console.Step.fresh?`, `Primer.Console.Step.line?`, `Primer.Console.Step.isRun` — what a
  step can do to the console.
* `Primer.Console.perform` — the console and the output after a history.
* `Primer.Console.buffered` — the buffer, told from the history.
* `Primer.Console.ranOn` — the lines of the last run, told from the history.

## Main results

* `Primer.Console.Step.reply_console` — what one step does.
* `Primer.Console.perform_eq` — what a whole history does.
* `Primer.Console.console_after_history` — the state and the answers of the console, told from the
  history.
-/

set_option relaxedAutoImplicit false
set_option autoImplicit false

namespace Primer

/-- `writeAll texts` on an output without limit writes all of `texts`, and succeeds. -/
lemma Sink.writeAll_unlimited (written : List UInt8) (texts : List Text) :
    (⟨none, written⟩ : Sink).writeAll texts =
      (⟨none, written ++ texts.flatMap Text.bytes⟩, .ok ()) := by
  induction texts generalizing written with
  | nil => simp [Sink.writeAll]
  | cons t texts ih => simp [Sink.writeAll, Sink.write, ih]

namespace Console

/-- `print` on an output without limit writes all of `texts`, and leaves the console `after`. -/
lemma print_unlimited (before after : Console) (log : List Event) (texts : List Text)
    (written : List UInt8) :
    print before after log texts ⟨none, written⟩ =
      ⟨after, ⟨none, written ++ texts.flatMap Text.bytes⟩, log, .ok .proceed⟩ := by
  simp [print, Sink.writeAll_unlimited]

/-! ## Steps -/

/-- Something that happens at the console, with the files as they are at that time. -/
inductive Step where
  /-- A command is given. -/
  | given (read : Text → Except IoError Text) (command : Command)
  /-- A line is typed. -/
  | typed (read : Text → Except IoError Text) (line : Text)

namespace Step

/-- What a step leaves behind. -/
def reply (s : Step) (c : Console) (out : Sink) : Reply :=
  match s with
  | .given read command => c.execute read command out
  | .typed read line => c.obey read line out

/-- What a file holds at the time of a step. -/
def content (s : Step) (path : Text) : Except IoError Text :=
  match s with
  | .given read _ => read path
  | .typed read _ => read path

/-- The command of a step; a typed line that cannot be read has none. -/
def command? : Step → Option Command
  | .given _ command => some command
  | .typed _ line => (Command.parse line).toOption

/-- The lines that a step puts in the place of the buffer: those of a file that it loads
successfully, and none at all if it clears the buffer. -/
def fresh? (s : Step) : Option (List Text) :=
  match s.command? with
  | some .clear => some []
  | some (.load path) => (s.content path).toOption.map Text.lines
  | _ => none

/-- The line that a step appends to the buffer. -/
def line? (s : Step) : Option Text :=
  match s.command? with
  | some (.append line) => some line
  | _ => none

/-- Whether a step runs the buffer. -/
def isRun (s : Step) : Bool := s.command? = some .run

/-- Whether a step is one of those that leave the console alone: a line that cannot be read, a
command that only shows something or quits, and a file that cannot be loaded. -/
def isIdle (s : Step) : Bool :=
  match s.command? with
  | none | some .list | some .showLabels | some .showVars | some .quit => true
  | some (.load path) => (s.content path).toOption.isNone
  | _ => false

end Step

/-- The session that a run of lines of its own leaves. -/
def sessionOf (lines : List Text) : Session := (Session.run {} (Text.joinLines lines)).state

/-- What a step does to the console: it puts fresh lines in the place of the buffer and forgets the
last session, or it may append a line, and a run makes its session the last one. -/
def effect (s : Step) (c : Console) : Console :=
  match s.fresh? with
  | some lines => { buffer := lines }
  | none =>
    { buffer := c.buffer ++ s.line?.toList
      last := if s.isRun then some (sessionOf c.buffer) else c.last }

/-- On an output without limit `c.execute read command` leaves the console that `effect` tells, and
the output stays without limit.

**Proof sketch.** One case for each command.  Those that show something leave the console as it is;
a run leaves its session whether it succeeds or not; a file that cannot be read changes nothing. -/
lemma execute_unlimited (read : Text → Except IoError Text) (c : Console) (command : Command)
    (written : List UInt8) :
    (c.execute read command ⟨none, written⟩).console = effect (.given read command) c ∧
      (c.execute read command ⟨none, written⟩).sink.room = none := by
  cases command with
  | run =>
    rw [execute, run]
    cases hr : (Session.run {} (Text.joinLines c.buffer)).result <;>
      simp [print_unlimited, effect, Step.fresh?, Step.line?, Step.isRun, Step.command?, sessionOf]
  | load path =>
    cases hr : read path <;>
      simp [execute, load, hr, print_unlimited, effect, Step.fresh?, Step.line?, Step.isRun,
        Step.command?, Step.content, Except.toOption]
  | _ =>
    simp [execute, showLast, print_unlimited, effect, Step.fresh?, Step.line?, Step.isRun,
      Step.command?]

section Reply

variable {s : Step} {command : Command}

/-- `s.reply` executes `s.command?`, if there is one. -/
lemma Step.reply_of_command? (h : s.command? = some command) (c : Console) (out : Sink) :
    s.reply c out = c.execute s.content command out := by
  cases s with
  | given read given =>
    obtain rfl : given = command := by simpa [command?] using h
    rfl
  | typed read line =>
    cases hp : Command.parse line with
    | error e => simp [command?, hp, Except.toOption] at h
    | ok typed =>
      obtain rfl : typed = command := by simpa [command?, hp, Except.toOption] using h
      simp only [reply, obey, hp]
      rfl

/-- `s.reply` leaves the console and the output as they are if `s.command? = none`, for a line that
cannot be read. -/
lemma Step.reply_of_unread (h : s.command? = none) (c : Console) (out : Sink) :
    (s.reply c out).console = c ∧ (s.reply c out).sink = out := by
  cases s with
  | given read given => simp [command?] at h
  | typed read line =>
    cases hp : Command.parse line with
    | error e => simp [reply, obey, hp]
    | ok typed => simp [command?, hp, Except.toOption] at h

/-- `effect s` is the effect of giving the command of `s`. -/
lemma effect_of_command? (h : s.command? = some command) (c : Console) :
    effect s c = effect (.given s.content command) c := by
  simp only [effect, Step.fresh?, Step.line?, Step.isRun, h]
  rfl

/-- `effect s c = c` if `s.command? = none`. -/
lemma effect_of_unread (h : s.command? = none) (c : Console) : effect s c = c := by
  simp [effect, Step.fresh?, Step.line?, Step.isRun, h]

end Reply

/-- On an output without limit `s.reply c` leaves the console `effect s c`, and the output stays
without limit. -/
lemma Step.reply_console (s : Step) (c : Console) {out : Sink} (hout : out.room = none) :
    (s.reply c out).console = effect s c ∧ (s.reply c out).sink.room = none := by
  obtain ⟨room, written⟩ := out
  obtain rfl : room = none := hout
  cases hc : s.command? with
  | some command =>
    rw [reply_of_command? hc, effect_of_command? hc]
    exact execute_unlimited s.content c command written
  | none =>
    obtain ⟨hconsole, hsink⟩ := reply_of_unread hc c ⟨none, written⟩
    rw [hconsole, hsink, effect_of_unread hc]
    exact ⟨rfl, rfl⟩

/-! ## Histories -/

/-- The console and the output after a history, which begins with a new console and an output
without limit. -/
def perform (h : List Step) : Console × Sink :=
  h.foldl (fun (c, out) s => ((s.reply c out).console, (s.reply c out).sink)) ({}, {})

/-- The lines that the last reset put in the buffer; at first there are none. -/
def base (h : List Step) : List Text := (h.reverse.findSome? Step.fresh?).getD []

/-- The steps since the last reset. -/
def sinceReset (h : List Step) : List Step := h.rtakeWhile fun s => s.fresh?.isNone

/-- The buffer after a history: the lines that the last reset put there, and those appended
since. -/
def buffered (h : List Step) : List Text := base h ++ (sinceReset h).filterMap Step.line?

/-- The steps since the last reset up to the last run among them. -/
def upToRun (h : List Step) : List Step := (sinceReset h).rdropWhile fun s => !s.isRun

/-- The lines that the last run since the last reset ran, if there was one. -/
def ranOn (h : List Step) : Option (List Text) :=
  if upToRun h = [] then none else some (base h ++ (upToRun h).filterMap Step.line?)

/-- A step with `s.isRun` has neither `s.fresh?` nor `s.line?`. -/
lemma Step.of_isRun {s : Step} (h : s.isRun = true) : s.fresh? = none ∧ s.line? = none := by
  have hc : s.command? = some .run := by simpa [isRun] using h
  simp [fresh?, line?, hc]

section Concat

variable {h : List Step} {s : Step}

/-- `buffered (h ++ [s])` are the lines of `s.fresh?`, if `s` is a reset. -/
lemma buffered_concat_reset {lines : List Text} (hs : s.fresh? = some lines) :
    buffered (h ++ [s]) = lines := by
  have hsince : sinceReset (h ++ [s]) = [] := List.rtakeWhile_concat_neg _ _ _ (by simp [hs])
  simp [buffered, base, hsince, hs]

/-- `ranOn (h ++ [s]) = none` if `s` is a reset. -/
lemma ranOn_concat_reset {lines : List Text} (hs : s.fresh? = some lines) :
    ranOn (h ++ [s]) = none := by
  have hsince : sinceReset (h ++ [s]) = [] := List.rtakeWhile_concat_neg _ _ _ (by simp [hs])
  simp [ranOn, upToRun, hsince]

/-- `sinceReset (h ++ [s])` is `sinceReset h` with `s` behind it, if `s` is no reset. -/
lemma sinceReset_concat (hs : s.fresh? = none) : sinceReset (h ++ [s]) = sinceReset h ++ [s] :=
  List.rtakeWhile_concat_pos _ _ _ (by simp [hs])

/-- `base (h ++ [s]) = base h` if `s` is no reset. -/
lemma base_concat (hs : s.fresh? = none) : base (h ++ [s]) = base h := by simp [base, hs]

/-- `buffered (h ++ [s])` is `buffered h` with the line of `s` behind it, if `s` is no reset and
appends one. -/
lemma buffered_concat (hs : s.fresh? = none) :
    buffered (h ++ [s]) = buffered h ++ s.line?.toList := by
  rw [buffered, base_concat hs, sinceReset_concat hs, List.filterMap_append, ← List.append_assoc,
    ← buffered]
  cases hl : s.line? <;> simp [hl]

/-- `ranOn (h ++ [s])` is `buffered h` if `s` is a run. -/
lemma ranOn_concat_run (hs : s.isRun = true) : ranOn (h ++ [s]) = some (buffered h) := by
  obtain ⟨hfresh, hline⟩ := Step.of_isRun hs
  have hup : upToRun (h ++ [s]) = sinceReset h ++ [s] := by
    rw [upToRun, sinceReset_concat hfresh]
    exact List.rdropWhile_concat_neg _ _ _ (by simp [hs])
  simp [ranOn, hup, base_concat hfresh, hline, buffered]

/-- `ranOn (h ++ [s]) = ranOn h` if `s` is neither a reset nor a run. -/
lemma ranOn_concat (hs : s.fresh? = none) (hrun : s.isRun = false) :
    ranOn (h ++ [s]) = ranOn h := by
  have hup : upToRun (h ++ [s]) = upToRun h := by
    rw [upToRun, sinceReset_concat hs]
    exact List.rdropWhile_concat_pos _ _ _ (by simp [hrun])
  rw [ranOn, ranOn, hup, base_concat hs]

end Concat

/-- `ranOn` is the buffer as it was at the last run, if there was no reset since.

**Proof sketch.** Induction on the steps behind that run, from the end: each of them leaves what was
run last. -/
lemma ranOn_of_run {before later : List Step} {s : Step} (hs : s.isRun = true)
    (hlater : ∀ t ∈ later, t.fresh? = none ∧ t.isRun = false) :
    ranOn (before ++ s :: later) = some (buffered before) := by
  induction later using List.reverseRecOn with
  | nil => exact ranOn_concat_run hs
  | append_singleton later t ih =>
    obtain ⟨hfresh, hrun⟩ := hlater t (by simp)
    rw [← List.cons_append, ← List.append_assoc, ranOn_concat hfresh hrun]
    exact ih fun u hu => hlater u (by simp [hu])

/-- `ranOn h = none` if and only if there is no run in `sinceReset h`. -/
lemma ranOn_eq_none_iff (h : List Step) :
    ranOn h = none ↔ ∀ s ∈ sinceReset h, s.isRun = false := by
  have hup : upToRun h = [] ↔ ∀ s ∈ sinceReset h, s.isRun = false := by
    simp [upToRun, List.rdropWhile_eq_nil_iff]
  rw [ranOn, ← hup]
  by_cases hnil : upToRun h = [] <;> simp [hnil]

/-- The output of `perform h` is without limit. -/
lemma perform_room (h : List Step) : (perform h).2.room = none := by
  induction h using List.reverseRecOn with
  | nil => rfl
  | append_singleton h s ih =>
    rw [perform, List.foldl_concat]
    exact (s.reply_console (perform h).1 ih).2

/-- `perform (h ++ [s])` leaves the console that `s` makes of the one that `perform h` leaves. -/
lemma perform_concat (h : List Step) (s : Step) :
    (perform (h ++ [s])).1 = effect s (perform h).1 := by
  rw [perform, List.foldl_concat]
  exact (s.reply_console (perform h).1 (perform_room h)).1

/-- `perform h` leaves the console with `buffered h` in its buffer, and with the session of a run of
`ranOn h` as the last one.

**Proof sketch.** Induction on the history from its end.  The last step has its effect on the
console (`perform_concat`), and `buffered` and `ranOn` change in the same way: a reset sets both, a
run sets what was run last to the buffer, and any other step can only append a line. -/
theorem perform_eq (h : List Step) :
    (perform h).1 = ⟨buffered h, (ranOn h).map sessionOf⟩ := by
  induction h using List.reverseRecOn with
  | nil => rfl
  | append_singleton h s ih =>
    rw [perform_concat, ih, effect]
    cases hfresh : s.fresh? with
    | some lines => simp [buffered_concat_reset hfresh, ranOn_concat_reset hfresh]
    | none =>
      cases hrun : s.isRun with
      | true => simp [buffered_concat hfresh, ranOn_concat_run hrun]
      | false => simp [buffered_concat hfresh, ranOn_concat hfresh hrun]

/-! ## Steps that do nothing -/

/-- `effect s c = c` if `s` is idle. -/
lemma effect_of_isIdle {s : Step} (hs : s.isIdle = true) (c : Console) : effect s c = c := by
  cases hc : s.command? with
  | none => exact effect_of_unread hc c
  | some command =>
    cases command <;>
      simp_all [effect, Step.isIdle, Step.fresh?, Step.line?, Step.isRun]

/-- `perform` leaves the same console for a history without its idle steps. -/
lemma perform_filter_isIdle (h : List Step) :
    (perform (h.filter fun s => !s.isIdle)).1 = (perform h).1 := by
  induction h using List.reverseRecOn with
  | nil => rfl
  | append_singleton h s ih =>
    rw [List.filter_append, perform_concat]
    cases hs : s.isIdle with
    | true => simp [hs, effect_of_isIdle hs, ih]
    | false => simp [hs, perform_concat, ih]

/-! ## Answers -/

/-- The texts that a table of the last run is shown with, given the lines of that run. -/
def shown (table : Session → List Text) : Option (List Text) → List Text
  | some lines => table (sessionOf lines)
  | none => ["No program has run yet.\n".toList]

/-- The texts that a run of lines of its own is answered with, and how it ends: with the variables,
or with the fault and no text at all. -/
def runAnswer (lines : List Text) : List Text × Except CommandError Flow :=
  match (Session.run {} (Text.joinLines lines)).result with
  | .ok _ => (Bindings.table (sessionOf lines).bindings, .ok .proceed)
  | .error fault => ([], .error (.program fault))

/-- Behind a history a command is answered with texts and a result. -/
def Answers (read : Text → Except IoError Text) (h : List Step) (command : Command)
    (answer : List Text × Except CommandError Flow) : Prop :=
  let r := (perform h).1.execute read command (perform h).2
  r.sink.written = (perform h).2.written ++ answer.1.flatMap Text.bytes ∧ r.result = answer.2

/-- The output of `perform h` has no limit, and holds what was written. -/
lemma perform_sink (h : List Step) : (perform h).2 = ⟨none, (perform h).2.written⟩ := by
  rw [← perform_room h]

/-- If the last session of `c` is that of a run of the lines `ran`, then `c.showLast table`, on an
output without limit, writes `shown table ran`. -/
lemma showLast_unlimited {c : Console} {ran : Option (List Text)}
    (hlast : c.last = ran.map sessionOf) (table : Session → List Text) (written : List UInt8) :
    c.showLast table ⟨none, written⟩ =
      ⟨c, ⟨none, written ++ (shown table ran).flatMap Text.bytes⟩, [], .ok .proceed⟩ := by
  rw [showLast, print_unlimited, hlast]
  cases ran <;> rfl

/-- A command that is executed as `showLast table` is answered with `shown table (ranOn h)` behind
the history `h`. -/
lemma answers_of_showLast {read : Text → Except IoError Text} (h : List Step) {command : Command}
    {table : Session → List Text}
    (hcommand : ∀ c out, execute read c command out = c.showLast table out) :
    Answers read h command (shown table (ranOn h), .ok .proceed) := by
  have hlast : (perform h).1.last = (ranOn h).map sessionOf := by rw [perform_eq]
  dsimp only [Answers]
  rw [hcommand, perform_sink, showLast_unlimited hlast]
  exact ⟨rfl, rfl⟩

/-- A run is answered with `runAnswer (buffered h)` behind the history `h`. -/
lemma answers_run (read : Text → Except IoError Text) (h : List Step) :
    Answers read h .run (runAnswer (buffered h)) := by
  have hbuffer : (perform h).1.buffer = buffered h := by rw [perform_eq]
  dsimp only [Answers, execute, run]
  rw [perform_sink, hbuffer, runAnswer, sessionOf]
  cases (Session.run {} (Text.joinLines (buffered h))).result with
  | ok u => simp [print_unlimited]
  | error fault => simp

/-- **The console after any history**, and what it answers.  The buffer holds what the last reset
put there and the lines appended since.  There is a last session if and only if there was a run
since the last reset, and it is what a fresh run of the buffer leaves, as the buffer was at the last
run.  Idle steps can be left out of the history.  The answers to the commands that show the last
session depend on the lines of that run only, and the answer to a run on the buffer only.

**Proof sketch.** The console is `⟨buffered h, (ranOn h).map sessionOf⟩` by `perform_eq`, and when
`ranOn h` is a run is said by `ranOn_eq_none_iff` and `ranOn_of_run`.  The answers depend on this
console only (`answers_of_showLast`, `answers_run`). -/
theorem console_after_history (h : List Step) :
    (perform h).1.buffer = base h ++ (sinceReset h).filterMap Step.line? ∧
    (perform h).1.last = (ranOn h).map sessionOf ∧
    ((perform h).1.last = none ↔ ∀ s ∈ sinceReset h, s.isRun = false) ∧
    (∀ before s later, h = before ++ s :: later → s.isRun = true →
      (∀ t ∈ later, t.fresh? = none ∧ t.isRun = false) →
        ranOn h = some (perform before).1.buffer) ∧
    (perform (h.filter fun s => !s.isIdle)).1 = (perform h).1 ∧
    ∀ read,
      Answers read h .showVars (shown (fun s => Bindings.table s.bindings) (ranOn h),
        .ok .proceed) ∧
      Answers read h .showLabels (shown (fun s => Labels.table s.labels) (ranOn h),
        .ok .proceed) ∧
      Answers read h .run (runAnswer (base h ++ (sinceReset h).filterMap Step.line?)) := by
  refine ⟨by rw [perform_eq, buffered], by rw [perform_eq], ?_, ?_, perform_filter_isIdle h,
    fun read => ⟨answers_of_showLast h fun _ _ => rfl, answers_of_showLast h fun _ _ => rfl,
      answers_run read h⟩⟩
  · rw [perform_eq, ← ranOn_eq_none_iff]
    exact Option.map_eq_none_iff
  · rintro before s later rfl hs hlater
    rw [ranOn_of_run hs hlater, perform_eq]

end Console

end Primer
