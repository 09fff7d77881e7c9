import Mathlib.Data.List.Basic
import Primer.Proofs.CaseInsensitivity
import Primer.Proofs.EventLog
import Primer.Proofs.LimitedOutput

/-!
# Faults and listed lines

A listing numbers the lines of the buffer.  A run puts these lines together and cuts them again, and
its faults number the lines that come out of this.  A buffered line with newlines in it gives more
than one line to the run, so from there on the two numberings differ, and the difference is the
number of newlines in between.  Without newlines they agree; the text may still have lost a carriage
return at its end.

## Main definitions

* `Primer.Text.Row` — what stands in a text between two newlines that follow each other.
* `Primer.Console.after` — the console after a history on outputs of any size.
* `Primer.Console.Listed` — the buffered line that a listing shows under the number of a fault.

## Main results

* `Primer.Text.exists_row_of_lines` — the lines of a text are its rows.
* `Primer.Text.Row.exists_row_of_joinLines` — a row of texts put together is a row of one of them.
* `Primer.Console.buffer_after` — the buffer after a history, whatever the outputs take.
* `Primer.Session.lineAt_of_run` — a fault names a line of the source.
* `Primer.Console.run_fault_located` — where in the buffer the line of a fault comes from.
-/

set_option relaxedAutoImplicit false
set_option autoImplicit false

namespace Primer

namespace Text

/-! ## Rows -/

/-- `row` stands in the text `t` between `front` and `rest`, and reaches from one newline to the
next.  The beginning and the end of the text count as newlines here. -/
structure Row (t front row rest : Text) : Prop where
  text : t = front ++ (row ++ rest)
  front : front = [] ∨ front.getLast? = some '\n'
  row : '\n' ∉ row
  rest : rest = [] ∨ rest.head? = some '\n'

/-- `terminated` distributes over `++`. -/
lemma terminated_append (ls ls' : List Text) :
    terminated (ls ++ ls') = terminated ls ++ terminated ls' := List.flatMap_append

/-- `terminated ls` has one newline for each line of `ls`, apart from those in the lines
themselves. -/
lemma count_terminated (ls : List Text) :
    (terminated ls).count '\n' = ls.length + ls.flatten.count '\n' := by
  induction ls with
  | nil => rfl
  | cons l ls ih =>
    simp only [terminated_cons, List.count_append, List.count_cons_self, ih, List.length_cons,
      List.flatten_cons]
    omega

/-- `terminated ls` is empty, or it ends in a newline. -/
lemma terminated_eq_nil_or (ls : List Text) :
    terminated ls = [] ∨ (terminated ls).getLast? = some '\n' := by
  rcases List.eq_nil_or_concat' ls with rfl | ⟨ls, l, rfl⟩
  · exact .inl rfl
  · exact .inr (by simp [terminated])

/-- **The lines of a text are its rows.**  Line `n` of `lines t`, counted from zero, is a row of `t`
with `n` newlines before it, without the carriage return at its end if there is a newline behind it.

**Proof sketch.** The text is made of terminated lines and what stands behind the last newline.  The
line comes from one of the former, or it is the latter. -/
lemma exists_row_of_lines {t l : Text} {n : Nat} (h : (lines t)[n]? = some l) :
    ∃ front row rest, Row t front row rest ∧ front.count '\n' = n ∧
      l = if rest = [] then row else dropReturn row := by
  obtain ⟨ls, last, rfl, hls, hlast⟩ := exists_terminated_append t
  have hcount : ∀ k : Nat, k ≤ ls.length → (terminated (ls.take k)).count '\n' = k := by
    intro k hk
    have hnone : '\n' ∉ (ls.take k).flatten := by
      rw [List.mem_flatten]
      rintro ⟨l, hl, hmem⟩
      exact hls l (List.mem_of_mem_take hl) hmem
    rw [count_terminated, List.count_eq_zero.2 hnone, List.length_take_of_le hk, Nat.add_zero]
  rw [lines_terminated_append hls, lines_of_not_mem hlast] at h
  rcases Nat.lt_or_ge n ls.length with hn | hn
  · rw [List.getElem?_append_left (by simpa using hn), List.getElem?_map,
      List.getElem?_eq_getElem hn, Option.map_some, Option.some.injEq] at h
    refine ⟨terminated (ls.take n), ls[n], '\n' :: (terminated (ls.drop (n + 1)) ++ last),
      ⟨?_, terminated_eq_nil_or _, hls _ (List.getElem_mem hn), .inr rfl⟩, hcount n hn.le, ?_⟩
    · have hsplit : ls = ls.take n ++ ls[n] :: ls.drop (n + 1) := by simp
      calc terminated ls ++ last
        _ = terminated (ls.take n ++ ls[n] :: ls.drop (n + 1)) ++ last := by rw [← hsplit]
        _ = _ := by
          rw [terminated_append, terminated_cons]
          simp only [List.append_assoc, List.cons_append]
    · rw [if_neg (List.cons_ne_nil _ _), h]
  · rw [List.getElem?_append_right (by simpa using hn), List.length_map] at h
    split_ifs at h with hnil
    · simp at h
    · obtain ⟨hzero, rfl⟩ : n - ls.length = 0 ∧ last = l := by
        rcases Nat.eq_zero_or_pos (n - ls.length) with hzero | hpos
        · exact ⟨hzero, by simpa [hzero] using h⟩
        · rw [List.getElem?_eq_none hpos] at h
          simp at h
      refine ⟨terminated ls, last, [], ⟨by simp, terminated_eq_nil_or ls, hlast, .inl rfl⟩, ?_,
        by simp⟩
      have hall := hcount ls.length le_rfl
      rw [List.take_length] at hall
      omega

/-- A row of `t ++ '\n' :: u` is a row of `t` or a row of `u`.

**Proof sketch.** The row begins in the first text or behind the newline.  If it begins in the first
text it ends there as well, since there is no newline in it. -/
lemma Row.of_append_newline {t u front row rest : Text} (h : Row (t ++ '\n' :: u) front row rest) :
    (∃ rest', Row t front row rest' ∧ rest = rest' ++ '\n' :: u) ∨
      ∃ front', Row u front' row rest ∧ front = t ++ '\n' :: front' := by
  rcases List.append_eq_append_iff.1 h.text with ⟨a, rfl, ha⟩ | ⟨a, rfl, ha⟩
  · cases a with
    | nil =>
      -- the first text ends where the row begins, and the row is empty
      cases row with
      | nil =>
        exact .inl ⟨[], ⟨by simp, h.front, h.row, .inl rfl⟩, ha.symm⟩
      | cons c row =>
        obtain rfl : '\n' = c := by simpa using congrArg List.head? ha
        exact absurd (by simp) h.row
    | cons c a =>
      obtain ⟨rfl, hu⟩ : '\n' = c ∧ u = a ++ (row ++ rest) := by simpa using ha
      refine .inr ⟨a, ⟨hu, ?_, h.row, h.rest⟩, rfl⟩
      rcases List.eq_nil_or_concat' a with rfl | ⟨a, d, rfl⟩
      · exact .inl rfl
      · have hlast := h.front.resolve_left (by simp)
        rw [← List.cons_append, ← List.append_assoc, List.getLast?_concat] at hlast
        exact .inr (by rw [List.getLast?_concat, hlast])
  · rcases List.append_eq_append_iff.1 ha with ⟨b, rfl, hb⟩ | ⟨b, rfl, hb⟩
    · refine .inl ⟨b, ⟨rfl, h.front, h.row, ?_⟩, hb⟩
      cases b with
      | nil => exact .inl rfl
      | cons c b => exact .inr (by simpa [hb] using h.rest)
    · cases b with
      | nil => exact .inl ⟨[], ⟨by simp, h.front, h.row, .inl rfl⟩, hb.symm⟩
      | cons c b =>
        obtain rfl : '\n' = c := by simpa using congrArg List.head? hb
        exact absurd (by simp) h.row

/-- **A row of texts put together is a row of one of them.**  A row of `joinLines texts` is a row of
some `entry` of `texts`, and the texts before `entry` stand before the row, each with a newline
behind it.

**Proof sketch.** Induction on the texts.  A row of a single text is a row of this text.  With more
texts, a row is one of the first, or one of the others put together (`of_append_newline`); in the
latter case the first text stands before it with a newline. -/
lemma Row.exists_row_of_joinLines {texts : List Text} {front row rest : Text}
    (h : Row (joinLines texts) front row rest) (hne : texts ≠ []) :
    ∃ before entry behind front' rest', texts = before ++ entry :: behind ∧
      Row entry front' row rest' ∧ front = terminated before ++ front' ∧
      (rest = [] ↔ rest' = [] ∧ behind = []) := by
  induction texts generalizing front with
  | nil => exact absurd rfl hne
  | cons t texts ih =>
    cases texts with
    | nil =>
      have hone : joinLines [t] = t := by simp [joinLines]
      rw [hone] at h
      exact ⟨[], t, [], front, rest, rfl, h, rfl, by simp⟩
    | cons u texts =>
      have hjoin : joinLines (t :: u :: texts) = t ++ '\n' :: joinLines (u :: texts) := by
        simp [joinLines, List.intercalate]
      rw [hjoin] at h
      rcases h.of_append_newline with ⟨rest', hrow, hrest⟩ | ⟨front', hrow, rfl⟩
      · exact ⟨[], t, u :: texts, front, rest', rfl, hrow, rfl, by simp [hrest]⟩
      · obtain ⟨before, entry, behind, front', rest', htexts, hrow', rfl, hrest⟩ :=
          ih hrow (List.cons_ne_nil _ _)
        exact ⟨t :: before, entry, behind, front', rest', by simp [htexts], hrow', by simp, hrest⟩

/-- There is no newline in `front` if and only if `front` is empty. -/
lemma Row.newline_not_mem_front_iff {t front row rest : Text} (h : Row t front row rest) :
    '\n' ∉ front ↔ front = [] := by
  refine ⟨fun hmem => h.front.resolve_right fun hlast => hmem (List.mem_of_getLast? hlast), ?_⟩
  rintro rfl
  simp

/-- There is no newline in `t` if and only if `front` and `rest` are empty, so that the row is all
of `t`. -/
lemma Row.newline_not_mem_iff {t front row rest : Text} (h : Row t front row rest) :
    '\n' ∉ t ↔ front = [] ∧ rest = [] := by
  constructor
  · intro ht
    rw [h.text, List.mem_append, List.mem_append, not_or, not_or] at ht
    exact ⟨h.newline_not_mem_front_iff.1 ht.1,
      h.rest.resolve_right fun hhead => ht.2.2 (List.mem_of_mem_head? hhead)⟩
  · rintro ⟨hfront, hrest⟩
    simpa [h.text, hfront, hrest] using h.row

/-- `upper (dropReturn l)` is `upper l` if and only if `l` does not end in a carriage return. -/
lemma upper_dropReturn_eq_iff (l : Text) :
    upper (dropReturn l) = upper l ↔ l.getLast? ≠ some '\r' := by
  constructor
  · intro h hlast
    have hsplit : l = dropReturn l ++ ['\r'] := by
      rw [dropReturn, if_pos hlast]
      exact (List.dropLast_append_getLast? '\r' hlast).symm
    rw [hsplit, upper_append, ← hsplit] at h
    simp [upper, capital_ne_nil] at h
  · intro h
    rw [dropReturn, if_neg h]

/-- **When a row in upper case is the whole text.**  A row that nothing stands before, without the
carriage return at its end unless it is the last one, is `t` in upper case if and only if `t` has no
newline, and is the last one or does not end in a carriage return.

**Proof sketch.** If they are the same in upper case then `t` has no newline, since the row
has none and upper case makes none.  So in both directions the row is the whole of `t`
(`newline_not_mem_iff`), and dropping the carriage return makes a difference exactly if there is one
(`upper_dropReturn_eq_iff`). -/
lemma Row.upper_eq_iff {t front row rest : Text} (h : Row t front row rest) (last : Prop)
    [Decidable last] :
    front = [] ∧ upper (if rest = [] ∧ last then row else dropReturn row) = upper t ↔
      '\n' ∉ t ∧ (last ∨ t.getLast? ≠ some '\r') := by
  have hwhole : front = [] → rest = [] → row = t := fun hfront hrest => by
    simp [h.text, hfront, hrest]
  constructor
  · rintro ⟨hfront, hupper⟩
    have hnewline : '\n' ∉ t := by
      have hblank : isBlank '\n' = true := by decide
      rw [← mem_upper_iff_of_isBlank hblank, ← hupper, mem_upper_iff_of_isBlank hblank]
      split_ifs
      · exact h.row
      · exact fun hmem => h.row (mem_of_mem_dropReturn hmem)
    have hrest := (h.newline_not_mem_iff.1 hnewline).2
    refine ⟨hnewline, ?_⟩
    rw [hwhole hfront hrest] at hupper
    by_cases hlast : last
    · exact .inl hlast
    · rw [if_neg fun hc => hlast hc.2, upper_dropReturn_eq_iff] at hupper
      exact .inr hupper
  · rintro ⟨hnewline, hlast⟩
    obtain ⟨hfront, hrest⟩ := h.newline_not_mem_iff.1 hnewline
    refine ⟨hfront, ?_⟩
    rw [hwhole hfront hrest]
    split_ifs with hc
    · rfl
    · exact (upper_dropReturn_eq_iff t).2 (hlast.resolve_left fun hl => hc ⟨hrest, hl⟩)

end Text

open Text

/-! ## Faults of a session -/

/-- **A fault names a line of the source**: if `s.run source` fails with `fault`, then line
`fault.line` in upper case is `fault.text`.

**Proof sketch.** The fault comes from loading, which stops at the first bad line (`load_verdict`),
or from executing a line of the loaded program (`run_ending`), which has the text of the source's
line. -/
lemma Session.lineAt_of_run {s : Session} {source : Text} {fault : Fault}
    (h : (s.run source).result = .error fault) :
    Source.lineAt source fault.line = some fault.text := by
  cases hload : (Program.load source s.labels).result with
  | error fault' =>
    obtain rfl : fault' = fault :=
      Except.error.inj ((Program.run_of_load_error hload).1.symm.trans h)
    have hverdict := Program.load_verdict source s.labels
    rw [hload, Program.faultOf] at hverdict
    cases hverdict with
    | clash _ hline => exact hline
    | illegible _ hline => exact hline
  | ok p =>
    have hending := Program.run_ending p s.bindings
    rw [execution_result hload h, Program.faultOf] at hending
    have hraw := Program.raw_at?_of_load hload fault.line
    generalize Program.executed (p.run s.bindings).log = visited at hending
    cases hending with
    | taken _ hl => simpa [hl] using hraw.symm
    | invalid _ hl => simpa [hl] using hraw.symm

namespace Console

/-! ## The buffer after a history -/

/-- The console after a history that begins with a new console.  Every step has an output of its
own, which may be too small. -/
def after (steps : List (Step × Sink)) : Console :=
  steps.foldl (fun c s => (s.1.reply c s.2).console) {}

/-- `c.execute read command out` leaves the same buffer for every output `out`, that of `effect`. -/
lemma buffer_execute (read : Text → Except IoError Text) (c : Console) (command : Command)
    (out : Sink) :
    (c.execute read command out).console.buffer = (effect (.given read command) c).buffer := by
  obtain ⟨p, hp⟩ := exists_plan read c command
  have hfinished : p.finished = effect (.given read command) c := by
    rw [← (execute_unlimited read c command []).1, hp.reply, p.carryOut_unlimited]
  have hinterrupted : p.interrupted.buffer = p.finished.buffer := by
    by_cases hrun : c.RunsThrough command
    · rw [hp.interrupted_run hrun]
    · rw [hp.interrupted hrun]
  rw [hp.reply, ← hfinished, Plan.carryOut]
  split
  · rfl
  · exact hinterrupted

/-- `s.reply c out` leaves the same buffer for every output `out`, that of `effect`. -/
lemma Step.buffer_reply (s : Step) (c : Console) (out : Sink) :
    (s.reply c out).console.buffer = (effect s c).buffer := by
  cases hc : s.command? with
  | some command =>
    rw [reply_of_command? hc, effect_of_command? hc]
    exact buffer_execute s.content c command out
  | none => rw [(reply_of_unread hc c out).1, effect_of_unread hc]

/-- **The buffer after a history** on any outputs is `buffered`, which looks at the steps only.

**Proof sketch.** Induction on the history from its end.  The last step has its effect on the buffer
(`Step.buffer_reply`), and `buffered` changes in the same way. -/
lemma buffer_after (steps : List (Step × Sink)) :
    (after steps).buffer = buffered (steps.map Prod.fst) := by
  induction steps using List.reverseRecOn with
  | nil => rfl
  | append_singleton steps s ih =>
    rw [after, List.foldl_concat, ← after, Step.buffer_reply, List.map_append, List.map_singleton,
      effect]
    cases hfresh : s.1.fresh? with
    | some lines => rw [buffered_concat_reset hfresh]
    | none => rw [buffered_concat hfresh, ih]

/-- The lines of `s.fresh?` hold no newlines, since they come from cutting a file. -/
lemma Step.newline_not_mem_fresh {s : Step} {lines : List Text} (h : s.fresh? = some lines) :
    ∀ l ∈ lines, '\n' ∉ l := by
  intro l hl
  unfold fresh? at h
  split at h
  · obtain rfl : [] = lines := Option.some.inj h
    simp at hl
  · obtain ⟨source, -, rfl⟩ := Option.map_eq_some_iff.1 h
    exact newline_not_mem_of_mem_lines hl
  · simp at h

/-- If no step appends a line with a newline, then no line of `buffered h` has one.

**Proof sketch.** Induction on the history from its end.  A reset puts lines in the buffer that come
from a file, and any other step appends a line without a newline, or nothing. -/
lemma newline_not_mem_buffered {h : List Step} (hline : ∀ s ∈ h, ∀ l ∈ s.line?, '\n' ∉ l) :
    ∀ l ∈ buffered h, '\n' ∉ l := by
  induction h using List.reverseRecOn with
  | nil => simp [buffered, base, sinceReset]
  | append_singleton h s ih =>
    cases hfresh : s.fresh? with
    | some lines =>
      rw [buffered_concat_reset hfresh]
      exact Step.newline_not_mem_fresh hfresh
    | none =>
      intro l hl
      rw [buffered_concat hfresh, List.mem_append, Option.mem_toList] at hl
      rcases hl with hl | hl
      · exact ih (fun t ht => hline t (by simp [ht])) l hl
      · exact hline s (by simp) l hl

/-! ## The listed line of a fault -/

/-- The buffered line with the number of a fault, and what a listing shows for it. -/
structure Listed (c : Console) (fault : Fault) (entry : Text) : Prop where
  bounds : 1 ≤ fault.line ∧ fault.line ≤ c.buffer.length
  buffered : c.buffer[fault.line - 1]? = some entry
  shown : c.listing[fault.line - 1]? =
    some (ofNat fault.line ++ "\t| ".toList ++ upper entry ++ ['\n'])

/-- If `entry` stands in the buffer at the place that `fault.line` names, then it is `Listed` for
`fault`. -/
lemma listed_of_buffer {c : Console} {fault : Fault} {before behind : List Text} {entry : Text}
    (hc : c.buffer = before ++ entry :: behind) (hline : fault.line = before.length + 1) :
    Listed c fault entry := by
  have hentry : c.buffer[before.length]? = some entry := by simp [hc]
  refine ⟨?_, ?_, ?_⟩
  · simp [hc, hline]
  · simpa [hline] using hentry
  · simp [listing, hline, hentry, Nat.add_comm 1]

/-- If `c.run out` fails with `fault`, then so does the run of the buffered lines in a fresh
session. -/
lemma run_result_eq_program {c : Console} {out : Sink} {fault : Fault}
    (h : (c.run out).result = .error (.program fault)) :
    (Session.run {} (joinLines c.buffer)).result = .error fault := by
  unfold run print at h
  cases hr : (Session.run {} (joinLines c.buffer)).result with
  | error fault' =>
    simp only [hr] at h
    obtain rfl : fault' = fault := by simpa using h
    rfl
  | ok p =>
    simp only [hr] at h
    split at h
    · simp at h
    · simp at h

/-- If `c.run out` fails with `fault`, then its line comes from a row of a line `entry` in the
buffer. Its number is that of `entry` and the number of newlines that stand before the row,
together.

**Proof sketch.** The line is a row of the buffered lines put together (`exists_row_of_lines`),
hence of one of them (`Row.exists_row_of_joinLines`). -/
lemma exists_row_of_run {c : Console} {out : Sink} {fault : Fault}
    (h : (c.run out).result = .error (.program fault)) :
    ∃ before entry behind front row rest, c.buffer = before ++ entry :: behind ∧
      Row entry front row rest ∧
      fault.line = before.length + 1 + (before.flatten ++ front).count '\n' ∧
      fault.text = upper (if rest = [] ∧ behind = [] then row else dropReturn row) := by
  have hlineAt := Session.lineAt_of_run (run_result_eq_program h)
  have hne : c.buffer ≠ [] := by
    intro hnil
    have hnone : Source.lineAt (joinLines c.buffer) fault.line = none := by
      rw [hnil]
      cases fault.line <;> rfl
    simp [hnone] at hlineAt
  obtain ⟨n, hn⟩ : ∃ n, fault.line = n + 1 := by
    cases hn : fault.line with
    | zero => simp [hn, Source.lineAt] at hlineAt
    | succ n => exact ⟨n, rfl⟩
  rw [hn, Source.lineAt, Option.map_eq_some_iff] at hlineAt
  obtain ⟨l, hl, htext⟩ := hlineAt
  obtain ⟨front, row, rest, hrow, hcount, rfl⟩ := exists_row_of_lines hl
  obtain ⟨before, entry, behind, front', rest', hbuffer, hrow', rfl, hrest⟩ :=
    hrow.exists_row_of_joinLines hne
  refine ⟨before, entry, behind, front', row, rest', hbuffer, hrow', ?_, ?_⟩
  · rw [List.count_append, count_terminated] at hcount
    rw [hn, List.count_append]
    omega
  · simp only [← htext, hrest]

/-- **Where the line of a fault comes from.**  After any history on any outputs, let a run fail with
a fault.  Its line is a row of one of the buffered lines, without the carriage return at its end
unless nothing stands behind it, and its number is the number of the buffered line plus the number
of newlines that stand before the row.  So number and text are those of the buffered line if and
only if there is no newline up to its end, and it does not lose a carriage return.

If no appended line holds a newline, a listing shows the line under the number of the fault, and
only carriage returns at the end can make a difference to the text.

**Proof sketch.** By `exists_row_of_run` and `Row.upper_eq_iff`.  If no appended line holds a
newline no buffered line does (`newline_not_mem_buffered`), since those of a file have been cut. -/
theorem run_fault_located {steps : List (Step × Sink)} {read : Text → Except IoError Text}
    {out : Sink} {fault : Fault}
    (h : ((after steps).execute read .run out).result = .error (.program fault)) :
    (∃ before entry behind, (after steps).buffer = before ++ entry :: behind ∧
      (∃ front row rest, Row entry front row rest ∧
        fault.line = before.length + 1 + (before.flatten ++ front).count '\n' ∧
        fault.text = upper (if rest = [] ∧ behind = [] then row else dropReturn row)) ∧
      (fault.line = before.length + 1 ∧ fault.text = upper entry ↔
        '\n' ∉ before.flatten ++ entry ∧ (behind = [] ∨ entry.getLast? ≠ some '\r'))) ∧
    ((∀ s ∈ steps, ∀ line ∈ s.1.line?, '\n' ∉ line) →
      ∃ entry, Listed (after steps) fault entry ∧
        (fault.text = upper entry ∨ fault.text = upper (dropReturn entry)) ∧
        ((∀ l ∈ (after steps).buffer.dropLast, l.getLast? ≠ some '\r') →
          fault.text = upper entry)) := by
  obtain ⟨before, entry, behind, front, row, rest, hbuffer, hrow, hline, htext⟩ :=
    exists_row_of_run h
  have hnumber : fault.line = before.length + 1 ↔ '\n' ∉ before.flatten ∧ front = [] := by
    rw [hline, ← hrow.newline_not_mem_front_iff, ← not_or, ← List.mem_append, ← List.count_eq_zero]
    omega
  have hown : fault.line = before.length + 1 ∧ fault.text = upper entry ↔
      '\n' ∉ before.flatten ++ entry ∧ (behind = [] ∨ entry.getLast? ≠ some '\r') := by
    rw [hnumber, htext, and_assoc, hrow.upper_eq_iff, List.mem_append, not_or, and_assoc]
  refine ⟨⟨before, entry, behind, hbuffer, ⟨front, row, rest, hrow, hline, htext⟩, hown⟩, ?_⟩
  intro hsteps
  have hnone : ∀ l ∈ (after steps).buffer, '\n' ∉ l := by
    rw [buffer_after]
    exact newline_not_mem_buffered (by simpa using hsteps)
  rw [hbuffer] at hnone
  have hbefore : '\n' ∉ before.flatten := by
    rw [List.mem_flatten]
    rintro ⟨l, hl, hmem⟩
    exact hnone l (by simp [hl]) hmem
  obtain ⟨rfl, rfl⟩ := hrow.newline_not_mem_iff.1 (hnone entry (by simp))
  obtain rfl : entry = row := by simpa using hrow.text
  refine ⟨entry, listed_of_buffer hbuffer (hnumber.2 ⟨hbefore, rfl⟩), ?_, fun hreturn => ?_⟩
  · rw [htext]
    split_ifs
    · exact .inl rfl
    · exact .inr rfl
  · refine (hown.2 ⟨by simp [hbefore, hrow.row], ?_⟩).2
    rcases List.eq_nil_or_concat' behind with hnil | ⟨behind, l, rfl⟩
    · exact .inl hnil
    · refine .inr (hreturn entry ?_)
      rw [hbuffer, ← List.cons_append, ← List.append_assoc, List.dropLast_concat]
      simp

/-- A line is typed, on an output without limit, while one file can be read. -/
def typing (line : Text) : Step × Sink := (.typed (fun _ => .ok "let a = 1\r\n# b".toList) line, {})

/-- A file is loaded, and its variable is declared again in the line after it. -/
theorem run_fault_located_loaded :
    let c := after [typing ":load f".toList, typing "let A = 2".toList]
    ∃ fault, (c.execute (fun _ => .error .notFound) .run {}).result = .error (.program fault) ∧
      ∃ entry, Listed c fault entry ∧ fault.text = upper entry ∧ fault.line = 3 := by
  have hfault : ((after [typing ":load f".toList, typing "let A = 2".toList]).execute
      (fun _ => .error .notFound) .run {}).result =
      .error (.program ⟨3, "LET A = 2".toList, .duplicateDeclaration "A".toList⟩) := by
    decide +kernel
  obtain ⟨entry, hlisted, -, htext⟩ := (run_fault_located hfault).2 (by decide +kernel)
  exact ⟨_, hfault, entry, hlisted, htext (by decide +kernel), rfl⟩

/-- A line that keeps its newline gives two lines to the run.  The fault of the line after it has a
number that is not listed at all. -/
theorem run_fault_not_listed :
    let c := after [typing "let a = 1\n".toList, typing "let a = 2".toList]
    ∃ fault, (c.execute (fun _ => .error .notFound) .run {}).result = .error (.program fault) ∧
      fault.line = 3 ∧ fault.text = "LET A = 2".toList ∧ c.buffer.length = 2 ∧
      ∀ entry, ¬ Listed c fault entry := by
  refine ⟨⟨3, "LET A = 2".toList, .duplicateDeclaration "A".toList⟩, by decide +kernel, rfl, rfl,
    by decide +kernel, fun entry hlisted => ?_⟩
  have hlength :
      (after [typing "let a = 1\n".toList, typing "let a = 2".toList]).buffer.length < 3 := by
    decide +kernel
  exact absurd hlisted.bounds.2 hlength.not_ge

end Console

end Primer
