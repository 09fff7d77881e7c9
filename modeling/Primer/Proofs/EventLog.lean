import Primer.Proofs.Walking

/-!
# The log of a run

The log of a run in a session can be told line by line.  While a program is loaded, a line whose
label is new tells of it, and then, if its body looks like a declaration and is none, of that; a
line whose label is taken tells nothing.  Once the program is loaded this is told, then each line
that is executed, and then that the end was reached.  Loading and executing both go on to the line
of the fault, or to the last one.

## Main definitions

* `Primer.Source.rejection?` — why a body that looks like a declaration is none.
* `Primer.Source.eventsAt` — what is told of a line while it is loaded.
* `Primer.Program.executionAt` — what is told of a line that is executed.
* `Primer.Source.reached` — the last line that is looked at.

## Main results

* `Primer.Program.classify_log` — what classifying a line tells.
* `Primer.Program.loadLines_log`, `Primer.Program.walk_log` — what loading and executing tell, from
  any line on.
* `Primer.Session.log_of_run` — what a run tells.
-/

set_option relaxedAutoImplicit false
set_option autoImplicit false

namespace Primer

open Text

namespace Source

instance (labels : Labels) (source : Text) (n : Nat) (label : Text) :
    Decidable (Clash labels source n label) := inferInstanceAs (Decidable (_ ∧ _))

instance (labels : Labels) (source : Text) (n : Nat) :
    Decidable (∃ label, Clash labels source n label) :=
  match h : labelAt source n with
  | none => isFalse (by simp [Clash, h])
  | some label => decidable_of_iff (Clash labels source n label) (by simp [Clash, h])

/-- Why a body that begins with `LET` is no declaration. -/
def rejection? (body : Text) : Option (Misread Declaration) :=
  if Declaration.keyword <+: body then
    match Declaration.parse body with
    | .error e => some e
    | .ok _ => none
  else none

/-- What is told of line `n` while it is loaded: its label, and that its body looks like a
declaration and is none.  Nothing is told if its label is taken. -/
def eventsAt (labels : Labels) (source : Text) (n : Nat) : List Event :=
  match lineAt source n with
  | none => []
  | some raw =>
    if ∃ label, Clash labels source n label then []
    else ((Line.splitLabel raw).1.map (.labelRegistered · n)).toList ++
      ((rejection? (Line.splitLabel raw).2).map .declarationRejected).toList

/-- The last line that is looked at: that of the fault, or else the last of all. -/
def reached (total : Nat) : Option Fault → Nat
  | none => total
  | some fault => fault.line

end Source

namespace Program

open Source

/-! ## Loading -/

/-- `readBody` tells of `rejection? body`, and of nothing else. -/
lemma readBody_log (number : Nat) (raw body : Text) :
    (Line.readBody number raw body).2 = ((rejection? body).map .declarationRejected).toList := by
  by_cases hlooks : Declaration.keyword <+: body
  · obtain ⟨u, rfl⟩ := hlooks
    rw [Line.readBody, Kind.of?_keyword_append, rejection?, if_pos (List.prefix_append _ _)]
    cases hp : Declaration.parse (Declaration.keyword ++ u) <;> simp [Kind.read, hp, Except.map]
  · rw [rejection?, if_neg hlooks, Line.readBody]
    split
    · rfl
    · next kind hkind =>
      cases kind with
      | blank => rfl
      | comment => rfl
      | declaration =>
        have haccepts := Kind.accepts_of_of? hkind
        exact absurd (List.isPrefixOf_iff_prefix.1 haccepts) hlooks

/-- **What classifying the next line tells.**  If `table` holds `labels` and the labels of the first
`n` lines, then `classify` tells `eventsAt labels source (n + 1)` of line `n + 1`.

**Proof sketch.** Line `n + 1` clashes if and only if `table` has its label (`clash_iff`), and then
nothing is told.  Otherwise its label is told of, and then what reading the body tells
(`readBody_log`). -/
lemma classify_log {labels table : Labels} {source raw : Text} {n : Nat}
    (hline : lineAt source (n + 1) = some raw)
    (htable : table.entries = labels.entries ++ labelsUpTo source n) :
    (Line.classify (n + 1) raw table).log = eventsAt labels source (n + 1) := by
  have hiff : (∃ label, Clash labels source (n + 1) label) ↔
      ∃ label, (Line.splitLabel raw).1 = some label ∧ table.contains label = true :=
    exists_congr fun _ => clash_iff hline htable
  rw [eventsAt, hline]
  rcases clash_or_fresh table (Line.splitLabel raw).1 with ⟨label, hlabel, hc⟩ | hfresh
  · rw [Line.classify_of_clash hlabel hc]
    simp only [if_pos (hiff.2 ⟨label, hlabel, hc⟩)]
  · have hnone : ¬ ∃ label, Clash labels source (n + 1) label := by
      rw [hiff]
      rintro ⟨label, hlabel, hc⟩
      simp [hfresh label hlabel] at hc
    rw [Line.classify_of_fresh hfresh, readBody_log]
    simp only [if_neg hnone, Line.recorded]
    cases (Line.splitLabel raw).1 <;> rfl

/-- `flatMap f` over the numbers from `1` to `n + 1` adds `f (n + 1)` to the result for those up to
`n`. -/
lemma flatMap_range'_succ {α : Type} (f : Nat → List α) (n : Nat) :
    (List.range' 1 (n + 1)).flatMap f = (List.range' 1 n).flatMap f ++ f (n + 1) := by
  rw [List.range'_1_concat, List.flatMap_append, Nat.add_comm 1 n]
  simp

/-- **What loading tells, from any line on.**  What the lines of `before` tell, followed by the log
of `loadLines` for the lines of `rest`, is what `eventsAt` tells of all lines up to the last one
that is `reached`.

**Proof sketch.** Induction on the lines that are left.  The next line tells what it has to
(`classify_log`).  Loading stops there, or it goes on with the line's label in the table
(`classify_cases`). -/
lemma loadLines_log {labels : Labels} {source : Text} {rest : List Text} :
    ∀ {before : List Text} {table : Labels}, Text.lines source = before ++ rest →
      table.entries = labels.entries ++ labelsUpTo source before.length →
      (List.range' 1 before.length).flatMap (eventsAt labels source) ++
          (loadLines (before.length + 1) rest table).log =
        (List.range' 1 (reached (Text.lines source).length
          (faultOf (loadLines (before.length + 1) rest table).result))).flatMap
            (eventsAt labels source) := by
  induction rest with
  | nil =>
    intro before table hlines _
    simp [loadLines, faultOf, reached, hlines]
  | cons text rest ih =>
    intro before table hlines htable
    have hline : lineAt source (before.length + 1) = some (upper text) := by
      simp [lineAt, hlines]
    have hlog := classify_log hline htable
    rcases classify_cases hline htable with
      ⟨label, -, hclassify⟩ | ⟨-, hentries, ⟨-, hresult⟩ | ⟨-, l, hresult⟩⟩
    · rw [loadLines, hlog, hclassify]
      exact (flatMap_range'_succ _ _).symm
    · simp only [loadLines, hresult, hlog]
      exact (flatMap_range'_succ _ _).symm
    · have hlength : (before ++ [text]).length = before.length + 1 := by simp
      have hrest := @ih (before ++ [text])
        (Line.classify (before.length + 1) (upper text) table).state (by rw [hlines]; simp)
        (by rw [hlength]; exact hentries)
      rw [hlength, flatMap_range'_succ] at hrest
      simp only [loadLines, hresult, hlog, faultOf_map]
      rw [← List.append_assoc]
      exact hrest

/-- `load source labels` tells `eventsAt` of the lines that are `reached`, and then, without a
fault, that the program is loaded.

**Proof sketch.** `loadLines_log` from the first line on, where no line has told anything yet.  The
event behind it is the one that `load` adds. -/
lemma load_log (source : Text) (labels : Labels) :
    (load source labels).log =
      (List.range' 1 (reached (Text.lines source).length
        (faultOf (load source labels).result))).flatMap (eventsAt labels source) ++
      match (load source labels).result with
      | .error _ => []
      | .ok p => [.programLoaded p.length (load source labels).state.size] := by
  have h := @loadLines_log labels source (Text.lines source) [] labels rfl (by simp [labelsUpTo])
  simp only [List.length_nil, List.range'_zero, List.flatMap_nil, List.nil_append,
    Nat.zero_add] at h
  dsimp only [load]
  split
  · next fault hresult =>
    rw [hresult] at h
    rw [h, List.append_nil]
    rfl
  · next ls hresult =>
    rw [hresult] at h
    rw [h]
    rfl

/-! ## Executing -/

/-- What is told of line `n` when it is executed. -/
def executionAt (p : Program) (n : Nat) : Option Event :=
  (p.at? n).map fun l => .execution n l.statement.kind l.raw

/-- **What executing tells, from any line on.**  What the first `m` lines tell, followed by the log
of `walk` through the others, is what `p.executionAt` tells of all lines up to the last one that is
`reached`.

**Proof sketch.** Induction on the number of lines that are left.  The next line tells of itself
before it is executed.  A fault names this line (`line_of_execute_error`). -/
lemma walk_log (p : Program) :
    ∀ (left m : Nat) (b : Bindings), m + left = p.length →
      (List.range' 1 m).filterMap p.executionAt ++ (walk (p.lines.drop m) b).log =
        (List.range' 1 (reached p.length (faultOf (walk (p.lines.drop m) b).result))).filterMap
          p.executionAt := by
  intro left
  induction left with
  | zero =>
    intro m b hm
    have hdrop : p.lines.drop m = [] := List.drop_eq_nil_of_le (by unfold length at hm; omega)
    obtain rfl : m = p.length := by omega
    simp [hdrop, walk, faultOf, reached]
  | succ left ih =>
    intro m b hm
    obtain ⟨l, hdrop, hl, hnumber⟩ := exists_drop_eq_cons (p := p) (m := m) (by omega)
    have hevent : p.executionAt (m + 1) = some l.event := by
      rw [executionAt, hl, Option.map_some, Line.event, hnumber]
    have hconcat : (List.range' 1 m).filterMap p.executionAt ++ [l.event] =
        (List.range' 1 (m + 1)).filterMap p.executionAt := by
      rw [filterMap_range'_succ, hevent, Option.toList_some]
    rw [hdrop, walk]
    cases he : l.execute b with
    | error fault =>
      have hline : fault.line = m + 1 := (line_of_execute_error he).trans hnumber
      simp only [faultOf, reached, hline]
      exact hconcat
    | ok found =>
      obtain ⟨next, b'⟩ := found
      have hrest := ih (m + 1) b' (by omega)
      rw [← hconcat, List.append_assoc] at hrest
      exact hrest

/-- `p.run b` tells `p.executionAt` of the lines that are `reached`, and then its farewell. -/
lemma run_log (p : Program) (b : Bindings) :
    (p.run b).log =
      (List.range' 1 (reached p.length (faultOf (p.run b).result))).filterMap p.executionAt ++
        farewell p.length (p.length + 1) (p.run b).result := by
  have h := walk_log p p.length 0 b (by omega)
  rw [run_eq_walk]
  simp only [List.range'_zero, List.filterMap_nil, List.nil_append, List.drop_zero] at h
  rw [← h]

/-! ## Rejected declarations -/

/-- If `rejection?` finds something for the body of line `n`, then line `n` is `Illegible`. -/
lemma illegible_of_rejection {source raw : Text} {n : Nat} {e : Misread Declaration}
    (hline : lineAt source n = some raw) (h : rejection? (Line.splitLabel raw).2 = some e) :
    Illegible source n := by
  have hnone := @Line.readBody_eq_none_iff n raw _ (Line.splitLabel_snd_stops raw)
  refine ⟨raw, hline, hnone.1 ?_⟩
  unfold rejection? at h
  split_ifs at h with hlooks
  obtain ⟨u, hu⟩ := hlooks
  rw [Line.readBody, ← hu, Kind.of?_keyword_append, hu]
  cases hp : Declaration.parse (Line.splitLabel raw).2 with
  | error e' => simp [Kind.read, hp, Except.map]
  | ok d => simp [hp] at h

/-- If `eventsAt labels source n` tells of a rejected declaration, then it does so last and once,
and line `n` has no `Clash` and is `Illegible`. -/
lemma eventsAt_of_rejected {labels : Labels} {source : Text} {n : Nat} {e : Misread Declaration}
    (h : .declarationRejected e ∈ eventsAt labels source n) :
    (∀ label, ¬ Clash labels source n label) ∧ Illegible source n ∧
      ∃ first, eventsAt labels source n = first ++ [.declarationRejected e] ∧
        ∀ e', .declarationRejected e' ∉ first := by
  unfold eventsAt at h ⊢
  split at h
  · simp at h
  · next raw hline =>
    split_ifs at h with hclash
    · simp at h
    · obtain hreject : rejection? (Line.splitLabel raw).2 = some e := by simpa using h
      refine ⟨not_exists.1 hclash, illegible_of_rejection hline hreject,
        ((Line.splitLabel raw).1.map (.labelRegistered · n)).toList, ?_, ?_⟩
      · simp only [if_neg hclash, hreject]
        rfl
      · simp

/-- If none of the first `n` lines is bad, then `eventsAt` tells of no rejected declaration on
them. -/
lemma not_rejected_of_good {labels : Labels} {source : Text} {n : Nat}
    (hgood : ∀ m < n + 1, ¬ Bad labels source m) (e : Misread Declaration) :
    .declarationRejected e ∉ (List.range' 1 n).flatMap (eventsAt labels source) := by
  intro h
  obtain ⟨m, hm, he⟩ := List.mem_flatMap.1 h
  rw [List.mem_range'_1] at hm
  exact hgood m (by omega) (.inr (eventsAt_of_rejected he).2.1)

end Program

namespace Session

open Source Program

section Log

variable {s : Session} {source : Text}

/-- If `load` fails with `fault`, then `s.run source` tells `eventsAt` of the lines up to that of
`fault`. -/
lemma log_of_load_error {fault : Fault} (h : (Program.load source s.labels).result = .error fault) :
    (s.run source).log = (List.range' 1 fault.line).flatMap (eventsAt s.labels source) := by
  have hrun : (s.run source).log = (Program.load source s.labels).log := by simp [run, load, h]
  rw [hrun, load_log, h, List.append_nil]
  rfl

/-- If `load` returns `p`, then `s.run source` tells `eventsAt` of all lines, that the program is
loaded, `p.executionAt` of the lines that are `reached`, and the farewell of `p.run`. -/
lemma log_of_loaded {p : Program} (h : (Program.load source s.labels).result = .ok p) :
    (s.run source).log =
      (List.range' 1 p.length).flatMap (eventsAt s.labels source) ++
      [.programLoaded p.length (s.run source).state.labels.size] ++
      (List.range' 1 (reached p.length (faultOf (s.run source).result))).filterMap p.executionAt ++
      farewell p.length (p.length + 1) (p.run s.bindings).result := by
  have hloading := load_log source s.labels
  rw [h, faultOf, reached, ← length_of_load h] at hloading
  rw [run_of_loaded h, faultOf_map]
  simp only [hloading, run_log, List.append_assoc]

/-- If `load` returns `p`, then a fault of `s.run source` is a fault of `p.run s.bindings`. -/
lemma execution_result {p : Program} {fault : Fault}
    (h : (Program.load source s.labels).result = .ok p)
    (hrun : (s.run source).result = .error fault) :
    (p.run s.bindings).result = .error fault := by
  apply eq_error_of_faultOf
  have hfault : faultOf (s.run source).result = some fault := by rw [hrun]; rfl
  rwa [run_of_loaded h, faultOf_map] at hfault

/-- If `load` returns `p`, then a fault of `s.run source` names one of the lines of `p`. -/
lemma line_le_length_of_run {p : Program} {fault : Fault}
    (h : (Program.load source s.labels).result = .ok p)
    (hrun : (s.run source).result = .error fault) : fault.line ≤ p.length := by
  have hwalk : (walk p.lines s.bindings).result = .error fault := by
    have hresult := execution_result h hrun
    rwa [run_eq_walk] at hresult
  obtain ⟨l, hl, hline⟩ := exists_line_of_walk_fault hwalk
  have hbounds := (number_bounds_of_loadLines (lines_of_load h) hl).2
  rw [hline, length_of_load h]
  omega

/-- If `s.run source` returns `p`, then `load` returns `p`, and `p.run s.bindings` has no fault. -/
lemma loaded_of_run {p : Program} (h : (s.run source).result = .ok p) :
    (Program.load source s.labels).result = .ok p ∧ (p.run s.bindings).result = .ok () := by
  cases hload : (Program.load source s.labels).result with
  | error fault =>
    rw [(run_of_load_error hload).1] at h
    simp at h
  | ok q =>
    rw [run_of_loaded hload] at h
    cases hresult : (q.run s.bindings).result with
    | error fault => simp [hresult, Except.map] at h
    | ok =>
      obtain rfl : q = p := by simpa [hresult, Except.map] using h
      exact ⟨rfl, hresult⟩

/-- If `load` returns a program, then `s.run source` tells of no rejected declaration. -/
lemma not_rejected_of_loaded {p : Program} (h : (Program.load source s.labels).result = .ok p)
    (hgood : ∀ n, ¬ Bad s.labels source n) (e : Misread Declaration) :
    .declarationRejected e ∉ (s.run source).log := by
  have hloading := not_rejected_of_good (n := p.length) (fun m _ => hgood m) e
  have hexecution : ∀ k, .declarationRejected e ∉ (List.range' 1 k).filterMap p.executionAt := by
    intro k hmem
    obtain ⟨n, -, hn⟩ := List.mem_filterMap.1 hmem
    simp [executionAt] at hn
  have hend : ∀ steps exit result, .declarationRejected e ∉ farewell steps exit result := by
    intro steps exit result
    cases result <;> simp [farewell]
  rw [log_of_loaded h]
  simp [hloading, hexecution, hend]

/-- **A rejected declaration is told of once and last** in the log of `s.run source`, by a line `n`
for which `load` fails.

**Proof sketch.** By the verdict on the source.  The lines before the bad line tell of no rejected
declaration, since they are not bad (`not_rejected_of_good`).  The bad line does not if its label is
taken, and else it tells of it last (`eventsAt_of_rejected`). -/
lemma rejected_once_and_last {e : Misread Declaration}
    (he : .declarationRejected e ∈ (s.run source).log) :
    ∃ n raw first, lineAt source n = some raw ∧
      .declarationRejected e ∈ eventsAt s.labels source n ∧
      (Program.load source s.labels).result = .error ⟨n, raw, .unrecognized⟩ ∧
      (s.run source).log = first ++ [.declarationRejected e] ∧
      ∀ e', .declarationRejected e' ∉ first := by
  have hverdict := load_verdict source s.labels
  generalize hf : faultOf (Program.load source s.labels).result = found at hverdict
  -- there is no line with number zero
  have hsucc : ∀ {n raw}, lineAt source n = some raw → ∃ k, n = k + 1 := by
    intro n raw hline
    cases n with
    | zero => simp [lineAt] at hline
    | succ k => exact ⟨k, rfl⟩
  cases hverdict with
  | loaded hgood _ =>
    obtain ⟨p, hp⟩ := faultOf_eq_none_iff.1 hf
    exact absurd he (not_rejected_of_loaded hp hgood e)
  | @clash n raw label hgood hline hclash _ =>
    obtain ⟨k, rfl⟩ := hsucc hline
    rw [log_of_load_error (eq_error_of_faultOf hf), flatMap_range'_succ, List.mem_append] at he
    have hhere := he.resolve_left (not_rejected_of_good hgood e)
    exact absurd hclash ((eventsAt_of_rejected hhere).1 label)
  | @illegible n raw hgood hline _ _ _ =>
    obtain ⟨k, rfl⟩ := hsucc hline
    have hfault := eq_error_of_faultOf hf
    have hearlier := not_rejected_of_good hgood
    have hlog := log_of_load_error hfault
    rw [flatMap_range'_succ] at hlog
    rw [hlog, List.mem_append] at he
    have hhere := he.resolve_left (hearlier e)
    obtain ⟨-, -, first, hfirst, hno⟩ := eventsAt_of_rejected hhere
    refine ⟨k + 1, raw, _ ++ first, hline, hhere, hfault, by rw [hlog, hfirst, List.append_assoc],
      fun e' he' => ?_⟩
    rcases List.mem_append.1 he' with h | h
    · exact hearlier e' h
    · exact hno e' h

end Log

/-- **The log of a run.**  Lines tell of themselves while they are loaded, in order and up to the
line of a fault, as `Source.eventsAt` says.  If loading has no fault, it is told that the program is
loaded, with its length and the number of labels.  Then every line that is executed is told of, with
its number, kind and text, in order and up to the line of a fault.  If there is no fault, it is told
that the end was reached, after as many steps as there are lines, behind the last line.  A rejected
declaration is told of once and last, and the program cannot be loaded for this line.

**Proof sketch.** Loading and executing tell what they have to by `load_log` and `run_log`, and
rejected declarations are the matter of `rejected_once_and_last`. -/
theorem log_of_run (s : Session) (source : Text) :
    (∀ fault, (Program.load source s.labels).result = .error fault →
      (s.run source).log = (List.range' 1 fault.line).flatMap (eventsAt s.labels source)) ∧
    (∀ p fault, (Program.load source s.labels).result = .ok p →
      (s.run source).result = .error fault →
        fault.line ≤ p.length ∧
        (s.run source).log =
          (List.range' 1 p.length).flatMap (eventsAt s.labels source) ++
          [.programLoaded p.length (s.run source).state.labels.size] ++
          (List.range' 1 fault.line).filterMap p.executionAt) ∧
    (∀ p, (s.run source).result = .ok p →
      (s.run source).log =
        (List.range' 1 p.length).flatMap (eventsAt s.labels source) ++
        [.programLoaded p.length (s.run source).state.labels.size] ++
        (List.range' 1 p.length).filterMap p.executionAt ++
        [.programFinished p.length (p.length + 1)]) ∧
    ∀ e, .declarationRejected e ∈ (s.run source).log →
      ∃ n raw first, lineAt source n = some raw ∧
        .declarationRejected e ∈ eventsAt s.labels source n ∧
        (Program.load source s.labels).result = .error ⟨n, raw, .unrecognized⟩ ∧
        (s.run source).log = first ++ [.declarationRejected e] ∧
        ∀ e', .declarationRejected e' ∉ first := by
  refine ⟨fun fault h => log_of_load_error h, fun p fault h hrun => ?_, fun p hrun => ?_,
    fun e he => rejected_once_and_last he⟩
  · refine ⟨line_le_length_of_run h hrun, ?_⟩
    rw [log_of_loaded h, execution_result h hrun, hrun, farewell, List.append_nil]
    rfl
  · obtain ⟨h, hresult⟩ := loaded_of_run hrun
    rw [log_of_loaded h, hresult, hrun]
    rfl

/-- A label is told of on the line whose declaration is rejected too, and nothing behind. -/
theorem log_of_run_rejected :
    ∃ e, (run {} "a: let x = 1\nb: let y\nc: let z = 3".toList).log =
      [.labelRegistered "A".toList 1, .labelRegistered "B".toList 2, .declarationRejected e] := by
  have hfault : faultOf (Program.load "a: let x = 1\nb: let y\nc: let z = 3".toList {}).result =
      some ⟨2, "B: LET Y".toList, .unrecognized⟩ := by decide +kernel
  refine ⟨(rejection? "LET Y".toList).get (by decide +kernel), ?_⟩
  rw [(log_of_run {} _).1 _ (eq_error_of_faultOf hfault)]
  decide +kernel

end Session

end Primer
