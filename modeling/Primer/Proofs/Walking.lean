import Primer.Proofs.Running

/-!
# Runs as walks

A run follows a program counter, but the counter only ever moves on to the next line: a run is a
walk through the list of the program's lines.  Likewise loading walks through the list of the
source's lines.  Both walks go through two lists in a row by going through the first, and through
the second if the first was gone through without a fault.  A run in a session then depends on the
list of the source's lines only.

## Main definitions

* `Primer.Program.walk` — executes lines one after the other, up to the first fault.
* `Primer.Session.runLines` — a run told from the lines of its source: the session after it, and the
  fault if there is one.

## Main results

* `Primer.Program.runFrom_eq_walk` — a run from any line on is a walk.
* `Primer.Program.walk_append`, `Primer.Program.loadLines_append` — two lists of lines in a row.
* `Primer.Session.run_eq_runLines` — a run in a session, told from the lines of its source.
* `Primer.Program.loadLines_bounds`, `Primer.Program.exists_line_of_walk_fault` — whatever a walk
  names is one of its lines.
-/

set_option relaxedAutoImplicit false
set_option autoImplicit false

namespace Primer

open Text

/-- The event that tells of the execution of a line. -/
def Line.event (l : Line) : Event := .execution l.number l.statement.kind l.raw

namespace Program

/-! ## Executing a list of lines -/

/-- `walk ls b` executes the lines `ls` one after the other on `b`, up to the first fault. -/
def walk : List Line → Bindings → Outcome Bindings Unit
  | [], b => ⟨b, [], .ok ()⟩
  | l :: ls, b =>
    match l.execute b with
    | .error fault => ⟨b, [l.event], .error fault⟩
    | .ok (_, b') => ⟨(walk ls b').state, l.event :: (walk ls b').log, (walk ls b').result⟩

/-- What a run logs at its end, given how it ended: that it came to the end of the program. -/
def farewell (steps exit : Nat) : Except Fault Unit → List Event
  | .ok () => [.programFinished steps exit]
  | .error _ => []

/-- For `m < p.length` the first of the lines in `p.lines.drop m` is `p.at? (m + 1)`, and its number
is `m + 1`. -/
lemma exists_drop_eq_cons {p : Program} {m : Nat} (h : m < p.length) :
    ∃ l, p.lines.drop m = l :: p.lines.drop (m + 1) ∧ p.at? (m + 1) = some l ∧
      l.number = m + 1 := by
  have hat : p.at? (m + 1) = some (p.lines.get ⟨m, h⟩) := List.getElem?_eq_getElem h
  exact ⟨_, List.drop_eq_getElem_cons h, hat, number_of_at? hat⟩

/-- **A run from any line on is a walk**: `p.runFrom (m + 1) steps b` is `walk (p.lines.drop m) b`
with the farewell behind its log.

**Proof sketch.** Induction on the number of lines that are left.  If there are none, the program
counter has left the program.  Otherwise it is at the first line that is left; the line leads on to
the one behind it, since its number is its place in the program. -/
lemma runFrom_eq_walk (p : Program) :
    ∀ (left m steps : Nat) (b : Bindings), m + left = p.length →
      p.runFrom (m + 1) steps b =
        ⟨(walk (p.lines.drop m) b).state,
          (walk (p.lines.drop m) b).log ++
            farewell (steps + left) (p.length + 1) (walk (p.lines.drop m) b).result,
          (walk (p.lines.drop m) b).result⟩ := by
  intro left
  induction left with
  | zero =>
    intro m steps b hm
    have hdrop : p.lines.drop m = [] := List.drop_eq_nil_of_le (by unfold length at hm; omega)
    rw [runFrom_eq, at?_eq_none_of_length_lt (by omega), hdrop, ← hm]
    rfl
  | succ left ih =>
    intro m steps b hm
    obtain ⟨l, hdrop, hl, hnumber⟩ := exists_drop_eq_cons (p := p) (m := m) (by omega)
    rw [runFrom_eq, hl, hdrop, walk]
    cases he : l.execute b with
    | error fault => simp [he, Line.event, hnumber, farewell]
    | ok found =>
      obtain ⟨next, b'⟩ := found
      obtain rfl : next = m + 1 + 1 := by rw [Line.next_of_execute he, hnumber]
      have hsteps : steps + 1 + left = steps + (left + 1) := by omega
      simp only [he, ih (m + 1) (steps + 1) b' (by omega), hsteps, Line.event, hnumber,
        List.cons_append]

/-- `p.run b` is `walk p.lines b` with the farewell behind its log. -/
lemma run_eq_walk (p : Program) (b : Bindings) :
    p.run b = ⟨(walk p.lines b).state,
      (walk p.lines b).log ++ farewell p.length (p.length + 1) (walk p.lines b).result,
      (walk p.lines b).result⟩ := by
  have h := runFrom_eq_walk p p.length 0 0 b (by omega)
  rwa [List.drop_zero, Nat.zero_add, Nat.zero_add] at h

/-! ## Two lists in a row -/

/-- `walk (ls ++ ls') b` is `walk ls b`, followed by `walk ls'` if that was without a fault.

**Proof sketch.** Induction on `ls`.  A fault of the first line ends both walks.  Otherwise the
hypothesis holds for the bindings after it, and its event stands in front on both sides. -/
lemma walk_append (ls ls' : List Line) (b : Bindings) :
    walk (ls ++ ls') b =
      match (walk ls b).result with
      | .error fault => ⟨(walk ls b).state, (walk ls b).log, .error fault⟩
      | .ok () =>
        ⟨(walk ls' (walk ls b).state).state, (walk ls b).log ++ (walk ls' (walk ls b).state).log,
          (walk ls' (walk ls b).state).result⟩ := by
  induction ls generalizing b with
  | nil => rfl
  | cons l ls ih =>
    rw [List.cons_append, walk, walk]
    cases he : l.execute b with
    | error fault => rfl
    | ok found =>
      obtain ⟨next, b'⟩ := found
      simp only [ih b']
      cases (walk ls b').result <;> rfl

/-- `loadLines` of `texts ++ texts'` goes on to `texts'`, with the labels that `texts` leave, if
`texts` are loaded without a fault.

**Proof sketch.** Induction on `texts`.  If the first text is refused, both sides stop
there. Otherwise the hypothesis holds for the labels that it leaves, and the line stands in front of
what is loaded on both sides. -/
lemma loadLines_append (number : Nat) (texts texts' : List Text) (labels : Labels) :
    loadLines number (texts ++ texts') labels =
      match (loadLines number texts labels).result with
      | .error fault =>
        ⟨(loadLines number texts labels).state, (loadLines number texts labels).log, .error fault⟩
      | .ok ls =>
        let rest := loadLines (number + texts.length) texts' (loadLines number texts labels).state
        ⟨rest.state, (loadLines number texts labels).log ++ rest.log,
          rest.result.map (ls ++ ·)⟩ := by
  induction texts generalizing number labels with
  | nil =>
    simp only [List.nil_append, loadLines, List.length_nil, Nat.add_zero]
    cases h : (loadLines number texts' labels).result <;> simp [Except.map, ← h]
  | cons text texts ih =>
    have hnumber : number + (text :: texts).length = number + 1 + texts.length := by
      rw [List.length_cons]
      omega
    simp only [List.cons_append, loadLines, hnumber]
    cases (Line.classify number (upper text) labels).result with
    | error fault => rfl
    | ok classified =>
      cases classified with
      | none => rfl
      | some line =>
        simp only [ih]
        cases (loadLines (number + 1) texts _).result with
        | error fault => rfl
        | ok ls =>
          simp only [Except.map, List.append_assoc]
          cases (loadLines (number + 1 + texts.length) texts' _).result <;> rfl

end Program

/-! ## Runs in a session -/

open Program in
/-- `s.runLines texts` is a run of the lines `texts`: the session after it, and the fault if there
is one.  The lines are executed only if all of them could be loaded. -/
def Session.runLines (s : Session) (texts : List Text) : Session × Option Fault :=
  let loaded := loadLines 1 texts s.labels
  match loaded.result with
  | .error fault => ({ s with labels := loaded.state }, some fault)
  | .ok ls =>
    let walked := walk ls s.bindings
    (⟨walked.state, loaded.state⟩, faultOf walked.result)

section RunLines

variable {s : Session} {texts : List Text}

/-- If `loadLines` fails, then `s.runLines texts` fails with the same fault, and leaves `s.bindings`
alone. -/
lemma Session.runLines_of_fault {fault : Fault}
    (h : (Program.loadLines 1 texts s.labels).result = .error fault) :
    s.runLines texts =
      ({ s with labels := (Program.loadLines 1 texts s.labels).state }, some fault) := by
  simp [runLines, h]

/-- If `loadLines` returns `ls`, then `s.runLines texts` goes on with `walk ls s.bindings`. -/
lemma Session.runLines_of_loaded {ls : List Line}
    (h : (Program.loadLines 1 texts s.labels).result = .ok ls) :
    s.runLines texts =
      (⟨(Program.walk ls s.bindings).state, (Program.loadLines 1 texts s.labels).state⟩,
        Program.faultOf (Program.walk ls s.bindings).result) := by
  simp [runLines, h]

end RunLines

/-- `s.run source` leaves the session, and has the fault, that `s.runLines (lines source)` tells. -/
lemma Session.run_eq_runLines (s : Session) (source : Text) :
    (s.run source).state = (s.runLines (lines source)).1 ∧
      Program.faultOf (s.run source).result = (s.runLines (lines source)).2 := by
  have hstate := Program.load_state source s.labels
  have hresult := Program.load_result source s.labels
  simp only [runLines]
  rw [← hresult, ← hstate]
  cases hload : (Program.load source s.labels).result with
  | error fault =>
    obtain ⟨hfault, hsession⟩ := Program.run_of_load_error hload
    rw [hfault, hsession]
    exact ⟨rfl, rfl⟩
  | ok p =>
    have hlines : Except.map Program.lines (.ok p : Except Fault Program) = .ok p.lines := rfl
    simp [Program.run_of_loaded hload, Program.run_eq_walk, hlines]

namespace Program

/-! ## What a walk names -/

/-- Either `label?` is a label that `labels` contains, or each label that it is, is not in
`labels`. -/
lemma clash_or_fresh (labels : Labels) (label? : Option Text) :
    (∃ label, label? = some label ∧ labels.contains label = true) ∨
      ∀ label, label? = some label → labels.contains label = false := by
  by_cases h : ∃ label, label? = some label ∧ labels.contains label = true
  · exact .inl h
  · refine .inr fun label hlabel => ?_
    by_contra hc
    exact h ⟨label, hlabel, by simpa using hc⟩

/-- `loadLines` adds entries to the labels whose lines are among those that are loaded; so is the
line of a fault.

**Proof sketch.** Induction on the texts.  A label that is taken adds nothing, and the fault
names line `number`.  Otherwise what is added for the first text has this number too, and so has a
fault for its body; the rest is loaded under numbers from `number + 1` on. -/
lemma loadLines_bounds (number : Nat) (texts : List Text) (labels : Labels) :
    (∃ new, (loadLines number texts labels).state.entries = labels.entries ++ new ∧
      ∀ e ∈ new, number ≤ e.2 ∧ e.2 < number + texts.length) ∧
    ∀ fault, (loadLines number texts labels).result = .error fault →
      number ≤ fault.line ∧ fault.line < number + texts.length := by
  induction texts generalizing number labels with
  | nil => exact ⟨⟨[], by simp [loadLines], by simp⟩, by simp [loadLines]⟩
  | cons text texts ih =>
    have hlength : number + (text :: texts).length = number + 1 + texts.length := by
      rw [List.length_cons]
      omega
    rw [hlength]
    rcases clash_or_fresh labels (Line.splitLabel (upper text)).1 with ⟨label, hlabel, hc⟩ | hfresh
    · rw [loadLines, Line.classify_of_clash hlabel hc]
      refine ⟨⟨[], by simp, by simp⟩, ?_⟩
      rintro fault ⟨⟩
      exact ⟨le_rfl, by simp only; omega⟩
    · have hown : ∀ e ∈ Line.recorded number (upper text), e.2 = number := by
        intro e he
        obtain ⟨label, -, rfl⟩ := Option.map_eq_some_iff.1 (Option.mem_toList.1 he)
        rfl
      rw [loadLines, Line.classify_of_fresh hfresh]
      cases hread : (Line.readBody number (upper text) (Line.splitLabel (upper text)).2).1 with
      | none =>
        refine ⟨⟨_, rfl, fun e he => ?_⟩, ?_⟩
        · rw [hown e he]
          omega
        · rintro fault ⟨⟩
          exact ⟨le_rfl, by simp only; omega⟩
      | some line =>
        obtain ⟨⟨new, hnew, hbounds⟩, hfault⟩ :=
          ih (number + 1) ⟨labels.entries ++ Line.recorded number (upper text)⟩
        refine ⟨⟨Line.recorded number (upper text) ++ new, ?_, ?_⟩, fun fault h => ?_⟩
        · rw [← List.append_assoc]
          exact hnew
        · intro e he
          rcases List.mem_append.1 he with he | he
          · rw [hown e he]
            omega
          · have := hbounds e he
            omega
        · have := hfault fault (by
            cases hr : (loadLines (number + 1) texts _).result <;> simp [hr, Except.map] at h ⊢
            exact h)
          omega

/-- The numbers of the lines that `loadLines` returns go from `number` on, one for each text. -/
lemma number_bounds_of_loadLines {number : Nat} {texts : List Text} {labels : Labels}
    {ls : List Line} (h : (loadLines number texts labels).result = .ok ls) {l : Line}
    (hl : l ∈ ls) : number ≤ l.number ∧ l.number < number + texts.length := by
  obtain ⟨i, hi⟩ := List.mem_iff_getElem?.1 hl
  have hnumber := number_loadLines h i l hi
  have hlength : ls.length = texts.length := by
    simpa using congrArg List.length (loadLines_lines h).1
  have hlt : i < ls.length := (List.getElem?_eq_some_iff.1 hi).1
  omega

/-- A fault of `l.execute b` names line `l.number`. -/
lemma line_of_execute_error {l : Line} {b : Bindings} {fault : Fault}
    (h : l.execute b = .error fault) : fault.line = l.number := by
  cases hd : l.statement.declaration? with
  | none => simp [Line.execute_of_inert hd] at h
  | some d =>
    cases d.fate b with
    | taken hb =>
      rw [Line.execute_eq_taken hd hb, Except.error.injEq] at h
      rw [← h]
    | invalid hb hv =>
      rw [Line.execute_eq_invalid hd hb hv, Except.error.injEq] at h
      rw [← h]
    | bound hb hv => simp [Line.execute_eq_ok hd hb hv] at h

/-- A fault of `walk ls b` names one of the lines `ls`. -/
lemma exists_line_of_walk_fault {ls : List Line} {b : Bindings} {fault : Fault}
    (h : (walk ls b).result = .error fault) : ∃ l ∈ ls, fault.line = l.number := by
  induction ls generalizing b with
  | nil => simp [walk] at h
  | cons l ls ih =>
    rw [walk] at h
    cases he : l.execute b with
    | error f =>
      rw [he] at h
      obtain rfl : f = fault := by simpa using h
      exact ⟨l, by simp, line_of_execute_error he⟩
    | ok found =>
      rw [he] at h
      obtain ⟨l', hl', hline⟩ := ih h
      exact ⟨l', by simp [hl'], hline⟩

end Program

end Primer
