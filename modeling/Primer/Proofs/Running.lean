import Mathlib.Data.List.Forall2
import Primer.Proofs.Loading
import Primer.Proofs.Numerals

/-!
# Running

A run executes the lines of a program one after the other and stops at the first *faulty* line: one
that declares a variable again, or gives it something that is no number.  Which lines are faulty can
be said without running, since a variable exists if it was there before or if an earlier line
declares it.

## Main definitions

* `Primer.Program.Runs` — the loop of a run as a relation, with the lines that it visits.
* `Primer.Program.declarationAt`, `Primer.Program.declarationsUpTo` — the declarations of a program.
* `Primer.Program.Taken`, `Primer.Program.Faulty` — what can be wrong with a line.
* `Primer.Bindings.ExtendedBy` — bindings with further declarations carried out.
* `Primer.Declaration.Fate` — what becomes of a declaration.
* `Primer.Program.Ending` — how a run ends.

## Main results

* `Primer.Line.perform_eq_ok`, `Primer.Line.perform_eq_taken`, `Primer.Line.perform_eq_invalid` —
  what the statement of a line does, and with it executing the line.
* `Primer.Program.runs_runFrom` — a run goes through the loop, and its log tells the lines.
* `Primer.Program.execute_cases` — what a run does at one line.
* `Primer.Program.runFrom_ending` — a run from any line on, with the variables bound before.
* `Primer.Program.run_stops_at_first_faulty_line` — a run fails exactly at the first faulty line.

## Design

The loop is followed from an arbitrary line on.  Its invariant says that no earlier line is faulty,
and that the bindings are the initial ones extended by the declarations of the earlier lines.  The
program counter gets to the next line because a line's number is its place in the program.
-/

set_option relaxedAutoImplicit false
set_option autoImplicit false

namespace Primer

open Text

/-- The declaration that a statement is, if it is one. -/
def Statement.declaration? : Statement → Option Declaration
  | .declaration d => some d
  | _ => none

/-! ## Bindings -/

namespace Bindings

/-- The bindings `b'` are `b` followed by the variables that the declarations declare, in order and
with the values that their literals spell. -/
def ExtendedBy (b : Bindings) (ds : List Declaration) (b' : Bindings) : Prop :=
  ∃ new, b'.entries = b.entries ++ new ∧
    List.Forall₂ (fun d e => e.1 = d.name ∧ Spells d.literal e.2.toInt) ds new

/-- `b` extended by no declarations is `b`. -/
lemma extendedBy_nil (b : Bindings) : b.ExtendedBy [] b := ⟨[], by simp, .nil⟩

/-- If `b'` extends `b` by `ds`, and the literal of `d` spells the value of `v`, then `b'` with
`d.name` bound to `v` behind all others extends `b` by `ds ++ [d]`. -/
lemma ExtendedBy.concat {b b' : Bindings} {ds : List Declaration} {d : Declaration} {v : Int32}
    (h : b.ExtendedBy ds b') (hv : Spells d.literal v.toInt) :
    b.ExtendedBy (ds ++ [d]) ⟨b'.entries ++ [(d.name, v)]⟩ := by
  obtain ⟨new, hentries, hnew⟩ := h
  refine ⟨new ++ [(d.name, v)], by rw [hentries, List.append_assoc], ?_⟩
  exact List.rel_append hnew (.cons ⟨rfl, hv⟩ .nil)

/-- If `b'` extends `b` by `ds`, then the variables of `b'` are those of `b` and the names in
`ds`. -/
lemma ExtendedBy.contains_iff {b b' : Bindings} {ds : List Declaration} (h : b.ExtendedBy ds b')
    (name : Text) :
    b'.contains name = true ↔ b.contains name = true ∨ name ∈ ds.map Declaration.name := by
  obtain ⟨new, hentries, hnew⟩ := h
  have hnames : new.map Prod.fst = ds.map Declaration.name := by
    rw [← List.forall₂_eq_eq_eq, List.forall₂_map_left_iff, List.forall₂_map_right_iff]
    exact hnew.flip.imp fun _ _ he => he.1
  rw [Table.contains_of_entries_append hentries, hnames]

/-- The declarations determine the variables that `ExtendedBy` adds, since a literal spells one
number. -/
lemma ExtendedBy.eq_append {b b' : Bindings} {ds : List Declaration} {new : List (Text × Int32)}
    (h : b.ExtendedBy ds b')
    (hnew : List.Forall₂ (fun d e => e.1 = d.name ∧ Spells d.literal e.2.toInt) ds new) :
    b' = ⟨b.entries ++ new⟩ := by
  obtain ⟨new', hentries, hnew'⟩ := h
  have hsame : new' = new := by
    clear hentries
    induction hnew' generalizing new with
    | nil =>
      cases hnew
      rfl
    | cons hde _ ih =>
      cases hnew with
      | cons hde' hrest =>
        rw [ih hrest, Prod.ext (hde.1.trans hde'.1.symm) (hde.2.unique hde'.2)]
  exact Table.eq_of_entries (hsame ▸ hentries)

end Bindings

/-! ## Executing a line -/

/-- What becomes of a declaration on the bindings `b`.  The literal counts for new variables
only. -/
inductive Declaration.Fate (d : Declaration) (b : Bindings) : Prop
  /-- The variable exists. -/
  | taken (hb : b.contains d.name = true)
  /-- The variable is new, and the literal is no numeral. -/
  | invalid (hb : b.contains d.name = false) (hv : ¬ IsNumeral d.literal)
  /-- The variable is new, and it gets the value that the literal spells. -/
  | bound {v : Int32} (hb : b.contains d.name = false) (hv : Spells d.literal v.toInt)

/-- Each declaration `d` has one of the three fates on `b`. -/
lemma Declaration.fate (d : Declaration) (b : Bindings) : d.Fate b := by
  cases hb : b.contains d.name with
  | true => exact .taken hb
  | false =>
    by_cases hliteral : IsNumeral d.literal
    · obtain ⟨v, hv⟩ := isNumeral_iff.1 hliteral
      exact .bound hb hv
    · exact .invalid hb hliteral

namespace Line

/-- If `l.statement.declaration? = some d` then `l.statement` is the declaration `d`. -/
lemma statement_eq {l : Line} {d : Declaration} (h : l.statement.declaration? = some d) :
    l.statement = .declaration d := by
  cases hs : l.statement <;> rw [hs] at h <;> simp_all [Statement.declaration?]

/-- `perform` changes nothing on a line that declares nothing. -/
lemma perform_of_inert {l : Line} (h : l.statement.declaration? = none) (b : Bindings) :
    l.perform b = .ok b := by
  unfold perform
  split
  · rfl
  · rfl
  · next d hd => simp [hd, Statement.declaration?] at h

variable {l : Line} {d : Declaration} {b : Bindings}

/-- `perform` binds a new variable, whose literal spells the value of `v`, behind all others. -/
lemma perform_eq_ok {v : Int32} (hd : l.statement.declaration? = some d)
    (hb : b.contains d.name = false) (hv : Spells d.literal v.toInt) :
    l.perform b = .ok ⟨b.entries ++ [(d.name, v)]⟩ := by
  simp [perform, statement_eq hd, declare, hb, toInt32?_eq_some_iff.2 hv,
    Bindings.declare_of_not_contains hb, Except.mapError]

/-- `perform` does not declare a variable of `b` again, whatever its literal is. -/
lemma perform_eq_taken (hd : l.statement.declaration? = some d) (hb : b.contains d.name = true) :
    l.perform b = .error ⟨l.number, l.raw, .duplicateDeclaration d.name⟩ := by
  simp [perform, statement_eq hd, declare, hb, fault]

/-- `perform` does not bind a new variable to anything but a numeral. -/
lemma perform_eq_invalid (hd : l.statement.declaration? = some d)
    (hb : b.contains d.name = false) (hv : ¬ IsNumeral d.literal) :
    l.perform b = .error ⟨l.number, l.raw, .invalidLiteral d.name d.literal⟩ := by
  simp [perform, statement_eq hd, declare, hb, toInt32?_eq_none_iff.2 hv, fault]

/-- `execute` leads on to the next line as `perform` changes nothing (`perform_of_inert`). -/
lemma execute_of_inert (h : l.statement.declaration? = none) (b : Bindings) :
    l.execute b = .ok (l.number + 1, b) := by
  rw [execute, perform_of_inert h]
  rfl

@[inherit_doc perform_eq_ok]
lemma execute_eq_ok {v : Int32} (hd : l.statement.declaration? = some d)
    (hb : b.contains d.name = false) (hv : Spells d.literal v.toInt) :
    l.execute b = .ok (l.number + 1, ⟨b.entries ++ [(d.name, v)]⟩) := by
  rw [execute, perform_eq_ok hd hb hv]
  rfl

@[inherit_doc perform_eq_taken]
lemma execute_eq_taken (hd : l.statement.declaration? = some d) (hb : b.contains d.name = true) :
    l.execute b = .error ⟨l.number, l.raw, .duplicateDeclaration d.name⟩ := by
  rw [execute, perform_eq_taken hd hb]
  rfl

@[inherit_doc perform_eq_invalid]
lemma execute_eq_invalid (hd : l.statement.declaration? = some d)
    (hb : b.contains d.name = false) (hv : ¬ IsNumeral d.literal) :
    l.execute b = .error ⟨l.number, l.raw, .invalidLiteral d.name d.literal⟩ := by
  rw [execute, perform_eq_invalid hd hb hv]
  rfl

end Line

namespace Program

/-! ## The loop -/

/-- The loop of a run as a relation: from a program counter and bindings it visits lines, and ends
with bindings and a result.  A derivation is finite, so that whatever is related has ended. -/
inductive Runs (p : Program) : Nat → Bindings → List Nat → Bindings → Except Fault Unit → Prop
  /-- The program counter has left the program. -/
  | leave {pc : Nat} {b : Bindings} (hl : p.at? pc = none) : Runs p pc b [] b (.ok ())
  /-- The line has a fault. -/
  | stop {pc : Nat} {b : Bindings} {l : Line} {fault : Fault} (hl : p.at? pc = some l)
      (he : l.execute b = .error fault) : Runs p pc b [pc] b (.error fault)
  /-- The line is executed, and tells where to go on. -/
  | go {pc next : Nat} {b b' b'' : Bindings} {l : Line} {visited : List Nat}
      {result : Except Fault Unit} (hl : p.at? pc = some l) (he : l.execute b = .ok (next, b'))
      (hnext : Runs p next b' visited b'' result) : Runs p pc b (pc :: visited) b'' result

/-- The lines whose execution a log tells of. -/
def executed (log : List Event) : List Nat :=
  log.filterMap fun
    | .execution pc _ _ => some pc
    | _ => none

/-- `p.runFrom pc steps b` is a run of the loop `p.Runs` from `pc` and `b`, and visits the lines
whose execution its log tells of.

**Proof sketch.** Induction along the run itself: it leaves the program, stops at a fault, or goes
on with fewer lines to go. -/
lemma runs_runFrom (p : Program) (pc steps : Nat) (b : Bindings) :
    p.Runs pc b (executed (p.runFrom pc steps b).log) (p.runFrom pc steps b).state
      (p.runFrom pc steps b).result := by
  fun_induction runFrom p pc steps b with
  | case1 pc steps b hl => exact .leave hl
  | case2 pc steps b line hl event fault he => exact .stop hl he
  | case3 pc steps b line hl event next b' he _ others ih => exact .go hl he ih

/-! ## Faulty lines -/

/-- The declaration on the line with the given number, if it is one. -/
def declarationAt (p : Program) (n : Nat) : Option Declaration :=
  (p.at? n).bind fun l => l.statement.declaration?

/-- The declarations on the lines up to number `n`, in order. -/
def declarationsUpTo (p : Program) (n : Nat) : List Declaration :=
  (List.range' 1 n).filterMap p.declarationAt

/-- Before line `n` a variable exists: it is among the initial ones, or an earlier line declares
it. -/
def Taken (p : Program) (b : Bindings) (n : Nat) (name : Text) : Prop :=
  b.contains name = true ∨ ∃ m < n, (p.declarationAt m).map Declaration.name = some name

/-- Line `n` declares a variable that exists already, or its literal is no numeral. -/
def Faulty (p : Program) (b : Bindings) (n : Nat) : Prop :=
  ∃ d, p.declarationAt n = some d ∧ (p.Taken b n d.name ∨ ¬ IsNumeral d.literal)

instance (p : Program) (b : Bindings) (n : Nat) (name : Text) : Decidable (p.Taken b n name) :=
  inferInstanceAs (Decidable (_ ∨ _))

instance (p : Program) (b : Bindings) (n : Nat) : Decidable (p.Faulty b n) :=
  match h : p.declarationAt n with
  | none => isFalse (by simp [Faulty, h])
  | some d =>
    decidable_of_iff (p.Taken b n d.name ∨ ¬ IsNumeral d.literal) (by simp [Faulty, h])

/-- `p.declarationsUpTo (n + 1)` is `p.declarationsUpTo n` with the declaration on line `n + 1`, if
it is one, behind it. -/
lemma declarationsUpTo_succ (p : Program) (n : Nat) :
    p.declarationsUpTo (n + 1) = p.declarationsUpTo n ++ (p.declarationAt (n + 1)).toList :=
  filterMap_range'_succ p.declarationAt n

/-- The names in `p.declarationsUpTo n` are those that a line with a number below `n + 1`
declares. -/
lemma mem_declarationsUpTo_iff {p : Program} {n : Nat} {name : Text} :
    name ∈ (p.declarationsUpTo n).map Declaration.name ↔
      ∃ m < n + 1, (p.declarationAt m).map Declaration.name = some name := by
  rw [declarationsUpTo, List.map_filterMap, mem_filterMap_range'_iff rfl]

/-- If `b'` extends `b` by the declarations up to line `n`, then the variables taken before line
`n + 1` are those of `b'`. -/
lemma taken_iff {p : Program} {b b' : Bindings} {n : Nat}
    (h : b.ExtendedBy (p.declarationsUpTo n) b') (name : Text) :
    p.Taken b (n + 1) name ↔ b'.contains name = true := by
  rw [h.contains_iff, mem_declarationsUpTo_iff, Taken]

/-- If `load` returns `p`, then `p.declarationAt n = some d` if and only if the body of line `n` of
the source is written as `d`.

**Proof sketch.** A line has the statement that its body is written as (`written_of_load`), and
there is only one such statement (`Line.eq_of_written`). -/
lemma declarationAt_of_load {source : Text} {labels : Labels} {p : Program}
    (h : (load source labels).result = .ok p) (n : Nat) (d : Declaration) :
    p.declarationAt n = some d ↔
      ∃ raw, Source.lineAt source n = some raw ∧ d.Written (Line.splitLabel raw).2 := by
  rw [← raw_at?_of_load h, declarationAt]
  cases hl : p.at? n with
  | none => simp
  | some l =>
    have hst := written_of_load h hl
    simp only [Option.bind_some, Option.map_some, Option.some.injEq, exists_eq_left']
    constructor
    · intro hd
      rw [Line.statement_eq hd] at hst
      cases hst with
      | declaration hw => exact hw
    · intro hw
      rw [Line.eq_of_written (Line.splitLabel_snd_stops l.raw) hst (.declaration hw)]
      rfl

/-- `p.at? n = none` for `n` beyond the number of lines. -/
lemma at?_eq_none_of_length_lt {p : Program} {n : Nat} (h : p.length < n) : p.at? n = none := by
  obtain ⟨n, rfl⟩ : ∃ k, n = k + 1 := ⟨n - 1, by omega⟩
  exact List.getElem?_eq_none (Nat.lt_succ_iff.1 h)

/-- `p.Faulty b n` fails if `p` has no line `n`. -/
lemma not_faulty_of_at?_eq_none {p : Program} {b : Bindings} {n : Nat} (h : p.at? n = none) :
    ¬ p.Faulty b n := by
  rintro ⟨d, hd, -⟩
  simp [declarationAt, h] at hd

/-! ## How a run ends -/

/-- How a run of `p` on the bindings `b` ends: the bindings after it, the fault if there is one, and
the lines that were executed. -/
inductive Ending (p : Program) (b : Bindings) : Bindings → Option Fault → List Nat → Prop
  /-- No line is faulty, and all declarations are carried out. -/
  | finished {b' : Bindings} (hgood : ∀ n, ¬ p.Faulty b n)
      (hb : b.ExtendedBy (p.declarationsUpTo p.length) b') :
      Ending p b b' none (List.range' 1 p.length)
  /-- The first faulty line declares a variable that exists. -/
  | taken {b' : Bindings} {k : Nat} {l : Line} {d : Declaration} (hgood : ∀ m < k, ¬ p.Faulty b m)
      (hl : p.at? k = some l) (hd : l.statement.declaration? = some d)
      (htaken : p.Taken b k d.name) (hb : b.ExtendedBy (p.declarationsUpTo (k - 1)) b') :
      Ending p b b' (some ⟨k, l.raw, .duplicateDeclaration d.name⟩) (List.range' 1 k)
  /-- The first faulty line declares a new variable, and its literal is no number. -/
  | invalid {b' : Bindings} {k : Nat} {l : Line} {d : Declaration}
      (hgood : ∀ m < k, ¬ p.Faulty b m) (hl : p.at? k = some l)
      (hd : l.statement.declaration? = some d) (hnew : ¬ p.Taken b k d.name)
      (hv : ¬ IsNumeral d.literal) (hb : b.ExtendedBy (p.declarationsUpTo (k - 1)) b') :
      Ending p b b' (some ⟨k, l.raw, .invalidLiteral d.name d.literal⟩) (List.range' 1 k)

/-- **Executing the next line.**  Let `b'` extend `b` by the declarations up to line `m`.  If line
`m + 1` is not faulty, then `execute` leads on to line `m + 2` with bindings that extend `b` by the
declarations up to line `m + 1`.  If it is faulty, then `execute` fails with `duplicateDeclaration`
for a variable that is taken, and with `invalidLiteral` for one that is not.

**Proof sketch.** A line without a declaration changes nothing.  A declared variable is taken if and
only if the bindings have it (`taken_iff`), so that the fate of the declaration decides. -/
lemma execute_cases {p : Program} {b b' : Bindings} {m : Nat} {l : Line}
    (hl : p.at? (m + 1) = some l) (hb : b.ExtendedBy (p.declarationsUpTo m) b') :
    (∃ next, l.execute b' = .ok (m + 1 + 1, next) ∧ ¬ p.Faulty b (m + 1) ∧
      b.ExtendedBy (p.declarationsUpTo (m + 1)) next) ∨
    ∃ d, l.statement.declaration? = some d ∧
      ((p.Taken b (m + 1) d.name ∧
          l.execute b' = .error ⟨m + 1, l.raw, .duplicateDeclaration d.name⟩) ∨
        (¬ p.Taken b (m + 1) d.name ∧ ¬ IsNumeral d.literal ∧
          l.execute b' = .error ⟨m + 1, l.raw, .invalidLiteral d.name d.literal⟩)) := by
  have hat : p.declarationAt (m + 1) = l.statement.declaration? := by simp [declarationAt, hl]
  rw [← number_of_at? hl]
  cases hd : l.statement.declaration? with
  | none =>
    refine .inl ⟨b', Line.execute_of_inert hd b', ?_, ?_⟩
    · rintro ⟨d, hd', -⟩
      simp [number_of_at? hl, hat, hd] at hd'
    · rw [number_of_at? hl, declarationsUpTo_succ, hat, hd]
      simpa using hb
  | some d =>
    have htaken := taken_iff hb d.name
    rw [← number_of_at? hl] at htaken
    have hnew : b'.contains d.name = false → ¬ p.Taken b l.number d.name := fun hc h => by
      simp [htaken.1 h] at hc
    cases d.fate b' with
    | taken hc => exact .inr ⟨d, rfl, .inl ⟨htaken.2 hc, Line.execute_eq_taken hd hc⟩⟩
    | invalid hc hv => exact .inr ⟨d, rfl, .inr ⟨hnew hc, hv, Line.execute_eq_invalid hd hc hv⟩⟩
    | @bound v hc hv =>
      refine .inl ⟨_, Line.execute_eq_ok hd hc hv, ?_, ?_⟩
      · rintro ⟨d', hd', hfault⟩
        obtain rfl : d = d' := by simpa [number_of_at? hl, hat, hd] using hd'
        exact hfault.elim (hnew hc) fun h => h (isNumeral_iff.2 ⟨v, hv⟩)
      · rw [number_of_at? hl, declarationsUpTo_succ, hat, hd]
        exact hb.concat hv

/-- **Running from any line on.**  If none of the first `m` lines is faulty, and `b'` extends `b` by
their declarations, then `p.runFrom (m + 1) steps b'` comes to an `Ending` of `p` on `b`.

**Proof sketch.** Induction on the number of lines that are left.  If there are none, the program
counter has left the program.  The next line is executed (`execute_cases`): it stops the run, or the
hypothesis holds with one more line behind it and its declaration carried out. -/
lemma runFrom_ending {p : Program} {b : Bindings} :
    ∀ (left m steps : Nat) (b' : Bindings), m + left = p.length →
      (∀ n < m + 1, ¬ p.Faulty b n) → b.ExtendedBy (p.declarationsUpTo m) b' →
      Ending p b (p.runFrom (m + 1) steps b').state (faultOf (p.runFrom (m + 1) steps b').result)
        (List.range' 1 m ++ executed (p.runFrom (m + 1) steps b').log) := by
  intro left
  induction left with
  | zero =>
    intro m steps b' hm hgood hb
    obtain rfl : m = p.length := by omega
    rw [runFrom_eq, at?_eq_none_of_length_lt (Nat.lt_succ_self _)]
    have hall : ∀ n, ¬ p.Faulty b n := by
      intro n
      rcases Nat.lt_or_ge n (p.length + 1) with h | h
      · exact hgood n h
      · exact not_faulty_of_at?_eq_none (at?_eq_none_of_length_lt h)
    simpa [executed, faultOf] using Ending.finished hall hb
  | succ left ih =>
    intro m steps b' hm hgood hb
    obtain ⟨l, hl⟩ : ∃ l, p.at? (m + 1) = some l :=
      ⟨_, List.getElem?_eq_getElem (by simp only [length] at hm; omega)⟩
    have hrange : List.range' 1 m ++ [m + 1] = List.range' 1 (m + 1) := by
      rw [List.range'_1_concat, Nat.add_comm 1 m]
    rw [runFrom_eq, hl]
    rcases execute_cases hl hb with
      ⟨next, he, hline, hnext⟩ | ⟨d, hd, ⟨htaken, he⟩ | ⟨hnew, hv, he⟩⟩
    · have hrest := ih (m + 1) (steps + 1) next (by omega)
        (Nat.forall_lt_succ_right.2 ⟨hgood, hline⟩) hnext
      rw [← hrange, List.append_assoc] at hrest
      simpa [he, executed] using hrest
    · simpa [he, executed, faultOf, hrange] using Ending.taken hgood hl hd htaken hb
    · simpa [he, executed, faultOf, hrange] using Ending.invalid hgood hl hd hnew hv hb

/-- `p.run b` comes to an `Ending` of `p` on `b`. -/
lemma run_ending (p : Program) (b : Bindings) :
    Ending p b (p.run b).state (faultOf (p.run b).result) (executed (p.run b).log) := by
  have h := runFrom_ending (p := p) (b := b) p.length 0 0 b (by omega)
    (fun n hn => by
      obtain rfl : n = 0 := by omega
      exact not_faulty_of_at?_eq_none rfl)
    b.extendedBy_nil
  simpa [run] using h

/-- **A run stops exactly at the first faulty line**, and what was bound before stays bound.  For
every program that a source is loaded as, and all initial bindings, the loop comes to an end, and
the declarations are those that the source's lines are written as.  Without a faulty line the run
succeeds: the bindings are the initial ones followed by the variables of all declarations in order,
and every line is executed once and in order.  Otherwise the fault is that of the first faulty line:
its variable exists already, whatever its literal is, or else its literal is no number.  The
declarations before that line are carried out, and the lines up to it are executed once and in
order.

**Proof sketch.** By the ending of the run (`run_ending`).  The first faulty line is the one that
the ending names, and its text is that of the source's line (`raw_at?_of_load`). -/
theorem run_stops_at_first_faulty_line {source : Text} {labels : Labels} {p : Program}
    (h : (load source labels).result = .ok p) (b : Bindings) :
    p.length = (Text.lines source).length ∧
    (∀ n d, p.declarationAt n = some d ↔
      ∃ raw, Source.lineAt source n = some raw ∧ d.Written (Line.splitLabel raw).2) ∧
    p.Runs 1 b (executed (p.run b).log) (p.run b).state (p.run b).result ∧
    ((∀ n, ¬ p.Faulty b n) →
      (p.run b).result = .ok () ∧
      b.ExtendedBy (p.declarationsUpTo p.length) (p.run b).state ∧
      executed (p.run b).log = List.range' 1 p.length) ∧
    ∀ k, p.Faulty b k → (∀ m < k, ¬ p.Faulty b m) →
      ∃ raw d, Source.lineAt source k = some raw ∧ p.declarationAt k = some d ∧
        (p.Taken b k d.name →
          (p.run b).result = .error ⟨k, raw, .duplicateDeclaration d.name⟩) ∧
        (¬ p.Taken b k d.name →
          (p.run b).result = .error ⟨k, raw, .invalidLiteral d.name d.literal⟩) ∧
        b.ExtendedBy (p.declarationsUpTo (k - 1)) (p.run b).state ∧
        executed (p.run b).log = List.range' 1 k := by
  refine ⟨length_of_load h, declarationAt_of_load h, runs_runFrom p 1 0 b, ?_⟩
  have hraw : ∀ {k : Nat} {l : Line}, p.at? k = some l → Source.lineAt source k = some l.raw := by
    intro k l hl
    rw [← raw_at?_of_load h, hl, Option.map_some]
  have hending := run_ending p b
  generalize hf : faultOf (p.run b).result = found at hending
  generalize hv : executed (p.run b).log = visited at hending
  cases hending with
  | finished hgood hb =>
    refine ⟨fun _ => ⟨?_, hb, rfl⟩, fun k hk => absurd hk (hgood k)⟩
    cases hr : (p.run b).result with
    | error fault => simp [hr, faultOf] at hf
    | ok _ => rfl
  | @taken k l d hgood hl hd htaken hb =>
    have hat : p.declarationAt k = some d := by simp [declarationAt, hl, hd]
    have hfaulty : p.Faulty b k := ⟨d, hat, .inl htaken⟩
    refine ⟨fun hall => absurd hfaulty (hall k), fun n hn hn' => ?_⟩
    obtain rfl := eq_of_first hfaulty hgood hn hn'
    exact ⟨l.raw, d, hraw hl, hat, fun _ => eq_error_of_faultOf hf,
      fun hnew => absurd htaken hnew, hb, rfl⟩
  | @invalid k l d hgood hl hd hnew hliteral hb =>
    have hat : p.declarationAt k = some d := by simp [declarationAt, hl, hd]
    have hfaulty : p.Faulty b k := ⟨d, hat, .inr hliteral⟩
    refine ⟨fun hall => absurd hfaulty (hall k), fun n hn hn' => ?_⟩
    obtain rfl := eq_of_first hfaulty hgood hn hn'
    exact ⟨l.raw, d, hraw hl, hat, fun htaken => absurd htaken hnew,
      fun _ => eq_error_of_faultOf hf, hb, rfl⟩

/-- A program whose fourth line declares a variable again, and with a literal that is no number. -/
def redeclaring : Text := "let a = 5\n\nx: let b = 7\nlet a = foo\nlet c = 1".toList

/-- The redeclaration stops the run, not the literal behind it: the first three lines are carried
out, and the last line is not reached. -/
theorem run_redeclaring : ∃ p, (load redeclaring {}).result = .ok p ∧
    (p.run ⟨[("Z".toList, 1)]⟩).result =
      .error ⟨4, "LET A = FOO".toList, .duplicateDeclaration "A".toList⟩ ∧
    (p.run ⟨[("Z".toList, 1)]⟩).state = ⟨[("Z".toList, 1), ("A".toList, 5), ("B".toList, 7)]⟩ ∧
    executed (p.run ⟨[("Z".toList, 1)]⟩).log = [1, 2, 3, 4] := by
  have hline : Source.lineAt redeclaring 4 = some "LET A = FOO".toList := by decide +kernel
  have hcheck : ((load redeclaring {}).result.toOption.any fun p =>
      decide (p.Faulty ⟨[("Z".toList, 1)]⟩ 4 ∧
        (∀ m : Nat, m < 4 → ¬ p.Faulty ⟨[("Z".toList, 1)]⟩ m) ∧
        p.declarationsUpTo 3 = [⟨"A".toList, "5".toList⟩, ⟨"B".toList, "7".toList⟩] ∧
        p.declarationAt 4 = some ⟨"A".toList, "FOO".toList⟩ ∧
        p.Taken ⟨[("Z".toList, 1)]⟩ 4 "A".toList)) = true := by decide +kernel
  cases hr : (load redeclaring {}).result with
  | error fault =>
    rw [hr] at hcheck
    exact absurd hcheck (by simp [Except.toOption])
  | ok p =>
    rw [hr] at hcheck
    obtain ⟨hfaulty, hgood, hearlier, hd, htaken⟩ := of_decide_eq_true hcheck
    obtain ⟨-, -, -, -, hstop⟩ := run_stops_at_first_faulty_line hr ⟨[("Z".toList, 1)]⟩
    obtain ⟨raw, d, hraw, hd', hresult, -, hstate, hlog⟩ := hstop 4 hfaulty hgood
    obtain rfl := Option.some.inj (hline.symm.trans hraw)
    obtain rfl := Option.some.inj (hd.symm.trans hd')
    refine ⟨p, rfl, hresult htaken, ?_, hlog⟩
    rw [Nat.add_one_sub_one, hearlier] at hstate
    have hfive : Spells "5".toList (5 : Int32).toInt := toInt32?_eq_some_iff.1 (by decide)
    have hseven : Spells "7".toList (7 : Int32).toInt := toInt32?_eq_some_iff.1 (by decide)
    exact hstate.eq_append (.cons ⟨rfl, hfive⟩ (.cons ⟨rfl, hseven⟩ .nil))

end Program

end Primer
