import Primer.Program

/-!
# Execution

A run goes through a program with a program counter that starts at the first line and ends beyond
the last one.  Executing a line gives the number of the line to go on with; blank lines and
comments do nothing, and a declaration binds its variable.  A fault ends the run, and the variables
bound before it stay bound.

## Main definitions

* `Primer.Line.perform` — does what the statement of a line says.
* `Primer.Line.execute` — executes a line: the next program counter and the bindings after it.
* `Primer.Program.runFrom` — runs a program from a program counter on.
* `Primer.Program.run` — runs a program.

## Main results

* `Primer.Line.next_of_execute` — a line is followed by the next one, so that a run comes to an
  end.
* `Primer.Program.runFrom_eq` — a run one line at a time.
-/

set_option relaxedAutoImplicit false
set_option autoImplicit false

namespace Primer

namespace Line

/-- Binds the variable that a line declares.  That the variable is new is checked before its
value is looked at. -/
def declare (l : Line) (d : Declaration) (b : Bindings) : Except Fault Bindings :=
  if b.contains d.name then .error (l.fault (.duplicateDeclaration d.name))
  else
    match Text.toInt32? d.literal with
    | none => .error (l.fault (.invalidLiteral d.name d.literal))
    | some value => (Bindings.declare b d.name value).mapError fun e => l.fault e.cause

/-- Does what the statement of a line says: the bindings after it. -/
def perform (l : Line) (b : Bindings) : Except Fault Bindings :=
  match l.statement with
  | .blank | .comment => .ok b
  | .declaration d => l.declare d b

/-- Executes a line: the number of the line to go on with, and the bindings after it. -/
def execute (l : Line) (b : Bindings) : Except Fault (Nat × Bindings) :=
  (l.perform b).map (l.number + 1, ·)

/-- After a line comes the line with the next number. -/
theorem next_of_execute {l : Line} {b b' : Bindings} {next : Nat}
    (h : l.execute b = .ok (next, b')) : next = l.number + 1 := by
  unfold execute at h
  cases hp : l.perform b with
  | error fault => simp [hp, Except.map] at h
  | ok bound => simp_all [Except.map]

end Line

namespace Program

/-- Each executed line leaves fewer lines to go. -/
theorem toGo_lt_of_execute {p : Program} {pc next : Nat} {l : Line} {b b' : Bindings}
    (hl : p.at? pc = some l) (he : l.execute b = .ok (next, b')) :
    p.length + 1 - next < p.length + 1 - pc := by
  have := Line.next_of_execute he
  have := number_of_at? hl
  have := le_length_of_at? hl
  omega

/-- Runs a program from a program counter on; `steps` counts the lines executed before. -/
def runFrom (p : Program) (pc steps : Nat) (b : Bindings) : Outcome Bindings Unit :=
  match hl : p.at? pc with
  | none => ⟨b, [.programFinished steps pc], .ok ()⟩
  | some line =>
    let event := Event.execution pc line.statement.kind line.raw
    match he : line.execute b with
    | .error fault => ⟨b, [event], .error fault⟩
    | .ok (next, b') =>
      have := toGo_lt_of_execute hl he
      let others := p.runFrom next (steps + 1) b'
      ⟨others.state, event :: others.log, others.result⟩
termination_by p.length + 1 - pc

/-- A run one line at a time: the equation of `runFrom` without its termination argument. -/
theorem runFrom_eq (p : Program) (pc steps : Nat) (b : Bindings) :
    p.runFrom pc steps b =
      match p.at? pc with
      | none => ⟨b, [.programFinished steps pc], .ok ()⟩
      | some line =>
        match line.execute b with
        | .error fault =>
          ⟨b, [.execution pc line.statement.kind line.raw], .error fault⟩
        | .ok (next, b') =>
          ⟨(p.runFrom next (steps + 1) b').state,
            .execution pc line.statement.kind line.raw :: (p.runFrom next (steps + 1) b').log,
            (p.runFrom next (steps + 1) b').result⟩ := by
  rw [runFrom]
  split
  · next hl => simp [hl]
  · next line hl =>
    split
    · next fault he => simp [hl, he]
    · next next b' he => simp [hl, he]

/-- Runs a program from its first line. -/
def run (p : Program) (b : Bindings) : Outcome Bindings Unit := p.runFrom 1 0 b

end Program

end Primer
