import Primer.Line
import Primer.Text.Uppercase

/-!
# Programs

A program is the list of its lines, numbered from one.  It is loaded from a source text, which is
put into upper case line by line; loading stops at the first line that is no statement or whose
label is taken, and the labels recorded up to there stay.

## Main definitions

* `Primer.Program` — a program.
* `Primer.Program.at?` — the line with a given number.
* `Primer.Program.load` — loads a program from its source.
* `Primer.Program.listing` — the lines of a program as they are listed.

## Main results

* `Primer.Program.number_loadLines` — loaded lines are numbered in order.
-/

set_option relaxedAutoImplicit false
set_option autoImplicit false

namespace Primer

/-- A program: lines numbered from one. -/
structure Program where
  lines : List Line
  numbered : ∀ (i : Nat) (l : Line), lines[i]? = some l → l.number = i + 1

namespace Program

/-- The number of lines. -/
def length (p : Program) : Nat := p.lines.length

/-- The line with the given number. -/
def at? (p : Program) : Nat → Option Line
  | 0 => none
  | n + 1 => p.lines[n]?

/-- The lines of the listing. -/
def listing (p : Program) : List Text := p.lines.map fun l => l.display ++ ['\n']

/-- The line with number `n` has that number. -/
theorem number_of_at? {p : Program} {n : Nat} {l : Line} (h : p.at? n = some l) :
    l.number = n := by
  cases n with
  | zero => simp [at?] at h
  | succ n => exact p.numbered n l h

/-- A line's number does not exceed the length of the program. -/
theorem le_length_of_at? {p : Program} {n : Nat} {l : Line} (h : p.at? n = some l) :
    n ≤ p.length := by
  cases n with
  | zero => simp [at?] at h
  | succ n =>
    obtain ⟨hn, -⟩ := List.getElem?_eq_some_iff.1 h
    exact hn

/-! ## Loading -/

/-- Loads lines one after the other, the first with the given number. -/
def loadLines : Nat → List Text → Labels → Outcome Labels (List Line)
  | _, [], labels => ⟨labels, [], .ok []⟩
  | number, text :: texts, labels =>
    let raw := Text.upper text
    let first := Line.classify number raw labels
    match first.result with
    | .error fault => ⟨first.state, first.log, .error fault⟩
    | .ok none => ⟨first.state, first.log, .error ⟨number, raw, .unrecognized⟩⟩
    | .ok (some line) =>
      let others := loadLines (number + 1) texts first.state
      ⟨others.state, first.log ++ others.log, others.result.map (line :: ·)⟩

/-- A classified line has the number that it was given. -/
theorem number_of_classify {number : Nat} {raw : Text} {labels : Labels} {l : Line}
    (h : (Line.classify number raw labels).result = .ok (some l)) : l.number = number := by
  simp only [Line.classify] at h
  split at h
  · simp at h
  · simp only [Line.readBody, Except.ok.injEq] at h
    split at h
    · simp at h
    · split at h <;> simp at h
      rw [← h]

/-- Loaded lines are numbered in order from the number given.

**Proof sketch.** Induction on the texts: the first line has its number by `number_of_classify`,
and the others count on from the next one. -/
theorem number_loadLines {texts : List Text} {number : Nat} {labels : Labels} {ls : List Line}
    (h : (loadLines number texts labels).result = .ok ls) (i : Nat) (l : Line)
    (hl : ls[i]? = some l) : l.number = number + i := by
  induction texts generalizing number labels ls i with
  | nil =>
    simp only [loadLines, Except.ok.injEq] at h
    simp [← h] at hl
  | cons text texts ih =>
    simp only [loadLines] at h
    split at h
    · simp at h
    · simp at h
    · next line hline =>
      generalize hrest : (loadLines (number + 1) texts _).result = rest at h
      cases rest with
      | error fault => simp [Except.map] at h
      | ok others =>
        simp only [Except.map, Except.ok.injEq] at h
        subst h
        cases i with
        | zero =>
          simp only [List.getElem?_cons_zero, Option.some.injEq] at hl
          rw [← hl, number_of_classify hline, Nat.add_zero]
        | succ i =>
          have := ih hrest i (by simpa using hl)
          omega

/-- Loads a program from its source. -/
def load (source : Text) (labels : Labels) : Outcome Labels Program :=
  let loaded := loadLines 1 (Text.lines source) labels
  match h : loaded.result with
  | .error fault => ⟨loaded.state, loaded.log, .error fault⟩
  | .ok ls =>
    ⟨loaded.state, loaded.log ++ [.programLoaded ls.length loaded.state.size],
      .ok ⟨ls, fun i l hl => by rw [number_loadLines h i l hl, Nat.add_comm]⟩⟩

end Program

end Primer
