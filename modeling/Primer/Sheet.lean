import Primer.Program

/-!
# Sheets

In store a program is a *sheet* of lines.  At place zero there is a filler, so that the line with
number `n` stands at place `n`.  The filler is neither executed nor counted nor listed; whoever asks
for lines has to pass it over.

## Main definitions

* `Primer.Sheet` — lines in store; `Primer.Sheet.filler` — what stands at place zero.
* `Primer.Sheet.load` — loads a sheet from its source, each line behind the lines before it.
* `Primer.Sheet.at?`, `Primer.Sheet.length`, `Primer.Sheet.isEmpty`, `Primer.Sheet.lines`,
  `Primer.Sheet.listing` — what can be asked.
* `Primer.Sheet.ofProgram` — the sheet of a program.
-/

set_option relaxedAutoImplicit false
set_option autoImplicit false

namespace Primer

/-- Lines in store, by place. -/
structure Sheet where
  cells : Array Line

namespace Sheet

/-- What stands at place zero. -/
def filler : Line := ⟨0, "# FILLER".toList, "# FILLER".toList, .comment⟩

/-- The sheet of a program: its lines behind the filler. -/
def ofProgram (p : Program) : Sheet := ⟨(filler :: p.lines).toArray⟩

/-! ## Loading -/

/-- Loads lines one after the other, the first with the given number, and puts each of them behind
`cells`. -/
def fill (number : Nat) (cells : Array Line) : List Text → Labels → Outcome Labels Sheet
  | [], labels => ⟨labels, [], .ok ⟨cells⟩⟩
  | text :: texts, labels =>
    let raw := Text.upper text
    let first := Line.classify number raw labels
    match first.result with
    | .error fault => ⟨first.state, first.log, .error fault⟩
    | .ok none => ⟨first.state, first.log, .error ⟨number, raw, .unrecognized⟩⟩
    | .ok (some line) =>
      let others := fill (number + 1) (cells.push line) texts first.state
      ⟨others.state, first.log ++ others.log, others.result⟩

/-- Loads a sheet from its source, beginning with the filler. -/
def load (source : Text) (labels : Labels) : Outcome Labels Sheet :=
  let filled := fill 1 #[filler] (Text.lines source) labels
  match filled.result with
  | .error fault => ⟨filled.state, filled.log, .error fault⟩
  | .ok sheet =>
    ⟨filled.state, filled.log ++ [.programLoaded (sheet.cells.size - 1) filled.state.size],
      .ok sheet⟩

/-! ## Asking for lines -/

/-- The line with the given number, which is not zero. -/
def at? (s : Sheet) (number : Nat) : Option Line :=
  if number = 0 then none else s.cells[number]?

/-- The number of lines, without the filler. -/
def length (s : Sheet) : Nat := s.cells.size - 1

/-- Whether there are no lines but the filler. -/
def isEmpty (s : Sheet) : Bool := s.length == 0

/-- The lines in order, without the filler. -/
def lines (s : Sheet) : List Line := s.cells.toList.drop 1

/-- The lines of the listing. -/
def listing (s : Sheet) : List Text := s.lines.map fun l => l.display ++ ['\n']

end Sheet

end Primer
