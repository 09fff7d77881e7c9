import Primer.Proofs.InertLines
import Primer.Proofs.LineOrder
import Primer.Proofs.Numerals
import Primer.Sheet

/-!
# The lines of a loaded program

A source that can be loaded is laid out line by line: each of its lines becomes the line of the
program with the same number, counted from one.  Its text is the source's line in upper case, its
body is what stands behind the first colon, and the statement tells what the body is.  In store the
lines stand behind a filler at place zero.  The filler is passed over wherever lines are asked for
by number, counted, gone through in order or listed.  In a fresh table the labels are in exact
correspondence with the lines that have a colon.

## Main definitions

* `Primer.Line.LoadedAs` — what a text is loaded as under a number.

## Main results

* `Primer.Statement.Written.eq_blank_iff`, `Primer.Statement.Written.eq_comment_iff`,
  `Primer.Statement.Written.eq_declaration_iff` — which statement a body is.
* `Primer.Program.exists_loadedAs` — the line with a given number.
* `Primer.Program.listing_of_load` — the listing of a loaded program.
* `Primer.Program.get?_load_eq_some_iff` — the labels of a loaded program.
* `Primer.Sheet.load_eq` — the lines in store are those of the program, behind the filler.
* `Primer.Sheet.load_lays_out_lines` — all of a loaded program.
-/

set_option relaxedAutoImplicit false
set_option autoImplicit false

namespace Primer

open Text

/-! ## What a body is -/

namespace Statement.Written

variable {st : Statement} {body : Text}

/-- A statement that is written as `body` is `blank` if and only if `body` is empty. -/
lemma eq_blank_iff (h : st.Written body) (hbody : Stops isBlank body) :
    st = .blank ↔ body = [] := by
  constructor
  · rintro rfl
    cases h
    rfl
  · rintro rfl
    exact Line.eq_of_written hbody h .blank

/-- A statement that is written as `body` is `comment` if and only if `body` begins with `#`. -/
lemma eq_comment_iff (h : st.Written body) (hbody : Stops isBlank body) :
    st = .comment ↔ ['#'] <+: body := by
  constructor
  · rintro rfl
    cases h with
    | comment t => exact ⟨t, rfl⟩
  · rintro ⟨t, rfl⟩
    exact Line.eq_of_written hbody h (.comment t)

/-- A statement that is written as `body` is the declaration `d` if and only if `d` is written as
`body`. -/
lemma eq_declaration_iff (h : st.Written body) (hbody : Stops isBlank body) {d : Declaration} :
    st = .declaration d ↔ d.Written body := by
  constructor
  · rintro rfl
    cases h with
    | declaration hd => exact hd
  · intro hd
    exact Line.eq_of_written hbody h (.declaration hd)

end Statement.Written

namespace Line

/-- The line that a text is loaded as under a number: it has this number and the text in upper case.
Its body is the trimmed text behind the first colon, or all of the trimmed text if there is none,
and its statement is what the body is. -/
structure LoadedAs (text : Text) (n : Nat) (l : Line) : Prop where
  number : l.number = n
  raw : l.raw = upper text
  body : (':' ∉ l.raw ∧ l.body = trim l.raw) ∨
    ∃ before behind, l.raw = before ++ ':' :: behind ∧ ':' ∉ before ∧ l.body = trim behind
  blank : l.statement = .blank ↔ l.body = []
  comment : l.statement = .comment ↔ ['#'] <+: l.body
  declaration : ∀ name literal, l.statement = .declaration ⟨name, literal⟩ ↔
    Declaration.Written ⟨name, literal⟩ l.body

/-- `splitLabel raw` finds `label` if and only if `label` is what stands before the first colon of
`raw`, trimmed. -/
lemma splitLabel_fst_eq_some_iff {raw label : Text} :
    (splitLabel raw).1 = some label ↔
      ∃ before behind, raw = before ++ ':' :: behind ∧ ':' ∉ before ∧ label = trim before := by
  constructor
  · intro h
    rcases splitLabel_cases raw with ⟨-, hsplit⟩ | ⟨before, behind, hraw, hbefore, hsplit⟩
    · simp [hsplit] at h
    · rw [hsplit, Option.some.injEq] at h
      exact ⟨before, behind, hraw, hbefore, h.symm⟩
  · rintro ⟨before, behind, rfl, hbefore, rfl⟩
    rw [splitLabel_append_colon hbefore]

end Line

namespace Program

variable {source : Text} {labels : Labels} {p : Program}

/-! ## Lines by number -/

/-- `p.at? n` is a line for the numbers `n` from `1` to `p.length`, and for no others. -/
lemma exists_at?_iff (p : Program) (n : Nat) : (∃ l, p.at? n = some l) ↔ 1 ≤ n ∧ n ≤ p.length := by
  constructor
  · rintro ⟨l, hl⟩
    refine ⟨?_, le_length_of_at? hl⟩
    cases n with
    | zero => simp [at?] at hl
    | succ n => omega
  · rintro ⟨hpos, hle⟩
    obtain ⟨m, rfl⟩ : ∃ m, n = m + 1 := ⟨n - 1, by omega⟩
    exact ⟨_, List.getElem?_eq_getElem hle⟩

/-- `p.lines` are `p.at? 1` to `p.at? p.length`, in order. -/
lemma map_some_lines (p : Program) : p.lines.map some = (List.range' 1 p.length).map p.at? := by
  refine List.ext_getElem (by simp [length]) fun i hi _ => ?_
  have hi' : i < p.lines.length := by simpa using hi
  simp [Nat.add_comm 1 i, at?, hi']

/-- If `load` returns `p`, then `p.at? n` is what line `n` of the source is loaded as.

**Proof sketch.** The text of the line is that of the source's line (`raw_at?_of_load`).  The body
is split off the text, and the statement is what the body is written as (`loadLines_lines`); a body
is written as one statement only. -/
lemma exists_loadedAs (h : (load source labels).result = .ok p) {n : Nat} {l : Line}
    (hl : p.at? n = some l) :
    ∃ text, (Text.lines source)[n - 1]? = some text ∧ l.LoadedAs text n := by
  have hraw := raw_at?_of_load h n
  obtain ⟨hbody, hst⟩ := (loadLines_lines (lines_of_load h)).2 l (mem_lines_of_at? hl)
  have hstops : Stops isBlank l.body := hbody ▸ Line.splitLabel_snd_stops l.raw
  obtain ⟨m, rfl⟩ : ∃ m, n = m + 1 := ⟨n - 1, by have := (p.exists_at?_iff n).1 ⟨l, hl⟩; omega⟩
  rw [hl, Option.map_some, Source.lineAt, eq_comm, Option.map_eq_some_iff] at hraw
  obtain ⟨text, htext, hraw⟩ := hraw
  refine ⟨text, htext, number_of_at? hl, hraw.symm, ?_, hst.eq_blank_iff hstops,
    hst.eq_comment_iff hstops, fun name literal => hst.eq_declaration_iff hstops⟩
  rcases Line.splitLabel_cases l.raw with ⟨hcolon, hsplit⟩ | ⟨label, body, hsplit', hlabel, hsplit⟩
  · exact .inl ⟨hcolon, by rw [hbody, hsplit]⟩
  · exact .inr ⟨label, body, hsplit', hlabel, by rw [hbody, hsplit]⟩

/-- If `load` returns `p`, then `p.listing` has the lines of the source, numbered from one and in
upper case. -/
lemma listing_of_load (h : (load source labels).result = .ok p) :
    p.listing = ((Text.lines source).zipIdx 1).map fun t =>
      ofNat t.2 ++ "\t| ".toList ++ upper t.1 ++ ['\n'] := by
  have hlength : p.lines.length = (Text.lines source).length := length_of_load h
  refine List.ext_getElem (by simp [listing, hlength]) fun i hi _ => ?_
  have hi' : i < p.lines.length := by simpa [listing] using hi
  obtain ⟨text, htext, hl⟩ := exists_loadedAs h (n := i + 1) (List.getElem?_eq_getElem hi')
  obtain ⟨_, htext⟩ := List.getElem?_eq_some_iff.1 htext
  simp only [Nat.add_sub_cancel] at htext
  simp [listing, Line.display, hl.number, hl.raw, htext, Nat.add_comm 1 i]

/-- If `load source {}` returns `p`, then the label that it records for line `n` is what stands
before the first colon of `p.at? n`, trimmed.

**Proof sketch.** All labels of the source are recorded (`labels_of_load`), and no two lines carry
the same one.  So a label marks the line that carries it (`Source.get?_eq_some_iff`), and the raw
text of this line is that of `p.at? n` (`raw_at?_of_load`). -/
lemma get?_load_eq_some_iff (h : (load source {}).result = .ok p) {label : Text} {n : Nat} :
    (load source {}).state.get? label = some n ↔
      ∃ l before behind, p.at? n = some l ∧ l.raw = before ++ ':' :: behind ∧ ':' ∉ before ∧
        label = trim before := by
  have hgood := (load_ok_iff source {}).1 (by rw [h]; rfl)
  rw [Source.get?_eq_some_iff (labels_of_load h) (Source.not_bad_iff.1 hgood).1, Source.labelAt,
    ← raw_at?_of_load h]
  cases hl : p.at? n with
  | none => simp
  | some l => simp [Line.splitLabel_fst_eq_some_iff]

end Program

/-! ## Sheets -/

namespace Sheet

/-- `fill number cells texts labels` is `loadLines number texts labels`, with the lines behind
`cells`.

**Proof sketch.** Induction on the texts.  Both recursions classify the first text alike; `fill`
pushes the line before it goes on, and `loadLines` puts it in front afterwards. -/
lemma fill_eq (texts : List Text) (number : Nat) (cells : Array Line) (labels : Labels) :
    (fill number cells texts labels).state = (Program.loadLines number texts labels).state ∧
    (fill number cells texts labels).log = (Program.loadLines number texts labels).log ∧
    (fill number cells texts labels).result =
      (Program.loadLines number texts labels).result.map fun ls => ⟨cells ++ ls.toArray⟩ := by
  induction texts generalizing number cells labels with
  | nil => simp [fill, Program.loadLines, Except.map]
  | cons text texts ih =>
    simp only [fill, Program.loadLines]
    cases hfirst : (Line.classify number (upper text) labels).result with
    | error fault => exact ⟨rfl, rfl, rfl⟩
    | ok found =>
      cases found with
      | none => exact ⟨rfl, rfl, rfl⟩
      | some line =>
        obtain ⟨hstate, hlog, hresult⟩ :=
          ih (number + 1) (cells.push line) (Line.classify number (upper text) labels).state
        refine ⟨hstate, congrArg _ hlog, hresult.trans ?_⟩
        cases (Program.loadLines (number + 1) texts _).result with
        | error fault => rfl
        | ok ls => simp [Except.map]

/-- **Loading a sheet is loading a program**: `Sheet.load` leaves the labels and the log of
`Program.load`, and gives the sheet of its program. -/
lemma load_eq (source : Text) (labels : Labels) :
    (load source labels).state = (Program.load source labels).state ∧
    (load source labels).log = (Program.load source labels).log ∧
    (load source labels).result = (Program.load source labels).result.map ofProgram := by
  obtain ⟨hstate, hlog, hresult⟩ := fill_eq (Text.lines source) 1 #[filler] labels
  dsimp only [Program.load]
  split
  · next fault h =>
    rw [h] at hresult
    simp only [load, hresult, hstate, hlog, Except.map, and_self]
  · next ls h =>
    rw [h] at hresult
    simp [load, hresult, hstate, hlog, Except.map, ofProgram]

/-- If `load source labels` gives the sheet `s`, then `Program.load` gives a program `p` with
`s = ofProgram p`. -/
lemma exists_program_of_load {source : Text} {labels : Labels} {s : Sheet}
    (h : (load source labels).result = .ok s) :
    ∃ p, (Program.load source labels).result = .ok p ∧ s = ofProgram p := by
  rw [(load_eq source labels).2.2] at h
  cases hp : (Program.load source labels).result with
  | error fault => simp [hp, Except.map] at h
  | ok p =>
    rw [hp] at h
    exact ⟨p, rfl, (Except.ok.inj h).symm⟩

/-! ### The sheet of a program -/

variable (p : Program)

/-- The cells of `ofProgram p` are the filler at place zero, and `p.at? n` at place `n` behind
it. -/
lemma cells_ofProgram (n : Nat) :
    (ofProgram p).cells[n]? = if n = 0 then some filler else p.at? n := by
  cases n <;> simp [ofProgram, Program.at?]

/-- `Sheet.at?` passes the filler over: it gives the lines of the program by number. -/
lemma at?_ofProgram : (ofProgram p).at? = p.at? := by
  funext n
  rw [at?, cells_ofProgram]
  split_ifs with h
  · rw [h]
    rfl
  · rfl

/-- `Sheet.length` does not count the filler. -/
lemma length_ofProgram : (ofProgram p).length = p.length := by
  simp [length, ofProgram, Program.length]

/-- `Sheet.lines` begins behind the filler. -/
lemma lines_ofProgram : (ofProgram p).lines = p.lines := by
  simp [lines, ofProgram]

/-- `Sheet.listing` of `ofProgram p` is `p.listing`. -/
lemma listing_ofProgram : (ofProgram p).listing = p.listing := by
  rw [listing, lines_ofProgram, Program.listing]

/-- If `l.number` is not zero, then `l` is not listed as `filler` is: what stands before the first
character that is no digit is the number. -/
lemma display_ne_filler {l : Line} (h : l.number ≠ 0) :
    l.display ++ ['\n'] ≠ filler.display ++ ['\n'] := by
  have hdigits : ∀ (n : Nat) (t : Text),
      (ofNat n ++ "\t| ".toList ++ t ++ ['\n']).takeWhile Char.isDigit = ofNat n := by
    intro n t
    rw [List.append_assoc, List.append_assoc]
    exact takeWhile_append_of_stops (fun c => isDigit_of_mem_ofNat) (by simp [Char.isDigit])
  intro heq
  have hnumber : ofNat l.number = ofNat 0 := by
    rw [← hdigits l.number l.raw, ← hdigits 0 filler.raw]
    exact congrArg _ heq
  have hread := congrArg toNat? hnumber
  rw [toNat?_ofNat, toNat?_ofNat, Option.some.injEq] at hread
  exact h hread

/-- **A loaded program is its source, laid out line by line behind a filler.**  The filler stands at
place zero and the lines behind it, as many as the source has.  There is a line for every number
from one to this length and for no other; it has this number and the text of the source's line in
upper case, its body is what stands behind the first colon, trimmed, and its statement is what the
body is.  Going through the program gives these lines in order, so does listing it, and the filler
is among neither.  If no labels were known before, a label marks a line if and only if it is what
stands before the line's first colon, trimmed.

**Proof sketch.** The sheet is that of the program which the source is loaded as (`load_eq`), and
`at?`, `length`, `lines` and `listing` pass the filler over.  The lines by number are
`Program.exists_loadedAs`, and the listing is put together from them.  The labels are those of all
lines, since none of them was bad (`Program.get?_load_eq_some_iff`). -/
theorem load_lays_out_lines {source : Text} {labels : Labels} {s : Sheet}
    (h : (load source labels).result = .ok s) :
    s.cells.size = (Text.lines source).length + 1 ∧ s.cells[0]? = some filler ∧
    s.length = (Text.lines source).length ∧ (s.isEmpty = true ↔ Text.lines source = []) ∧
    (∀ n, (∃ l, s.at? n = some l) ↔ 1 ≤ n ∧ n ≤ s.length) ∧
    (∀ n l, s.at? n = some l →
      ∃ text, (Text.lines source)[n - 1]? = some text ∧ l.LoadedAs text n) ∧
    s.lines.map some = (List.range' 1 s.length).map s.at? ∧
    s.listing = ((Text.lines source).zipIdx 1).map (fun t =>
      ofNat t.2 ++ "\t| ".toList ++ upper t.1 ++ ['\n']) ∧
    ((∀ n, s.at? n ≠ some filler) ∧ filler ∉ s.lines ∧ filler.display ++ ['\n'] ∉ s.listing) ∧
    (labels = {} → ∀ label n, (load source labels).state.get? label = some n ↔
      (1 ≤ n ∧ n ≤ s.length) ∧ ∃ l before behind, s.at? n = some l ∧
        l.raw = before ++ ':' :: behind ∧ ':' ∉ before ∧ label = trim before) := by
  obtain ⟨p, hp, rfl⟩ := exists_program_of_load h
  have hlength := Program.length_of_load hp
  have hnumber : ∀ l ∈ p.lines, l.number ≠ 0 := by
    intro l hl
    obtain ⟨i, hi⟩ := List.getElem?_of_mem hl
    rw [p.numbered i l hi]
    omega
  simp only [at?_ofProgram, length_ofProgram, lines_ofProgram, isEmpty]
  refine ⟨?_, cells_ofProgram p 0, hlength, ?_, p.exists_at?_iff,
    fun n l hl => Program.exists_loadedAs hp hl, p.map_some_lines,
    (listing_ofProgram p).trans (Program.listing_of_load hp), ⟨?_, ?_, ?_⟩, ?_⟩
  · rw [← hlength]
    simp [ofProgram, Program.length]
  · rw [hlength, beq_iff_eq, List.length_eq_zero_iff]
  · intro n hn
    exact hnumber filler (Program.mem_lines_of_at? hn) rfl
  · exact fun hfiller => hnumber filler hfiller rfl
  · intro hlisted
    rw [listing_ofProgram, Program.listing, List.mem_map] at hlisted
    obtain ⟨l, hl, heq⟩ := hlisted
    exact display_ne_filler (hnumber l hl) heq
  · rintro rfl label n
    rw [(load_eq source {}).1, Program.get?_load_eq_some_iff hp, ← p.exists_at?_iff n]
    constructor
    · rintro ⟨l, before, behind, hl, hraw⟩
      exact ⟨⟨l, hl⟩, l, before, behind, hl, hraw⟩
    · rintro ⟨-, hlabel⟩
      exact hlabel

/-- A source with two labels, one of them on a comment with two more colons, and an empty line. -/
def annotated : Text := "top: let a = 1\r\n\n# Note: # x:y:".toList

/-- The lines are listed under their numbers, and the label of the comment ends at its first
colon. -/
theorem load_lays_out_lines_annotated : ∃ s, (load annotated {}).result = .ok s ∧
    s.cells[0]? = some filler ∧
    s.listing = ["1\t| TOP: LET A = 1\n".toList, "2\t| \n".toList,
      "3\t| # NOTE: # X:Y:\n".toList] ∧
    (load annotated {}).state.get? "# NOTE".toList = some 3 ∧
    ∃ l before behind, s.at? 3 = some l ∧ l.raw = before ++ ':' :: behind ∧ ':' ∉ before ∧
      "# NOTE".toList = trim before := by
  have hok : Program.faultOf (load annotated {}).result = none := by decide +kernel
  obtain ⟨s, hs⟩ := Program.faultOf_eq_none_iff.1 hok
  obtain ⟨-, hfiller, -, -, -, -, -, hlisting, -, hlabels⟩ := load_lays_out_lines hs
  have hget : (load annotated {}).state.get? "# NOTE".toList = some 3 := by decide +kernel
  exact ⟨s, hs, hfiller, hlisting.trans (by decide +kernel), hget, ((hlabels rfl _ _).1 hget).2⟩

end Sheet

end Primer
