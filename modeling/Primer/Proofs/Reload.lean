import Primer.Proofs.InertLines
import Primer.Proofs.Numerals
import Primer.Proofs.WriteOnce

/-!
# Variables that are written down and read back

The variables of a session can be written down as a source, with a declaration for each of them in
their order.  The source runs in a fresh session, which then has the same variables, in the same
order, and no labels.  This is so because of the shape that names have in a session: a name is an
identifier and its own capitals, so that the line it stands in is not changed by loading and is
taken for a declaration as a whole, and no two names are the same.

## Main definitions

* `Primer.Declaration.render` — a declaration as it is usually written.
* `Primer.Bindings.dump` — the variables as lines of a source.
* `Primer.Session.Restores` — a source that brings variables back in a fresh session.

## Main results

* `Primer.Line.classify_render` — the line of a declaration is classified as this declaration.
* `Primer.Program.loadLines_render`, `Primer.Program.walk_binding` — loading the lines, and
  executing what was loaded.
* `Primer.Session.dump_restores` — the variables of a session come back.
-/

set_option relaxedAutoImplicit false
set_option autoImplicit false

namespace Primer

open Text

/-! ## Numerals in a line -/

/-- The characters from `-` to `9` are untouched by upper case. -/
lemma Text.untouched_numeral : Untouched [(0x2D, 0x39)] := by decide +kernel

/-- `upper (ofInt i) = ofInt i`. -/
lemma Text.upper_ofInt (i : Int) : upper (ofInt i) = ofInt i := by
  refine upper_eq_self fun c hc => capital_of_untouched untouched_numeral ?_
  have hbounds := bounds_of_mem_ofInt hc
  simp only [Ranges.contains]
  rw [if_neg (by omega), if_pos hbounds.2]

/-- `ofInt i` has no colon. -/
lemma Text.colon_not_mem_ofInt (i : Int) : ':' ∉ ofInt i := by
  intro hc
  exact absurd (bounds_of_mem_ofInt hc).2 (by decide)

/-- `ofInt i` is a literal: its characters lie from `-` to `9`, where there are no blanks. -/
lemma Declaration.isLiteral_ofInt (i : Int) : IsLiteral (ofInt i) := by
  have houtside : ∀ r ∈ blank, r.2 < 45 ∨ 57 < r.1 := by decide
  refine ⟨ofInt_ne_nil i, fun c hc => ?_⟩
  by_contra hblank
  rw [Bool.not_eq_false] at hblank
  obtain ⟨r, hr, hle, hge⟩ := Ranges.exists_of_contains hblank
  have hbounds := bounds_of_mem_ofInt hc
  have := houtside r hr
  omega

/-! ## The line of a declaration -/

/-- `trim t = t` if `t` neither begins nor ends with a blank. -/
lemma Text.trim_eq_self {t : Text} (hfront : Stops isBlank t)
    (hback : ∀ c ∈ t.getLast?, isBlank c = false) : trim t = t := by
  have hstart : trimStart t = t := by
    cases t with
    | nil => rfl
    | cons c t => simp [trimStart, (stops_cons _ _ _).1 hfront]
  unfold trim
  rw [hstart]
  refine List.rdropWhile_eq_self_iff.2 fun hne => ?_
  rw [hback _ (List.getLast?_eq_getLast_of_ne_nil hne)]
  simp

/-- `dropReturn t = t` if `t` does not end in a blank. -/
lemma Text.dropReturn_eq_self {t : Text} (h : ∀ c ∈ t.getLast?, isBlank c = false) :
    dropReturn t = t := by
  refine if_neg fun hlast => ?_
  exact absurd (h '\r' hlast) (by decide)

/-- If the lines `ls` are not empty, and hold neither newlines nor carriage returns at their ends,
then `lines` cuts `terminated ls` and `joinLines ls` into `ls`. -/
lemma Text.lines_of_plain {ls : List Text} (h : ∀ l ∈ ls, '\n' ∉ l ∧ dropReturn l = l ∧ l ≠ []) :
    lines (terminated ls) = ls ∧ lines (joinLines ls) = ls := by
  constructor
  · rw [lines_terminated fun l hl => (h l hl).1, List.map_congr_left fun l hl => (h l hl).2.1,
      List.map_id']
  · rcases List.eq_nil_or_concat' ls with rfl | ⟨ls, last, rfl⟩
    · rfl
    · obtain ⟨hnewline, -, hne⟩ := h last (by simp)
      have hls : ∀ l ∈ ls, '\n' ∉ l ∧ dropReturn l = l := fun l hl =>
        ⟨(h l (by simp [hl])).1, (h l (by simp [hl])).2.1⟩
      rw [lines_joinLines_concat (fun l hl => (hls l hl).1) hnewline, if_neg hne,
        List.map_congr_left fun l hl => (hls l hl).2, List.map_id']

namespace Declaration

/-- A declaration as it is usually written, `LET name = literal`: with single spaces, and none
outside. -/
def render (d : Declaration) : Text := keyword ++ [' '] ++ d.name ++ [' ', '=', ' '] ++ d.literal

section Render

variable {d : Declaration}

/-- `d.render` is written as `d`, if `d.name` is a name and `d.literal` is a literal. -/
lemma written_render (hname : IsName d.name) (hliteral : IsLiteral d.literal) :
    d.Written d.render := by
  have hnone : Spacing [] := by simp [Spacing]
  have hone : Spacing [' '] := by simp [Spacing, isSpacing]
  have h := Written.intro hnone hone (by simp) hname hone hone hliteral hnone
  simpa [render, keyword] using h

/-- `c` is not in `d.render` if it cannot stand in a name, and is neither in the fixed parts nor in
the literal. -/
lemma not_mem_render {c : Char} (hkeyword : c ∉ keyword ++ [' ']) (hname : IsName d.name)
    (hchar : isNameChar c = false) (hequals : c ∉ [' ', '=', ' ']) (hliteral : c ∉ d.literal) :
    c ∉ d.render := by
  have hc : c ∉ d.name := fun h => by simp [(isName_iff.1 hname).2 c h] at hchar
  rw [render, List.mem_append, List.mem_append, List.mem_append, not_or, not_or, not_or]
  exact ⟨⟨⟨hkeyword, hc⟩, hequals⟩, hliteral⟩

/-- `d.render` does not end in a blank, since `d.literal` does not. -/
lemma isBlank_getLast?_render (hliteral : IsLiteral d.literal) :
    ∀ c ∈ d.render.getLast?, isBlank c = false := by
  intro c hc
  rw [render, List.getLast?_append_of_ne_nil _ hliteral.1] at hc
  exact hliteral.2 c (List.mem_of_getLast? hc)

/-- `upper d.render = d.render` if the name and the literal of `d` are in upper case. -/
lemma upper_render (hname : upper d.name = d.name) (hliteral : upper d.literal = d.literal) :
    upper d.render = d.render := by
  have hkeyword : upper (keyword ++ [' ']) = keyword ++ [' '] := by decide +kernel
  have hequals : upper [' ', '=', ' '] = [' ', '=', ' '] := by decide +kernel
  rw [render, upper_append, upper_append, upper_append, hname, hliteral, hkeyword, hequals]

end Render

/-- The declaration that binds a variable to its value. -/
def ofBinding (e : Text × Int32) : Declaration := ⟨e.1, ofInt e.2.toInt⟩

end Declaration

open Declaration in
/-- `classify` of `d.render` returns a line with the declaration `d`, and leaves `labels` alone.

**Proof sketch.** The line has no colon (`not_mem_render`) and no outer blanks, so that it is its
own body and has no label.  As a body it is written as `d` (`written_render`). -/
lemma Line.classify_render {d : Declaration} (hname : IsName d.name)
    (hliteral : IsLiteral d.literal) (hcolon : ':' ∉ d.literal) (number : Nat) (labels : Labels) :
    (classify number d.render labels).state = labels ∧
      (classify number d.render labels).result =
        .ok (some ⟨number, d.render, d.render, .declaration d⟩) := by
  have hfront : Stops isBlank d.render := by
    have hL : isBlank 'L' = false := by decide
    simpa [render, keyword] using hL
  -- without a colon and without outer blanks, the line is its own body
  have htrim := trim_eq_self hfront (isBlank_getLast?_render hliteral)
  have hsplit : splitLabel d.render = (none, d.render) := by
    rw [splitLabel_of_not_mem (not_mem_render (by decide) hname (by decide) (by decide) hcolon),
      htrim]
  have hread := (@readBody_eq_some_iff number d.render d.render _ hfront).2
    ⟨.declaration d, .declaration (written_render hname hliteral), rfl⟩
  rw [classify_of_fresh (by simp [hsplit])]
  simp [recorded, hsplit, hread]

/-! ## Variables as lines -/

/-- The variables as lines of a source: a declaration for each of them, in their order. -/
def Bindings.dump (b : Bindings) : List Text :=
  b.entries.map fun e => (Declaration.ofBinding e).render

namespace Program

open Declaration

/-- `loadLines` of the rendered declarations of `es` returns lines with these declarations, and
leaves `labels` alone.

**Proof sketch.** Induction on `es`.  The first rendered declaration is in upper case, since
its name and its numeral are (`upper_render`, `upper_ofInt`).  So it is classified as it stands, as
its declaration and with no label (`Line.classify_render`), and the others are loaded from the same
table under the next numbers. -/
lemma loadLines_render {es : List (Text × Int32)}
    (hes : ∀ e ∈ es, IsName e.1 ∧ upper e.1 = e.1) (number : Nat) (labels : Labels) :
    (loadLines number (es.map fun e => (ofBinding e).render) labels).state = labels ∧
      ∃ ls, (loadLines number (es.map fun e => (ofBinding e).render) labels).result = .ok ls ∧
        ls.map Line.statement = es.map fun e => .declaration (ofBinding e) := by
  induction es generalizing number with
  | nil => exact ⟨rfl, [], rfl, rfl⟩
  | cons e es ih =>
    obtain ⟨hname, hupper⟩ := hes e (by simp)
    obtain ⟨hstate, ls, hresult, hls⟩ := ih (fun e' he' => hes e' (by simp [he'])) (number + 1)
    have hraw : upper (ofBinding e).render = (ofBinding e).render :=
      upper_render hupper (upper_ofInt _)
    obtain ⟨hlabels, hclassify⟩ := Line.classify_render (d := ofBinding e) hname
      (isLiteral_ofInt _) (colon_not_mem_ofInt _) number labels
    simp only [List.map_cons, loadLines, hraw, hclassify, hlabels, hstate, hresult]
    exact ⟨trivial, _, rfl, by simp [hls]⟩

/-- If the lines `ls` declare the variables of `es`, and no name stands twice in `b` and `es`, then
`walk ls b` binds `es` behind the entries of `b`, and has no fault.

**Proof sketch.** Induction on `es`, for all `b`.  The first name is not in `b`, and its
numeral spells its value (`spells_ofInt`), so that executing the first line binds it behind the
entries of `b` (`Line.execute_eq_ok`).  The hypothesis holds for the bindings after it, since moving
the first variable of `es` to the end of `b` changes nothing of the names in a row. -/
lemma walk_binding {es : List (Text × Int32)} {ls : List Line} {b : Bindings}
    (hls : ls.map Line.statement = es.map fun e => .declaration (ofBinding e))
    (hnew : ((b.entries ++ es).map Prod.fst).Nodup) :
    (walk ls b).state = ⟨b.entries ++ es⟩ ∧ (walk ls b).result = .ok () := by
  induction es generalizing ls b with
  | nil =>
    obtain rfl := List.map_eq_nil_iff.1 hls
    exact ⟨by rw [List.append_nil]; rfl, rfl⟩
  | cons e es ih =>
    obtain ⟨l, ls, rfl, hl, hrest⟩ := List.map_eq_cons_iff.1 hls
    -- the name stands behind those of `b` in a list where no name stands twice
    have hfresh : b.contains e.1 = false := by
      rw [← Bool.not_eq_true, Table.contains_iff]
      simp only [List.map_append, List.map_cons, List.nodup_append] at hnew
      exact fun he => hnew.2.2 _ he _ (by simp) rfl
    have hexecute := Line.execute_eq_ok (l := l) (d := ofBinding e) (by rw [hl]; rfl) hfresh
      (spells_ofInt e.2)
    have hentries : (b.entries ++ [(e.1, e.2)]) ++ es = b.entries ++ e :: es := by simp
    obtain ⟨hstate, hresult⟩ := ih (b := ⟨b.entries ++ [(e.1, e.2)]⟩) hrest
      (by rw [hentries]; exact hnew)
    rw [hentries] at hstate
    rw [walk, hexecute]
    exact ⟨hstate, hresult⟩

end Program

namespace Session

open Program Declaration

/-- A source brings variables back: it runs without a fault in a fresh session, which then has
exactly these variables, in this order, and no labels. -/
def Restores (source : Text) (b : Bindings) : Prop :=
  (∃ p, (run {} source).result = .ok p) ∧ (run {} source).state.bindings.entries = b.entries ∧
    (run {} source).state.labels.entries = []

/-- If the lines of `source` are `b.dump`, for well-formed `b`, then `source` restores `b`. -/
lemma restores_of_lines {b : Bindings} (hb : b.WellFormed) {source : Text}
    (hlines : Text.lines source = b.dump) : Restores source b := by
  obtain ⟨hstate, hfault⟩ := run_eq_runLines {} source
  obtain ⟨hlabels, ls, hload, hls⟩ := loadLines_render hb.name 1 ({} : Labels)
  obtain ⟨hwalk, hresult⟩ := walk_binding (b := {}) hls hb.distinct
  rw [hlines, Bindings.dump, runLines_of_loaded hload] at hstate hfault
  rw [hresult] at hfault
  refine ⟨faultOf_eq_none_iff.1 hfault, ?_, ?_⟩
  · rw [hstate, hwalk]
    rfl
  · rw [hstate, hlabels]

/-- Each line of `b.dump`, for well-formed `b`, is not empty, and holds neither a newline nor a
carriage return at its end. -/
lemma line_of_mem_dump {b : Bindings} (hb : b.WellFormed) {l : Text} (hl : l ∈ b.dump) :
    '\n' ∉ l ∧ dropReturn l = l ∧ l ≠ [] := by
  obtain ⟨e, he, rfl⟩ := List.mem_map.1 hl
  have hliteral : IsLiteral (ofBinding e).literal := isLiteral_ofInt _
  have hnewline : '\n' ∉ (ofBinding e).literal := fun h =>
    absurd (hliteral.2 _ h) (by decide)
  exact ⟨not_mem_render (by decide) (hb.name e he).1 (by decide) (by decide) hnewline,
    dropReturn_eq_self (isBlank_getLast?_render hliteral), by simp [render]⟩

/-- **The variables of a session come back.**  Whatever was done in a session that was fresh before,
write down its variables as a source, with a line `LET name = value` for each of them in their
order, and a newline behind each line or between any two.  The source runs without a fault in a
fresh session, which then has the same variables in the same order, and no labels.

**Proof sketch.** The names in a session are identifiers in upper case, and no two are the same
(`wellFormed_afterAll`).  So the lines of the source are those that were written down, each is
loaded as the declaration it is (`loadLines_render`), and executing the declarations binds the
variables in turn (`walk_binding`). -/
theorem dump_restores (steps : List Step) :
    Restores (terminated (afterAll {} steps).bindings.dump) (afterAll {} steps).bindings ∧
      Restores (joinLines (afterAll {} steps).bindings.dump) (afterAll {} steps).bindings := by
  have hb := (wellFormed_afterAll steps).bindings
  generalize (afterAll {} steps).bindings = b at hb
  obtain ⟨hterminated, hjoined⟩ := lines_of_plain fun l => line_of_mem_dump hb (l := l)
  exact ⟨restores_of_lines hb hterminated, restores_of_lines hb hjoined⟩

end Session

end Primer
