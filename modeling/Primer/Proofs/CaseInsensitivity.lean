import Primer.Proofs.Capitals
import Primer.Proofs.Loading
import Primer.Proofs.SourceLines

/-!
# Letters of either case

A source is cut into lines first, and each line is put into upper case then.  The other way round
comes to the same: newlines and carriage returns are left alone, and no letter turns into one.  So a
source in upper case has the lines of the source, in upper case, and since a second upper case
changes nothing, nothing that is done with a source depends on the case of its letters.

## Main results

* `Primer.Text.lines_upper` — the lines of a source in upper case.
* `Primer.Program.loadLines_congr` — loading looks at the lines in upper case only.
* `Primer.Session.run_case_insensitive` — sources that are the same in upper case.
-/

set_option relaxedAutoImplicit false
set_option autoImplicit false

namespace Primer

namespace Text

/-! ## Lines in upper case -/

/-- `upper` of terminated lines `ls` terminates the lines `upper l` for `l` in `ls`. -/
lemma upper_terminated (ls : List Text) : upper (terminated ls) = terminated (ls.map upper) := by
  have hnewline : capital '\n' = ['\n'] := capital_of_isBlank (by decide)
  induction ls with
  | nil => rfl
  | cons l ls ih =>
    have hrest : upper ('\n' :: terminated ls) = '\n' :: upper (terminated ls) := by
      simp [upper, hnewline]
    rw [terminated_cons, upper_append, hrest, ih, List.map_cons, terminated_cons]

/-- `dropReturn` and `upper` commute.

**Proof sketch.** A carriage return at the end stays there.  Any other last character has a capital,
and there is no carriage return in it. -/
lemma dropReturn_upper (l : Text) : dropReturn (upper l) = upper (dropReturn l) := by
  have hblank : isBlank '\r' = true := by decide
  rcases List.eq_nil_or_concat' l with rfl | ⟨l, c, rfl⟩
  · rfl
  · have hupper : upper (l ++ [c]) = upper l ++ capital c := by simp [upper]
    by_cases hc : c = '\r'
    · rw [hupper, hc, capital_of_isBlank hblank]
      simp [dropReturn]
    · have hlast : (upper l ++ capital c).getLast? ≠ some '\r' := by
        rw [List.getLast?_append_of_ne_nil _ (capital_ne_nil c)]
        intro h
        exact hc ((mem_capital_iff untouched_blank hblank).1 (List.mem_of_getLast? h))
      have hkept : dropReturn (l ++ [c]) = l ++ [c] := by simp [dropReturn, hc]
      rw [hkept, hupper, dropReturn, if_neg hlast]

/-- **The lines of a text in upper case are its lines in upper case**: `lines` and `upper` commute,
line by line.

**Proof sketch.** The text is made of terminated lines and what stands behind the last newline
(`exists_terminated_append`).  In upper case it is made in the same way of the same parts in upper
case, since these have no newlines either. -/
lemma lines_upper (t : Text) : lines (upper t) = (lines t).map upper := by
  have hnewline : ∀ l : Text, '\n' ∉ l → '\n' ∉ upper l := fun l hl h =>
    hl ((mem_upper_iff_of_isBlank (by decide)).1 h)
  obtain ⟨ls, last, rfl, hls, hlast⟩ := exists_terminated_append t
  have hls' : ∀ l ∈ ls.map upper, '\n' ∉ l := by
    intro l hl
    obtain ⟨l, hmem, rfl⟩ := List.mem_map.1 hl
    exact hnewline l (hls l hmem)
  have hnil : upper last = [] ↔ last = [] := by
    cases last <;> simp [upper, capital_ne_nil]
  rw [upper_append, upper_terminated, lines_terminated_append hls', lines_terminated_append hls,
    lines_of_not_mem (hnewline last hlast), lines_of_not_mem hlast, List.map_append]
  congr 1
  · simp [dropReturn_upper]
  · by_cases h : last = []
    · simp [h, upper]
    · simp [h, hnil]

end Text

open Text

/-! ## Loading -/

namespace Program

/-- `loadLines` depends on its texts through `upper` only. -/
lemma loadLines_congr {texts texts' : List Text} (h : texts.map upper = texts'.map upper)
    (number : Nat) (labels : Labels) :
    loadLines number texts labels = loadLines number texts' labels := by
  induction texts generalizing texts' number labels with
  | nil =>
    obtain rfl : texts' = [] := by simpa using h.symm
    rfl
  | cons text texts ih =>
    cases texts' with
    | nil => simp at h
    | cons text' texts' =>
      rw [List.map_cons, List.map_cons, List.cons.injEq] at h
      simp only [loadLines, h.1, ih h.2]

/-- `load s labels = load t labels` if the lines of `s` and `t` are the same in upper case. -/
lemma load_congr {s t : Text} (h : (Text.lines s).map upper = (Text.lines t).map upper)
    (labels : Labels) : load s labels = load t labels := by
  have hload := loadLines_congr h 1 labels
  dsimp only [load]
  split
  · next fault hs =>
    rw [hload] at hs
    split
    · next fault' ht =>
      obtain rfl : fault = fault' := Except.error.inj (hs.symm.trans ht)
      rw [hload]
    · next ls ht => exact absurd (hs.symm.trans ht) (by simp)
  · next ls hs =>
    rw [hload] at hs
    split
    · next fault ht => exact absurd (hs.symm.trans ht) (by simp)
    · next ls' ht =>
      obtain rfl : ls = ls' := Except.ok.inj (hs.symm.trans ht)
      simp only [hload]

end Program

namespace Session

/-- `s.run t = s.run u` if the lines of `t` and `u` are the same in upper case. -/
lemma run_congr {t u : Text} (h : (Text.lines t).map upper = (Text.lines u).map upper)
    (s : Session) : s.run t = s.run u := by
  simp only [run, load, Program.load_congr h]

/-- **Sources that are the same in upper case.**  From the same labels they are loaded as the same
program, or with the same fault, and they leave the same labels.  In the same session they run to
the same result, and leave the same variables and the same labels.  In particular a source can be
put into upper case first.

**Proof sketch.** The lines of the sources are the same in upper case, since they are the lines of
the sources in upper case (`lines_upper`), and loading looks at nothing else (`Program.load_congr`).
A source in upper case stays as it is in upper case (`upper_upper`). -/
theorem run_case_insensitive :
    (∀ t u : Text, upper t = upper u →
      (∀ labels, Program.load t labels = Program.load u labels) ∧
        ∀ s : Session, s.run t = s.run u) ∧
    ∀ t : Text, (∀ labels, Program.load (upper t) labels = Program.load t labels) ∧
      ∀ s : Session, s.run (upper t) = s.run t := by
  have hsame : ∀ t u : Text, upper t = upper u →
      (∀ labels, Program.load t labels = Program.load u labels) ∧
        ∀ s : Session, s.run t = s.run u := by
    intro t u h
    have hlines : (Text.lines t).map upper = (Text.lines u).map upper := by
      rw [← lines_upper, ← lines_upper, h]
    exact ⟨Program.load_congr hlines, run_congr hlines⟩
  exact ⟨hsame, fun t => hsame (upper t) t (upper_upper t)⟩

/-- A source with letters that have two letters as their capital. -/
def mixed : Text := "straße: let ﬁ = 1\r\n# Maß\n".toList

/-- The same source in capitals. -/
def capitals : Text := "STRASSE: LET FI = 1\r\n# MASS\n".toList

/-- Both sources bind the same variable and record the same label. -/
theorem run_case_insensitive_mixed :
    upper mixed = upper capitals ∧ run {} mixed = run {} capitals ∧
    (run {} mixed).state = ⟨⟨[("FI".toList, 1)]⟩, ⟨[("STRASSE".toList, 1)]⟩⟩ := by
  have hupper : upper mixed = upper capitals := by decide +kernel
  have hrun : run {} mixed = run {} capitals := (run_case_insensitive.1 _ _ hupper).2 {}
  have hstate : (run {} capitals).state = ⟨⟨[("FI".toList, 1)]⟩, ⟨[("STRASSE".toList, 1)]⟩⟩ := by
    decide +kernel
  exact ⟨hupper, hrun, (congrArg Outcome.state hrun).trans hstate⟩

end Session

end Primer
