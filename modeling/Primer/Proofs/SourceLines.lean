import Mathlib.Data.List.Basic
import Mathlib.Tactic.Lemma
import Primer.Text.Basic

/-!
# The lines of a source

A source is cut at its newlines, and a carriage return right before a newline goes with it.  Every
text is put together from terminated lines and what stands behind the last newline; the lines of a
text are read off these parts.  From this come the lines of two texts in a row, the lines of a text
made of lines, and what becomes of lines that are put together and cut again.

## Main definitions

* `Primer.Text.dropReturn` — a line without the carriage return at its end.
* `Primer.Text.terminated` — lines with a newline behind each of them.

## Main results

* `Primer.Text.exists_terminated_append` — how a text is put together.
* `Primer.Text.lines_terminated_append` — its lines.
* `Primer.Text.lines_append` — the lines of two texts in a row.
* `Primer.Text.lines_joinLines_concat` — lines put together and cut again.
-/

set_option relaxedAutoImplicit false
set_option autoImplicit false

namespace Primer

namespace Text

/-- A line without the carriage return at its end, if there is one. -/
def dropReturn (l : Text) : Text := if l.getLast? = some '\r' then l.dropLast else l

/-- Lines with a newline behind each of them. -/
def terminated (ls : List Text) : Text := ls.flatMap (· ++ ['\n'])

@[simp]
lemma terminated_nil : terminated [] = [] := rfl

@[simp]
lemma terminated_cons (l : Text) (ls : List Text) :
    terminated (l :: ls) = l ++ '\n' :: terminated ls := by simp [terminated]

/-! ## One line -/

/-- `dropReturn l` is `l` without at most one carriage return at its end. -/
lemma eq_dropReturn_or (l : Text) : l = dropReturn l ∨ l = dropReturn l ++ ['\r'] := by
  unfold dropReturn
  split
  · next h => exact .inr (List.dropLast_append_getLast? '\r' h).symm
  · exact .inl rfl

/-- The characters of `dropReturn l` are characters of `l`. -/
lemma mem_of_mem_dropReturn {c : Char} {l : Text} (h : c ∈ dropReturn l) : c ∈ l := by
  rcases eq_dropReturn_or l with heq | heq
  · rwa [heq]
  · rw [heq]
    exact List.mem_append_left _ h

/-- `dropReturn (c :: l)` keeps `c` in front, unless `c` is the only character and a carriage
return. -/
lemma dropReturn_cons {c : Char} {l : Text} (h : c ≠ '\r' ∨ l ≠ []) :
    dropReturn (c :: l) = c :: dropReturn l := by
  cases l with
  | nil =>
    have hc : c ≠ '\r' := by simpa using h
    simp [dropReturn, hc]
  | cons d l =>
    unfold dropReturn
    rw [List.getLast?_cons_cons]
    split <;> rfl

/-- In `lines (c :: t)` the character `c` goes in front of the first line of `t`, unless it is a
newline or a carriage return before one. -/
lemma lines_cons {c : Char} {t : Text} (hc : c ≠ '\n') (h : c ≠ '\r' ∨ t.head? ≠ some '\n') :
    lines (c :: t) = consFirst c (lines t) := by
  rw [lines]
  · rintro u rfl rfl
    simp at h
  · exact hc

/-- The first line of `l ++ '\n' :: t` is `dropReturn l`, if `l` has no newline, and the others are
the lines of `t`.

**Proof sketch.** Induction on the line.  Its characters go in front of the first line one by one,
but for a carriage return right before the newline, which is cut off with it. -/
lemma lines_line_append {l : Text} (hl : '\n' ∉ l) (t : Text) :
    lines (l ++ '\n' :: t) = dropReturn l :: lines t := by
  induction l with
  | nil => simp [lines, dropReturn]
  | cons c l ih =>
    rw [List.mem_cons, not_or] at hl
    by_cases h : c = '\r' ∧ l = []
    · obtain ⟨rfl, rfl⟩ := h
      simp [lines, dropReturn]
    · have hkept : c ≠ '\r' ∨ l ≠ [] := not_and_or.1 h
      have hhead : c ≠ '\r' ∨ (l ++ '\n' :: t).head? ≠ some '\n' := by
        refine hkept.imp_right fun hne => ?_
        obtain ⟨d, l, rfl⟩ := List.exists_cons_of_ne_nil hne
        have hd : d ≠ '\n' := fun h => hl.2 (by simp [h])
        simpa using hd
      rw [List.cons_append, lines_cons (Ne.symm hl.1) hhead, ih hl.2, dropReturn_cons hkept]
      rfl

/-- A text `l` without a newline has no line but itself, and none at all if it is empty. -/
lemma lines_of_not_mem {l : Text} (hl : '\n' ∉ l) : lines l = if l = [] then [] else [l] := by
  induction l with
  | nil => rfl
  | cons c l ih =>
    rw [List.mem_cons, not_or] at hl
    have hhead : l.head? ≠ some '\n' := fun h => hl.2 (List.mem_of_mem_head? h)
    rw [lines_cons (Ne.symm hl.1) (.inr hhead), ih hl.2]
    cases l <;> rfl

/-! ## Texts as terminated lines -/

/-- The lines of `terminated ls ++ t` are those of `ls`, without their carriage returns, and then
those of `t`. -/
lemma lines_terminated_append {ls : List Text} (hls : ∀ l ∈ ls, '\n' ∉ l) (t : Text) :
    lines (terminated ls ++ t) = ls.map dropReturn ++ lines t := by
  induction ls with
  | nil => rfl
  | cons l ls ih =>
    rw [terminated_cons, List.append_assoc, List.cons_append, lines_line_append (hls l (by simp)),
      ih fun l' hl' => hls l' (by simp [hl'])]
    rfl

/-- The lines of `terminated ls` are those of `ls`, without their carriage returns. -/
lemma lines_terminated {ls : List Text} (hls : ∀ l ∈ ls, '\n' ∉ l) :
    lines (terminated ls) = ls.map dropReturn := by
  have h := lines_terminated_append hls []
  simpa [lines] using h

/-- Every text is `terminated ls ++ last` for some lines `ls` and some `last`, all of them without a
newline. -/
lemma exists_terminated_append (t : Text) :
    ∃ ls last, t = terminated ls ++ last ∧ (∀ l ∈ ls, '\n' ∉ l) ∧ '\n' ∉ last := by
  induction t with
  | nil => exact ⟨[], [], by simp⟩
  | cons c t ih =>
    obtain ⟨ls, last, rfl, hls, hlast⟩ := ih
    by_cases hc : c = '\n'
    · exact ⟨[] :: ls, last, by simp [hc], by simpa using hls, hlast⟩
    · -- the character belongs to the first line, which may be the last one
      cases ls with
      | nil => exact ⟨[], c :: last, by simp, by simp, by simp [hlast, Ne.symm hc]⟩
      | cons l ls =>
        rw [List.forall_mem_cons] at hls
        refine ⟨(c :: l) :: ls, last, by simp, ?_, hlast⟩
        exact List.forall_mem_cons.2 ⟨by simp [hls.1, Ne.symm hc], hls.2⟩

/-- A text that is empty or ends in a newline is `terminated ls` for some lines `ls` without a
newline. -/
lemma exists_terminated {t : Text} (ht : t = [] ∨ t.getLast? = some '\n') :
    ∃ ls, t = terminated ls ∧ ∀ l ∈ ls, '\n' ∉ l := by
  obtain ⟨ls, last, rfl, hls, hlast⟩ := exists_terminated_append t
  suffices hnil : last = [] from ⟨ls, by simp [hnil], hls⟩
  by_contra hne
  rcases ht with h | h
  · exact hne (List.append_eq_nil_iff.1 h).2
  · rw [List.getLast?_append_of_ne_nil _ hne] at h
    exact hlast (List.mem_of_getLast? h)

/-- **The lines of `s ++ t` are those of `s` and then those of `t`**, if `s` is empty or ends in a
newline.

**Proof sketch.** The first text is made of terminated lines (`exists_terminated`), and these are
its lines whatever follows (`lines_terminated_append`). -/
lemma lines_append {s : Text} (hs : s = [] ∨ s.getLast? = some '\n') (t : Text) :
    lines (s ++ t) = lines s ++ lines t := by
  obtain ⟨ls, rfl, hls⟩ := exists_terminated hs
  rw [lines_terminated_append hls, lines_terminated hls]

/-- No member of `lines t` has a newline in it. -/
lemma newline_not_mem_of_mem_lines {t l : Text} (h : l ∈ lines t) : '\n' ∉ l := by
  obtain ⟨ls, last, rfl, hls, hlast⟩ := exists_terminated_append t
  rw [lines_terminated_append hls, List.mem_append, List.mem_map] at h
  rcases h with ⟨l', hl', rfl⟩ | h
  · exact fun hmem => hls l' hl' (mem_of_mem_dropReturn hmem)
  · rw [lines_of_not_mem hlast] at h
    split at h
    · simp at h
    · rwa [List.mem_singleton.1 h]

/-! ## Lines put together -/

/-- `joinLines (ls ++ [last])` is `terminated ls ++ last`: all lines but the last one have a newline
behind. -/
lemma joinLines_concat (ls : List Text) (last : Text) :
    joinLines (ls ++ [last]) = terminated ls ++ last := by
  induction ls with
  | nil => simp [joinLines]
  | cons l ls ih =>
    have hcons : joinLines (l :: (ls ++ [last])) = l ++ '\n' :: joinLines (ls ++ [last]) := by
      cases ls <;> simp [joinLines, List.intercalate]
    rw [List.cons_append, hcons, ih, terminated_cons, List.append_assoc, List.cons_append]

/-- Cutting `joinLines (ls ++ [last])` into lines gives `ls` without their carriage returns, and
`last` unless it is empty. -/
lemma lines_joinLines_concat {ls : List Text} {last : Text} (hls : ∀ l ∈ ls, '\n' ∉ l)
    (hlast : '\n' ∉ last) :
    lines (joinLines (ls ++ [last])) = ls.map dropReturn ++ if last = [] then [] else [last] := by
  rw [joinLines_concat, lines_terminated_append hls, lines_of_not_mem hlast]

end Text

end Primer
