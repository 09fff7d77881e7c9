import Mathlib.Data.List.DropRight
import Mathlib.Data.List.TakeWhile
import Mathlib.Tactic.Lemma
import Primer.Reading

/-!
# What the basic readings take

A greedy reading takes the longest run of characters of a class.  A run is the longest one exactly
if the text behind it *stops* the class: it is empty or begins with a character outside.  With this
notion every basic reading has a law in both directions, which says how the text is put together
when the reading succeeds, and that it succeeds on every text put together in this way.

## Main definitions

* `Primer.Text.Spacing` — a text of spaces and tabs.
* `Primer.Text.Stops` — a text that a run of characters cannot go on with.

## Main results

* `Primer.Reading.word_eq_ok_iff`, `Primer.Reading.spacing_eq_ok_iff`,
  `Primer.Reading.run_eq_ok_iff` — what the basic readings take, and when they succeed.
* `Primer.Reading.whole_eq_ok_iff` — a text as a whole is read.
* `Primer.Reading.word_eq_error_iff`, `Primer.Reading.spacing_eq_error_iff`,
  `Primer.Reading.run_eq_error_iff`, `Primer.Reading.whole_eq_error_iff` — where they stop.
* `Primer.Text.trim_stops` — a trimmed text does not begin with a blank.
-/

set_option relaxedAutoImplicit false
set_option autoImplicit false

namespace Primer

namespace Text

/-! ## Runs and what stops them -/

/-- A text of spaces and tabs. -/
def Spacing (t : Text) : Prop := ∀ c ∈ t, isSpacing c = true

/-- A text that a run of characters with `p` cannot go on with: it is empty, or its first character
does not have `p`. -/
def Stops (p : Char → Bool) (t : Text) : Prop := ∀ c ∈ t.head?, p c = false

@[simp]
lemma stops_nil (p : Char → Bool) : Stops p [] := by simp [Stops]

@[simp]
lemma stops_cons (p : Char → Bool) (c : Char) (t : Text) : Stops p (c :: t) ↔ p c = false := by
  simp [Stops]

/-- `Stops p t` is what the readings test: `t.head?.any p` is not true. -/
lemma stops_iff_head?_any {p : Char → Bool} {t : Text} : Stops p t ↔ ¬ t.head?.any p = true := by
  cases t <;> simp

/-- `t.dropWhile p` stops `p`: behind the longest run of `p` the run does not go on. -/
lemma stops_dropWhile (p : Char → Bool) (t : Text) : Stops p (t.dropWhile p) := by
  intro c hc
  have h := List.head?_dropWhile_not p t
  rw [Option.mem_def.1 hc] at h
  exact h

/-- A text that stops the class `p` stops every class `q` within `p`. -/
lemma Stops.mono {p q : Char → Bool} {t : Text} (hpq : ∀ c, q c = true → p c = true)
    (h : Stops p t) : Stops q t := by
  intro c hc
  have hp := h c hc
  by_contra hq
  rw [hpq c (by simpa using hq)] at hp
  exact absurd hp (by simp)

/-- `u ++ t` stops `p` if no character of `u` is in `p` and `t` stops `p`: the boundary condition
for an optional run `u`. -/
lemma stops_append {p : Char → Bool} {u t : Text} (hu : ∀ c ∈ u, p c = false)
    (ht : Stops p t) : Stops p (u ++ t) := by
  cases u with
  | nil => exact ht
  | cons c u => simpa using hu c (by simp)

/-- The longest run of `p` at the front of `u ++ t` is `u`, if `u` is in `p` and `t` stops `p`. -/
lemma takeWhile_append_of_stops {p : Char → Bool} {u t : Text} (hu : ∀ c ∈ u, p c = true)
    (ht : Stops p t) : (u ++ t).takeWhile p = u := by
  rw [List.takeWhile_append_of_pos hu]
  cases t with
  | nil => simp
  | cons c t => simp [(stops_cons p c t).1 ht]

@[inherit_doc takeWhile_append_of_stops]
lemma dropWhile_append_of_stops {p : Char → Bool} {u t : Text} (hu : ∀ c ∈ u, p c = true)
    (ht : Stops p t) : (u ++ t).dropWhile p = t := by
  rw [List.dropWhile_append_of_pos hu]
  cases t with
  | nil => simp
  | cons c t => simp [(stops_cons p c t).1 ht]

/-! ## Blanks -/

/-- `isSpacing` is within `isBlank`: spaces and tabs are blanks. -/
lemma isBlank_of_isSpacing {c : Char} (h : isSpacing c = true) : isBlank c = true := by
  simp only [isSpacing, Bool.or_eq_true, beq_iff_eq] at h
  rcases h with rfl | rfl <;> decide

/-- `skipSpacing t` is the part `u` of `t = w ++ u` behind the spacing `w` that `u` does not go on
with. -/
lemma skipSpacing_eq_iff {t u : Text} :
    skipSpacing t = u ↔ ∃ w, t = w ++ u ∧ Spacing w ∧ Stops isSpacing u := by
  constructor
  · rintro rfl
    exact ⟨t.takeWhile isSpacing, List.takeWhile_append_dropWhile.symm,
      fun _ hc => List.mem_takeWhile_imp hc, stops_dropWhile isSpacing t⟩
  · rintro ⟨w, rfl, hw, hu⟩
    exact dropWhile_append_of_stops hw hu

/-- `skipSpacing t` is empty if and only if `t` is spacing. -/
lemma skipSpacing_eq_nil_iff {t : Text} : skipSpacing t = [] ↔ Spacing t :=
  List.dropWhile_eq_nil_iff

/-- A second `skipSpacing` finds nothing to skip. -/
lemma skipSpacing_skipSpacing (t : Text) : skipSpacing (skipSpacing t) = skipSpacing t :=
  skipSpacing_eq_iff.2 ⟨[], rfl, by simp [Spacing], stops_dropWhile isSpacing t⟩

/-- `skipSpacing t` is spacing if and only if `t` is, since then nothing is left of it. -/
lemma spacing_skipSpacing_iff {t : Text} : Spacing (skipSpacing t) ↔ Spacing t := by
  rw [← skipSpacing_eq_nil_iff, skipSpacing_skipSpacing, skipSpacing_eq_nil_iff]

/-- `trim t` stops `isBlank`: it does not begin with a blank.

**Proof sketch.** Trimming at the end leaves a beginning of the text, so that a trimmed text that is
not empty begins as the text without its leading blanks does. -/
lemma trim_stops (t : Text) : Stops isBlank (trim t) := by
  have hp : trim t <+: trimStart t := List.rdropWhile_prefix isBlank (trimStart t)
  obtain ⟨w, hw⟩ := hp
  intro c hc
  apply stops_dropWhile isBlank t c
  change c ∈ (trimStart t).head?
  rw [← hw]
  cases hu : trim t with
  | nil => rw [hu] at hc; simp at hc
  | cons d u => rw [hu] at hc; simpa using hc

/-- `trim (t ++ [c])` is `trim t` for a blank `c`. -/
lemma trim_concat {c : Char} (hc : isBlank c = true) (t : Text) : trim (t ++ [c]) = trim t := by
  unfold trim trimStart
  rw [List.dropWhile_append]
  split
  · next h =>
    rw [List.isEmpty_iff.1 h]
    simp [hc]
  · simp [trimEnd, hc]

/-- `trim (w ++ t)` is `trim t` for blanks `w`. -/
lemma trim_append_of_isBlank {w : Text} (hw : ∀ c ∈ w, isBlank c = true) (t : Text) :
    trim (w ++ t) = trim t := by
  rw [trim, trim, trimStart, trimStart, List.dropWhile_append_of_pos hw]

end Text

/-! ## The basic readings -/

namespace Reading

open Text

/-- `x >>= f` succeeds with `b` if and only if `x` succeeds with some `a` and `f a` with `b`. -/
lemma bind_eq_ok_iff {ε α β : Type} {x : Except ε α} {f : α → Except ε β} {b : β} :
    (x >>= f) = .ok b ↔ ∃ a, x = .ok a ∧ f a = .ok b := by
  cases x with
  | error e => simp [bind, Except.bind]
  | ok a => simp [bind, Except.bind]

/-- `x >>= f` stops with `e` if and only if `x` does, or `x` succeeds with some `a` and `f a` stops
with `e`. -/
lemma bind_eq_error_iff {ε α β : Type} {x : Except ε α} {f : α → Except ε β} {e : ε} :
    (x >>= f) = .error e ↔ x = .error e ∨ ∃ a, x = .ok a ∧ f a = .error e := by
  cases x with
  | error e' => simp [bind, Except.bind]
  | ok a => simp [bind, Except.bind]

/-- `word w` succeeds exactly on the texts `w ++ rest`, and leaves `rest`. -/
lemma word_eq_ok_iff {w t rest : Text} : word w t = .ok rest ↔ t = w ++ rest := by
  rw [eq_comm (a := t), ← List.isPrefixOf?_eq_some_iff_append_eq]
  unfold word
  split
  · next r hr => simp [hr]
  · next hr => simp [hr]

/-- `word w` fails exactly on the texts that do not begin with `w`, and stops right at their
front. -/
lemma word_eq_error_iff {w t : Text} {stop : Stop} :
    word w t = .error stop ↔ ¬ w <+: t ∧ stop = ⟨.word, t⟩ := by
  cases hw : word w t with
  | ok rest =>
    obtain rfl := word_eq_ok_iff.1 hw
    simp
  | error stop' =>
    have hstop : stop' = ⟨.word, t⟩ := by
      unfold word at hw
      split at hw
      · simp at hw
      · exact (Except.error.inj hw).symm
    have hmissed : ¬ w <+: t := by
      rintro ⟨rest, hrest⟩
      rw [word_eq_ok_iff.2 hrest.symm] at hw
      simp at hw
    rw [hstop, Except.error.injEq, eq_comm, and_iff_right hmissed]

/-- `spacing` takes one or more spaces and tabs `w`, and all that there are. -/
lemma spacing_eq_ok_iff {t rest : Text} :
    spacing t = .ok rest ↔ ∃ w, t = w ++ rest ∧ w ≠ [] ∧ Spacing w ∧ Stops isSpacing rest := by
  constructor
  · intro h
    cases t with
    | nil => simp [spacing] at h
    | cons c t =>
      by_cases hc : isSpacing c = true
      · simp only [spacing, List.head?_cons, Option.any_some, hc, if_true, Except.ok.injEq] at h
        refine ⟨(c :: t).takeWhile isSpacing, ?_, by simp [hc],
          fun _ hd => List.mem_takeWhile_imp hd, h ▸ stops_dropWhile isSpacing (c :: t)⟩
        rw [← h]
        exact List.takeWhile_append_dropWhile.symm
      · simp [spacing, hc] at h
  · rintro ⟨w, rfl, hne, hw, hrest⟩
    obtain ⟨c, w', rfl⟩ := List.exists_cons_of_ne_nil hne
    have hc : isSpacing c = true := hw c (by simp)
    have hskip := skipSpacing_eq_iff.2 ⟨_, rfl, hw, hrest⟩
    simpa [spacing, hc] using hskip

/-- `spacing` fails exactly on the texts that stop `isSpacing`, right at their front. -/
lemma spacing_eq_error_iff {t : Text} {stop : Stop} :
    spacing t = .error stop ↔ Stops isSpacing t ∧ stop = ⟨.spacing, t⟩ := by
  rw [spacing, stops_iff_head?_any]
  split
  · next h => simp [h]
  · next h => rw [Except.error.injEq, eq_comm, and_iff_right h]

/-- `run p` takes one or more characters that satisfy `p`, and all that there are.

**Proof sketch.** `run p` takes `takeWhile p` and leaves `dropWhile p`.  These satisfy the
condition, and they are determined by it (`takeWhile_append_of_stops`,
`dropWhile_append_of_stops`). -/
lemma run_eq_ok_iff {p : Char → Bool} {t taken rest : Text} :
    run p t = .ok (taken, rest) ↔
      t = taken ++ rest ∧ taken ≠ [] ∧ (∀ c ∈ taken, p c = true) ∧ Stops p rest := by
  constructor
  · intro h
    cases t with
    | nil => simp [run] at h
    | cons c t =>
      by_cases hc : p c = true
      · simp only [run, List.head?_cons, Option.any_some, hc, if_true, Except.ok.injEq,
          Prod.mk.injEq] at h
        obtain ⟨rfl, rfl⟩ := h
        exact ⟨List.takeWhile_append_dropWhile.symm, by simp [hc],
          fun _ hd => List.mem_takeWhile_imp hd, stops_dropWhile p (c :: t)⟩
      · simp [run, hc] at h
  · rintro ⟨rfl, hne, hp, hrest⟩
    have htake := takeWhile_append_of_stops hp hrest
    have hdrop := dropWhile_append_of_stops hp hrest
    obtain ⟨c, taken, rfl⟩ := List.exists_cons_of_ne_nil hne
    have hfirst : (c :: taken ++ rest).head?.any p = true := by simp [hp c (by simp)]
    rw [run, if_pos hfirst, htake, hdrop]

/-- `run p` misses its run exactly where the first character does not satisfy `p`. -/
lemma run_eq_error_iff {p : Char → Bool} {t : Text} {stop : Stop} :
    run p t = .error stop ↔ Stops p t ∧ stop = ⟨.run, t⟩ := by
  rw [run, stops_iff_head?_any]
  split
  · next h => simp [h]
  · next h => rw [Except.error.injEq, eq_comm, and_iff_right h]

/-- `whole read t` is `value` if and only if `read` takes `value` off the front of `t` and leaves
only spacing.

**Proof sketch.** By cases on what `read` gives, and on what `skipSpacing` leaves of the
rest: nothing, and then the rest is spacing, or a character, and then it is not. -/
lemma whole_eq_ok_iff {α : Type} {read : Text → Except (List Stop) (α × Text)} {t : Text}
    {value : α} :
    whole read t = .ok value ↔ ∃ rest, read t = .ok (value, rest) ∧ Spacing rest := by
  unfold whole
  cases hr : read t with
  | error stops => simp
  | ok found =>
    obtain ⟨v, rest⟩ := found
    cases hs : skipSpacing rest with
    | nil =>
      have hrest := skipSpacing_eq_nil_iff.1 hs
      constructor
      · intro h
        exact ⟨rest, by simpa [hs] using h, hrest⟩
      · rintro ⟨rest', h, -⟩
        simp only [Except.ok.injEq, Prod.mk.injEq] at h
        simp [hs, h.1]
    | cons c u =>
      constructor
      · intro h
        simp [hs] at h
      · rintro ⟨rest', h, hsp⟩
        simp only [Except.ok.injEq, Prod.mk.injEq] at h
        rw [h.2, skipSpacing_eq_nil_iff.2 hsp] at hs
        exact absurd hs (by simp)

/-- `whole read t` fails if and only if `read` fails on `t`, or if it takes a value and leaves more
than spacing. -/
lemma whole_eq_error_iff {α : Type} {read : Text → Except (List Stop) (α × Text)} {t : Text}
    {e : Misread α} :
    whole read t = .error e ↔ (∃ stops, read t = .error stops ∧ e = .failed t stops) ∨
      ∃ value rest, read t = .ok (value, rest) ∧ ¬ Spacing rest ∧
        e = .leftover value (skipSpacing rest) := by
  constructor
  · intro h
    unfold whole at h
    split at h
    · next stops hr => exact .inl ⟨stops, hr, (Except.error.inj h).symm⟩
    · next value rest hr =>
      split at h
      · simp at h
      · next hne =>
        refine .inr ⟨value, rest, hr, fun hrest => hne ?_, (Except.error.inj h).symm⟩
        exact skipSpacing_eq_nil_iff.2 hrest
  · rintro (⟨stops, hr, rfl⟩ | ⟨value, rest, hr, hrest, rfl⟩)
    · simp [whole, hr]
    · rw [← skipSpacing_eq_nil_iff] at hrest
      simp only [whole, hr]

end Reading

end Primer
