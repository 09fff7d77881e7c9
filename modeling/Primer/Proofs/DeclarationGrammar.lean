import Primer.Declaration
import Primer.Proofs.Scanning

/-!
# The grammar of declarations

A declaration is written as the word `LET`, a name, an equals sign and a literal.  Spaces and tabs
may stand before, between and behind these parts, and at least one has to stand between `LET` and
the name.  The parser takes every part greedily and never goes back, but this loses nothing: what
may follow a part never begins with a character that the part could go on with.

## Main definitions

* `Primer.Declaration.IsName`, `Primer.Declaration.IsLiteral` — the two parts that vary.
* `Primer.Declaration.Written` — a text is a way to write a declaration.

## Main results

* `Primer.Declaration.readName_eq_run` — the two runs of a name are one.
* `Primer.Declaration.read_eq_ok_iff` — what taking a declaration off the front of a text leaves.
* `Primer.Declaration.written_of_parse`, `Primer.Declaration.parse_of_written` — the parser is sound
  and complete for the grammar.
* `Primer.Declaration.parse_iff_written` — the parser accepts exactly the grammar, and no text is
  written for two declarations.
-/

set_option relaxedAutoImplicit false
set_option autoImplicit false

namespace Primer

namespace Declaration

open Text Reading

/-! ## The grammar -/

/-- A name: one or more letters, and then any letters, digits and underscores. -/
def IsName (t : Text) : Prop :=
  ∃ letters others, t = letters ++ others ∧ letters ≠ [] ∧
    (∀ c ∈ letters, isAlphabetic c = true) ∧
    ∀ c ∈ others, isAlphabetic c = true ∨ isNumeric c = true ∨ c = '_'

/-- A literal: one or more characters, none of them blank. -/
def IsLiteral (t : Text) : Prop := t ≠ [] ∧ ∀ c ∈ t, isBlank c = false

/-- The texts that a declaration is written as. -/
inductive Written : Declaration → Text → Prop
  | intro {name literal w₀ w₁ w₂ w₃ w₄ : Text} (h₀ : Spacing w₀) (h₁ : Spacing w₁)
      (h₁' : w₁ ≠ []) (hname : IsName name) (h₂ : Spacing w₂) (h₃ : Spacing w₃)
      (hliteral : IsLiteral literal) (h₄ : Spacing w₄) :
      Written ⟨name, literal⟩
        (w₀ ++ "LET".toList ++ w₁ ++ name ++ w₂ ++ "=".toList ++ w₃ ++ literal ++ w₄)

/-! ## The classes of characters do not meet -/

/-- `isSpacing` and `isNameChar` do not meet: neither a space nor a tab stands in a name. -/
lemma isNameChar_of_isSpacing {c : Char} (h : isSpacing c = true) : isNameChar c = false := by
  simp only [isSpacing, Bool.or_eq_true, beq_iff_eq] at h
  rcases h with rfl | rfl <;> decide

/-- `LET` stops `isSpacing`, whatever follows it. -/
lemma stops_keyword (t : Text) : Stops isSpacing (keyword ++ t) := by simp [keyword, isSpacing]

/-- The equals sign stops `isSpacing`, whatever follows it. -/
lemma stops_equals (t : Text) : Stops isSpacing (['='] ++ t) := by simp [isSpacing]

/-- A name stops `isSpacing`, whatever follows it. -/
lemma IsName.stops {name : Text} (h : IsName name) (t : Text) : Stops isSpacing (name ++ t) := by
  obtain ⟨letters, others, rfl, hne, hletters, -⟩ := h
  obtain ⟨c, letters, rfl⟩ := List.exists_cons_of_ne_nil hne
  have hc : isNameChar c = true := by simp [isNameChar, hletters c (by simp)]
  simp only [List.cons_append, stops_cons]
  by_contra hs
  rw [isNameChar_of_isSpacing (by simpa using hs)] at hc
  exact absurd hc (by simp)

/-- A literal stops `isSpacing`, whatever follows it. -/
lemma IsLiteral.stops {literal : Text} (h : IsLiteral literal) (t : Text) :
    Stops isSpacing (literal ++ t) := by
  obtain ⟨hne, hblank⟩ := h
  obtain ⟨c, literal, rfl⟩ := List.exists_cons_of_ne_nil hne
  have hc : Stops isBlank (c :: literal ++ t) := by simpa using hblank c (by simp)
  exact hc.mono fun _ => isBlank_of_isSpacing

/-- Spacing `w` and an equals sign stop `isNameChar`, so that a name ends before them. -/
lemma stops_isNameChar_equals {w : Text} (h : Spacing w) (t : Text) :
    Stops isNameChar (w ++ (['='] ++ t)) :=
  stops_append (fun c hc => isNameChar_of_isSpacing (h c hc))
    (by simp only [List.cons_append, stops_cons]; decide)

/-- Spacing `w` stops what is not blank, so that a literal ends before it. -/
lemma stops_of_spacing {w : Text} (h : Spacing w) : Stops (fun c => !isBlank c) w := by
  intro c hc
  simp [isBlank_of_isSpacing (h c (List.mem_of_mem_head? hc))]

/-! ## Names and literals -/

/-- `IsName t` holds if and only if `t` begins with a letter and all its characters satisfy
`isNameChar`.

**Proof sketch.** The letters at the front satisfy `isNameChar` too, so that all characters of a
name do.  Conversely the first letter of `t` alone can be taken for the letters, and the rest of `t`
for the others. -/
lemma isName_iff {t : Text} :
    IsName t ↔ (∃ c ∈ t.head?, isAlphabetic c = true) ∧ ∀ c ∈ t, isNameChar c = true := by
  have hclass : ∀ c, isNameChar c = true ↔
      isAlphabetic c = true ∨ isNumeric c = true ∨ c = '_' := by
    intro c
    simp [isNameChar, or_assoc]
  constructor
  · rintro ⟨letters, others, rfl, hne, hletters, hothers⟩
    obtain ⟨c, letters, rfl⟩ := List.exists_cons_of_ne_nil hne
    refine ⟨⟨c, by simp, hletters c (by simp)⟩, fun d hd => ?_⟩
    rcases List.mem_append.1 hd with hd | hd
    · exact (hclass d).2 (.inl (hletters d hd))
    · exact (hclass d).2 (hothers d hd)
  · rintro ⟨⟨c, hc, halpha⟩, hall⟩
    cases t with
    | nil => simp at hc
    | cons d t =>
      obtain rfl : d = c := by simpa using hc
      exact ⟨[d], t, rfl, by simp, by simpa using halpha,
        fun e he => (hclass e).1 (hall e (by simp [he]))⟩

/-- `isAlphabetic` is within `isNameChar`. -/
lemma isNameChar_of_isAlphabetic {c : Char} (h : isAlphabetic c = true) : isNameChar c = true := by
  simp [isNameChar, h]

/-- A text `t` that begins with a letter begins with a character of `isNameChar`. -/
lemma head?_any_isNameChar {t : Text} (h : t.head?.any isAlphabetic = true) :
    t.head?.any isNameChar = true := by
  obtain ⟨c, hc, halpha⟩ := (Option.any_eq_true _ _).1 h
  rw [hc, Option.any_some, isNameChar_of_isAlphabetic halpha]

/-- The two runs of `readName`, first `isAlphabetic` and then `isNameChar`, are one run of
`isNameChar` that begins with a letter.

**Proof sketch.** The run of letters is a part of the run of `isNameChar`.  So the second run goes
on where the first has ended, and both end where the one run ends. -/
lemma readName_eq_run (t : Text) :
    readName t = if t.head?.any isAlphabetic then run isNameChar t else .error ⟨.run, t⟩ := by
  have hletters : ∀ c ∈ t.takeWhile isAlphabetic, isNameChar c = true := fun c hc =>
    isNameChar_of_isAlphabetic (List.mem_takeWhile_imp hc)
  have hsplit : t.takeWhile isAlphabetic ++ t.dropWhile isAlphabetic = t :=
    List.takeWhile_append_dropWhile
  have htake : t.takeWhile isNameChar =
      t.takeWhile isAlphabetic ++ (t.dropWhile isAlphabetic).takeWhile isNameChar :=
    (congrArg _ hsplit).symm.trans (List.takeWhile_append_of_pos hletters)
  have hdrop : t.dropWhile isNameChar = (t.dropWhile isAlphabetic).dropWhile isNameChar :=
    (congrArg _ hsplit).symm.trans (List.dropWhile_append_of_pos hletters)
  unfold readName run
  split
  · next hfirst =>
    rw [if_pos (head?_any_isNameChar hfirst), htake, hdrop]
    rfl
  · rfl

/-- `readName` takes the name at the front of a text as far as it goes.

**Proof sketch.** By `readName_eq_run` and `run_eq_ok_iff`: what is taken begins with a letter
exactly if `t` does. -/
lemma readName_eq_ok_iff {t name rest : Text} :
    readName t = .ok (name, rest) ↔ t = name ++ rest ∧ IsName name ∧ Stops isNameChar rest := by
  have hhead : ∀ c taken, name = c :: taken → t = name ++ rest →
      t.head?.any isAlphabetic = isAlphabetic c := by
    rintro c taken rfl rfl
    rfl
  rw [readName_eq_run, isName_iff]
  constructor
  · intro h
    split at h
    · next hfirst =>
      obtain ⟨ht, hne, hall, hrest⟩ := run_eq_ok_iff.1 h
      obtain ⟨c, taken, rfl⟩ := List.exists_cons_of_ne_nil hne
      exact ⟨ht, ⟨⟨c, rfl, (hhead c taken rfl ht).symm.trans hfirst⟩, hall⟩, hrest⟩
    · simp at h
  · rintro ⟨ht, ⟨⟨c, hc, halpha⟩, hall⟩, hrest⟩
    obtain ⟨taken, rfl⟩ : ∃ taken, name = c :: taken := List.head?_eq_some_iff.1 hc
    rw [if_pos ((hhead c taken rfl ht).trans halpha)]
    exact run_eq_ok_iff.2 ⟨ht, by simp, hall, hrest⟩

/-- `readName` misses a name exactly where no letter comes first. -/
lemma readName_eq_error_iff {t : Text} {stop : Stop} :
    readName t = .error stop ↔ Stops isAlphabetic t ∧ stop = ⟨.run, t⟩ := by
  rw [readName_eq_run, stops_iff_head?_any]
  split
  · next h => simp [run, h, head?_any_isNameChar h]
  · next h => rw [Except.error.injEq, eq_comm, and_iff_right h]

/-- `readLiteral` takes the literal at the front of a text as far as it goes. -/
lemma readLiteral_eq_ok_iff {t literal rest : Text} :
    readLiteral t = .ok (literal, rest) ↔
      t = literal ++ rest ∧ IsLiteral literal ∧ Stops (fun c => !isBlank c) rest := by
  simp only [readLiteral, run_eq_ok_iff, IsLiteral, Bool.not_eq_true', and_assoc]

/-- `readLiteral` misses a literal exactly where a blank comes first, or nothing at all. -/
lemma readLiteral_eq_error_iff {t : Text} {stop : Stop} :
    readLiteral t = .error stop ↔ Stops (fun c => !isBlank c) t ∧ stop = ⟨.run, t⟩ := by
  rw [readLiteral, run_eq_error_iff]

/-! ## Declarations -/

/-- `read t` succeeds if and only if each part is read, with `t₁`, …, `t₄` left behind them. -/
lemma read_eq_ok_iff_parts {t rest : Text} {d : Declaration} :
    read t = .ok (d, rest) ↔ ∃ t₁ t₂ t₃ t₄,
      skipSpacing t = keyword ++ t₁ ∧ spacing t₁ = .ok t₂ ∧ readName t₂ = .ok (d.name, t₃) ∧
        skipSpacing t₃ = ['='] ++ t₄ ∧ readLiteral (skipSpacing t₄) = .ok (d.literal, rest) := by
  simp only [read, bind_eq_ok_iff, word_eq_ok_iff, Prod.exists]
  constructor
  · rintro ⟨t₁, h₁, t₂, h₂, name, t₃, h₃, t₄, h₄, literal, t₅, h₅, h⟩
    simp only [pure, Except.pure, Except.ok.injEq, Prod.mk.injEq] at h
    obtain ⟨rfl, rfl⟩ := h
    exact ⟨t₁, t₂, t₃, t₄, h₁, h₂, h₃, h₄, h₅⟩
  · rintro ⟨t₁, t₂, t₃, t₄, h₁, h₂, h₃, h₄, h₅⟩
    exact ⟨t₁, h₁, t₂, h₂, d.name, t₃, h₃, t₄, h₄, d.literal, rest, h₅, rfl⟩

/-- `read t` stops at the first part that is missed, with those before it read. -/
lemma read_eq_error_iff_parts {t : Text} {stop : Stop} :
    read t = .error stop ↔ word keyword (skipSpacing t) = .error stop ∨
      ∃ t₁, skipSpacing t = keyword ++ t₁ ∧ (spacing t₁ = .error stop ∨
      ∃ t₂, spacing t₁ = .ok t₂ ∧ (readName t₂ = .error stop ∨
      ∃ name t₃, readName t₂ = .ok (name, t₃) ∧ (word ['='] (skipSpacing t₃) = .error stop ∨
      ∃ t₄, skipSpacing t₃ = ['='] ++ t₄ ∧ readLiteral (skipSpacing t₄) = .error stop))) := by
  simp [read, bind_eq_error_iff, word_eq_ok_iff, pure, Except.pure]

/-- `read t` takes `d` and leaves `rest` if and only if `t` is spacing, `LET`, spacing, the name,
spacing, an equals sign, spacing, the literal and `rest`, and `rest` ends the literal.

**Proof sketch.** From left to right, put the parts together again.  From right to left, each part
is the longest that there is: spacing is stopped by `LET`, by a name, by the equals sign and by a
literal, and a name is stopped by spacing and by the equals sign. -/
lemma read_eq_ok_iff {t rest : Text} {d : Declaration} :
    read t = .ok (d, rest) ↔ ∃ w₀ w₁ w₂ w₃,
      t = w₀ ++ (keyword ++ (w₁ ++ (d.name ++ (w₂ ++ (['='] ++ (w₃ ++ (d.literal ++ rest))))))) ∧
        Spacing w₀ ∧ Spacing w₁ ∧ w₁ ≠ [] ∧ IsName d.name ∧ Spacing w₂ ∧ Spacing w₃ ∧
        IsLiteral d.literal ∧ Stops (fun c => !isBlank c) rest := by
  rw [read_eq_ok_iff_parts]
  constructor
  · rintro ⟨t₁, t₂, t₃, t₄, h₁, h₂, h₃, h₄, h₅⟩
    obtain ⟨w₀, rfl, hw₀, -⟩ := skipSpacing_eq_iff.1 h₁
    obtain ⟨w₁, rfl, hne, hw₁, -⟩ := spacing_eq_ok_iff.1 h₂
    obtain ⟨rfl, hname, -⟩ := readName_eq_ok_iff.1 h₃
    obtain ⟨w₂, rfl, hw₂, -⟩ := skipSpacing_eq_iff.1 h₄
    obtain ⟨h₅, hliteral, hrest⟩ := readLiteral_eq_ok_iff.1 h₅
    obtain ⟨w₃, rfl, hw₃, -⟩ := skipSpacing_eq_iff.1 h₅
    exact ⟨w₀, w₁, w₂, w₃, rfl, hw₀, hw₁, hne, hname, hw₂, hw₃, hliteral, hrest⟩
  · rintro ⟨w₀, w₁, w₂, w₃, rfl, hw₀, hw₁, hne, hname, hw₂, hw₃, hliteral, hrest⟩
    refine ⟨_, _, _, _, skipSpacing_eq_iff.2 ⟨w₀, rfl, hw₀, stops_keyword _⟩,
      spacing_eq_ok_iff.2 ⟨w₁, rfl, hne, hw₁, hname.stops _⟩,
      readName_eq_ok_iff.2 ⟨rfl, hname, stops_isNameChar_equals hw₂ _⟩,
      skipSpacing_eq_iff.2 ⟨w₂, rfl, hw₂, stops_equals _⟩, ?_⟩
    rw [skipSpacing_eq_iff.2 ⟨w₃, rfl, hw₃, hliteral.stops _⟩]
    exact readLiteral_eq_ok_iff.2 ⟨rfl, hliteral, hrest⟩

/-- `read` stops before `rest` if `rest` follows a name and spacing `w₂`, and does not begin with an
equals sign. -/
lemma read_eq_error_of_not_equals {w₀ w₁ name w₂ rest : Text} (hw₀ : Spacing w₀) (hw₁ : Spacing w₁)
    (hne : w₁ ≠ []) (hname : IsName name) (hend : Stops isNameChar (w₂ ++ rest))
    (hw₂ : Spacing w₂) (hrest : Stops isSpacing rest) (hequals : ¬ ['='] <+: rest) :
    read (w₀ ++ (keyword ++ (w₁ ++ (name ++ (w₂ ++ rest))))) = .error ⟨.word, rest⟩ := by
  have hkeyword := skipSpacing_eq_iff.2
    ⟨w₀, rfl, hw₀, stops_keyword (w₁ ++ (name ++ (w₂ ++ rest)))⟩
  have hspacing := spacing_eq_ok_iff.2 ⟨w₁, rfl, hne, hw₁, hname.stops (w₂ ++ rest)⟩
  have hnamed := readName_eq_ok_iff.2 ⟨rfl, hname, hend⟩
  have hmissed : word ['='] (skipSpacing (w₂ ++ rest)) = .error ⟨.word, rest⟩ := by
    rw [skipSpacing_eq_iff.2 ⟨w₂, rfl, hw₂, hrest⟩]
    exact word_eq_error_iff.2 ⟨hequals, rfl⟩
  exact read_eq_error_iff_parts.2
    (.inr ⟨_, hkeyword, .inr ⟨_, hspacing, .inr ⟨_, _, hnamed, .inl hmissed⟩⟩⟩)

/-- `parse t` is `d` if and only if `read` takes `d` off the front of `t` and leaves only
spacing. -/
lemma parse_eq_ok_iff {t : Text} {d : Declaration} :
    parse t = .ok d ↔ ∃ rest, read t = .ok (d, rest) ∧ Spacing rest := by
  rw [parse, whole_eq_ok_iff]
  cases h : read t with
  | error stop => simp [Except.mapError]
  | ok found => simp [Except.mapError]

/-- `parse t` fails if and only if `read t` does, or if `read` takes a declaration and leaves more
than spacing. -/
lemma parse_eq_error_iff {t : Text} {e : Misread Declaration} :
    parse t = .error e ↔ (∃ stop, read t = .error stop ∧ e = .failed t [stop]) ∨
      ∃ d rest, read t = .ok (d, rest) ∧ ¬ Spacing rest ∧ e = .leftover d (skipSpacing rest) := by
  rw [parse, whole_eq_error_iff]
  cases h : read t with
  | error stop => simp [Except.mapError]
  | ok found => simp [Except.mapError]

/-- A text `t` that is parsed as `d` is `Written` for `d`. -/
lemma written_of_parse {t : Text} {d : Declaration} (h : parse t = .ok d) : Written d t := by
  obtain ⟨w₄, hread, hw₄⟩ := parse_eq_ok_iff.1 h
  obtain ⟨w₀, w₁, w₂, w₃, rfl, hw₀, hw₁, hne, hname, hw₂, hw₃, hliteral, -⟩ :=
    read_eq_ok_iff.1 hread
  have hw := Written.intro hw₀ hw₁ hne hname hw₂ hw₃ hliteral hw₄
  simpa [keyword, List.append_assoc] using hw

/-- A text `t` that is `Written` for `d` is parsed as `d`. -/
lemma parse_of_written {t : Text} {d : Declaration} (h : Written d t) : parse t = .ok d := by
  cases h with
  | @intro name literal w₀ w₁ w₂ w₃ w₄ hw₀ hw₁ hne hname hw₂ hw₃ hliteral hw₄ =>
    refine parse_eq_ok_iff.2 ⟨w₄, read_eq_ok_iff.2 ⟨w₀, w₁, w₂, w₃, ?_, hw₀, hw₁, hne, hname, hw₂,
      hw₃, hliteral, stops_of_spacing hw₄⟩, hw₄⟩
    simp [keyword, List.append_assoc]

/-- **`parse` accepts exactly the grammar `Written` of declarations**, and a text is written for at
most one declaration: name and literal can be told from it. -/
theorem parse_iff_written (t : Text) :
    (∀ d, parse t = .ok d ↔ Written d t) ∧ ∀ d d', Written d t → Written d' t → d = d' := by
  refine ⟨fun d => ⟨written_of_parse, parse_of_written⟩, fun d d' h h' => ?_⟩
  have hd := parse_of_written h
  rw [parse_of_written h'] at hd
  exact (Except.ok.inj hd).symm

end Declaration

end Primer
