import Primer.Proofs.DeclarationGrammar

/-!
# Where a malformed declaration goes wrong

A text that begins with `LET` and is no declaration is refused with the place where the reading came
to a halt.  The reading never goes back, so it halts in one of five ways: no spacing behind `LET`,
no name, no equals sign, no literal, or something behind the literal.  What was read up to there can
be completed to a declaration.  The character that comes next rules this out, whatever follows it,
since the readings look no further than one character ahead.  So the place that is reported is the
end of the longest beginning that could still become a declaration.

## Main definitions

* `Primer.Misread.unread` — what was not read any more.
* `Primer.Declaration.Viable` — the beginnings of declarations.
* `Primer.Declaration.Halted` — the ways to come to a halt, with what was read and what was not.

## Main results

* `Primer.Declaration.halted_of_parse` — a refused text came to a halt where the error says.
* `Primer.Declaration.Halted.rejects` — a reading that halts is refused.
* `Primer.Declaration.Halted.viable`, `Primer.Declaration.Halted.not_viable` — what was read is
  viable, and it is not viable any more with the next character.
* `Primer.Declaration.parse_error_at_longest_viable` — the place that an error points at.
-/

set_option relaxedAutoImplicit false
set_option autoImplicit false

namespace Primer

/-- What was not read any more: the rest at the only stop of a reading that did not get through, or
what was left over behind a value. -/
def Misread.unread {α : Type} : Misread α → Option Text
  | .failed _ [stop] => some stop.rest
  | .failed _ _ => none
  | .leftover _ rest => some rest

namespace Declaration

open Text Reading

/-! ## Beginnings of declarations -/

/-- A text that some declaration begins with. -/
def Viable (t : Text) : Prop := ∃ rest d, parse (t ++ rest) = .ok d

/-- A prefix `t` of a viable text `u` is viable. -/
lemma Viable.of_isPrefix {t u : Text} (h : Viable u) (htu : t <+: u) : Viable t := by
  obtain ⟨v, rfl⟩ := htu
  obtain ⟨rest, d, hparse⟩ := h
  exact ⟨v ++ rest, d, by rwa [← List.append_assoc]⟩

/-- The ways to come to a halt: what was read of a text that begins with `LET`, and what was not. -/
inductive Halted : Text → Text → Prop
  /-- No spacing stands behind `LET`. -/
  | spacing {rest : Text} (hrest : Stops isSpacing rest) : Halted keyword rest
  /-- No letter stands behind the spacing. -/
  | name {w₁ rest : Text} (h₁ : Spacing w₁) (h₁' : w₁ ≠ []) (hrest : Stops isSpacing rest)
      (hname : Stops isAlphabetic rest) : Halted (keyword ++ w₁) rest
  /-- No equals sign stands behind the name. -/
  | equals {w₁ name w₂ rest : Text} (h₁ : Spacing w₁) (h₁' : w₁ ≠ []) (hname : IsName name)
      (hend : Stops isNameChar (w₂ ++ rest)) (h₂ : Spacing w₂) (hrest : Stops isSpacing rest)
      (hequals : ¬ ['='] <+: rest) : Halted (keyword ++ (w₁ ++ (name ++ w₂))) rest
  /-- No literal stands behind the equals sign. -/
  | literal {w₁ name w₂ w₃ rest : Text} (h₁ : Spacing w₁) (h₁' : w₁ ≠ []) (hname : IsName name)
      (h₂ : Spacing w₂) (h₃ : Spacing w₃) (hrest : Stops isSpacing rest)
      (hliteral : Stops (fun c => !isBlank c) rest) :
      Halted (keyword ++ (w₁ ++ (name ++ (w₂ ++ (['='] ++ w₃))))) rest
  /-- Something stands behind the literal. -/
  | leftover {w₁ name w₂ w₃ literal w₄ rest : Text} (h₁ : Spacing w₁) (h₁' : w₁ ≠ [])
      (hname : IsName name) (h₂ : Spacing w₂) (h₃ : Spacing w₃) (hliteral : IsLiteral literal)
      (hend : Stops (fun c => !isBlank c) (w₄ ++ rest)) (h₄ : Spacing w₄)
      (hrest : Stops isSpacing rest) (hne : rest ≠ []) :
      Halted (keyword ++ (w₁ ++ (name ++ (w₂ ++ (['='] ++ (w₃ ++ (literal ++ w₄))))))) rest

/-! ## Every refused text came to a halt -/

/-- `skipSpacing` skips nothing before `LET`. -/
lemma skipSpacing_keyword_append (u : Text) : skipSpacing (keyword ++ u) = keyword ++ u :=
  skipSpacing_eq_iff.2 ⟨[], rfl, by simp [Spacing], stops_keyword u⟩

/-- A text `t` is `w ++ skipSpacing t` for some spacing `w`, and `skipSpacing t` stops
`isSpacing`. -/
lemma exists_skipped (t : Text) :
    ∃ w, t = w ++ skipSpacing t ∧ Spacing w ∧ Stops isSpacing (skipSpacing t) :=
  skipSpacing_eq_iff.1 rfl

/-- If `read` stops on a text that begins with `LET`, then it is `Halted` before the rest of the
stop.

**Proof sketch.** The parts of a declaration are read one after the other
(`read_eq_error_iff_parts`).  At each part the stop is there, which is a case of `Halted`, or the
part has been read and stands before the stop. -/
lemma halted_of_read_error {u : Text} {stop : Stop} (h : read (keyword ++ u) = .error stop) :
    ∃ before, keyword ++ u = before ++ stop.rest ∧ Halted before stop.rest := by
  rw [read_eq_error_iff_parts, skipSpacing_keyword_append] at h
  rcases h with hkey | ⟨t₁, ht₁, hstop⟩
  · exact absurd (List.prefix_append _ _) (word_eq_error_iff.1 hkey).1
  obtain rfl := List.append_cancel_left ht₁
  rcases hstop with hspacing | ⟨t₂, ht₂, hstop⟩
  · obtain ⟨hrest, rfl⟩ := spacing_eq_error_iff.1 hspacing
    exact ⟨_, rfl, .spacing hrest⟩
  obtain ⟨w₁, rfl, hne, hw₁, hrest₁⟩ := spacing_eq_ok_iff.1 ht₂
  rcases hstop with hname | ⟨name, t₃, ht₃, hstop⟩
  · obtain ⟨halpha, rfl⟩ := readName_eq_error_iff.1 hname
    exact ⟨_, (List.append_assoc _ _ _).symm, .name hw₁ hne hrest₁ halpha⟩
  obtain ⟨rfl, hname, hend⟩ := readName_eq_ok_iff.1 ht₃
  obtain ⟨w₂, hw, hw₂, hrest₂⟩ := exists_skipped t₃
  rcases hstop with hequals | ⟨t₄, ht₄, hliteral⟩
  · obtain ⟨hmissed, rfl⟩ := word_eq_error_iff.1 hequals
    rw [hw] at hend
    refine ⟨_, ?_, .equals hw₁ hne hname hend hw₂ hrest₂ hmissed⟩
    conv_lhs => rw [hw]
    simp only [List.append_assoc]
  obtain ⟨w₃, hw', hw₃, hrest₃⟩ := exists_skipped t₄
  obtain ⟨hblank, rfl⟩ := readLiteral_eq_error_iff.1 hliteral
  refine ⟨_, ?_, .literal hw₁ hne hname hw₂ hw₃ hrest₃ hblank⟩
  conv_lhs => rw [hw, ht₄, hw']
  simp only [List.append_assoc]

/-- If `read` takes a declaration off a text that begins with `LET` and leaves more than spacing,
then it is `Halted` before `skipSpacing rest`.

**Proof sketch.** The parts of the declaration have been read one after the other
(`read_eq_ok_iff_parts`).  Put together they stand before `rest`, and the spacing in front of `rest`
is skipped as well. -/
lemma halted_of_leftover {u rest : Text} {d : Declaration}
    (h : read (keyword ++ u) = .ok (d, rest)) (hleft : ¬ Spacing rest) :
    ∃ before, keyword ++ u = before ++ skipSpacing rest ∧ Halted before (skipSpacing rest) := by
  rw [read_eq_ok_iff_parts, skipSpacing_keyword_append] at h
  obtain ⟨t₁, t₂, t₃, t₄, ht₁, ht₂, ht₃, ht₄, ht₅⟩ := h
  obtain rfl := List.append_cancel_left ht₁
  obtain ⟨w₁, rfl, hne, hw₁, -⟩ := spacing_eq_ok_iff.1 ht₂
  obtain ⟨rfl, hname, -⟩ := readName_eq_ok_iff.1 ht₃
  obtain ⟨w₂, rfl, hw₂, -⟩ := skipSpacing_eq_iff.1 ht₄
  obtain ⟨ht₅, hliteral, hend⟩ := readLiteral_eq_ok_iff.1 ht₅
  obtain ⟨w₃, rfl, hw₃, -⟩ := skipSpacing_eq_iff.1 ht₅
  obtain ⟨w₄, hw, hw₄, hrest⟩ := exists_skipped rest
  rw [hw] at hend
  refine ⟨_, ?_, .leftover hw₁ hne hname hw₂ hw₃ hliteral hend hw₄ hrest ?_⟩
  · conv_lhs => rw [hw]
    simp only [List.append_assoc]
  · rwa [ne_eq, skipSpacing_eq_nil_iff]

/-- **A text that begins with `LET` and that `parse` refuses is `Halted`** before what the error
says was not read any more. -/
lemma halted_of_parse {u : Text} {e : Misread Declaration} (h : parse (keyword ++ u) = .error e) :
    ∃ before rest, keyword ++ u = before ++ rest ∧ e.unread = some rest ∧ Halted before rest := by
  rcases parse_eq_error_iff.1 h with ⟨stop, hread, rfl⟩ | ⟨d, rest, hread, hleft, rfl⟩
  · obtain ⟨before, hbefore, hhalted⟩ := halted_of_read_error hread
    exact ⟨before, stop.rest, hbefore, rfl, hhalted⟩
  · obtain ⟨before, hbefore, hhalted⟩ := halted_of_leftover hread hleft
    exact ⟨before, skipSpacing rest, hbefore, rfl, hhalted⟩

/-! ## What was read is viable -/

/-- The parts of a declaration in order, without spacing before `LET`, are `Written` for it. -/
lemma written_of_parts {w₁ name w₂ w₃ literal w₄ : Text} (h₁ : Spacing w₁) (h₁' : w₁ ≠ [])
    (hname : IsName name) (h₂ : Spacing w₂) (h₃ : Spacing w₃) (hliteral : IsLiteral literal)
    (h₄ : Spacing w₄) :
    Written ⟨name, literal⟩
      (keyword ++ (w₁ ++ (name ++ (w₂ ++ (['='] ++ (w₃ ++ (literal ++ w₄))))))) := by
  have hnil : Spacing [] := by simp [Spacing]
  have h := Written.intro hnil h₁ h₁' hname h₂ h₃ hliteral h₄
  simpa [keyword, List.append_assoc] using h

/-- The letter `A` is a name. -/
lemma isName_letter : IsName ['A'] :=
  ⟨['A'], [], rfl, by simp, List.forall_mem_singleton.2 (by decide), by simp⟩

/-- The digit `1` is a literal. -/
lemma isLiteral_digit : IsLiteral ['1'] := ⟨by simp, List.forall_mem_singleton.2 (by decide)⟩

/-- **If `Halted before rest`, then `before` is viable**: it can be completed by the parts that are
still missing.

**Proof sketch.** One case for each way to halt.  The missing parts are a space, the name `A`, an
equals sign and the literal `1`, as far as they have not been read. -/
lemma Halted.viable {before rest : Text} (h : Halted before rest) : Viable before := by
  have hnil : Spacing [] := by simp [Spacing]
  have hspace : Spacing [' '] := by simp [Spacing, isSpacing]
  cases h with
  | spacing =>
    have hw := written_of_parts hspace (by simp) isName_letter hnil hnil isLiteral_digit hnil
    exact ⟨_, _, parse_of_written hw⟩
  | name h₁ h₁' =>
    have hw := written_of_parts h₁ h₁' isName_letter hnil hnil isLiteral_digit hnil
    exact ⟨_, _, parse_of_written (by simpa only [List.append_assoc] using hw)⟩
  | equals h₁ h₁' hname _ h₂ =>
    have hw := written_of_parts h₁ h₁' hname h₂ hnil isLiteral_digit hnil
    exact ⟨_, _, parse_of_written (by simpa only [List.append_assoc] using hw)⟩
  | literal h₁ h₁' hname h₂ h₃ =>
    have hw := written_of_parts h₁ h₁' hname h₂ h₃ isLiteral_digit hnil
    exact ⟨_, _, parse_of_written (by simpa only [List.append_assoc] using hw)⟩
  | leftover h₁ h₁' hname h₂ h₃ hliteral _ h₄ =>
    have hw := written_of_parts h₁ h₁' hname h₂ h₃ hliteral h₄
    exact ⟨[], _, parse_of_written (by simpa only [List.append_nil] using hw)⟩

/-! ## The next character rules it out -/

/-- `Stops p (w ++ c :: rest)` does not depend on `rest`, since it shows at the first character. -/
lemma stops_append_cons {p : Char → Bool} {w : Text} {c : Char} {rest : Text}
    (h : Stops p (w ++ c :: rest)) (rest' : Text) : Stops p (w ++ c :: rest') := by
  cases w with
  | nil => simpa using h
  | cons d w => simpa using h

/-- `Halted before (c :: rest)` does not depend on `rest`. -/
lemma Halted.cons_congr {before rest : Text} {c : Char} (h : Halted before (c :: rest))
    (rest' : Text) : Halted before (c :: rest') := by
  have hhead : ∀ {p : Char → Bool}, Stops p (c :: rest) → Stops p (c :: rest') := fun hp =>
    stops_append_cons (w := []) hp rest'
  cases h with
  | spacing hrest => exact .spacing (hhead hrest)
  | name h₁ h₁' hrest hname => exact .name h₁ h₁' (hhead hrest) (hhead hname)
  | equals h₁ h₁' hname hend h₂ hrest hequals =>
    refine .equals h₁ h₁' hname (stops_append_cons hend rest') h₂ (hhead hrest) ?_
    simpa using hequals
  | literal h₁ h₁' hname h₂ h₃ hrest hliteral =>
    exact .literal h₁ h₁' hname h₂ h₃ (hhead hrest) (hhead hliteral)
  | leftover h₁ h₁' hname h₂ h₃ hliteral hend h₄ hrest =>
    exact .leftover h₁ h₁' hname h₂ h₃ hliteral (stops_append_cons hend rest') h₄ (hhead hrest)
      (by simp)

/-- If `read t` stops, then `parse t` fails. -/
lemma exists_error_of_read {t : Text} {stop : Stop} (h : read t = .error stop) :
    ∃ e, parse t = .error e := ⟨_, parse_eq_error_iff.2 (.inl ⟨stop, h, rfl⟩)⟩

/-- **If `Halted before rest`, then `parse` refuses `before ++ rest`.**

**Proof sketch.** The parts that were read are read again, since what follows them is the same.  In
the first four ways the next part is then missed; in the last one more than spacing is left. -/
lemma Halted.rejects {before rest : Text} (h : Halted before rest) :
    ∃ e, parse (before ++ rest) = .error e := by
  cases h with
  | spacing hrest =>
    have hmissed := spacing_eq_error_iff.2 ⟨hrest, rfl⟩
    exact exists_error_of_read (read_eq_error_iff_parts.2
      (.inr ⟨rest, skipSpacing_keyword_append rest, .inl hmissed⟩))
  | @name w₁ _ h₁ h₁' hrest hname =>
    have hspacing : Reading.spacing (w₁ ++ rest) = .ok rest :=
      spacing_eq_ok_iff.2 ⟨w₁, rfl, h₁', h₁, hrest⟩
    have hmissed := readName_eq_error_iff.2 ⟨hname, rfl⟩
    rw [List.append_assoc]
    exact exists_error_of_read (read_eq_error_iff_parts.2
      (.inr ⟨_, skipSpacing_keyword_append _, .inr ⟨_, hspacing, .inl hmissed⟩⟩))
  | @equals w₁ name w₂ _ h₁ h₁' hname hend h₂ hrest hequals =>
    simp only [List.append_assoc]
    exact exists_error_of_read (@read_eq_error_of_not_equals [] w₁ name w₂ rest (by simp [Spacing])
      h₁ h₁' hname hend h₂ hrest hequals)
  | @literal w₁ name w₂ w₃ _ h₁ h₁' hname h₂ h₃ hrest hliteral =>
    have hspacing : Reading.spacing (w₁ ++ (name ++ (w₂ ++ (['='] ++ (w₃ ++ rest))))) =
        .ok (name ++ (w₂ ++ (['='] ++ (w₃ ++ rest)))) :=
      spacing_eq_ok_iff.2 ⟨w₁, rfl, h₁', h₁, hname.stops _⟩
    have hnamed := readName_eq_ok_iff.2 ⟨rfl, hname, stops_isNameChar_equals h₂ (w₃ ++ rest)⟩
    have hequals : skipSpacing (w₂ ++ (['='] ++ (w₃ ++ rest))) = ['='] ++ (w₃ ++ rest) :=
      skipSpacing_eq_iff.2 ⟨w₂, rfl, h₂, stops_equals _⟩
    have hmissed : readLiteral (skipSpacing (w₃ ++ rest)) = .error ⟨.run, rest⟩ := by
      rw [skipSpacing_eq_iff.2 ⟨w₃, rfl, h₃, hrest⟩]
      exact readLiteral_eq_error_iff.2 ⟨hliteral, rfl⟩
    simp only [List.append_assoc]
    exact exists_error_of_read (read_eq_error_iff_parts.2
      (.inr ⟨_, skipSpacing_keyword_append _, .inr ⟨_, hspacing, .inr ⟨_, _, hnamed,
        .inr ⟨_, hequals, hmissed⟩⟩⟩⟩))
  | @leftover w₁ name w₂ w₃ literal w₄ _ h₁ h₁' hname h₂ h₃ hliteral hend h₄ hrest hne =>
    have hread := (read_eq_ok_iff (d := ⟨name, literal⟩)).2 ⟨[], w₁, w₂, w₃, rfl, by simp [Spacing],
      h₁, h₁', hname, h₂, h₃, hliteral, hend⟩
    have hleft : ¬ Spacing (w₄ ++ rest) := by
      rw [← skipSpacing_eq_nil_iff, skipSpacing_eq_iff.2 ⟨w₄, rfl, h₄, hrest⟩]
      exact hne
    simp only [List.append_assoc]
    exact ⟨_, parse_eq_error_iff.2 (.inr ⟨_, _, hread, hleft, rfl⟩)⟩

/-- If `Halted before (c :: rest)`, then `before ++ [c]` is not viable. -/
lemma Halted.not_viable {before rest : Text} {c : Char} (h : Halted before (c :: rest)) :
    ¬ Viable (before ++ [c]) := by
  rintro ⟨rest', d, hparse⟩
  rw [List.append_assoc, List.singleton_append] at hparse
  obtain ⟨e, he⟩ := (h.cons_congr rest').rejects
  rw [hparse] at he
  simp at he

/-- **An error points at the end of the longest viable beginning.**  A text that begins with `LET`
and is no declaration is refused with what was not read any more, which begins at a place `p`.  Some
declaration begins with the text up to `p`; none begins with it if the next character is added.  So
the beginnings of the text that some declaration begins with are exactly those up to `p`.

**Proof sketch.** The reading came to a halt at `p` (`halted_of_parse`).  What was read up to there
is viable, and not any more with the next character (`Halted.viable`, `Halted.not_viable`); a
shorter beginning is viable too, and a longer one is not (`Viable.of_isPrefix`). -/
theorem parse_error_at_longest_viable {body : Text} {e : Misread Declaration}
    (hlet : keyword <+: body) (h : parse body = .error e) :
    ∃ p ≤ body.length, e.unread = some (body.drop p) ∧
      Viable (body.take p) ∧
      (∀ c, body[p]? = some c → ¬ Viable (body.take p ++ [c])) ∧
      ∀ n ≤ body.length, Viable (body.take n) ↔ n ≤ p := by
  obtain ⟨u, rfl⟩ := hlet
  obtain ⟨before, rest, hbody, hunread, hhalted⟩ := halted_of_parse h
  have hnext : ∀ c, rest.head? = some c → ¬ Viable (before ++ [c]) := by
    intro c hc
    obtain ⟨rest, rfl⟩ := List.head?_eq_some_iff.1 hc
    exact hhalted.not_viable
  rw [hbody]
  refine ⟨before.length, by simp, by simpa using hunread, by simpa using hhalted.viable,
    by simpa [List.getElem?_append_right, List.head?_eq_getElem?] using hnext,
    fun n hn => ⟨fun hviable => ?_, fun hle => ?_⟩⟩
  · by_contra hlt
    -- a longer beginning has the next character in it
    cases rest with
    | nil => simp at hn; omega
    | cons c rest =>
      refine hnext c rfl (hviable.of_isPrefix (List.prefix_take_iff.2 ⟨?_, ?_⟩))
      · exact ⟨rest, by simp⟩
      · simp; omega
  · refine hhalted.viable.of_isPrefix ?_
    rw [List.take_append_of_le_length hle]
    exact List.take_prefix n before

/-- The text `LET A ` without an equals sign is still viable, and `LET A 5` is not. -/
theorem parse_error_at_longest_viable_digit :
    keyword <+: "LET A 5".toList ∧
    parse "LET A 5".toList = .error (.failed "LET A 5".toList [⟨.word, "5".toList⟩]) ∧
    Viable "LET A ".toList ∧ ¬ Viable "LET A 5".toList := by
  have hlet : keyword <+: "LET A 5".toList := by decide
  have hparse : parse "LET A 5".toList =
      .error (.failed "LET A 5".toList [⟨.word, "5".toList⟩]) := by decide +kernel
  obtain ⟨p, hp, hunread, hviable, hnext, -⟩ := parse_error_at_longest_viable hlet hparse
  -- one character was not read any more, so that the place is before the last one of seven
  obtain rfl : p = 6 := by
    have hlength : 1 = ("LET A 5".toList.drop p).length :=
      congrArg List.length (Option.some.inj hunread)
    have hseven : "LET A 5".toList.length = 7 := by decide
    rw [List.length_drop] at hlength
    omega
  exact ⟨hlet, hparse, hviable, hnext '5' (by decide)⟩

end Declaration

end Primer
