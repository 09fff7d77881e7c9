import Primer.Proofs.Reload
import Primer.Proofs.TrailingBlanks

/-!
# How a line is put together from label and body

A line is put together from a label, a colon and a body, or from a body alone.  Blanks may stand
around each part, but they belong to none: a part neither begins nor ends with a blank, and a label
has no colon.  So the first colon of the line is the one behind the label, and the parts can be told
from the line.  Splitting a line finds them.

## Main definitions

* `Primer.Text.Blanks`, `Primer.Text.Trimmed` — what stands around a part, and what a part is.
* `Primer.Line.Composed` — a line that is put together from the given parts.
* `Primer.Line.joined` — the parts put together with no blanks around them.

## Main results

* `Primer.Text.trim_eq_iff` — trimming takes the blanks off both ends, and nothing else.
* `Primer.Line.splitLabel_of_composed`, `Primer.Line.composed_splitLabel` — splitting finds the
  parts of a line, and every line has parts.
* `Primer.Line.splitLabel_finds_parts` — the parts are unique, blanks around them make no
  difference, and they are found again when they are joined.
-/

set_option relaxedAutoImplicit false
set_option autoImplicit false

namespace Primer

namespace Text

/-! ## Blanks around a text -/

/-- A text of blanks. -/
def Blanks (t : Text) : Prop := ∀ c ∈ t, isBlank c = true

/-- A text that neither begins nor ends with a blank. -/
structure Trimmed (t : Text) : Prop where
  front : ∀ c ∈ t.head?, isBlank c = false
  back : ∀ c ∈ t.getLast?, isBlank c = false

variable {t u w w' : Text}

/-- The empty text is `Blanks`. -/
lemma blanks_nil : Blanks [] := by simp [Blanks]

/-- `Blanks` have no colon among them. -/
lemma Blanks.colon_not_mem (h : Blanks w) : ':' ∉ w := by
  intro hc
  exact absurd (h ':' hc) (by decide)

/-- `trim (w ++ t ++ w') = trim t` for `Blanks` `w` and `w'`. -/
lemma trim_padded (hw : Blanks w) (hw' : Blanks w') (t : Text) : trim (w ++ t ++ w') = trim t := by
  rw [trim_append_blanks hw', trim_append_of_isBlank hw]

/-- `t` is `trim t` with `Blanks` around it. -/
lemma exists_blanks_around_trim (t : Text) :
    ∃ w w', Blanks w ∧ Blanks w' ∧ t = w ++ trim t ++ w' := by
  refine ⟨t.takeWhile isBlank, (trimStart t).rtakeWhile isBlank, ?_, ?_, ?_⟩
  · intro c hc
    exact List.mem_takeWhile_imp hc
  · intro c hc
    exact List.mem_rtakeWhile_imp hc
  · have hback : trim t ++ (trimStart t).rtakeWhile isBlank = trimStart t :=
      List.rdropWhile_append_rtakeWhile
    rw [List.append_assoc, hback]
    exact List.takeWhile_append_dropWhile.symm

/-- **Trimming takes the blanks off both ends of a text**: `trim t = u` if and only if `u` is
`Trimmed`, and `t` is `u` with `Blanks` around it. -/
lemma trim_eq_iff :
    trim t = u ↔ Trimmed u ∧ ∃ w w', Blanks w ∧ Blanks w' ∧ t = w ++ u ++ w' := by
  constructor
  · rintro rfl
    exact ⟨⟨trim_stops t, fun _ => isBlank_getLast?_trim⟩, exists_blanks_around_trim t⟩
  · rintro ⟨hu, w, w', hw, hw', rfl⟩
    rw [trim_padded hw hw', trim_eq_self hu.front hu.back]

end Text

namespace Line

open Text

/-! ## The parts of a line -/

/-- A line that is put together from the given parts, with any blanks around them: a label without
colons, a colon and a body, or a body alone if there is no colon at all. -/
inductive Composed : Text → Option Text → Text → Prop
  | labelled {w₁ label w₂ w₃ body w₄ : Text} (h₁ : Blanks w₁) (h₂ : Blanks w₂) (h₃ : Blanks w₃)
      (h₄ : Blanks w₄) (hcolon : ':' ∉ label) (hlabel : Trimmed label) (hbody : Trimmed body) :
      Composed (w₁ ++ label ++ w₂ ++ ":".toList ++ w₃ ++ body ++ w₄) (some label) body
  | unlabelled {w₁ body w₂ : Text} (h₁ : Blanks w₁) (h₂ : Blanks w₂)
      (hcolon : ':' ∉ w₁ ++ body ++ w₂) (hbody : Trimmed body) :
      Composed (w₁ ++ body ++ w₂) none body

/-- The parts put together with no blanks around them. -/
def joined : Option Text × Text → Text
  | (some label, body) => label ++ ":".toList ++ body
  | (none, body) => body

variable {line body : Text} {label : Option Text}

/-! ## Blanks around the parts -/

/-- `splitLabel` splits a line at the colon behind a label without colons, and trims label and body
of the `Blanks` around them. -/
lemma splitLabel_around_colon {w₁ w₂ w₃ w₄ : Text} (h₁ : Blanks w₁) (h₂ : Blanks w₂)
    (h₃ : Blanks w₃) (h₄ : Blanks w₄) {label : Text} (hcolon : ':' ∉ label) (body : Text) :
    splitLabel (w₁ ++ label ++ w₂ ++ ":".toList ++ w₃ ++ body ++ w₄) =
      (some (trim label), trim body) := by
  have hfront : ':' ∉ w₁ ++ label ++ w₂ := by
    simp [h₁.colon_not_mem, h₂.colon_not_mem, hcolon]
  have hline : w₁ ++ label ++ w₂ ++ ":".toList ++ w₃ ++ body ++ w₄ =
      (w₁ ++ label ++ w₂) ++ ':' :: (w₃ ++ body ++ w₄) := by
    simp
  rw [hline, splitLabel_append_colon hfront, trim_padded h₁ h₂, trim_padded h₃ h₄]

/-- `splitLabel (w ++ line ++ w') = splitLabel line` for `Blanks` `w` and `w'`. -/
lemma splitLabel_padded {w w' : Text} (hw : Blanks w) (hw' : Blanks w') (line : Text) :
    splitLabel (w ++ line ++ w') = splitLabel line := by
  rcases splitLabel_cases line with ⟨hcolon, hsplit⟩ | ⟨label, body, rfl, hcolon, hsplit⟩
  · have hnone : ':' ∉ w ++ line ++ w' := by
      simp [hw.colon_not_mem, hw'.colon_not_mem, hcolon]
    rw [hsplit, splitLabel_of_not_mem hnone, trim_padded hw hw']
  · have hparts := splitLabel_around_colon hw blanks_nil blanks_nil hw' hcolon body
    rw [hsplit, ← hparts]
    simp

/-! ## Finding the parts -/

/-- If a line is `Composed` of `label` and `body`, then `splitLabel` finds these. -/
lemma splitLabel_of_composed (h : Composed line label body) : splitLabel line = (label, body) := by
  cases h with
  | labelled h₁ h₂ h₃ h₄ hcolon hlabel hbody =>
    rw [splitLabel_around_colon h₁ h₂ h₃ h₄ hcolon, trim_eq_self hlabel.front hlabel.back,
      trim_eq_self hbody.front hbody.back]
  | unlabelled h₁ h₂ hcolon hbody =>
    rw [splitLabel_of_not_mem hcolon, trim_padded h₁ h₂, trim_eq_self hbody.front hbody.back]

/-- Every line is `Composed` of the parts that `splitLabel` finds.

**Proof sketch.** The line is cut at its first colon, if it has one.  Each piece is a trimmed text
with blanks around it (`trim_eq_iff`). -/
lemma composed_splitLabel (line : Text) :
    Composed line (splitLabel line).1 (splitLabel line).2 := by
  rcases splitLabel_cases line with ⟨hcolon, hsplit⟩ | ⟨front, back, rfl, hcolon, hsplit⟩
  · obtain ⟨htrim, w₁, w₂, h₁, h₂, hline⟩ := trim_eq_iff.1 (Eq.refl (trim line))
    rw [hsplit]
    rw [hline] at hcolon
    have hparts := Composed.unlabelled h₁ h₂ hcolon htrim
    rwa [← hline] at hparts
  · obtain ⟨hlabel, w₁, w₂, h₁, h₂, hfront⟩ := trim_eq_iff.1 (Eq.refl (trim front))
    obtain ⟨hbody, w₃, w₄, h₃, h₄, hback⟩ := trim_eq_iff.1 (Eq.refl (trim back))
    have hnone : ':' ∉ trim front := fun h => hcolon (mem_of_mem_trim h)
    have hline : front ++ ':' :: back =
        w₁ ++ trim front ++ w₂ ++ ":".toList ++ w₃ ++ trim back ++ w₄ := by
      calc front ++ ':' :: back
          = (w₁ ++ trim front ++ w₂) ++ ':' :: (w₃ ++ trim back ++ w₄) := by rw [← hfront, ← hback]
        _ = w₁ ++ trim front ++ w₂ ++ ":".toList ++ w₃ ++ trim back ++ w₄ := by simp
    rw [hsplit, hline]
    exact .labelled h₁ h₂ h₃ h₄ hnone hlabel hbody

/-- If a line is `Composed` of `label` and `body`, then so is `joined (label, body)`. -/
lemma Composed.of_joined (h : Composed line label body) :
    Composed (joined (label, body)) label body := by
  cases h with
  | labelled _ _ _ _ hcolon hlabel hbody =>
    have hparts := Composed.labelled blanks_nil blanks_nil blanks_nil blanks_nil hcolon hlabel hbody
    simpa [joined] using hparts
  | @unlabelled w₁ body w₂ _ _ hcolon hbody =>
    have hnone : ':' ∉ [] ++ body ++ [] := by
      intro h
      refine hcolon (List.mem_append_left _ (List.mem_append_right _ ?_))
      simpa using h
    simpa [joined] using Composed.unlabelled blanks_nil blanks_nil hnone hbody

/-- **Splitting a line finds its parts.**  A label and a body are found exactly if the line is put
together from them, and so is a body alone; every line has such parts, and no two.  Blanks around
the label, around the body and around a whole line make no difference, and when the parts of a line
are joined, they are found again.

**Proof sketch.** A colon is not a blank, so that the first colon of a line is the one behind the
label, and trimming finds each part (`trim_eq_iff`).  The rest follows from the equivalence. -/
theorem splitLabel_finds_parts :
    (∀ line label body, splitLabel line = (label, body) ↔ Composed line label body) ∧
    (∀ line, ∃! parts : Option Text × Text, Composed line parts.1 parts.2) ∧
    (∀ w₁ w₂ w₃ w₄, Blanks w₁ → Blanks w₂ → Blanks w₃ → Blanks w₄ →
      (∀ label body, ':' ∉ label →
        splitLabel (w₁ ++ label ++ w₂ ++ ":".toList ++ w₃ ++ body ++ w₄) =
          splitLabel (label ++ ":".toList ++ body)) ∧
      ∀ line, splitLabel (w₁ ++ line ++ w₂) = splitLabel line) ∧
    ∀ line, splitLabel (joined (splitLabel line)) = splitLabel line := by
  have hiff : ∀ line label body, splitLabel line = (label, body) ↔ Composed line label body := by
    intro line label body
    refine ⟨fun h => ?_, splitLabel_of_composed⟩
    simpa [h] using composed_splitLabel line
  refine ⟨hiff, fun line => ?_, fun w₁ w₂ w₃ w₄ h₁ h₂ h₃ h₄ => ⟨?_, ?_⟩, fun line => ?_⟩
  · refine ⟨splitLabel line, composed_splitLabel line, fun parts hparts => ?_⟩
    exact (splitLabel_of_composed hparts).symm
  · intro label body hcolon
    have hplain := splitLabel_around_colon blanks_nil blanks_nil blanks_nil blanks_nil hcolon body
    rw [splitLabel_around_colon h₁ h₂ h₃ h₄ hcolon, ← hplain]
    simp
  · exact splitLabel_padded h₁ h₂
  · exact splitLabel_of_composed (composed_splitLabel line).of_joined

end Line

end Primer
