import Primer.Command
import Primer.Proofs.Scanning

/-!
# The grammar of commands

A typed line is a line of a program, or one of six words, or the word that loads a file with a path
behind it; it may also be one of the six words with more behind it, or begin with a colon and be
nothing of all this.  The parser tries eight forms in turn, and a form looks at the beginning of the
line only: no word boundary is asked for, and what is left over is judged afterwards.  All the same
every line is in exactly one case, because none of the words is the beginning of another one.  So at
most one of the forms accepts a line, and the order in which they are tried does not matter.

## Main definitions

* `Primer.Command.Word` — the words that are commands.
* `Primer.Command.Shape` — the cases; `Primer.Command.Answered` — the lines of each case, and what
  they are answered with.

## Main results

* `Primer.Command.forms_exclude` — at most one form accepts a line.
* `Primer.Command.findSome?_eq_some_iff` — whichever form comes first, the one that accepts is
  found.
* `Primer.Command.parse_of_answered`, `Primer.Command.exists_answered` — the parser gives the
  answers of the grammar, and the grammar has one for every line.
* `Primer.Command.parse_iff_answered` — the parser answers exactly as the grammar says, and in one
  case only.
-/

set_option relaxedAutoImplicit false
set_option autoImplicit false

namespace Primer

namespace Command

open Text Reading

/-! ## The grammar -/

/-- The words that are commands by themselves. -/
inductive Word : Text → Command → Prop
  | list : Word ":list".toList .list
  | run : Word ":run".toList .run
  | labels : Word ":labels".toList .showLabels
  | vars : Word ":vars".toList .showVars
  | clear : Word ":clear".toList .clear
  | quit : Word ":quit".toList .quit

/-- The cases that a typed line can be in. -/
inductive Shape where
  /-- A line of a program. -/
  | line
  /-- One of the words. -/
  | word
  /-- A file to be loaded. -/
  | path
  /-- One of the words, and something behind it. -/
  | leftover
  /-- None of these. -/
  | unknown
deriving DecidableEq, Repr

/-- The lines of each case, and what they are answered with. -/
inductive Answered : Shape → Text → Except (Misread Command) Command → Prop
  /-- What does not begin with a colon is a line of a program, as it is. -/
  | line {t : Text} (h : t.head? ≠ some ':') : Answered .line t (.ok (.append t))
  /-- Behind a word only spaces and tabs may stand. -/
  | word {k w : Text} {c : Command} (hk : Word k c) (hw : Spacing w) :
      Answered .word (k ++ w) (.ok c)
  /-- What stands behind `:load` and a space or tab is a path, which may be empty. -/
  | path {w text : Text} (hw : Spacing w) (hne : w ≠ []) :
      Answered .path (":load".toList ++ w ++ text) (.ok (.load (trim text)))
  /-- If something else stands behind a word, it is left over. -/
  | leftover {k text : Text} {c : Command} (hk : Word k c) (htext : ¬ Spacing text) :
      Answered .leftover (k ++ text) (.error (.leftover c (skipSpacing text)))
  /-- Any other line that begins with a colon is refused. -/
  | unknown {t : Text} (hcolon : t.head? = some ':') (hword : ∀ k c, Word k c → ¬ k <+: t)
      (hpath : ∀ w text, Spacing w → w ≠ [] → t ≠ ":load".toList ++ w ++ text) :
      Answered .unknown t (.error (.failed t [⟨.exclusion, t⟩, ⟨.choice, t⟩]))

/-! ## The forms -/

/-- The table `keywords` has exactly the words of the grammar, with their commands. -/
lemma mem_keywords_iff {k : Text} {c : Command} : (k, c) ∈ keywords ↔ Word k c := by
  constructor
  · intro h
    simp only [keywords, List.mem_cons, Prod.mk.injEq, List.not_mem_nil, or_false] at h
    rcases h with ⟨rfl, rfl⟩ | ⟨rfl, rfl⟩ | ⟨rfl, rfl⟩ | ⟨rfl, rfl⟩ | ⟨rfl, rfl⟩ | ⟨rfl, rfl⟩
    · exact .list
    · exact .run
    · exact .labels
    · exact .vars
    · exact .clear
    · exact .quit
  · intro h
    cases h <;> simp [keywords]

/-- `readKeyword (k, c)` takes the word `k`, and the spacing behind it, off the lines that begin
with `k`. -/
lemma readKeyword_eq_some_iff {k t : Text} {c : Command} {found : Command × Text} :
    readKeyword (k, c) t = some found ↔ ∃ rest, t = k ++ rest ∧ found = (c, skipSpacing rest) := by
  simp only [readKeyword, Option.map_eq_some_iff, List.isPrefixOf?_eq_some_iff_append_eq,
    eq_comm (a := t), eq_comm (a := found)]

/-- `readLoad` takes exactly the lines `":load" ++ w ++ text` with spacing `w`, as
`.load (trim text)`, wherever `w` is taken to end.

**Proof sketch.** What was read gives `w` and `text` at once.  Conversely `readLoad` skips
`w` and the spacing that `text` begins with, and `trim text` has lost this spacing in any case. -/
lemma readLoad_eq_some_iff {t : Text} {found : Command × Text} :
    readLoad t = some found ↔ ∃ w text, t = ":load".toList ++ w ++ text ∧ Spacing w ∧ w ≠ [] ∧
      found = (.load (trim text), []) := by
  constructor
  · intro h
    unfold readLoad at h
    split at h
    · next path hread =>
      obtain ⟨t₁, hword, hspacing⟩ := bind_eq_ok_iff.1 hread
      obtain rfl := word_eq_ok_iff.1 hword
      obtain ⟨w, rfl, hne, hw, -⟩ := spacing_eq_ok_iff.1 hspacing
      exact ⟨w, path, (List.append_assoc _ _ _).symm, hw, hne, (Option.some.inj h).symm⟩
    · simp at h
  · rintro ⟨w, text, rfl, hw, hne, rfl⟩
    -- the spacing that is skipped may go on into the text, which is trimmed anyway
    obtain ⟨w', htext, hw', hstops⟩ := skipSpacing_eq_iff.1 (rfl : skipSpacing text = _)
    have hspacing : spacing (w ++ text) = .ok (skipSpacing text) :=
      spacing_eq_ok_iff.2 ⟨w ++ w', by rw [List.append_assoc, ← htext], by simp [hne],
        List.forall_mem_append.2 ⟨hw, hw'⟩, hstops⟩
    have hread : (word ":load".toList (":load".toList ++ w ++ text) >>= spacing) =
        .ok (skipSpacing text) :=
      bind_eq_ok_iff.2 ⟨w ++ text, word_eq_ok_iff.2 (List.append_assoc _ _ _), hspacing⟩
    have htrim : trim text = trim (skipSpacing text) := by
      conv_lhs => rw [htext]
      exact trim_append_of_isBlank (fun c hc => isBlank_of_isSpacing (hw' c hc)) _
    rw [readLoad, hread, htrim]

/-- `readLine` takes exactly the lines `t` that do not begin with a colon, as `.append t`. -/
lemma readLine_eq_some_iff {t : Text} {found : Command × Text} :
    readLine t = some found ↔ t.head? ≠ some ':' ∧ found = (.append t, []) := by
  unfold readLine
  split
  · next h => simp [h]
  · next h => rw [Option.some.injEq, and_iff_right h, eq_comm]

/-! ## At most one form accepts a line -/

/-- Neither text is the beginning of the other one. -/
def Apart (a b : Text) : Prop := ¬ a <+: b ∧ ¬ b <+: a

instance (a b : Text) : Decidable (Apart a b) := inferInstanceAs (Decidable (_ ∧ _))

/-- No text `t` begins with both `a` and `b` if `Apart a b`. -/
lemma Apart.not_isPrefix {a b t : Text} (h : Apart a b) (ha : a <+: t) : ¬ b <+: t := by
  intro hb
  rcases List.prefix_or_prefix_of_prefix ha hb with hab | hba
  · exact h.1 hab
  · exact h.2 hba

/-- The words of `keywords` are pairwise `Apart`: none is the beginning of another one. -/
lemma keywords_apart : keywords.Pairwise fun k k' => Apart k.1 k'.1 := by decide

/-- The words of `keywords` are `Apart` from `:load`. -/
lemma apart_load : ∀ k ∈ keywords, Apart k.1 ":load".toList := by decide

/-- The words of `keywords` begin with a colon. -/
lemma head?_of_mem_keywords : ∀ k ∈ keywords, k.1.head? = some ':' := by decide

/-- `readKeyword k` refuses the lines that do not begin with the word of `k`; so does `readLoad`
with `:load`. -/
lemma readKeyword_eq_none_or (k : Text × Command) (t : Text) :
    readKeyword k t = none ∨ k.1 <+: t := by
  cases h : readKeyword k t with
  | none => exact .inl rfl
  | some found =>
    obtain ⟨rest, rfl, -⟩ := readKeyword_eq_some_iff.1 h
    exact .inr ⟨rest, rfl⟩

@[inherit_doc readKeyword_eq_none_or]
lemma readLoad_eq_none_or (t : Text) : readLoad t = none ∨ ":load".toList <+: t := by
  cases h : readLoad t with
  | none => exact .inl rfl
  | some found =>
    obtain ⟨w, text, rfl, -⟩ := readLoad_eq_some_iff.1 h
    exact .inr ⟨w ++ text, (List.append_assoc _ _ _).symm⟩

/-- `readLine` refuses a line that begins with a word `k`, since `k` begins with a colon. -/
lemma readLine_eq_none_of_isPrefix {k t : Text} (hk : k.head? = some ':') (ht : k <+: t) :
    readLine t = none := by
  obtain ⟨rest, rfl⟩ := ht
  cases k with
  | nil => simp at hk
  | cons c k => exact if_pos hk

/-- **At most one form of `forms` accepts a line `t`.**

**Proof sketch.** Of two forms that look for words one refuses the line, since the words are apart.
The last form accepts only what does not begin with a colon, and all words do. -/
lemma forms_exclude (t : Text) : forms.Pairwise fun f g => f t = none ∨ g t = none := by
  rw [forms, List.pairwise_append, List.pairwise_map]
  refine ⟨keywords_apart.imp ?_, ?_, ?_⟩
  · intro k k' hapart
    refine (readKeyword_eq_none_or k t).imp_right fun hk => ?_
    exact (readKeyword_eq_none_or k' t).resolve_right (hapart.not_isPrefix hk)
  · have hline : readLoad t = none ∨ readLine t = none :=
      (readLoad_eq_none_or t).imp_right (readLine_eq_none_of_isPrefix rfl)
    simpa using hline
  · intro f hf g hg
    obtain ⟨k, hk, rfl⟩ := List.mem_map.1 hf
    refine (readKeyword_eq_none_or k t).imp_right fun ht => ?_
    simp only [List.mem_cons, List.not_mem_nil, or_false] at hg
    rcases hg with rfl | rfl
    · exact (readLoad_eq_none_or t).resolve_right ((apart_load k hk).not_isPrefix ht)
    · exact readLine_eq_none_of_isPrefix (head?_of_mem_keywords k hk) ht

/-- In a list `fs` of forms that exclude each other on `t`, `findSome?` finds the one that accepts
`t`, wherever it stands.

**Proof sketch.** Induction on the forms.  If the first one refuses `t`, the others decide.  If it
accepts `t`, the others refuse it. -/
lemma findSome?_eq_some_iff {fs : List (Text → Option (Command × Text))} {t : Text}
    (h : fs.Pairwise fun f g => f t = none ∨ g t = none) {found : Command × Text} :
    fs.findSome? (· t) = some found ↔ ∃ f ∈ fs, f t = some found := by
  induction fs with
  | nil => simp
  | cons f fs ih =>
    rw [List.pairwise_cons] at h
    cases hf : f t with
    | none => simp [hf, ih h.2]
    | some found' =>
      -- the others refuse the line, so that this form is the only one
      have hothers : ∀ g ∈ fs, g t = none := fun g hg =>
        (h.1 g hg).resolve_left (by simp [hf])
      simp only [List.findSome?_cons, hf, List.exists_mem_cons_iff]
      constructor
      · exact .inl
      · rintro (heq | ⟨g, hg, heq⟩)
        · exact heq
        · simp [hothers g hg] at heq

/-- `read t` succeeds with `found` if and only if one of the `forms` gives `found` on `t`. -/
lemma read_eq_ok_iff {t : Text} {found : Command × Text} :
    read t = .ok found ↔ ∃ f ∈ forms, f t = some found := by
  rw [← findSome?_eq_some_iff (forms_exclude t), read]
  split
  · next h => simp [h]
  · next h => simp [h]

/-- `read t` stops at the front of `t`, for the exclusion and for the choice, if none of the `forms`
accepts `t`. -/
lemma read_eq_error_of_forall {t : Text} (h : ∀ f ∈ forms, f t = none) :
    read t = .error [⟨.exclusion, t⟩, ⟨.choice, t⟩] := by
  rw [read, List.findSome?_eq_none_iff.2 h]

/-- The `forms` are `readKeyword` for each `Word` of the grammar, `readLoad` and `readLine`. -/
lemma mem_forms_iff {f : Text → Option (Command × Text)} :
    f ∈ forms ↔ (∃ k c, Word k c ∧ f = readKeyword (k, c)) ∨ f = readLoad ∨ f = readLine := by
  simp only [forms, List.mem_append, List.mem_map, Prod.exists, mem_keywords_iff, List.mem_cons,
    List.not_mem_nil, or_false, eq_comm (a := f)]

/-! ## Typed lines -/

/-- A line `k ++ text` that begins with the word `k` of a command `c` is read as `c`. -/
lemma read_word_append {k : Text} {c : Command} (hk : Word k c) (text : Text) :
    read (k ++ text) = .ok (c, skipSpacing text) :=
  read_eq_ok_iff.2 ⟨_, mem_forms_iff.2 (.inl ⟨k, c, hk, rfl⟩),
    readKeyword_eq_some_iff.2 ⟨text, rfl, rfl⟩⟩

/-- `parse` gives every answer that `Answered` allows.

**Proof sketch.** One case for each constructor of `Answered`.  Where a command is read, its
form is among the forms, and what it leaves is spacing or not; where none is, each form is excluded
by a premise of its own. -/
lemma parse_of_answered {shape : Shape} {t : Text} {answer : Except (Misread Command) Command}
    (h : Answered shape t answer) : parse t = answer := by
  cases h with
  | line h =>
    refine whole_eq_ok_iff.2 ⟨[], read_eq_ok_iff.2 ⟨readLine, ?_, ?_⟩, by simp [Spacing]⟩
    · exact mem_forms_iff.2 (.inr (.inr rfl))
    · exact readLine_eq_some_iff.2 ⟨h, rfl⟩
  | @word k w c hk hw =>
    exact whole_eq_ok_iff.2 ⟨_, read_word_append hk w, spacing_skipSpacing_iff.2 hw⟩
  | @path w text hw hne =>
    refine whole_eq_ok_iff.2 ⟨[], read_eq_ok_iff.2 ⟨readLoad, ?_, ?_⟩, by simp [Spacing]⟩
    · exact mem_forms_iff.2 (.inr (.inl rfl))
    · exact readLoad_eq_some_iff.2 ⟨w, text, rfl, hw, hne, rfl⟩
  | @leftover k text c hk htext =>
    refine whole_eq_error_iff.2 (.inr ⟨c, _, read_word_append hk text, ?_, ?_⟩)
    · rwa [spacing_skipSpacing_iff]
    · rw [skipSpacing_skipSpacing]
  | unknown hcolon hword hpath =>
    refine whole_eq_error_iff.2 (.inl ⟨_, read_eq_error_of_forall fun f hf => ?_, rfl⟩)
    rcases mem_forms_iff.1 hf with ⟨k, c, hk, rfl⟩ | rfl | rfl
    · exact (readKeyword_eq_none_or (k, c) t).resolve_right (hword k c hk)
    · rw [Option.eq_none_iff_forall_ne_some]
      intro found hfound
      obtain ⟨w, text, ht, hw, hne, -⟩ := readLoad_eq_some_iff.1 hfound
      exact hpath w text hw hne ht
    · exact if_pos hcolon

/-- Every line `t` is `Answered` in some case. -/
lemma exists_answered (t : Text) : ∃ shape answer, Answered shape t answer := by
  by_cases hcolon : t.head? = some ':'
  · by_cases hword : ∃ k c, Word k c ∧ k <+: t
    · obtain ⟨k, c, hk, text, rfl⟩ := hword
      by_cases htext : Spacing text
      · exact ⟨_, _, .word hk htext⟩
      · exact ⟨_, _, .leftover hk htext⟩
    · by_cases hpath : ∃ w text, Spacing w ∧ w ≠ [] ∧ t = ":load".toList ++ w ++ text
      · obtain ⟨w, text, hw, hne, rfl⟩ := hpath
        exact ⟨_, _, .path hw hne⟩
      · refine ⟨_, _, .unknown hcolon (fun k c hk ht => hword ⟨k, c, hk, ht⟩) ?_⟩
        exact fun w text hw hne ht => hpath ⟨w, text, hw, hne, ht⟩
  · exact ⟨_, _, .line hcolon⟩

/-- The case that an answer tells. -/
def Shape.ofAnswer : Except (Misread Command) Command → Shape
  | .ok (.append _) => .line
  | .ok (.load _) => .path
  | .ok _ => .word
  | .error (.leftover _ _) => .leftover
  | .error (.failed _ _) => .unknown

/-- The case of a line is `Shape.ofAnswer` of its answer. -/
lemma Answered.shape_eq {shape : Shape} {t : Text} {answer : Except (Misread Command) Command}
    (h : Answered shape t answer) : shape = Shape.ofAnswer answer := by
  cases h with
  | word hk => cases hk <;> rfl
  | _ => rfl

/-- **`parse` answers every line exactly as `Answered` says**, and every line is in exactly one of
the five cases.  At most one of the eight `forms` accepts a line, so that the command which is
recognised is the same in whatever order the forms are tried.

**Proof sketch.** The parser gives the answers of the grammar (`parse_of_answered`), and the grammar
has an answer for every line (`exists_answered`), so that there is no other one.  The case can be
told from the answer (`Answered.shape_eq`). -/
theorem parse_iff_answered (t : Text) :
    (∀ answer, parse t = answer ↔ ∃ shape, Answered shape t answer) ∧
    (∃! shape, ∃ answer, Answered shape t answer) ∧
    (forms.length = 8 ∧ forms.Pairwise fun f g => f t = none ∨ g t = none) ∧
    ∀ order : List (Text → Option (Command × Text)), order.Perm forms →
      order.findSome? (· t) = forms.findSome? (· t) := by
  obtain ⟨shape, answer, h⟩ := exists_answered t
  refine ⟨fun answer' => ⟨?_, fun ⟨_, h'⟩ => parse_of_answered h'⟩, ⟨shape, ⟨answer, h⟩, ?_⟩,
    ⟨rfl, forms_exclude t⟩, fun order horder => ?_⟩
  · rintro rfl
    exact ⟨shape, parse_of_answered h ▸ h⟩
  · rintro shape' ⟨answer', h'⟩
    rw [h.shape_eq, h'.shape_eq, ← parse_of_answered h, ← parse_of_answered h']
  · have hexclude : order.Pairwise fun f g => f t = none ∨ g t = none :=
      (horder.pairwise_iff fun h => h.symm).2 (forms_exclude t)
    ext found
    rw [findSome?_eq_some_iff hexclude, findSome?_eq_some_iff (forms_exclude t)]
    simp only [horder.mem_iff]

/-- No word boundary is asked for: `:listing` is `:list` with `ing` left over, also when the `forms`
are tried in the reverse order. -/
theorem parse_iff_answered_listing :
    parse ":listing".toList = .error (.leftover .list "ing".toList) ∧
    forms.reverse.findSome? (· ":listing".toList) = some (.list, "ing".toList) := by
  have htext : ¬ Spacing "ing".toList := by
    intro h
    exact absurd (h 'i' (by decide)) (by decide)
  obtain ⟨hparse, -, -, horder⟩ := parse_iff_answered ":listing".toList
  exact ⟨(hparse _).2 ⟨_, .leftover .list htext⟩,
    (horder _ (List.reverse_perm forms)).trans (by decide +kernel)⟩

end Command

end Primer
