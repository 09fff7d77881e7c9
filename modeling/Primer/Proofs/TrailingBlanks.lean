import Primer.Proofs.CommandGrammar
import Primer.Proofs.DeclarationGrammar

/-!
# Blanks at the end

A text that is read as a declaration or as a command may be followed by blanks.  Which of them are
allowed depends on what comes last.  Behind a literal and behind the word of a command it is spaces
and tabs only: any other blank, a newline for instance, is left over, and the text is refused for
it.  A path is trimmed, so that behind a path all blanks are allowed.

## Main definitions

* `Primer.Reading.OnlySpacingFollows` — of all blanks, only spaces and tabs may follow a text.

## Main results

* `Primer.Reading.onlySpacingFollows_of_read` — this holds if blanks are left for the end.
* `Primer.Reading.parse_append_blanks` — which blanks may follow a declaration and a command.
-/

set_option relaxedAutoImplicit false
set_option autoImplicit false

namespace Primer

namespace Text

/-- `trim (t ++ w)` is `trim t` for blanks `w`. -/
lemma trim_append_blanks {w : Text} (hw : ∀ c ∈ w, isBlank c = true) (t : Text) :
    trim (t ++ w) = trim t := by
  induction w generalizing t with
  | nil => rw [List.append_nil]
  | cons c w ih =>
    rw [List.forall_mem_cons] at hw
    rw [List.append_cons, ih hw.2, trim_concat hw.1]

/-- `skipSpacing (t ++ u)` is `skipSpacing u` for spacing `t`. -/
lemma skipSpacing_append {t : Text} (ht : Spacing t) (u : Text) :
    skipSpacing (t ++ u) = skipSpacing u :=
  List.dropWhile_append_of_pos ht

end Text

open Text

namespace Reading

/-- Of the texts `w` that may follow the text `t` of a value, a parser allows those of spaces and
tabs.  From any other one, what comes behind its leading spaces and tabs is left over. -/
structure OnlySpacingFollows {α : Type} (parse : Text → Except (Misread α) α) (t : Text)
    (value : α) (w : Text) : Prop where
  allowed : parse (t ++ w) = .ok value ↔ Spacing w
  leftover : ¬ Spacing w → parse (t ++ w) = .error (.leftover value (skipSpacing w))

/-- A reading of `t ++ w` that leaves `w`, up to spacing in front, decides by `w`.

**Proof sketch.** `left` is spacing if and only if `w` is, since both are the same without the
spacing in front.  So `whole` accepts what was read if `w` is spacing, and else `skipSpacing w` is
left over. -/
lemma onlySpacingFollows_of_read {α : Type} {read : Text → Except (List Stop) (α × Text)}
    {t left w : Text} {value : α} (hread : read (t ++ w) = .ok (value, left))
    (hleft : skipSpacing left = skipSpacing w) : OnlySpacingFollows (whole read) t value w := by
  have hspacing : Spacing left ↔ Spacing w := by
    rw [← skipSpacing_eq_nil_iff, hleft, skipSpacing_eq_nil_iff]
  have hmore : ¬ Spacing w → whole read (t ++ w) = .error (.leftover value (skipSpacing w)) := by
    intro hw
    refine whole_eq_error_iff.2 (.inr ⟨value, left, hread, ?_, ?_⟩)
    · rwa [hspacing]
    · rw [hleft]
  refine ⟨⟨fun hok => ?_, fun hw => ?_⟩, hmore⟩
  · by_contra hw
    rw [hmore hw] at hok
    exact absurd hok nofun
  · exact whole_eq_ok_iff.2 ⟨left, hread, hspacing.2 hw⟩

end Reading

open Reading

namespace Declaration

/-- If `read t` takes `d` and leaves `rest`, then `read (t ++ w)` takes `d` and leaves `rest ++ w`,
provided that the literal still ends there. -/
lemma read_append {t rest w : Text} {d : Declaration} (h : read t = .ok (d, rest))
    (hstops : Stops (fun c => !isBlank c) (rest ++ w)) : read (t ++ w) = .ok (d, rest ++ w) := by
  obtain ⟨w₀, w₁, w₂, w₃, rfl, hw₀, hw₁, hne, hname, hw₂, hw₃, hliteral, -⟩ := read_eq_ok_iff.1 h
  refine read_eq_ok_iff.2 ⟨w₀, w₁, w₂, w₃, ?_, hw₀, hw₁, hne, hname, hw₂, hw₃, hliteral, hstops⟩
  simp only [List.append_assoc]

/-- Behind the text `t` of a declaration `d`, of all blanks `w` only spacing may follow: blanks do
not go on with the literal, so that they are left for the end. -/
lemma onlySpacingFollows {t w : Text} {d : Declaration} (h : parse t = .ok d)
    (hw : ∀ c ∈ w, isBlank c = true) : OnlySpacingFollows parse t d w := by
  obtain ⟨rest, hread, hrest⟩ := parse_eq_ok_iff.1 h
  have hstops : Stops (fun c => !isBlank c) (rest ++ w) := by
    refine stops_append (fun c hc => ?_) fun c hc => ?_
    · simp [isBlank_of_isSpacing (hrest c hc)]
    · simp [hw c (List.mem_of_mem_head? hc)]
  refine onlySpacingFollows_of_read ?_ (skipSpacing_append hrest w)
  simp only [read_append hread hstops, Except.mapError]

end Declaration

namespace Command

/-- A text `t` that is parsed as the command `c` of a word is such a word with spacing behind. -/
lemma exists_word_of_parse {t k : Text} {c : Command} (hk : Word k c) (h : parse t = .ok c) :
    ∃ k' w, Word k' c ∧ Spacing w ∧ t = k' ++ w := by
  obtain ⟨shape, answer, hanswer⟩ := exists_answered t
  obtain rfl : answer = .ok c := (parse_of_answered hanswer).symm.trans h
  cases hanswer with
  | line => cases hk
  | word hk' hw => exact ⟨_, _, hk', hw, rfl⟩
  | path => cases hk

/-- Behind the text `t` of a command `c` that is a word, of all texts `w` only spacing may
follow. -/
lemma onlySpacingFollows {t k : Text} {c : Command} (hk : Word k c) (h : parse t = .ok c)
    (w : Text) : OnlySpacingFollows parse t c w := by
  obtain ⟨k', rest, hk', hrest, rfl⟩ := exists_word_of_parse hk h
  have hread : read (k' ++ rest ++ w) = .ok (c, skipSpacing (rest ++ w)) := by
    rw [List.append_assoc]
    exact read_word_append hk' (rest ++ w)
  refine onlySpacingFollows_of_read hread ?_
  rw [skipSpacing_skipSpacing, skipSpacing_append hrest]

/-- A text `t` that is parsed as `.load path` is parsed so with blanks `w` behind it, since the path
is trimmed. -/
lemma parse_load_append {t w path : Text} (h : parse t = .ok (.load path))
    (hw : ∀ c ∈ w, isBlank c = true) : parse (t ++ w) = .ok (.load path) := by
  obtain ⟨shape, answer, hanswer⟩ := exists_answered t
  obtain rfl : answer = .ok (.load path) := (parse_of_answered hanswer).symm.trans h
  cases hanswer with
  | word hk => cases hk
  | @path u text hu hne =>
    rw [List.append_assoc, ← trim_append_blanks hw text]
    exact parse_of_answered (.path hu hne)

end Command

/-- **Blanks behind a declaration and behind a command.**  A declaration and a command that is a
single word can be followed by spaces and tabs, and by no other blanks; what comes behind the spaces
and tabs is then left over.  The command that loads a file can be followed by any blanks. -/
theorem Reading.parse_append_blanks (w : Text) (hw : ∀ c ∈ w, isBlank c = true) :
    (∀ t d, Declaration.parse t = .ok d → OnlySpacingFollows Declaration.parse t d w) ∧
    (∀ t k c, Command.Word k c → Command.parse t = .ok c →
      OnlySpacingFollows Command.parse t c w) ∧
    ∀ t path, Command.parse t = .ok (.load path) → Command.parse (t ++ w) = .ok (.load path) :=
  ⟨fun _ _ h => Declaration.onlySpacingFollows h hw,
    fun _ _ _ hk h => Command.onlySpacingFollows hk h w,
    fun _ _ h => Command.parse_load_append h hw⟩

/-- The end of a line is left over behind a declaration and behind `:run`, and trimmed behind a
path. -/
theorem Reading.parse_append_blanks_newline :
    Declaration.parse "LET A = 5 \r\n".toList =
      .error (.leftover ⟨"A".toList, "5".toList⟩ "\r\n".toList) ∧
    Command.parse ":run \r\n".toList = .error (.leftover .run "\r\n".toList) ∧
    Command.parse ":load a b \r\n".toList = .ok (.load "a b".toList) := by
  have hspacing : ¬ Spacing " \r\n".toList := fun h => absurd (h '\r' (by decide)) (by decide)
  have hblank : ∀ c ∈ " \r\n".toList, isBlank c = true := List.all_eq_true.1 (by decide)
  obtain ⟨hdeclaration, hword, hload⟩ := parse_append_blanks " \r\n".toList hblank
  exact ⟨(hdeclaration "LET A = 5".toList ⟨"A".toList, "5".toList⟩ (by decide +kernel)).leftover
      hspacing,
    (hword ":run".toList _ .run .run (by decide +kernel)).leftover hspacing,
    hload ":load a b".toList "a b".toList (by decide +kernel)⟩

/-- A newline is a blank, and it may follow neither `:run` nor a declaration. -/
theorem Reading.newline_may_not_follow :
    isBlank '\n' = true ∧
    (Command.parse ":run".toList = .ok .run ∧
      Command.parse (":run".toList ++ ['\n']) ≠ .ok .run) ∧
    Declaration.parse "LET A = 5".toList = .ok ⟨"A".toList, "5".toList⟩ ∧
      Declaration.parse ("LET A = 5".toList ++ ['\n']) ≠ .ok ⟨"A".toList, "5".toList⟩ := by
  decide +kernel

end Primer
