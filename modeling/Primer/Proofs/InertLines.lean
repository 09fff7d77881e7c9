import Primer.Proofs.Capitals
import Primer.Proofs.Likeness
import Primer.Proofs.SourceLines

/-!
# Lines that do nothing

A line without a label that is blank or a comment does nothing but take up a number.  Put into a
program, it moves the lines behind it: their labels mark one line further on, and so does the fault
of a line behind it.  Nothing else changes, whether the program comes to its end or not.

## Main definitions

* `Primer.Source.moved` — the number of a line after another one has been put in.

## Main results

* `Primer.Line.classify_of_inert` — what classifying such a line does.
* `Primer.Program.loadLines_insert`, `Primer.Program.walk_insert` — loading and executing lines with
  one such line among them.
* `Primer.Session.runLines_insert` — a run in a fresh session, told from the lines.
* `Primer.Session.run_insert_inert` — a run of a source.
-/

set_option relaxedAutoImplicit false
set_option autoImplicit false

namespace Primer

open Text

/-- The number that line `n` has after another line has been put in as line `i`. -/
def Source.moved (i n : Nat) : Nat := if i ≤ n then n + 1 else n

namespace Source

/-- `moved i n = n + 1` for `i ≤ n`. -/
lemma moved_of_le {i n : Nat} (h : i ≤ n) : moved i n = n + 1 := if_pos h

/-- `moved i n = n` for `n < i`. -/
lemma moved_of_lt {i n : Nat} (h : n < i) : moved i n = n := if_neg (Nat.not_le.2 h)

/-- `moved i` moves a fault on whose line is `i` or more. -/
lemma renumber_moved_of_le {i : Nat} {fault : Fault} (h : i ≤ fault.line) :
    fault.renumber (moved i) = fault.renumber (· + 1) := by
  simp [Fault.renumber, moved_of_le h]

/-- `moved i` leaves a fault alone whose line is less than `i`. -/
lemma renumber_moved_of_lt {i : Nat} {fault : Fault} (h : fault.line < i) :
    fault.renumber (moved i) = fault := by
  simp [Fault.renumber, moved_of_lt h]

/-- `moved i` moves entries on whose lines are all `i` or more. -/
lemma map_moved_of_le {i : Nat} {entries : List (Text × Nat)} (h : ∀ e ∈ entries, i ≤ e.2) :
    entries.map (Prod.map id (moved i)) = entries.map (Prod.map id (· + 1)) :=
  List.map_congr_left fun e he => by simp [Prod.map, moved_of_le (h e he)]

/-- `moved i` leaves entries alone whose lines are all less than `i`. -/
lemma map_moved_of_lt {i : Nat} {entries : List (Text × Nat)} (h : ∀ e ∈ entries, e.2 < i) :
    entries.map (Prod.map id (moved i)) = entries := by
  have hid : entries.map (Prod.map id (moved i)) = entries.map id :=
    List.map_congr_left fun e he => by simp [Prod.map, moved_of_lt (h e he)]
  rw [hid, List.map_id]

end Source

/-! ## One line -/

/-- Each character of a text without a colon passes `(· != ':')`, by which `splitLabel` goes on. -/
lemma Text.bne_colon_of_not_mem {t : Text} (h : ':' ∉ t) : ∀ c ∈ t, (c != ':') = true := by
  intro c hc
  rw [bne_iff_ne]
  rintro rfl
  exact h hc

/-- `splitLabel` takes a text without a colon as a body. -/
lemma Line.splitLabel_of_not_mem {raw : Text} (h : ':' ∉ raw) :
    splitLabel raw = (none, trim raw) := by
  have hnil : raw.dropWhile (· != ':') = [] :=
    List.dropWhile_eq_nil_iff.2 (bne_colon_of_not_mem h)
  simp [splitLabel, hnil]

/-- `splitLabel` splits a text at its first colon. -/
lemma Line.splitLabel_append_colon {label : Text} (h : ':' ∉ label) (body : Text) :
    splitLabel (label ++ ':' :: body) = (some (trim label), trim body) := by
  have hlabel := bne_colon_of_not_mem h
  have hstops : Stops (· != ':') (':' :: body) := by simp
  simp only [splitLabel, dropWhile_append_of_stops hlabel hstops,
    takeWhile_append_of_stops hlabel hstops]

/-- `splitLabel` takes `raw` as a body if there is no colon in it, and else splits it at the first
one. -/
lemma Line.splitLabel_cases (raw : Text) :
    (':' ∉ raw ∧ splitLabel raw = (none, trim raw)) ∨
      ∃ label body, raw = label ++ ':' :: body ∧ ':' ∉ label ∧
        splitLabel raw = (some (trim label), trim body) := by
  by_cases h : ':' ∈ raw
  · obtain ⟨label, body, rfl, hlabel⟩ := List.eq_append_cons_of_mem h
    exact .inr ⟨label, body, rfl, hlabel, splitLabel_append_colon hlabel body⟩
  · exact .inl ⟨h, splitLabel_of_not_mem h⟩

/-- `splitLabel` gives the same for a text with a carriage return behind it. -/
lemma Line.splitLabel_append_return (raw : Text) : splitLabel (raw ++ ['\r']) = splitLabel raw := by
  have hblank : isBlank '\r' = true := by decide
  rcases splitLabel_cases raw with ⟨h, hsplit⟩ | ⟨label, body, rfl, hlabel, hsplit⟩
  · rw [hsplit, splitLabel_of_not_mem (by simp [h]), trim_concat hblank]
  · rw [hsplit, List.append_assoc, List.cons_append, splitLabel_append_colon hlabel,
      trim_concat hblank]

/-- `readBody` reads an inert body as a statement that declares nothing. -/
lemma Line.readBody_of_inert {raw : Text} (h : Inert raw) (number : Nat) :
    ∃ st : Statement, readBody number raw (trim raw) = (some ⟨number, raw, trim raw, st⟩, []) ∧
      st.declaration? = none := by
  rcases h with h | h
  · exact ⟨.blank, by rw [h]; rfl, rfl⟩
  · obtain ⟨u, hu⟩ : ∃ u, trim raw = '#' :: u := by
      cases ht : trim raw with
      | nil => simp [ht] at h
      | cons c u =>
        rw [ht, List.head?_cons, Option.some.injEq] at h
        exact ⟨u, by rw [h]⟩
    exact ⟨.comment, by rw [hu]; rfl, rfl⟩

/-- `classify` returns a line for an inert text without a colon, which declares nothing, and it
leaves `labels` alone. -/
lemma Line.classify_of_inert {raw : Text} (hcolon : ':' ∉ raw) (hinert : Inert raw) (number : Nat)
    (labels : Labels) :
    ∃ l, classify number raw labels = ⟨labels, [], .ok (some l)⟩ ∧
      l.statement.declaration? = none := by
  have hsplit := splitLabel_of_not_mem hcolon
  obtain ⟨st, hread, hnone⟩ := readBody_of_inert hinert number
  refine ⟨⟨number, raw, trim raw, st⟩, ?_, hnone⟩
  rw [classify_of_fresh (by simp [hsplit])]
  simp [recorded, hsplit, hread]

/-- `trim` removes also the carriage return that `dropReturn` would have. -/
lemma Text.trim_dropReturn (t : Text) : trim (dropReturn t) = trim t := by
  rcases eq_dropReturn_or t with h | h
  · rw [← h]
  · have hconcat := trim_concat (c := '\r') (by decide) (dropReturn t)
    rw [← h] at hconcat
    exact hconcat.symm

namespace Program

open Source

/-! ## Among other lines -/

/-- **Loading lines with an inert one among them.**  Let `t` be inert and without a colon.  The
labels that `loadLines` of `texts ++ t :: texts'` leaves are those for `texts ++ texts'`, moved by
`moved (texts.length + 1)`.  So is a fault.  Without a fault the lines are the same, with one more
among them that declares nothing, and those behind it alike, one line further on.

**Proof sketch.** The lines before the new one are loaded as without it (`loadLines_append`), and
what they name is before it (`loadLines_bounds`).  The new line records nothing, so that the lines
behind it are loaded from the same table as without it, and alike (`loadLines_alike`). -/
lemma loadLines_insert {t : Text} (hcolon : ':' ∉ upper t) (hinert : Inert (upper t))
    (texts texts' : List Text) :
    (loadLines 1 (texts ++ t :: texts') {}).state.entries =
      (loadLines 1 (texts ++ texts') {}).state.entries.map
        (Prod.map id (moved (texts.length + 1))) ∧
    ((∃ fault, (loadLines 1 (texts ++ texts') {}).result = .error fault ∧
        (loadLines 1 (texts ++ t :: texts') {}).result =
          .error (fault.renumber (moved (texts.length + 1)))) ∨
      ∃ ls l others others', (loadLines 1 (texts ++ texts') {}).result = .ok (ls ++ others) ∧
        (loadLines 1 (texts ++ t :: texts') {}).result = .ok (ls ++ l :: others') ∧
        l.statement.declaration? = none ∧ List.Forall₂ (Line.Alike (· = ·) 1) others others' ∧
        (∀ x ∈ ls, x.number < texts.length + 1) ∧ ∀ x ∈ others, texts.length + 1 ≤ x.number) := by
  obtain ⟨⟨before, hbefore, hbeforeBounds⟩, hfaultBounds⟩ := loadLines_bounds 1 texts {}
  rw [loadLines_append, loadLines_append]
  generalize hfirst : loadLines 1 texts {} = first at *
  have hstay : first.state.entries.map (Prod.map id (moved (texts.length + 1))) =
      first.state.entries := by
    apply map_moved_of_lt
    intro e he
    have := (hbeforeBounds e (by simpa [hbefore] using he)).2
    omega
  cases hresult : first.result with
  | error fault =>
    have hlt : fault.line < texts.length + 1 := by
      have := (hfaultBounds fault hresult).2
      omega
    exact ⟨hstay.symm, .inl ⟨fault, rfl, by rw [renumber_moved_of_lt hlt]⟩⟩
  | ok ls =>
    obtain ⟨l, hclassify, hnone⟩ :=
      Line.classify_of_inert hcolon hinert (1 + texts.length) first.state
    obtain ⟨halike, behind, hbehind, hbehind'⟩ := loadLines_alike (R := (· = ·)) (k := 1)
      (fun _ _ h => by rw [h]) (List.forall₂_same.2 fun t (_ : t ∈ texts') => rfl)
      (1 + texts.length) first.state first.state rfl
    obtain ⟨⟨behind', heq, hbehindBounds⟩, hfaultBounds'⟩ :=
      loadLines_bounds (1 + texts.length) texts' first.state
    obtain rfl : behind = behind' := List.append_cancel_left (hbehind.symm.trans heq)
    have hmove : behind.map (Prod.map id (moved (texts.length + 1))) =
        behind.map (Prod.map id (· + 1)) := by
      apply map_moved_of_le
      intro e he
      have := (hbehindBounds e he).1
      omega
    simp only [loadLines, hclassify]
    refine ⟨by rw [hbehind, hbehind', List.map_append, hstay, hmove], ?_⟩
    generalize hr : (loadLines (1 + texts.length) texts' first.state).result = r at halike
    generalize hr' : (loadLines (1 + texts.length + 1) texts' first.state).result = r' at halike
    cases halike with
    | @fault f f' hf =>
      have hle : texts.length + 1 ≤ f.line := by
        have := (hfaultBounds' f hr).1
        omega
      exact .inl ⟨f, rfl, by rw [renumber_moved_of_le hle, ← hf.eq_renumber]; rfl⟩
    | @lines others others' hls =>
      refine .inr ⟨ls, l, others, others', rfl, rfl, hnone, hls, fun x hx => ?_, fun x hx => ?_⟩
      · have := (number_bounds_of_loadLines (hfirst ▸ hresult) hx).2
        omega
      · have := (number_bounds_of_loadLines hr hx).1
        omega

/-- **Executing lines with an inert one among them.**  If `l` declares nothing, `others'` are alike
`others` one line further on, and `i` separates the numbers of `ls` and `others`, then `walk`
through `ls ++ l :: others'` leaves the same bindings as `walk` through `ls ++ others`, and its
fault is moved by `moved i`.

**Proof sketch.** The walk goes through the lines before the new one as without it (`walk_append`);
a fault there names one of them (`exists_line_of_walk_fault`).  The new line leaves the bindings
alone, and the lines behind it are executed alike (`walk_alike`). -/
lemma walk_insert {ls others others' : List Line} {l : Line} {i : Nat}
    (hl : l.statement.declaration? = none)
    (halike : List.Forall₂ (Line.Alike (· = ·) 1) others others')
    (hls : ∀ x ∈ ls, x.number < i) (hothers : ∀ x ∈ others, i ≤ x.number) (b : Bindings) :
    (walk (ls ++ l :: others') b).state = (walk (ls ++ others) b).state ∧
      faultOf (walk (ls ++ l :: others') b).result =
        (faultOf (walk (ls ++ others) b).result).map (Fault.renumber (moved i)) := by
  rw [walk_append, walk_append]
  cases hfirst : (walk ls b).result with
  | error fault =>
    obtain ⟨x, hx, hline⟩ := exists_line_of_walk_fault hfirst
    have hlt : fault.line < i := hline ▸ hls x hx
    exact ⟨rfl, by simp [faultOf, renumber_moved_of_lt hlt]⟩
  | ok =>
    obtain ⟨hstate, hfault⟩ := walk_alike halike (walk ls b).state
    simp only [walk, Line.execute_of_inert hl]
    refine ⟨hstate, ?_⟩
    rw [Fault.eq_map_renumber_of_rel hfault]
    cases hrest : (walk others (walk ls b).state).result with
    | ok => rfl
    | error fault =>
      obtain ⟨x, hx, hline⟩ := exists_line_of_walk_fault hrest
      have hle : i ≤ fault.line := hline ▸ hothers x hx
      simp [faultOf, renumber_moved_of_le hle]

end Program

namespace Session

open Source

/-- **A run with an inert line among the others.**  If `t` is inert and without a colon, then in a
fresh session `runLines` of `texts ++ t :: texts'` leaves the same bindings as `runLines` of
`texts ++ texts'`, and its fault and labels are moved by `moved (texts.length + 1)`.

**Proof sketch.** By the two ways in which `loadLines_insert` says that loading can end.
With a fault, nothing is executed, and what loading leaves is what the run leaves
(`runLines_of_fault`). Without one, the bindings and the fault are those of walks through lines that
`loadLines_insert` puts into the form in which `walk_insert` compares them, at
`i = texts.length + 1`. -/
lemma runLines_insert {t : Text} (hcolon : ':' ∉ upper t) (hinert : Inert (upper t))
    (texts texts' : List Text) :
    (runLines {} (texts ++ t :: texts')).2 =
      (runLines {} (texts ++ texts')).2.map (Fault.renumber (moved (texts.length + 1))) ∧
    (runLines {} (texts ++ t :: texts')).1.bindings =
      (runLines {} (texts ++ texts')).1.bindings ∧
    (runLines {} (texts ++ t :: texts')).1.labels.entries =
      (runLines {} (texts ++ texts')).1.labels.entries.map
        (Prod.map id (moved (texts.length + 1))) := by
  obtain ⟨hlabels, ⟨fault, hload, hload'⟩ | ⟨ls, l, others, others', hload, hload', hl, halike,
    hls, hothers⟩⟩ := Program.loadLines_insert hcolon hinert texts texts'
  · rw [@runLines_of_fault {} _ _ hload, @runLines_of_fault {} _ _ hload']
    exact ⟨rfl, rfl, hlabels⟩
  · obtain ⟨hstate, hfault⟩ := Program.walk_insert hl halike hls hothers {}
    rw [@runLines_of_loaded {} _ _ hload, @runLines_of_loaded {} _ _ hload']
    exact ⟨hfault, hstate, hlabels⟩

/-- `s.runLines (texts ++ [t]) = s.runLines texts` for an inert `t` without a colon, in any
session.

**Proof sketch.** A fault in loading `texts` comes first with `t` behind them as well.  Otherwise
`t` is classified as a line that declares nothing (`Line.classify_of_inert`), and the walk gets to
it only at the end, where it changes nothing. -/
lemma runLines_concat_inert {t : Text} (hcolon : ':' ∉ upper t) (hinert : Inert (upper t))
    (s : Session) (texts : List Text) : s.runLines (texts ++ [t]) = s.runLines texts := by
  have hjoint := Program.loadLines_append 1 texts [t] s.labels
  cases hfirst : (Program.loadLines 1 texts s.labels).result with
  | error fault =>
    rw [hfirst] at hjoint
    have hload : (Program.loadLines 1 (texts ++ [t]) s.labels).result = .error fault := by
      rw [hjoint]
    rw [runLines_of_fault hload, runLines_of_fault hfirst, hjoint]
  | ok ls =>
    obtain ⟨l, hclassify, hl⟩ := Line.classify_of_inert hcolon hinert (1 + texts.length)
      (Program.loadLines 1 texts s.labels).state
    simp only [hfirst, Program.loadLines, hclassify] at hjoint
    have hload : (Program.loadLines 1 (texts ++ [t]) s.labels).result = .ok (ls ++ [l]) := by
      rw [hjoint]
      rfl
    rw [runLines_of_loaded hload, runLines_of_loaded hfirst, hjoint, Program.walk_append]
    cases hwalk : (Program.walk ls s.bindings).result with
    | error fault => rfl
    | ok => simp [Program.walk, Line.execute_of_inert hl]

/-- `xs.insertIdx n x` is `x` between the first `n` members of `xs` and the others. -/
lemma insertIdx_eq_take_append {α : Type} {xs : List α} {n : Nat} (h : n ≤ xs.length) (x : α) :
    xs.insertIdx n x = xs.take n ++ x :: xs.drop n := by
  induction n generalizing xs with
  | zero => simp
  | succ n ih =>
    cases xs with
    | nil => simp at h
    | cons y ys => simp [ih (by simpa using h)]

/-- **Lines that do nothing.**  Let a line without a colon be blank or a comment, and let it be put
into a program as line `i`.  In a fresh session the program then runs without a fault if and only if
it did before.  The variables are the same, also those that are bound before a fault.  A fault has
the same text and the same cause, and the number of its line is one higher if it was `i` or more; in
the same way the lines that the labels mark are moved.

**Proof sketch.** The lines of a source of terminated lines are these lines, without carriage
returns at their ends (`Text.lines_terminated`); a carriage return makes no difference for the new
line (`Text.trim_dropReturn`), nor does upper case (`Text.inert_upper_iff`).  The rest is
`runLines_insert`. -/
theorem run_insert_inert {ls : List Text} {t : Text} {i : Nat} (hls : ∀ l ∈ ls, '\n' ∉ l)
    (ht : '\n' ∉ t) (hpos : 1 ≤ i) (hi : i ≤ ls.length + 1) (hcolon : ':' ∉ upper t)
    (hinert : Inert t) :
    ((∃ p, (run {} (terminated (ls.insertIdx (i - 1) t))).result = .ok p) ↔
      ∃ p, (run {} (terminated ls)).result = .ok p) ∧
    (run {} (terminated (ls.insertIdx (i - 1) t))).state.bindings =
      (run {} (terminated ls)).state.bindings ∧
    (∀ fault, (run {} (terminated ls)).result = .error fault →
      (run {} (terminated (ls.insertIdx (i - 1) t))).result =
        .error ⟨moved i fault.line, fault.text, fault.cause⟩) ∧
    (run {} (terminated (ls.insertIdx (i - 1) t))).state.labels.entries =
      (run {} (terminated ls)).state.labels.entries.map (Prod.map id (moved i)) := by
  have hle : i - 1 ≤ ls.length := by omega
  have hnewline : ∀ l ∈ ls.insertIdx (i - 1) t, '\n' ∉ l := by
    intro l hl
    rcases (List.mem_insertIdx hle).1 hl with rfl | hl
    · exact ht
    · exact hls l hl
  have hcolon' : ':' ∉ upper (dropReturn t) := by
    intro hmem
    apply hcolon
    rcases eq_dropReturn_or t with h | h
    · rwa [h]
    · rw [h, upper, List.flatMap_append]
      exact List.mem_append_left _ hmem
  have hinert' : Inert (upper (dropReturn t)) := by
    rw [inert_upper_iff, Inert, trim_dropReturn]
    exact hinert
  have hlength : ((ls.take (i - 1)).map dropReturn).length + 1 = i := by
    rw [List.length_map, List.length_take]
    omega
  have hlines : lines (terminated ls) =
      (ls.take (i - 1)).map dropReturn ++ (ls.drop (i - 1)).map dropReturn := by
    rw [lines_terminated hls, ← List.map_append, List.take_append_drop]
  have hlines' : lines (terminated (ls.insertIdx (i - 1) t)) =
      (ls.take (i - 1)).map dropReturn ++ dropReturn t :: (ls.drop (i - 1)).map dropReturn := by
    rw [lines_terminated hnewline, insertIdx_eq_take_append hle, List.map_append, List.map_cons]
  obtain ⟨hstate, hfault⟩ := run_eq_runLines {} (terminated ls)
  obtain ⟨hstate', hfault'⟩ := run_eq_runLines {} (terminated (ls.insertIdx (i - 1) t))
  obtain ⟨hinsert, hbindings, hlabels⟩ :=
    runLines_insert hcolon' hinert' ((ls.take (i - 1)).map dropReturn)
      ((ls.drop (i - 1)).map dropReturn)
  rw [← hlines, ← hlines', ← hfault, ← hfault', hlength] at hinsert
  rw [← hlines, ← hlines', ← hstate, ← hstate'] at hbindings
  rw [← hlines, ← hlines', ← hstate, ← hstate', hlength] at hlabels
  refine ⟨?_, hbindings, fun fault h => ?_, hlabels⟩
  · rw [← Program.faultOf_eq_none_iff, ← Program.faultOf_eq_none_iff, hinsert,
      Option.map_eq_none_iff]
  · rw [h] at hinsert
    exact Program.eq_error_of_faultOf hinsert

/-- A comment in front of a line that cannot be executed moves the line and its label, and the
carriage return at its end does not matter. -/
theorem run_insert_inert_comment :
    (run {} (terminated (["a: let x = 1".toList, "b: let x = 2".toList].insertIdx (2 - 1)
      " # again\r".toList))).result =
        .error ⟨3, "B: LET X = 2".toList, .duplicateDeclaration "X".toList⟩ := by
  have hfault : Program.faultOf (run {} (terminated ["a: let x = 1".toList,
      "b: let x = 2".toList])).result =
        some ⟨2, "B: LET X = 2".toList, .duplicateDeclaration "X".toList⟩ := by decide +kernel
  exact (run_insert_inert (i := 2) (by decide) (by decide) (by decide) (by decide)
    (by decide +kernel) (by decide +kernel)).2.2.1 _ (Program.eq_error_of_faultOf hfault)

end Session

end Primer
