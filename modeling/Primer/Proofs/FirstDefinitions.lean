import Mathlib.Data.Finset.Card
import Primer.Proofs.LabelTable

/-!
# The first definition of a name stays

Names are defined in a table one after the other, and some attempts are refused.  What the table
holds then can be said from the list of the attempts alone: the value of a name is that of the first
attempt to define it, and the names stand in the order of their first attempts.  This is shown for
one more attempt, and so for every list of attempts.  For labels it gives the rows that are shown,
in whatever order the labels are enumerated before they are arranged by line number.

## Main definitions

* `Primer.Table.orKeep` — a table after an attempt, which may have been refused.
* `Primer.Table.defineAll`, `Primer.Labels.defineAll` — an empty table after several attempts.
* `Primer.Labels.ListsFirsts` — rows that show the first line of every label.

## Main results

* `Primer.Table.get?_orKeep_define`, `Primer.Table.names_orKeep_define` — what one attempt does.
* `Primer.Table.get?_defineAll`, `Primer.Table.names_defineAll` — what several attempts do.
* `Primer.Labels.first_lines_stay` — the labels after any attempts.
-/

set_option relaxedAutoImplicit false
set_option autoImplicit false

namespace Primer

namespace Table

variable {α ε : Type}

/-- A table after an attempt to change it; if the attempt was refused, the table is as it was. -/
def orKeep (t : Table α) : Except ε (Table α) → Table α
  | .ok t' => t'
  | .error _ => t

/-- An empty table after attempts to define names, one after the other. -/
def defineAll (calls : List (Text × α)) : Table α :=
  calls.foldl (fun t call => t.orKeep (t.define call.1 call.2)) {}

/-! ## One attempt -/

/-- `t.orKeep (t.define name value) = t` for a name that is taken. -/
lemma orKeep_define_of_contains {t : Table α} {name : Text} (h : t.contains name = true)
    (value : α) : t.orKeep (t.define name value) = t := by
  obtain ⟨present, -, hrefused⟩ := define_of_contains h value
  rw [hrefused, orKeep]

/-- `t.orKeep (t.define name value)` has a new name with its value behind all entries of `t`. -/
lemma orKeep_define_of_not_contains {t : Table α} {name : Text} (h : t.contains name = false)
    (value : α) : t.orKeep (t.define name value) = ⟨t.entries ++ [(name, value)]⟩ := by
  rw [define_of_not_contains h, orKeep]

/-- `[call].lookup` has a value for the name of `call` only. -/
lemma lookup_single (call : Text × α) (name : Text) :
    [call].lookup name = if name = call.1 then some call.2 else none := by
  obtain ⟨own, value⟩ := call
  by_cases hname : name = own
  · rw [hname, List.lookup_cons_self, if_pos rfl]
  · rw [List.lookup_cons, beq_false_of_ne hname, List.lookup_nil, if_neg hname]

/-- If `value?` has a value for the name of `call`, then `[call].lookup` adds nothing to it. -/
lemma or_lookup_singleton {value? : Text → Option α} {call : Text × α}
    (h : (value? call.1).isSome = true) (name : Text) :
    (value? name).or ([call].lookup name) = value? name := by
  by_cases hname : name = call.1
  · obtain ⟨present, hpresent⟩ := Option.isSome_iff_exists.1 h
    rw [hname, hpresent, Option.some_or]
  · rw [lookup_single, if_neg hname, Option.or_none]

/-- **What one attempt does to the values.**  After the attempt `call`, a name has the value that it
had in `t`, and otherwise the value that `call` gives it. -/
lemma get?_orKeep_define (t : Table α) (call : Text × α) (name : Text) :
    (t.orKeep (t.define call.1 call.2)).get? name = (t.get? name).or ([call].lookup name) := by
  cases h : t.contains call.1 with
  | true =>
    rw [orKeep_define_of_contains h]
    exact (or_lookup_singleton h name).symm
  | false =>
    rw [orKeep_define_of_not_contains h]
    exact List.lookup_append

/-- **What one attempt does to the names.**  The attempt `call` adds its name behind those of `t`
unless it is taken. -/
lemma names_orKeep_define (t : Table α) (call : Text × α) :
    (t.orKeep (t.define call.1 call.2)).entries.map Prod.fst =
      t.entries.map Prod.fst ++ if t.contains call.1 then [] else [call.1] := by
  cases h : t.contains call.1 with
  | true => simp [orKeep_define_of_contains h]
  | false => simp [orKeep_define_of_not_contains h]

/-! ## Several attempts -/

/-- `defineAll (calls ++ [call])` is `defineAll calls` after the attempt `call`. -/
lemma defineAll_concat (calls : List (Text × α)) (call : Text × α) :
    defineAll (calls ++ [call]) =
      (defineAll calls).orKeep ((defineAll calls).define call.1 call.2) :=
  List.foldl_concat _ _ _ _

/-- **The value of a name is that of the first attempt to define it**, which `calls.lookup`
finds. -/
lemma get?_defineAll (calls : List (Text × α)) (name : Text) :
    (defineAll calls).get? name = calls.lookup name := by
  induction calls using List.reverseRecOn with
  | nil => rfl
  | append_singleton calls call ih =>
    rw [defineAll_concat, get?_orKeep_define, ih, List.lookup_append]

/-- `defineAll calls` has the names of `calls`. -/
lemma contains_defineAll_iff {calls : List (Text × α)} {name : Text} :
    (defineAll calls).contains name = true ↔ name ∈ calls.map Prod.fst := by
  rw [contains, get?_defineAll, ← get?, ← contains]
  exact contains_iff (t := ⟨calls⟩)

/-- **The names stand in the order of the first attempts to define them**: they are those of `calls`
without repetitions.

**Proof sketch.** Induction on the attempts from the end.  The last one adds its name unless it is
taken (`names_orKeep_define`), and a name is taken if and only if it stands among those before. -/
lemma names_defineAll (calls : List (Text × α)) :
    (defineAll calls).entries.map Prod.fst = (calls.map Prod.fst).eraseDups := by
  induction calls using List.reverseRecOn with
  | nil => rfl
  | append_singleton calls call ih =>
    rw [defineAll_concat, names_orKeep_define, ih, List.map_append, List.map_singleton,
      List.eraseDups_append]
    congr 1
    -- what is left of the last name is nothing or the name, depending on the names before it
    by_cases h : call.1 ∈ calls.map Prod.fst
    · have hgone : [call.1].removeAll (calls.map Prod.fst) = [] := by
        simpa [List.removeAll, List.filter_eq_nil_iff] using h
      rw [if_pos (contains_defineAll_iff.2 h), hgone, List.eraseDups_nil]
    · have hleft : [call.1].removeAll (calls.map Prod.fst) = [call.1] := by
        simpa [List.removeAll, List.filter_eq_self] using h
      have hnew : ¬ (defineAll calls).contains call.1 = true := fun hc =>
        h (contains_defineAll_iff.1 hc)
      rw [if_neg hnew, hleft, List.eraseDups_cons, List.filter_nil, List.eraseDups_nil]

/-- No name stands twice in `defineAll calls`. -/
lemma nodup_defineAll (calls : List (Text × α)) :
    ((defineAll calls).entries.map Prod.fst).Nodup := by
  induction calls using List.reverseRecOn with
  | nil => exact List.nodup_nil
  | append_singleton calls call ih =>
    rw [defineAll_concat]
    cases h : (defineAll calls).contains call.1 with
    | true => rwa [orKeep_define_of_contains h]
    | false =>
      rw [orKeep_define_of_not_contains h]
      exact nodup_names_concat ih h call.2

/-- `defineAll calls` has as many entries as there are different names in `calls`. -/
lemma size_defineAll (calls : List (Text × α)) :
    (defineAll calls).size = (calls.map Prod.fst).toFinset.card := by
  have hnames : (calls.map Prod.fst).toFinset =
      ((defineAll calls).entries.map Prod.fst).toFinset := by
    ext name
    rw [List.mem_toFinset, List.mem_toFinset, names_defineAll, List.mem_eraseDups]
  rw [hnames, List.toFinset_card_of_nodup (nodup_defineAll calls), List.length_map, size]

/-- `t.orKeep` does not depend on what a refusal says. -/
lemma orKeep_mapError {ε' : Type} (t : Table α) (f : ε → ε') (result : Except ε (Table α)) :
    t.orKeep (result.mapError f) = t.orKeep result := by
  cases result <;> rfl

end Table

/-! ## Labels -/

namespace Labels

/-- An empty table of labels after attempts to record labels, one after the other. -/
def defineAll (calls : List (Text × Nat)) : Labels :=
  calls.foldl (fun t call => Table.orKeep t (Labels.define t call.1 call.2)) {}

/-- `Labels.define` is `Table.define`, with the label added to a refusal. -/
lemma define_eq (t : Labels) (label : Text) (line : Nat) :
    Labels.define t label line = (Table.define t label line).mapError (⟨label, ·⟩) := by
  unfold Labels.define
  split
  · next h => rw [h, Except.mapError]
  · next h => rw [h, Except.mapError]

/-- `Labels.defineAll` is `Table.defineAll`. -/
lemma defineAll_eq (calls : List (Text × Nat)) :
    Labels.defineAll calls = Table.defineAll calls := by
  unfold Labels.defineAll Table.defineAll
  congr 1
  funext t call
  rw [define_eq, Table.orKeep_mapError]

/-- Rows that show what attempts to record labels have left: every label comes once, with the line
of the first attempt, and the line numbers do not go down. -/
structure ListsFirsts (calls rows : List (Text × Nat)) : Prop where
  once : (rows.map Prod.fst).Nodup
  mem_iff : ∀ label line, (label, line) ∈ rows ↔ calls.lookup label = some line
  ascending : rows.Pairwise fun a b => a.2 ≤ b.2

/-- If `es` enumerates the labels after `calls`, then `byLine es` satisfies `ListsFirsts calls`. -/
lemma listsFirsts_byLine {calls es : List (Text × Nat)}
    (h : Table.Enumeration (Labels.defineAll calls) es) : ListsFirsts calls (byLine es) := by
  have hrows := h.of_perm (byLine_perm es)
  refine ⟨hrows.once, fun label line => ?_, byLine_pairwise es⟩
  rw [hrows.mem_iff, defineAll_eq, Table.get?_defineAll]

/-- **The first line of a label stays.**  After any attempts to record labels, with any lines, a
label has the line of the first attempt.  A further attempt is refused, names the label and this
line, and changes nothing; for a new label it succeeds.  There are as many labels as different ones
were attempted.  However the labels are enumerated, arranging them by line number lists each of
them once with its line, by ascending lines; and the rows that are shown come from such an
enumeration.

**Proof sketch.** One attempt keeps the values that there are and adds at most its own
(`Table.get?_orKeep_define`), so that by induction the first attempt for each label counts.
Arranging an enumeration only changes its order. -/
theorem first_lines_stay (calls : List (Text × Nat)) :
    (∀ label, (Labels.defineAll calls).get? label = calls.lookup label) ∧
    (∀ label line first, calls.lookup label = some first →
      Labels.define (Labels.defineAll calls) label line = .error ⟨label, first⟩ ∧
      Labels.defineAll (calls ++ [(label, line)]) = Labels.defineAll calls) ∧
    (∀ label line, calls.lookup label = none →
      Labels.define (Labels.defineAll calls) label line =
        .ok (Labels.defineAll (calls ++ [(label, line)]))) ∧
    (Labels.defineAll calls).size = (calls.map Prod.fst).toFinset.card ∧
    (∀ es, Table.Enumeration (Labels.defineAll calls) es → ListsFirsts calls (byLine es)) ∧
    ∃ es, Table.Enumeration (Labels.defineAll calls) es ∧
      Labels.rows (Labels.defineAll calls) = byLine es := by
  have hget : ∀ label, (Labels.defineAll calls).get? label = calls.lookup label := by
    intro label
    rw [defineAll_eq, Table.get?_defineAll]
  have hnext : ∀ label line, Labels.defineAll (calls ++ [(label, line)]) =
      Table.orKeep (Labels.defineAll calls)
        (Labels.define (Labels.defineAll calls) label line) := fun label line =>
    List.foldl_concat _ _ _ _
  refine ⟨hget, ?_, ?_, ?_, fun es => listsFirsts_byLine, ?_⟩
  · intro label line first hfirst
    have htaken : (Labels.defineAll calls).contains label = true := by
      rw [Table.contains, hget, hfirst, Option.isSome_some]
    obtain ⟨present, hpresent, hrefused⟩ := Labels.define_of_contains htaken line
    obtain rfl : present = first := by simpa [hget, hfirst] using hpresent.symm
    exact ⟨hrefused, by rw [hnext, hrefused, Table.orKeep]⟩
  · intro label line hnone
    have hnew : (Labels.defineAll calls).contains label = false := by
      rw [Table.contains, hget, hnone, Option.isSome_none]
    rw [hnext, Labels.define_of_not_contains hnew, Table.orKeep]
  · rw [defineAll_eq, Table.size_defineAll]
  · have hentries :
        Table.Enumeration (Labels.defineAll calls) (Labels.defineAll calls).entries := by
      rw [defineAll_eq]
      exact Table.enumeration_entries (Table.nodup_defineAll calls)
    exact ⟨_, hentries.of_perm (List.mergeSort_perm _ _), rfl⟩

/-- Two labels are recorded for one line, and one of them again; the labels are enumerated in
another order. -/
theorem first_lines_stay_shared :
    Labels.define (Labels.defineAll [("B".toList, 2), ("A".toList, 2), ("C".toList, 1)])
      "B".toList 7 = .error ⟨"B".toList, 2⟩ ∧
    ListsFirsts [("B".toList, 2), ("A".toList, 2), ("C".toList, 1)]
      (byLine [("A".toList, 2), ("C".toList, 1), ("B".toList, 2)]) := by
  obtain ⟨-, hrefused, -, -, hlisted, -⟩ :=
    first_lines_stay [("B".toList, 2), ("A".toList, 2), ("C".toList, 1)]
  refine ⟨(hrefused "B".toList 7 2 (by decide)).1, hlisted _ ?_⟩
  have hentries : Labels.defineAll [("B".toList, 2), ("A".toList, 2), ("C".toList, 1)] =
      ⟨[("B".toList, 2), ("A".toList, 2), ("C".toList, 1)]⟩ := by decide
  rw [hentries]
  exact (Table.enumeration_entries (by decide)).of_perm (by decide)

end Labels

end Primer
