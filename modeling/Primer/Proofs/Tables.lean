import Mathlib.Data.List.Basic
import Mathlib.Tactic.Lemma
import Primer.Bindings
import Primer.Labels

/-!
# Laws of the tables

What defining a name does to a table, in terms of its list of entries: a name that is taken is
refused, and a new one is added behind all others.

## Main results

* `Primer.Table.contains_iff` — the defined names are those of the entries.
* `Primer.Table.contains_of_entries_append` — the names of a table that has grown.
* `Primer.Table.nodup_names_concat` — names stay different.
* `Primer.Labels.define_of_contains`, `Primer.Labels.define_of_not_contains` — recording a label.
* `Primer.Bindings.declare_of_not_contains` — declaring a new variable.
-/

set_option relaxedAutoImplicit false
set_option autoImplicit false

namespace Primer

namespace Table

variable {α : Type}

/-- `t.contains name` holds if and only if `name` is the name of an entry of `t`. -/
lemma contains_iff {t : Table α} {name : Text} :
    t.contains name = true ↔ name ∈ t.entries.map Prod.fst := by
  rw [contains, get?, List.lookup_isSome_iff]
  simp only [beq_iff_eq, List.mem_map]
  constructor
  · rintro ⟨e, he, rfl⟩
    exact ⟨e, he, rfl⟩
  · rintro ⟨e, he, rfl⟩
    exact ⟨e, he, rfl⟩

/-- A table `t'` whose entries are those of `t` and `new` has the names of `t` and those of
`new`. -/
lemma contains_of_entries_append {t t' : Table α} {new : List (Text × α)}
    (h : t'.entries = t.entries ++ new) (name : Text) :
    t'.contains name = true ↔ t.contains name = true ∨ name ∈ new.map Prod.fst := by
  rw [contains_iff, contains_iff, h, List.map_append, List.mem_append]

/-- Tables `t` and `t'` with the same entries are the same. -/
lemma eq_of_entries {t t' : Table α} (h : t.entries = t'.entries) : t = t' := by
  cases t
  exact congrArg mk h

/-- Tables `t` and `t'` whose entries have the same names agree on `contains`. -/
lemma contains_congr {β : Type} {t : Table α} {t' : Table β}
    (h : t'.entries.map Prod.fst = t.entries.map Prod.fst) (name : Text) :
    t'.contains name = t.contains name := by
  rw [Bool.eq_iff_iff, contains_iff, contains_iff, h]

/-- If `t` contains `name`, then `name` has a value `present`, and `t.define name value` fails with
`present`. -/
lemma define_of_contains {t : Table α} {name : Text} (h : t.contains name = true) (value : α) :
    ∃ present, t.get? name = some present ∧ t.define name value = .error present := by
  obtain ⟨present, hp⟩ := Option.isSome_iff_exists.1 h
  exact ⟨present, hp, by simp [define, hp]⟩

/-- If `t` does not contain `name`, then `t.define name value` adds the entry `(name, value)` behind
all others. -/
lemma define_of_not_contains {t : Table α} {name : Text} (h : t.contains name = false)
    (value : α) : t.define name value = .ok ⟨t.entries ++ [(name, value)]⟩ := by
  have hn : t.get? name = none := by simpa [contains] using h
  simp [define, hn]

/-- If the names of `t` are different and `name` is not among them, then they stay different with
`(name, value)` behind. -/
lemma nodup_names_concat {t : Table α} (h : (t.entries.map Prod.fst).Nodup) {name : Text}
    (hnew : t.contains name = false) (value : α) :
    ((t.entries ++ [(name, value)]).map Prod.fst).Nodup := by
  have hfresh : name ∉ t.entries.map Prod.fst := by
    rw [← contains_iff, hnew]
    simp
  rw [List.map_append, List.map_singleton, List.nodup_append]
  refine ⟨h, by simp, fun a ha b hb => ?_⟩
  rw [List.mem_singleton.1 hb]
  rintro rfl
  exact hfresh ha

end Table

/-- If `t` contains `label`, then `Labels.define t label line` is refused with `label` and the line
that it marks. -/
lemma Labels.define_of_contains {t : Labels} {label : Text} (h : t.contains label = true)
    (line : Nat) : ∃ first, t.get? label = some first ∧
      Labels.define t label line = .error ⟨label, first⟩ := by
  obtain ⟨first, hget, hdef⟩ := Table.define_of_contains h line
  exact ⟨first, hget, by simp [Labels.define, hdef]⟩

/-- If `t` does not contain `label`, then `Labels.define t label line` adds `(label, line)` behind
all entries. -/
lemma Labels.define_of_not_contains {t : Labels} {label : Text} (h : t.contains label = false)
    (line : Nat) : Labels.define t label line = .ok ⟨t.entries ++ [(label, line)]⟩ := by
  simp [Labels.define, Table.define_of_not_contains h]

/-- If `b` does not contain `name`, then `Bindings.declare b name value` adds `(name, value)` behind
all entries. -/
lemma Bindings.declare_of_not_contains {b : Bindings} {name : Text} (h : b.contains name = false)
    (value : Int32) : Bindings.declare b name value = .ok ⟨b.entries ++ [(name, value)]⟩ := by
  simp [Bindings.declare, Table.define_of_not_contains h]

end Primer
