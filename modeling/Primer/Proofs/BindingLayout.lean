import Primer.Layout
import Primer.Proofs.FirstDefinitions

/-!
# The layout keeps the bindings

The three parts of a layout are updated one by one, and nothing forces them to agree.  They do agree
after every declaration, accepted or refused: the names in order are those of the index, and
different names have different slots, each of them with a value.  So no name is lost when the
variables are enumerated, and what the layout answers is what the table of variables answers after
the same declarations.

## Main definitions

* `Primer.Layout.Coherent` — the three parts agree.
* `Primer.Layout.declareAll`, `Primer.Bindings.declareAll` — the parts, and the table, after
  declarations of which some may be refused.
* `Primer.Layout.HoldsFirsts` — a layout that keeps the first declaration of every name.
* `Primer.Layout.Represents` — a layout that answers as a table does.

## Main results

* `Primer.Layout.Coherent.declare`, `Primer.Layout.coherent_declareAll` — one declaration keeps the
  parts in agreement, and so do all.
* `Primer.Layout.Coherent.load_declare` — what one declaration does to the values.
* `Primer.Layout.declareAll_keeps_firsts` — the layout after any declarations.

## Design

The step that needs the agreement of the parts is that a new variable leaves the others alone.  Its
slot was not in use before, while every slot of the index was; so no other name leads to it.
-/

set_option relaxedAutoImplicit false
set_option autoImplicit false

namespace Primer

/-- If no name stands twice in `t.entries`, then `t.entries` are the names with the values that
`t.get?` finds for them. -/
lemma Table.filterMap_names {α : Type} {t : Table α} (h : (t.entries.map Prod.fst).Nodup) :
    ((t.entries.map Prod.fst).filterMap fun name => (t.get? name).map fun value => (name, value)) =
      t.entries := by
  have hentry : ∀ e ∈ t.entries, ((t.get? e.1).map fun value => (e.1, value)) = some e := by
    intro e he
    rw [((enumeration_entries h).mem_iff e.1 e.2).1 he, Option.map_some]
  rw [List.filterMap_map]
  exact (List.filterMap_congr hentry).trans List.filterMap_some

/-! ## The table of variables -/

namespace Bindings

/-- No variables, after declarations one after the other; those that are refused change nothing. -/
def declareAll (calls : List (Text × Int32)) : Bindings :=
  calls.foldl (fun b call => Table.orKeep b (Bindings.declare b call.1 call.2)) {}

/-- `Bindings.declare` is `Table.define`, with the name as what a refusal says. -/
lemma declare_eq (b : Bindings) (name : Text) (value : Int32) :
    Bindings.declare b name value = (Table.define b name value).mapError fun _ => ⟨name⟩ := by
  unfold Bindings.declare
  split
  · next h => rw [h, Except.mapError]
  · next h => rw [h, Except.mapError]

/-- `Bindings.declareAll` is `Table.defineAll`. -/
lemma declareAll_eq (calls : List (Text × Int32)) :
    Bindings.declareAll calls = Table.defineAll calls := by
  unfold Bindings.declareAll Table.defineAll
  congr 1
  funext b call
  rw [declare_eq, Table.orKeep_mapError]

/-- `Bindings.declare b name value` is refused if `b` contains `name`, and succeeds if not. -/
lemma declare_map (b : Bindings) (name : Text) (value : Int32) :
    ((Bindings.declare b name value).map fun _ => ()) =
      if b.contains name then .error ⟨name⟩ else .ok () := by
  cases h : b.contains name with
  | true =>
    obtain ⟨present, -, hrefused⟩ := Table.define_of_contains h value
    simp [declare_eq, hrefused, Except.mapError, Except.map]
  | false => simp [Bindings.declare_of_not_contains h, Except.map]

end Bindings

namespace Layout

variable {slots : Slots Int32} {s : Layout slots}

/-! ## One declaration -/

/-- `s.declare name value` is refused if `s` contains `name`, and leaves `s` as it is. -/
lemma declare_of_contains {name : Text} (h : s.contains name = true) (value : Int32) :
    s.declare name value = (.error ⟨name⟩, s) := if_pos h

/-- `s.declare name value` puts a new name behind all others, and leads it to the slot that `slots`
chooses for `value`. -/
lemma declare_of_not_contains {name : Text} (h : s.contains name = false) (value : Int32) :
    s.declare name value = (.ok (),
      ⟨(slots.insert s.values value).2, s.index.insert name (slots.insert s.values value).1,
        s.order ++ [name]⟩) := by
  unfold contains at h
  simp [declare, h]

/-- `s.declare name value` is refused if and only if `s` contains `name`. -/
lemma declare_fst (s : Layout slots) (name : Text) (value : Int32) :
    (s.declare name value).1 = if s.contains name then .error ⟨name⟩ else .ok () := by
  cases h : s.contains name with
  | true => simp [declare_of_contains h]
  | false => simp [declare_of_not_contains h]

/-- The three parts agree.  The names in order are different, and they are the names of the index;
the index leads different names to different slots, and there is a value in each of them; and the
three parts have the same size. -/
structure Coherent (s : Layout slots) : Prop where
  once : s.order.Nodup
  mem_order_iff : ∀ name, name ∈ s.order ↔ name ∈ s.index
  apart : ∀ (name name' : Text) (slot : Nat),
    s.index[name]? = some slot → s.index[name']? = some slot → name = name'
  occupied : ∀ (name : Text) (slot : Nat),
    s.index[name]? = some slot → ∃ value, slots.get? s.values slot = some value
  size_index : s.index.size = s.order.length
  size_values : slots.size s.values = s.order.length

/-- The layout without variables is `Coherent`. -/
lemma coherent_empty : Coherent ({} : Layout slots) where
  once := List.nodup_nil
  mem_order_iff := by simp
  apart := by simp
  occupied := by simp
  size_index := by simp
  size_values := slots.size_empty

namespace Coherent

/-- If `s` is `Coherent`, then no name leads to the slot that `slots` chooses next. -/
lemma index_ne_chosen (h : s.Coherent) {name : Text} {slot : Nat}
    (hslot : s.index[name]? = some slot) (value : Int32) :
    slot ≠ (slots.insert s.values value).1 := by
  rintro rfl
  obtain ⟨present, hpresent⟩ := h.occupied name _ hslot
  rw [slots.get?_chosen] at hpresent
  exact absurd hpresent nofun

/-- If `s` is `Coherent`, then it contains the names that `s.load` has a value for. -/
lemma contains_eq (h : s.Coherent) (name : Text) : s.contains name = (s.load name).isSome := by
  rw [contains, load, Std.HashMap.contains_eq_isSome_getElem?]
  cases hslot : s.index[name]? with
  | none => rfl
  | some slot =>
    obtain ⟨value, hvalue⟩ := h.occupied name slot hslot
    rw [Option.bind_some, hvalue]
    rfl

/-- **What one declaration keeps.**  If `s` is `Coherent`, then so is what `s.declare name value`
leaves, whether it is refused or not.

**Proof sketch.** A new name stands in neither the order nor the index.  Its slot was not in use,
and so no other name leads to it (`index_ne_chosen`); the values of the other slots are as
before. -/
lemma declare (h : s.Coherent) (name : Text) (value : Int32) :
    (s.declare name value).2.Coherent := by
  cases hname : s.contains name with
  | true => rwa [declare_of_contains hname]
  | false =>
    have hindex : name ∉ s.index := by
      rw [Std.HashMap.mem_iff_contains, ← contains, hname]
      exact Bool.false_ne_true
    have horder : name ∉ s.order := fun hmem => hindex ((h.mem_order_iff name).1 hmem)
    rw [declare_of_not_contains hname]
    constructor
    · rw [← List.concat_eq_append]
      exact h.once.concat horder
    · intro other
      rw [List.mem_append, List.mem_singleton, h.mem_order_iff, Std.HashMap.mem_insert, beq_iff_eq,
        or_comm, eq_comm]
    · -- of two names with one slot, neither or both are the new one
      intro a b slot ha hb
      rw [Std.HashMap.getElem?_insert] at ha hb
      split_ifs at ha hb with hna hnb hnb
      · exact (beq_iff_eq.1 hna).symm.trans (beq_iff_eq.1 hnb)
      · exact absurd (Option.some.inj ha).symm (h.index_ne_chosen hb value)
      · exact absurd (Option.some.inj hb).symm (h.index_ne_chosen ha value)
      · exact h.apart a b slot ha hb
    · intro other slot hslot
      rw [Std.HashMap.getElem?_insert] at hslot
      split_ifs at hslot with hother
      · exact ⟨value, by rw [slots.get?_insert, if_pos (Option.some.inj hslot).symm]⟩
      · obtain ⟨present, hpresent⟩ := h.occupied other slot hslot
        exact ⟨present, by rw [slots.get?_insert, if_neg (h.index_ne_chosen hslot value), hpresent]⟩
    · rw [Std.HashMap.size_insert, if_neg hindex, h.size_index, List.length_append,
        List.length_singleton]
    · rw [slots.size_insert, h.size_values, List.length_append, List.length_singleton]

/-- If `s` is `Coherent`, then `s.declare name value` gives a new name its value, and leaves the
values of the others alone. -/
lemma load_declare_of_not_contains (h : s.Coherent) {name : Text} (hname : s.contains name = false)
    (value : Int32) (other : Text) :
    (s.declare name value).2.load other = if name = other then some value else s.load other := by
  rw [declare_of_not_contains hname]
  unfold load
  rw [Std.HashMap.getElem?_insert]
  by_cases hother : name = other
  · rw [if_pos (beq_iff_eq.2 hother), if_pos hother, Option.bind_some, slots.get?_insert,
      if_pos rfl]
  · rw [if_neg (mt beq_iff_eq.1 hother), if_neg hother]
    cases hslot : s.index[other]? with
    | none => rfl
    | some slot =>
      rw [Option.bind_some, Option.bind_some, slots.get?_insert,
        if_neg (h.index_ne_chosen hslot value)]

/-- **What one declaration does to the values.**  If `s` is `Coherent`, then after the declaration
`call` a name has the value that it had in `s`, and otherwise the value that `call` gives it. -/
lemma load_declare (h : s.Coherent) (call : Text × Int32) (name : Text) :
    (s.declare call.1 call.2).2.load name = (s.load name).or ([call].lookup name) := by
  cases hcall : s.contains call.1 with
  | true =>
    rw [declare_of_contains hcall]
    exact (Table.or_lookup_singleton (h.contains_eq call.1 ▸ hcall) name).symm
  | false =>
    rw [h.load_declare_of_not_contains hcall, Table.lookup_single]
    by_cases hname : name = call.1
    · have hnone : s.load name = none := by simpa [h.contains_eq, hname] using hcall
      rw [if_pos hname.symm, if_pos hname, hnone, Option.none_or]
    · rw [if_neg (Ne.symm hname), if_neg hname, Option.or_none]

end Coherent

/-! ## What a layout answers -/

/-- A layout that keeps the first declaration of every name.  A declaration is refused if and only
if its name was declared before, and then nothing is changed; the value of a name is that of its
first declaration, and a name exists if it has a value; every name is enumerated once with its
value, in the order of the first declarations and without leaving one out; and the size is the
number of these. -/
structure HoldsFirsts (s : Layout slots) (calls : List (Text × Int32)) : Prop where
  refused_iff : ∀ name value,
    (s.declare name value).1 = .error ⟨name⟩ ↔ name ∈ calls.map Prod.fst
  accepted_iff : ∀ name value, (s.declare name value).1 = .ok () ↔ name ∉ calls.map Prod.fst
  unchanged : ∀ name value, name ∈ calls.map Prod.fst → (s.declare name value).2 = s
  load_eq : ∀ name, s.load name = calls.lookup name
  contains_iff : ∀ name, s.contains name = true ↔ (s.load name).isSome = true
  names_eq : s.entries.map Prod.fst = (calls.map Prod.fst).eraseDups
  names_eq_order : s.entries.map Prod.fst = s.order
  mem_entries_iff : ∀ name value, (name, value) ∈ s.entries ↔ calls.lookup name = some value
  size_eq : s.size = s.entries.length

/-- A layout that answers as a table of variables does. -/
structure Represents (s : Layout slots) (b : Bindings) : Prop where
  entries_eq : s.entries = b.entries
  load_eq : ∀ name, s.load name = b.get? name
  contains_eq : ∀ name, s.contains name = b.contains name
  size_eq : s.size = b.size
  declare_eq : ∀ name value,
    (s.declare name value).1 = (Bindings.declare b name value).map fun _ => ()

/-! ## Several declarations -/

/-- No variables, after declarations one after the other; those that are refused change nothing. -/
def declareAll (slots : Slots Int32) (calls : List (Text × Int32)) : Layout slots :=
  calls.foldl (fun s call => (s.declare call.1 call.2).2) {}

variable (slots) (calls : List (Text × Int32))

/-- `declareAll slots (calls ++ [call])` is `declareAll slots calls` after the declaration
`call`. -/
lemma declareAll_concat (call : Text × Int32) :
    declareAll slots (calls ++ [call]) =
      ((declareAll slots calls).declare call.1 call.2).2 :=
  List.foldl_concat _ _ _ _

/-- **What all declarations keep**: `declareAll slots calls` is `Coherent`. -/
lemma coherent_declareAll : (declareAll slots calls).Coherent := by
  induction calls using List.reverseRecOn with
  | nil => exact coherent_empty
  | append_singleton calls call ih =>
    rw [declareAll_concat]
    exact ih.declare call.1 call.2

/-- `(declareAll slots calls).load name` is the value of the first declaration of `name` in
`calls`. -/
lemma load_declareAll (name : Text) :
    (declareAll slots calls).load name = calls.lookup name := by
  induction calls using List.reverseRecOn with
  | nil => simp [declareAll, load]
  | append_singleton calls call ih =>
    rw [declareAll_concat, (coherent_declareAll slots calls).load_declare, ih, List.lookup_append]

/-- `declareAll slots calls` contains the names of `Table.defineAll calls`. -/
lemma contains_declareAll (name : Text) :
    (declareAll slots calls).contains name = (Table.defineAll calls).contains name := by
  rw [(coherent_declareAll slots calls).contains_eq, load_declareAll, Table.contains,
    Table.get?_defineAll]

/-- The order of `declareAll slots calls` is that of the names in `Table.defineAll calls`. -/
lemma order_declareAll :
    (declareAll slots calls).order = (Table.defineAll calls).entries.map Prod.fst := by
  induction calls using List.reverseRecOn with
  | nil => rfl
  | append_singleton calls call ih =>
    rw [declareAll_concat, Table.defineAll_concat, Table.names_orKeep_define, ← ih,
      ← contains_declareAll slots]
    cases hcall : (declareAll slots calls).contains call.1 with
    | true => simp [declare_of_contains hcall]
    | false => simp [declare_of_not_contains hcall]

/-- `declareAll slots calls` has the entries of `Table.defineAll calls`. -/
lemma entries_declareAll :
    (declareAll slots calls).entries = (Table.defineAll calls).entries := by
  have htable := Table.filterMap_names (Table.nodup_defineAll calls)
  simp only [Table.get?_defineAll] at htable
  simp only [entries, order_declareAll, load_declareAll, htable]

/-- `declareAll slots calls` `Represents` the table `Bindings.declareAll calls`. -/
lemma represents_declareAll :
    (declareAll slots calls).Represents (Bindings.declareAll calls) := by
  rw [Bindings.declareAll_eq]
  refine ⟨entries_declareAll slots calls, fun name => ?_, contains_declareAll slots calls, ?_, ?_⟩
  · rw [load_declareAll, Table.get?_defineAll]
  · rw [size, order_declareAll, List.length_map, Table.size]
  · intro name value
    rw [declare_fst, Bindings.declare_map, contains_declareAll]

/-- **The layout keeps the bindings.**  Whatever slots the storage chooses, after any declarations,
accepted and refused, the three parts of a layout agree, it keeps the first declaration of every
name, and it answers as the table of variables after the same declarations.

**Proof sketch.** One declaration keeps the agreement of the parts, and with it a new variable
leaves the values of the others alone; so by induction the value of a name is that of its first
declaration, and the names stand in the same order as in the table.  The rest is read off these. -/
theorem declareAll_keeps_firsts (slots : Slots Int32) (calls : List (Text × Int32)) :
    (declareAll slots calls).Coherent ∧
    (declareAll slots calls).HoldsFirsts calls ∧
    (declareAll slots calls).Represents (Bindings.declareAll calls) := by
  have hparts := coherent_declareAll slots calls
  have htable := represents_declareAll slots calls
  have hcontains : ∀ name, (declareAll slots calls).contains name = true ↔
      name ∈ calls.map Prod.fst := by
    intro name
    rw [contains_declareAll, Table.contains_defineAll_iff]
  have hnames : (declareAll slots calls).entries.map Prod.fst =
      (declareAll slots calls).order := by
    rw [entries_declareAll, order_declareAll]
  refine ⟨hparts, ?_, htable⟩
  constructor
  · intro name value
    rw [declare_fst, ← hcontains]
    split_ifs with h <;> simp [h]
  · intro name value
    rw [declare_fst, ← hcontains]
    split_ifs with h <;> simp [h]
  · intro name value hname
    rw [declare_of_contains ((hcontains name).2 hname)]
  · exact load_declareAll slots calls
  · intro name
    rw [hparts.contains_eq]
  · rw [entries_declareAll, Table.names_defineAll]
  · exact hnames
  · intro name value
    rw [entries_declareAll, (Table.enumeration_entries (Table.nodup_defineAll calls)).mem_iff,
      Table.get?_defineAll]
  · rw [size, ← hnames, List.length_map]

/-- Three variables in slots that are numbered from zero; one of them is declared again. -/
theorem declareAll_keeps_firsts_rising :
    let s := declareAll (Slots.rising Int32)
      [("Z".toList, 1), ("A".toList, 2), ("Z".toList, 9), ("M".toList, 3)]
    s.entries = [("Z".toList, 1), ("A".toList, 2), ("M".toList, 3)] ∧
      s.load "Z".toList = some 1 ∧ s.load "B".toList = none ∧
      s.declare "Z".toList 5 = (.error ⟨"Z".toList⟩, s) := by
  obtain ⟨-, hfirsts, htable⟩ := declareAll_keeps_firsts (Slots.rising Int32)
    [("Z".toList, 1), ("A".toList, 2), ("Z".toList, 9), ("M".toList, 3)]
  refine ⟨?_, ?_, ?_, Prod.ext ((hfirsts.refused_iff "Z".toList 5).2 (by decide))
    (hfirsts.unchanged "Z".toList 5 (by decide))⟩
  · rw [htable.entries_eq]
    decide
  · rw [hfirsts.load_eq]
    decide
  · rw [hfirsts.load_eq]
    decide

end Layout

end Primer
