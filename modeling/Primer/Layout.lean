import Mathlib.Init
import Primer.Bindings

/-!
# A layout of the bindings

Bindings can be kept in three parts.  The values are stored in numbered slots, a hash map says in
which slot the value of a name is, and a list has the names in the order of their declarations.
Each part is updated by itself, and each question is answered from those parts that it needs.

How the storage chooses its slots is left open.  It is only required that a value goes into a slot
that is not in use, and that it is found there from then on.

## Main definitions

* `Primer.Slots` — storage in numbered slots; `Primer.Slots.rising` — slots numbered from zero.
* `Primer.Layout` — bindings in three parts.
* `Primer.Layout.load`, `Primer.Layout.contains`, `Primer.Layout.size`, `Primer.Layout.entries` —
  what can be asked.
* `Primer.Layout.declare` — gives a new variable its value.
-/

set_option relaxedAutoImplicit false
set_option autoImplicit false

namespace Primer

/-- Storage in numbered slots.  A value is inserted into a slot that is not in use, and this slot
then has the value; nothing else is changed. -/
structure Slots (α : Type) where
  State : Type
  empty : State
  insert : State → α → Nat × State
  get? : State → Nat → Option α
  size : State → Nat
  get?_empty : ∀ slot, get? empty slot = none
  get?_chosen : ∀ s value, get? s (insert s value).1 = none
  get?_insert : ∀ s value slot,
    get? (insert s value).2 slot = if slot = (insert s value).1 then some value else get? s slot
  size_empty : size empty = 0
  size_insert : ∀ s value, size (insert s value).2 = size s + 1

/-- Slots that are numbered from zero in the order in which they come into use. -/
def Slots.rising (α : Type) : Slots α where
  State := List α
  empty := []
  insert values value := (values.length, values ++ [value])
  get? values slot := values[slot]?
  size := List.length
  get?_empty _ := List.getElem?_nil
  get?_chosen values _ := List.getElem?_eq_none (Nat.le_refl values.length)
  get?_insert values value slot := by
    change (values ++ [value])[slot]? = if slot = values.length then some value else values[slot]?
    rcases Nat.lt_trichotomy slot values.length with h | rfl | h
    · rw [List.getElem?_append_left h, if_neg (Nat.ne_of_lt h)]
    · rw [List.getElem?_concat_length, if_pos rfl]
    · rw [if_neg (Nat.ne_of_gt h), List.getElem?_eq_none (Nat.le_of_lt h)]
      exact List.getElem?_eq_none (by rw [List.length_append]; exact h)
  size_empty := rfl
  size_insert _ _ := List.length_append

/-- A text is hashed as the string of its characters. -/
instance : Hashable Text := ⟨fun t => hash (String.ofList t)⟩

/-- Bindings in three parts: the values in their slots, the slot of each name, and the names in the
order of their declarations. -/
structure Layout (slots : Slots Int32) where
  values : slots.State := slots.empty
  index : Std.HashMap Text Nat := ∅
  order : List Text := []

namespace Layout

variable {slots : Slots Int32}

/-- The value of a variable. -/
def load (s : Layout slots) (name : Text) : Option Int32 :=
  s.index[name]?.bind fun slot => slots.get? s.values slot

/-- Whether a variable is declared. -/
def contains (s : Layout slots) (name : Text) : Bool := s.index.contains name

/-- Gives a new variable its value.  The parts are left as they are if the variable is declared
already. -/
def declare (s : Layout slots) (name : Text) (value : Int32) :
    Except AlreadyDeclared Unit × Layout slots :=
  if s.index.contains name then (.error ⟨name⟩, s)
  else
    let (slot, values) := slots.insert s.values value
    (.ok (), ⟨values, s.index.insert name slot, s.order ++ [name]⟩)

/-- The number of variables. -/
def size (s : Layout slots) : Nat := s.order.length

/-- The variables with their values, in the order of their declarations.  A name for which no value
is found is left out. -/
def entries (s : Layout slots) : List (Text × Int32) :=
  s.order.filterMap fun name => (s.load name).map fun value => (name, value)

end Layout

end Primer
