/-
**A growing vector and the addresses of its entries.**

The entries of a `StdVector` live in one buffer, which has an identity and a capacity. Appending
below the capacity stays in the buffer; appending at the capacity moves all entries to a new one
(`pushBack`), of a capacity that the vector's own growth policy picks. An `Address` is a place in a
buffer: `deref` reads the entry there, and reads nothing when the vector has left that buffer.
`IteratorsValid` says that iterators taken earlier are still good.

Before that, what a list has at one place, and what a change there does to it (`map_modify`,
`mem_modify`).
-/

import Mathlib.Data.List.Basic

namespace GstPipeline.Lib

/-! ### One entry of a list -/

section Entry

variable {α β : Type} {values : List α} {i : ℕ}

/-- The entry that comes next, and what is left after it. -/
theorem getElem?_of_drop {value : α} {rest : List α} (left : values.drop i = value :: rest) :
    values[i]? = some value ∧ values.drop (i + 1) = rest := by
  constructor
  · rw [← List.head?_drop, left]
    rfl
  · rw [← List.tail_drop, left]
    rfl

/-- A part of the entries sees the change that is made to that part. -/
theorem map_modify {part : α → β} {change : α → α} {partChange : β → β}
    (sees : ∀ value, part (change value) = partChange (part value)) :
    (values.modify i change).map part = (values.map part).modify i partChange := by
  apply List.ext_getElem?
  intro j
  simp only [List.getElem?_map, List.getElem?_modify]
  cases values[j]? with
  | none => rfl
  | some value =>
    by_cases here : i = j
    · simp [here, sees]
    · simp [here]

/-- A part of the entries that the change leaves alone. -/
theorem map_modify_same {part : α → β} {change : α → α}
    (same : ∀ value, part (change value) = part value) :
    (values.modify i change).map part = values.map part := by
  have unchanged : (values.modify i change).map part = (values.map part).modify i id :=
    map_modify same
  rw [unchanged, List.modify_id]

theorem mem_modify {change : α → α} {value : α} (member : value ∈ values.modify i change) :
    value ∈ values ∨ ∃ before ∈ values, value = change before := by
  obtain ⟨j, found⟩ := List.mem_iff_getElem?.mp member
  rw [List.getElem?_modify] at found
  obtain ⟨before, place, same⟩ := Option.map_eq_some_iff.mp found
  have old := List.mem_of_getElem? place
  by_cases here : i = j
  · rw [if_pos here] at same
    exact Or.inr ⟨before, old, same.symm⟩
  · rw [if_neg here] at same
    exact Or.inl (same ▸ old)

end Entry

/-! ### The vector -/

/-- A vector: its buffer, the entries in it, and how its capacity grows. -/
structure StdVector (α : Type) where
  buffer : ℕ
  entries : List α
  capacity : ℕ
  growth : ℕ → ℕ
  fits : entries.length ≤ capacity

/-- A place in a buffer. -/
structure Address where
  buffer : ℕ
  index : ℕ
  deriving DecidableEq, Repr

namespace StdVector

variable {α : Type}

/-- The vector with no entries and no capacity. -/
def empty (growth : ℕ → ℕ) : StdVector α := ⟨0, [], 0, growth, Nat.le_refl 0⟩

def size (v : StdVector α) : ℕ := v.entries.length

/-- The next `pushBack` moves to a new buffer. -/
def Full (v : StdVector α) : Prop := v.size = v.capacity

instance (v : StdVector α) : Decidable v.Full := inferInstanceAs (Decidable (_ = _))

/-- Append one entry; at full capacity all entries move to a new buffer. -/
def pushBack (v : StdVector α) (entry : α) : StdVector α :=
  if full : v.Full then
    { buffer := v.buffer + 1
      entries := v.entries ++ [entry]
      capacity := max (v.growth v.capacity) (v.size + 1)
      growth := v.growth
      fits := by
        simp only [size, List.length_append, List.length_singleton]
        exact Nat.le_max_right _ _ }
  else
    { v with
      entries := v.entries ++ [entry]
      fits := by
        have room := v.fits
        simp only [Full, size] at full
        simp only [List.length_append, List.length_singleton]
        omega }

/-- Rewrite the entries where they are. -/
def rewrite (v : StdVector α) (entries : List α) (same : entries.length = v.entries.length) :
    StdVector α :=
  { v with entries := entries, fits := same ▸ v.fits }

/-- Rewrite the entry at an index where it is. -/
def modifyAt (v : StdVector α) (index : ℕ) (change : α → α) : StdVector α :=
  v.rewrite (v.entries.modify index change) (List.length_modify ..)

/-- The address of the entry at an index. -/
def addressOf (v : StdVector α) (index : ℕ) : Address := ⟨v.buffer, index⟩

/-- The entry at an address, if the vector is still in that buffer. -/
def deref (v : StdVector α) (address : Address) : Option α :=
  if address.buffer = v.buffer then v.entries[address.index]? else none

@[simp] theorem entries_pushBack (v : StdVector α) (entry : α) :
    (v.pushBack entry).entries = v.entries ++ [entry] := by
  unfold pushBack
  split <;> rfl

@[simp] theorem entries_modifyAt (v : StdVector α) (index : ℕ) (change : α → α) :
    (v.modifyAt index change).entries = v.entries.modify index change := rfl

/-- There is nothing to rewrite at an index outside. -/
theorem modifyAt_of_beyond {v : StdVector α} {index : ℕ} (beyond : ¬ index < v.size)
    (change : α → α) : v.modifyAt index change = v := by
  have same : v.entries.modify index change = v.entries :=
    List.modify_eq_self (Nat.le_of_not_lt beyond)
  unfold modifyAt rewrite
  congr 1

theorem buffer_pushBack_of_full {v : StdVector α} (full : v.Full) (entry : α) :
    (v.pushBack entry).buffer = v.buffer + 1 := by
  unfold pushBack
  rw [dif_pos full]

theorem buffer_pushBack_of_room {v : StdVector α} (room : ¬ v.Full) (entry : α) :
    (v.pushBack entry).buffer = v.buffer := by
  unfold pushBack
  rw [dif_neg room]

/-- A vector never comes back to a buffer it left. -/
theorem buffer_le_pushBack (v : StdVector α) (entry : α) :
    v.buffer ≤ (v.pushBack entry).buffer := by
  by_cases full : v.Full
  · exact (buffer_pushBack_of_full full entry).symm ▸ Nat.le_succ _
  · exact (buffer_pushBack_of_room full entry).symm ▸ Nat.le_refl _

/-- An address in an older buffer denotes nothing. -/
theorem deref_of_lt {v : StdVector α} {address : Address} (older : address.buffer < v.buffer) :
    v.deref address = none :=
  if_neg (Nat.ne_of_lt older)

/-- An address in the current buffer denotes the entry at its index. -/
theorem deref_of_eq {v : StdVector α} {address : Address} (current : address.buffer = v.buffer) :
    v.deref address = v.entries[address.index]? :=
  if_pos current

/-- The iterators taken on one state of a vector are good on another: the end is where it was, and
each denotes the entry at its index. -/
structure IteratorsValid (before after : StdVector α) : Prop where
  last : after.size = before.size
  denotes : ∀ index, after.deref (before.addressOf index) = after.entries[index]?

theorem iteratorsValid_of_same {before after : StdVector α} (sameBuffer : after.buffer = before.buffer)
    (sameSize : after.size = before.size) : IteratorsValid before after where
  last := sameSize
  denotes _ := deref_of_eq sameBuffer.symm

end StdVector

end GstPipeline.Lib
