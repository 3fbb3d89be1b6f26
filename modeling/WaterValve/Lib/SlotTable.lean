import Mathlib.Data.Nat.Find
import Mathlib.Data.List.Basic
import Mathlib.Logic.Function.Basic

/-!
# WaterValve.Lib.SlotTable

A table of slots `1, 2, ..` that hold keys, with a high-water mark: the usual
registry of small firmware.  Key 0 marks a free slot.  A slot is found by
searching downwards from the mark, and a new key takes the lowest free slot
below the capacity.

A table is `Wf` when the mark is below the capacity, nothing is stored at 0 or
above the mark, and no key is stored twice.  On such a table a search finds
exactly the slots it should (`Wf.find_eq`, `Wf.find_eq_zero_iff`), and storing
a new key or freeing a slot keeps it well formed (`Wf.set`).
-/

/-- Slots and the high-water mark. -/
@[ext] structure SlotTable (α : Type*) where
  num : Nat
  id : Nat → α

namespace SlotTable

variable {α : Type*} {cap i j : Nat} {a : α} {t : SlotTable α}

/-- Store a key, raising the mark to its slot when it is new. -/
def set (i : Nat) (a : α) (t : SlotTable α) : SlotTable α where
  num := max t.num i
  id := Function.update t.id i a

@[simp] theorem set_id_self : (t.set i a).id i = a := by simp [set]

theorem set_id_of_ne (h : j ≠ i) : (t.set i a).id j = t.id j := by simp [set, h]

/-! ## integrity -/

section Integrity

variable [Zero α]

/-- The integrity of a table of capacity `cap`. -/
structure Wf (cap : Nat) (t : SlotTable α) : Prop where
  num_lt : t.num < cap
  zero : t.id 0 = 0
  beyond : ∀ i, t.num < i → t.id i = 0
  distinct : ∀ i j, t.id i = t.id j → t.id i ≠ 0 → i = j

/-- The empty table. -/
theorem wf_empty (hcap : 0 < cap) : Wf cap (⟨0, fun _ => 0⟩ : SlotTable α) :=
  ⟨hcap, rfl, fun _ _ => rfl, fun _ _ _ hne => absurd rfl hne⟩

/-- A slot in use lies between 1 and the mark. -/
theorem Wf.pos_of_used (h : t.Wf cap) (hi : t.id i ≠ 0) : 0 < i := by
  cases i with
  | zero => exact absurd h.zero hi
  | succ i => exact i.succ_pos

theorem Wf.le_of_used (h : t.Wf cap) (hi : t.id i ≠ 0) : i ≤ t.num := by
  by_contra hlt
  exact hi (h.beyond i (by omega))

/-- **Storing keeps the table well formed**: the key is new, or it is 0 and
the slot becomes free. -/
theorem Wf.set (h : t.Wf cap) (h0 : 0 < i) (hi : i < cap) (ha : a = 0 ∨ ∀ j, t.id j ≠ a) :
    (t.set i a).Wf cap where
  num_lt := by
    have := h.num_lt
    simp only [SlotTable.set]; omega
  zero := by rw [set_id_of_ne (by omega)]; exact h.zero
  beyond := by
    intro j hj
    simp only [SlotTable.set] at hj
    rw [set_id_of_ne (by omega)]
    exact h.beyond j (by omega)
  distinct := by
    have hfresh : ∀ k, t.id k ≠ 0 → t.id k ≠ a := by
      intro k hk e
      cases ha with
      | inl ha => exact hk (e.trans ha)
      | inr ha => exact ha k e
    intro j k hjk hne
    by_cases hj : j = i <;> by_cases hk : k = i
    · exact hj.trans hk.symm
    · subst hj
      rw [set_id_self] at hjk hne
      rw [set_id_of_ne hk] at hjk
      exact absurd hjk.symm (hfresh k (hjk ▸ hne))
    · subst hk
      rw [set_id_self, set_id_of_ne hj] at hjk
      rw [set_id_of_ne hj] at hne
      exact absurd hjk (hfresh j hne)
    · rw [set_id_of_ne hj, set_id_of_ne hk] at hjk
      rw [set_id_of_ne hj] at hne
      exact h.distinct j k hjk hne

end Integrity

/-! ## searching -/

section Search

variable [DecidableEq α]

/-- The slot a downward search for `a` stops at; 0 when it runs out. -/
def find (a : α) (t : SlotTable α) : Nat := Nat.findGreatest (fun i => t.id i = a) t.num

theorem find_le (a : α) (t : SlotTable α) : t.find a ≤ t.num := Nat.findGreatest_le _

theorem id_find (h : t.find a ≠ 0) : t.id (t.find a) = a :=
  Nat.findGreatest_of_ne_zero (P := fun i => t.id i = a) rfl h

theorem find_ne_zero (h0 : 0 < i) (hi : i ≤ t.num) (ha : t.id i = a) : t.find a ≠ 0 := by
  have : i ≤ t.find a := Nat.le_findGreatest (P := fun i => t.id i = a) hi ha
  omega

variable [Zero α]

/-- **The search finds the slot of a stored key.** -/
theorem Wf.find_eq (h : t.Wf cap) (ha : a ≠ 0) (hi : t.id i = a) : t.find a = i := by
  have hused : t.id i ≠ 0 := by rw [hi]; exact ha
  have hid := id_find (find_ne_zero (h.pos_of_used hused) (h.le_of_used hused) hi)
  exact h.distinct _ _ (hid.trans hi.symm) (by rw [hid]; exact ha)

/-- **The search fails exactly on keys that are not stored.** -/
theorem Wf.find_eq_zero_iff (h : t.Wf cap) (ha : a ≠ 0) : t.find a = 0 ↔ ∀ i, t.id i ≠ a := by
  constructor
  · intro h0 i hi
    have hpos := h.pos_of_used (i := i) (by rw [hi]; exact ha)
    have := h.find_eq ha hi
    omega
  · intro hall
    by_contra hne
    exact hall _ (id_find hne)

/-! ## free slots -/

/-- The lowest free slot below the capacity. -/
def free (cap : Nat) (t : SlotTable α) : Option Nat :=
  (List.range' 1 (cap - 1)).find? fun i => t.id i = 0

theorem free_eq_some (h : t.free cap = some i) :
    0 < i ∧ i < cap ∧ t.id i = 0 ∧ ∀ j, 0 < j → j < i → t.id j ≠ 0 := by
  rw [free, List.find?_range'_eq_some] at h
  obtain ⟨hz, hmem, hlow⟩ := h
  rw [List.mem_range'_1] at hmem
  refine ⟨by omega, by omega, by simpa using hz, fun j h0 hj => ?_⟩
  simpa using hlow j (by omega) hj

theorem free_eq_none_iff : t.free cap = none ↔ ∀ j, 0 < j → j < cap → t.id j ≠ 0 := by
  rw [free, List.find?_eq_none]
  constructor
  · intro h j h0 hj
    simpa using h j (List.mem_range'_1.mpr ⟨h0, by omega⟩)
  · intro h j hj
    rw [List.mem_range'_1] at hj
    simpa using h j (by omega) (by omega)

/-- A new slot is at most the one after the mark. -/
theorem Wf.free_le (h : t.Wf cap) (hf : t.free cap = some i) : i ≤ t.num + 1 := by
  obtain ⟨-, hi, -, hlow⟩ := free_eq_some hf
  by_contra hlt
  exact hlow (t.num + 1) (by omega) (by omega) (h.beyond _ (by omega))

end Search

end SlotTable
