import Mathlib.Data.List.Nodup
import Mathlib.Data.Set.Insert
import Mathlib.Logic.Function.Basic

/-!
# WaterValve.Lib.Pool

A pool of cells that several threads share.

`Chained next p l` says that the cells of `l` are the ones found from the pointer
`p` on, and that the list ends there.  A cell determines what follows it, so that
no cell is found twice (`Chained.nodup`) and a list is determined by where it
begins (`Chained.unique`).

`Owned holds shared` says that each cell is either shared or held by one thread.
-/

variable {ι : Type*} {next next' : ι → Option ι} {p q : Option ι} {b c : ι} {l l' : List ι}

/-- The cells from `p` on. -/
def Chained (next : ι → Option ι) : Option ι → List ι → Prop
  | p, [] => p = none
  | p, b :: l => p = some b ∧ Chained next (next b) l

/-- Follow the pointers for `n` cells. -/
def walk (next : ι → Option ι) : Option ι → Nat → List ι
  | some b, n + 1 => b :: walk next (next b) n
  | _, _ => []

namespace Chained

@[simp] theorem nil_iff : Chained next p [] ↔ p = none := Iff.rfl

@[simp] theorem cons_iff : Chained next p (b :: l) ↔ p = some b ∧ Chained next (next b) l := Iff.rfl

theorem walk_eq (h : Chained next p l) : walk next p l.length = l := by
  induction l generalizing p with
  | nil => cases p <;> rfl
  | cons b l ih =>
      obtain ⟨rfl, h⟩ := h
      exact congrArg (b :: ·) (ih h)

/-- A pointer determines its list. -/
theorem unique (h : Chained next p l) (h' : Chained next p l') : l = l' := by
  induction l generalizing p l' with
  | nil =>
      obtain rfl := h
      cases l' with
      | nil => rfl
      | cons c l' => cases h'.1
  | cons b l ih =>
      obtain ⟨rfl, h⟩ := h
      cases l' with
      | nil => cases h'
      | cons c l' =>
          obtain ⟨hc, h'⟩ := h'
          obtain rfl := Option.some.inj hc
          exact congrArg (b :: ·) (ih h h')

/-- The cells after a cell. -/
theorem drop_of_append {l₁ l₂ : List ι} (h : Chained next p (l₁ ++ b :: l₂)) :
    Chained next (next b) l₂ := by
  induction l₁ generalizing p with
  | nil => exact h.2
  | cons c l₁ ih => exact ih h.2

theorem nodup (h : Chained next p l) : l.Nodup := by
  induction l generalizing p with
  | nil => exact List.nodup_nil
  | cons b l ih =>
      refine List.nodup_cons.mpr ⟨fun hmem => ?_, ih h.2⟩
      -- the cells after the second `b` would be those after the first
      obtain ⟨l₁, l₂, rfl⟩ := List.append_of_mem hmem
      have hlength := congrArg List.length (unique h.2 (drop_of_append h.2))
      simp at hlength
      omega

/-- Only the cells of the list matter. -/
theorem congr (h : Chained next p l) (hnext : ∀ b ∈ l, next' b = next b) : Chained next' p l := by
  induction l generalizing p with
  | nil => exact h
  | cons b l ih =>
      refine ⟨h.1, ?_⟩
      rw [hnext b List.mem_cons_self]
      exact ih h.2 fun c hc => hnext c (List.mem_cons_of_mem b hc)

variable [DecidableEq ι]

/-- A write to a cell outside the list. -/
theorem update (h : Chained next p l) (hb : b ∉ l) : Chained (Function.update next b q) p l :=
  h.congr fun _ hc => Function.update_of_ne (ne_of_mem_of_not_mem hc hb) _ _

/-- A cell is put in front. -/
theorem push (h : Chained next p l) (hb : b ∉ l) :
    Chained (Function.update next b p) (some b) (b :: l) := by
  refine ⟨rfl, ?_⟩
  rw [Function.update_self]
  exact h.update hb

/-- A cell is put behind the last one. -/
theorem append (h : Chained next p (l ++ [c])) (hb : b ∉ l ++ [c]) (hnext : next b = none) :
    Chained (Function.update next c (some b)) p (l ++ [c, b]) := by
  induction l generalizing p with
  | nil =>
      have hbc : b ≠ c := by simpa using hb
      refine ⟨h.1, ?_, ?_⟩
      · rw [Function.update_self]
      · rw [Function.update_of_ne hbc]
        exact hnext
  | cons d l ih =>
      have hdc : d ≠ c := by
        have hnodup := h.nodup
        simp only [List.cons_append, List.nodup_cons, List.mem_append, List.mem_singleton,
          not_or] at hnodup
        exact hnodup.1.2
      refine ⟨h.1, ?_⟩
      rw [Function.update_of_ne hdc]
      exact ih h.2 fun hmem => hb (List.mem_cons_of_mem d hmem)

end Chained

/-! ## who has a cell -/

/-- Each cell is either shared or held by exactly one thread. -/
structure Owned {τ : Type*} (holds : τ → Option ι) (shared : Set ι) : Prop where
  held : ∀ t b, holds t = some b → b ∉ shared
  unique : ∀ t u b, holds t = some b → holds u = some b → t = u
  covered : ∀ b, b ∈ shared ∨ ∃ t, holds t = some b

namespace Owned

variable {τ : Type*} {holds holds' : τ → Option ι} {shared : Set ι} {t : τ}

/-- A shared cell is held by none. -/
theorem mem_iff (h : Owned holds shared) : b ∈ shared ↔ ¬∃ t, holds t = some b := by
  refine ⟨fun hb ⟨t, ht⟩ => h.held t b ht hb, fun hnone => ?_⟩
  exact (h.covered b).resolve_right hnone

/-- A thread that holds nothing takes a shared cell. -/
theorem take (h : Owned holds shared) (hb : b ∈ shared) (ht : holds t = none)
    (hself : holds' t = some b) (hother : ∀ u, u ≠ t → holds' u = holds u) :
    Owned holds' (shared \ {b}) where
  held u c hc := by
    by_cases hu : u = t
    · obtain rfl : b = c := by simpa [hu, hself] using hc
      exact fun hmem => hmem.2 rfl
    · exact fun hmem => h.held u c (hother u hu ▸ hc) hmem.1
  unique u v c hu hv := by
    have hb' : ∀ w, holds w ≠ some b := fun w hw => h.held w b hw hb
    by_cases hut : u = t <;> by_cases hvt : v = t
    · rw [hut, hvt]
    · subst hut
      obtain rfl : b = c := by simpa [hself] using hu
      exact absurd (hother v hvt ▸ hv) (hb' v)
    · subst hvt
      obtain rfl : b = c := by simpa [hself] using hv
      exact absurd (hother u hut ▸ hu) (hb' u)
    · exact h.unique u v c (hother u hut ▸ hu) (hother v hvt ▸ hv)
  covered c := by
    by_cases hc : c = b
    · exact .inr ⟨t, hc ▸ hself⟩
    · refine (h.covered c).imp (fun hmem => ⟨hmem, hc⟩) fun ⟨u, hu⟩ => ⟨u, ?_⟩
      rw [hother u, hu]
      rintro rfl
      simp [ht] at hu

/-- A thread shares the cell it holds. -/
theorem give (h : Owned holds shared) (ht : holds t = some b)
    (hself : holds' t = none) (hother : ∀ u, u ≠ t → holds' u = holds u) :
    Owned holds' (insert b shared) where
  held u c hc := by
    have hu : u ≠ t := by
      rintro rfl
      simp [hself] at hc
    rw [hother u hu] at hc
    rintro (rfl | hmem)
    · exact hu (h.unique u t c hc ht)
    · exact h.held u c hc hmem
  unique u v c hu hv := by
    have hne : ∀ w, holds' w = some c → w ≠ t := by
      rintro w hw rfl
      simp [hself] at hw
    exact h.unique u v c (hother u (hne u hu) ▸ hu) (hother v (hne v hv) ▸ hv)
  covered c := by
    by_cases hc : c = b
    · exact .inl (.inl hc)
    · refine (h.covered c).imp .inr fun ⟨u, hu⟩ => ⟨u, ?_⟩
      rw [hother u, hu]
      rintro rfl
      exact hc (Option.some.inj (hu.symm.trans ht))

end Owned
