import Mathlib.Data.Nat.Find

/-!
# WaterValve.Lib.Loop

The C counting loop `for (uint8_t i = 1; i <= bound; i++) body(i);`.  The
counter wraps, so the loop ends exactly when `bound < 255`; `forU8` runs it
with fuel and answers `none` when the fuel runs out, and 256 rounds are enough
for every loop that ends.
-/

namespace Loop

variable {σ : Type*}

/-- `for (uint8_t i = i0; i <= bound; i++) s = body(i, s);` -/
def forU8 (bound : Nat) (body : Nat → σ → σ) : Nat → UInt8 → σ → Option σ
  | 0, _, _ => none
  | fuel + 1, i, s =>
    if i.toNat ≤ bound then forU8 bound body fuel (i + 1) (body i.toNat s) else some s

/-- The loop from 1. -/
def forUpTo (bound : Nat) (body : Nat → σ → σ) (s : σ) : Option σ := forU8 bound body 256 1 s

private theorem toNat_succ {i : UInt8} {n : Nat} (hi : i.toNat = n) (hn : n < 255) :
    (i + 1).toNat = n + 1 := by
  rw [UInt8.toNat_add, hi]
  have : (1 : UInt8).toNat = 1 := rfl
  omega

private theorem forU8_invariant {P : Nat → σ → Prop} {bound : Nat} {body : Nat → σ → σ}
    (hb : bound < 255)
    (hbody : ∀ i s, 1 ≤ i → i ≤ bound → P i s → P (i + 1) (body i s))
    (fuel n : Nat) (i : UInt8) (s : σ) (hi : i.toNat = n) (h1 : 1 ≤ n) (hn : n ≤ bound + 1)
    (hf : bound + 1 < fuel + n) (hP : P n s) :
    ∃ s', forU8 bound body fuel i s = some s' ∧ P (bound + 1) s' := by
  induction fuel generalizing n i s with
  | zero => omega
  | succ fuel ih =>
      unfold forU8
      by_cases hle : i.toNat ≤ bound
      · rw [if_pos hle]
        rw [hi] at hle ⊢
        exact ih (n + 1) (i + 1) _ (toNat_succ hi (by omega)) (by omega) (by omega) (by omega)
          (hbody n s h1 hle hP)
      · rw [if_neg hle]
        have : n = bound + 1 := by omega
        exact ⟨s, rfl, this ▸ hP⟩

/-- **Loop rule**: below the wrap-around the loop ends, and an invariant that
each round advances holds at the end. -/
theorem forUpTo_invariant {P : Nat → σ → Prop} {bound : Nat} {body : Nat → σ → σ} {s : σ}
    (hb : bound < 255) (h0 : P 1 s)
    (hbody : ∀ i s, 1 ≤ i → i ≤ bound → P i s → P (i + 1) (body i s)) :
    ∃ s', forUpTo bound body s = some s' ∧ P (bound + 1) s' :=
  forU8_invariant hb hbody 256 1 1 s rfl (by omega) (by omega) (by omega) h0

/-- From a bound of 255 on, the counter never exceeds it and no amount of fuel
finishes the loop. -/
theorem forU8_eq_none {bound : Nat} (hb : 255 ≤ bound) (body : Nat → σ → σ) (fuel : Nat)
    (i : UInt8) (s : σ) : forU8 bound body fuel i s = none := by
  induction fuel generalizing i s with
  | zero => rfl
  | succ fuel ih =>
      have := i.toNat_lt
      rw [forU8, if_pos (by omega)]
      exact ih _ _

/-- **Partial rule**: what each round advances holds if the loop ends. -/
theorem of_forUpTo {P : Nat → σ → Prop} {bound : Nat} {body : Nat → σ → σ} {s s' : σ}
    (h : forUpTo bound body s = some s') (h0 : P 1 s)
    (hbody : ∀ i s, 1 ≤ i → i ≤ bound → P i s → P (i + 1) (body i s)) : P (bound + 1) s' := by
  by_cases hb : bound < 255
  · obtain ⟨t, ht, hP⟩ := forUpTo_invariant hb h0 hbody
    exact Option.some.inj (ht.symm.trans h) ▸ hP
  · rw [forUpTo, forU8_eq_none (Nat.le_of_not_lt hb)] at h
    cases h

/-- The loop ends if and only if its bound is below the wrap-around. -/
theorem forUpTo_isSome_iff (bound : Nat) (body : Nat → σ → σ) (s : σ) :
    (forUpTo bound body s).isSome ↔ bound < 255 := by
  constructor
  · intro hsome
    by_contra hb
    rw [forUpTo, forU8_eq_none (Nat.le_of_not_lt hb)] at hsome
    exact absurd hsome (by simp)
  · intro hb
    have hend : ∃ s', forUpTo bound body s = some s' ∧ True :=
      forUpTo_invariant (P := fun _ _ => True) hb trivial fun _ _ _ _ _ => trivial
    obtain ⟨s', hs', -⟩ := hend
    simp [hs']

/-! ## the rounds -/

/-- The counter values for which the body runs in the first `fuel` rounds. -/
def roundsU8 (bound : Nat) : Nat → UInt8 → List Nat
  | 0, _ => []
  | fuel + 1, i => if i.toNat ≤ bound then i.toNat :: roundsU8 bound fuel (i + 1) else []

/-- Every round is within the bound. -/
theorem le_of_mem_roundsU8 {bound fuel n : Nat} {i : UInt8} (h : n ∈ roundsU8 bound fuel i) :
    n ≤ bound := by
  induction fuel generalizing i with
  | zero => simp [roundsU8] at h
  | succ fuel ih =>
      by_cases hi : i.toNat ≤ bound
      · simp only [roundsU8, hi, if_true, List.mem_cons] at h
        obtain rfl | h := h
        · exact hi
        · exact ih h
      · simp [roundsU8, hi] at h

/-- And every value up to the bound is reached. -/
theorem mem_roundsU8 {bound fuel n : Nat} {i : UInt8} (h1 : i.toNat ≤ n) (hn : n ≤ bound)
    (h255 : n ≤ 255) (hf : n < i.toNat + fuel) : n ∈ roundsU8 bound fuel i := by
  induction fuel generalizing i with
  | zero => omega
  | succ fuel ih =>
      simp only [roundsU8, Nat.le_trans h1 hn, if_true, List.mem_cons]
      obtain heq | hlt := Nat.eq_or_lt_of_le h1
      · exact .inl heq.symm
      · have hsucc : (i + 1).toNat = i.toNat + 1 := toNat_succ rfl (by omega)
        exact .inr (ih (by omega) (by omega))

end Loop
