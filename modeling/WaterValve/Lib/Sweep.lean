import Mathlib.Tactic.TypeStar

/-!
# WaterValve.Lib.Sweep

A sweep over the slots of a table that changes while it is swept.  Each visit
reports the slot under the cursor, if the slot has something to report, and
moves the cursor on; the sweep ends when the cursor is past the bound that the
table has at that moment.

`Swept` relates the cursor to the reports made so far and the tables seen so
far.  What stays in one slot in all of them is reported once the cursor has
passed it, and then exactly once (`Swept.once`).
-/

/-- What a sweep reads off a table: how many slots there are, and what each one
reports, under a key. -/
structure Sweep (τ ε κ : Type*) where
  bound : τ → Nat
  report : τ → Nat → Option ε
  key : ε → κ

namespace Sweep

variable {τ ε κ : Type*} {S : Sweep τ ε κ} {t : τ} {i : Nat} {k : κ}

/-- Slot `i` of `t` holds what is reported under `k`. -/
def Holds (S : Sweep τ ε κ) (t : τ) (i : Nat) (k : κ) : Prop :=
  ∃ e, S.report t i = some e ∧ S.key e = k

/-- Nothing is in two slots, and nothing out of bounds. -/
structure Sound (S : Sweep τ ε κ) (t : τ) : Prop where
  distinct : ∀ {i j k}, S.Holds t i k → S.Holds t j k → i = j
  bounded : ∀ {i k}, S.Holds t i k → 0 < i ∧ i ≤ S.bound t

/-- What a visit of slot `i` adds to the reports. -/
def visit (S : Sweep τ ε κ) (t : τ) (i : Nat) : List (τ × ε) := ((S.report t i).map (t, ·)).toList

/-- The reports under one key. -/
def under [DecidableEq κ] (S : Sweep τ ε κ) (k : κ) (reports : List (τ × ε)) : List (τ × ε) :=
  reports.filter fun r => S.key r.2 = k

theorem under_append [DecidableEq κ] (k : κ) (reports reports' : List (τ × ε)) :
    S.under k (reports ++ reports') = S.under k reports ++ S.under k reports' :=
  List.filter_append ..

theorem under_visit_of_holds [DecidableEq κ] (h : S.Holds t i k) :
    ∃ e, S.report t i = some e ∧ S.under k (S.visit t i) = [(t, e)] := by
  obtain ⟨e, he, hk⟩ := h
  exact ⟨e, he, by simp [under, visit, he, hk]⟩

theorem under_visit_of_not_holds [DecidableEq κ] (h : ¬S.Holds t i k) :
    S.under k (S.visit t i) = [] := by
  cases he : S.report t i with
  | none => simp [under, visit, he]
  | some e =>
      have hk : S.key e ≠ k := fun hk => h ⟨e, he, hk⟩
      simp [under, visit, he, hk]

/-- The state of a sweep: whether it still runs, the cursor, the tables seen
and the reports made, each with the table it was made of. -/
structure Swept [DecidableEq κ] (S : Sweep τ ε κ) (running : Bool) (cursor : Nat) (seen : List τ)
    (reports : List (τ × ε)) : Prop where
  pos : running = true → 0 < cursor
  made : ∀ r ∈ reports, ∃ i, S.report r.1 i = some r.2
  ahead : ∀ i k, (∀ t ∈ seen, S.Holds t i k) → running = true → cursor ≤ i →
    S.under k reports = []
  behind : ∀ i k, (∀ t ∈ seen, S.Holds t i k) → running = false ∨ i < cursor →
    ∃ t e, S.report t i = some e ∧ S.under k reports = [(t, e)]

variable [DecidableEq κ] {cursor : Nat} {running : Bool} {seen : List τ} {reports : List (τ × ε)}

/-- The start: the cursor is at slot 1. -/
theorem Swept.start (h : S.Sound t) : S.Swept true 1 [t] [] where
  pos _ := Nat.one_pos
  made := by simp
  ahead _ _ _ _ _ := rfl
  behind i k hstays hlt := by
    have hpos := (h.bounded (hstays t (by simp))).1
    have hi : i < 1 := hlt.resolve_left (by simp)
    omega

/-- The table changes, or is seen again. -/
theorem Swept.change (h : S.Swept running cursor seen reports) (t : τ) :
    S.Swept running cursor (t :: seen) reports where
  pos := h.pos
  made := h.made
  ahead i k hstays := h.ahead i k fun t' ht' => hstays t' (List.mem_cons_of_mem t ht')
  behind i k hstays := h.behind i k fun t' ht' => hstays t' (List.mem_cons_of_mem t ht')

/-- A visit of the slot under the cursor. -/
theorem Swept.visit (h : S.Swept true cursor seen reports) (hs : S.Sound t) (ht : t ∈ seen) :
    S.Swept true (cursor + 1) seen (reports ++ S.visit t cursor) where
  pos _ := Nat.succ_pos cursor
  made r hr := by
    obtain hr | hr := List.mem_append.mp hr
    · exact h.made r hr
    · obtain ⟨e, he, rfl⟩ : ∃ e, S.report t cursor = some e ∧ (t, e) = r := by
        simpa [Sweep.visit] using hr
      exact ⟨cursor, he⟩
  ahead i k hstays _ hle := by
    have hmiss : ¬S.Holds t cursor k := fun hc => by
      have := hs.distinct hc (hstays t ht)
      omega
    rw [under_append, h.ahead i k hstays rfl (by omega), under_visit_of_not_holds hmiss]
    rfl
  behind i k hstays hlt := by
    have hle : i ≤ cursor := Nat.le_of_lt_succ (hlt.resolve_left (by simp))
    have hat := hstays t ht
    obtain rfl | hlt := Nat.eq_or_lt_of_le hle
    · obtain ⟨e, he, hvisit⟩ := under_visit_of_holds hat
      have hbefore := h.ahead i k hstays rfl (Nat.le_refl i)
      exact ⟨t, e, he, by rw [under_append, hbefore, hvisit, List.nil_append]⟩
    · have hmiss : ¬S.Holds t cursor k := fun hc => by
        have := hs.distinct hc hat
        omega
      obtain ⟨t', e, he, hbefore⟩ := h.behind i k hstays (.inr hlt)
      have hvisit := under_visit_of_not_holds hmiss
      exact ⟨t', e, he, by rw [under_append, hbefore, hvisit, List.append_nil]⟩

/-- The end: the cursor is past the bound, so everything is behind it. -/
theorem Swept.stop (h : S.Swept true cursor seen reports) (hs : S.Sound t) (ht : t ∈ seen)
    (hend : S.bound t < cursor) (n : Nat) : S.Swept false n seen reports where
  pos := nofun
  made := h.made
  ahead _ _ _ := nofun
  behind i k hstays _ := by
    have hle := (hs.bounded (hstays t ht)).2
    exact h.behind i k hstays (.inr (by omega))

/-- **Exactly once**: after a sweep, what stayed in its slot throughout has one
report, made of a table in which it was there. -/
theorem Swept.once (h : S.Swept false cursor seen reports) (hstays : ∀ t ∈ seen, S.Holds t i k) :
    ∃ t e, S.report t i = some e ∧ S.under k reports = [(t, e)] :=
  h.behind i k hstays (.inl rfl)

end Sweep
