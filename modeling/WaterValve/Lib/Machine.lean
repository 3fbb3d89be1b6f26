import Mathlib.Tactic.TypeStar

/-!
# WaterValve.Lib.Machine

Transition systems with an executable, guarded step: `step s a` is `some s'`
when action `a` is enabled in `s`.  `ReachableVia ok` is reachability along
runs whose every step satisfies `ok`, so that a safety property can be stated
for all runs (`Reachable`) or for the runs that keep a condition.

`ReachableVia.invariant` is the one induction over runs.
-/

/-- A transition system: its initial states and a partial step. -/
structure Machine (σ : Type*) (α : Type*) where
  init : σ → Prop
  step : σ → α → Option σ

namespace Machine

variable {σ α γ : Type*} {M : Machine σ α} {ok ok' : σ → α → Prop} {s s' : σ}

/-- The states on runs from an initial state whose steps all satisfy `ok`. -/
inductive ReachableVia (M : Machine σ α) (ok : σ → α → Prop) : σ → Prop
  | init {s : σ} : M.init s → ReachableVia M ok s
  | step {s s' : σ} {a : α} : ReachableVia M ok s → ok s a → M.step s a = some s' →
      ReachableVia M ok s'

/-- Reachability along arbitrary runs. -/
def Reachable (M : Machine σ α) : σ → Prop := M.ReachableVia fun _ _ => True

/-- **Invariant rule**: what holds initially and survives every permitted step
holds in every state reached. -/
theorem ReachableVia.invariant {I : σ → Prop} (h : M.ReachableVia ok s)
    (hinit : ∀ s, M.init s → I s)
    (hstep : ∀ s a s', I s → ok s a → M.step s a = some s' → I s') : I s := by
  induction h with
  | init h0 => exact hinit _ h0
  | step _ hok hs ih => exact hstep _ _ _ ih hok hs

/-- Weaker conditions reach more. -/
theorem ReachableVia.mono (h : M.ReachableVia ok s) (himp : ∀ s a, ok s a → ok' s a) :
    M.ReachableVia ok' s := by
  induction h with
  | init h0 => exact .init h0
  | step _ hok hs ih => exact .step ih (himp _ _ hok) hs

theorem ReachableVia.reachable (h : M.ReachableVia ok s) : M.Reachable s :=
  h.mono fun _ _ _ => trivial

/-- The start of an unrestricted run. -/
theorem Reachable.init (h : M.init s) : M.Reachable s := ReachableVia.init h

/-- A step of an unrestricted run. -/
theorem Reachable.step {a : α} (h : M.Reachable s) (hs : M.step s a = some s') :
    M.Reachable s' :=
  ReachableVia.step h trivial hs

/-- The same steps, started in `s`. -/
def startedIn (M : Machine σ α) (s : σ) : Machine σ α := { M with init := (· = s) }

/-- The machine with a history variable, which observes every step and hinders
none. -/
def observed (M : Machine σ α) (start : σ → γ) (observe : σ → γ → α → σ → γ) :
    Machine (σ × γ) α where
  init := fun p => M.init p.1 ∧ p.2 = start p.1
  step := fun p a => (M.step p.1 a).map fun s' => (s', observe p.1 p.2 a s')

/-- A step of the machine under the observer. -/
theorem observed_step_eq_some {start : σ → γ} {observe : σ → γ → α → σ → γ} {p p' : σ × γ} {a : α} :
    (M.observed start observe).step p a = some p' ↔
      M.step p.1 a = some p'.1 ∧ p'.2 = observe p.1 p.2 a p'.1 := by
  obtain ⟨s', g'⟩ := p'
  simp only [observed, Option.map_eq_some_iff, Prod.mk.injEq]
  constructor
  · rintro ⟨t, ht, rfl, rfl⟩
    exact ⟨ht, rfl⟩
  · rintro ⟨ht, rfl⟩
    exact ⟨s', ht, rfl, rfl⟩

/-- What an observed run reaches, the machine reaches. -/
theorem ReachableVia.of_observed {start : σ → γ} {observe : σ → γ → α → σ → γ} {p : σ × γ}
    (h : (M.observed start observe).ReachableVia (fun p => ok p.1) p) : M.ReachableVia ok p.1 := by
  refine h.invariant (I := fun p => M.ReachableVia ok p.1) (fun p hp => .init hp.1) ?_
  intro p a p' hreach hok hs
  exact hreach.step hok (observed_step_eq_some.mp hs).1

theorem Reachable.of_observed {start : σ → γ} {observe : σ → γ → α → σ → γ} {p : σ × γ}
    (h : (M.observed start observe).Reachable p) : M.Reachable p.1 :=
  ReachableVia.of_observed h

/-- Execute a list of actions; `none` when one of them is not enabled. -/
def runFrom (M : Machine σ α) (s : σ) : List α → Option σ
  | [] => some s
  | a :: as => (M.step s a).bind fun s' => M.runFrom s' as

/-- Where a run starts does not change its steps. -/
theorem runFrom_startedIn (M : Machine σ α) (s₀ s : σ) (as : List α) :
    (M.startedIn s₀).runFrom s as = M.runFrom s as := by
  induction as generalizing s with
  | nil => rfl
  | cons a as ih =>
      unfold runFrom
      exact congrArg (Option.bind (M.step s a)) (funext ih)

/-- A run of actions that are permitted in every state. -/
theorem ReachableVia.runFrom (h : M.ReachableVia ok s) {as : List α}
    (hok : ∀ a ∈ as, ∀ s, ok s a) (hr : M.runFrom s as = some s') : M.ReachableVia ok s' := by
  induction as generalizing s with
  | nil =>
      simp only [Machine.runFrom, Option.some.injEq] at hr
      exact hr ▸ h
  | cons a as ih =>
      simp only [Machine.runFrom, Option.bind_eq_some_iff] at hr
      obtain ⟨t, ht, hr⟩ := hr
      have hstep : M.ReachableVia ok t := h.step (hok a List.mem_cons_self s) ht
      exact ih hstep (fun b hb => hok b (List.mem_cons_of_mem a hb)) hr

theorem Reachable.runFrom (h : M.Reachable s) {as : List α} (hr : M.runFrom s as = some s') :
    M.Reachable s' :=
  ReachableVia.runFrom h (fun _ _ _ => trivial) hr

/-- Execute a list of actions; `none` when one is not enabled or not permitted
by the test. -/
def runChecked (M : Machine σ α) (test : σ → α → Bool) (s : σ) : List α → Option σ
  | [] => some s
  | a :: as => if test s a then (M.step s a).bind fun s' => M.runChecked test s' as else none

/-- A run that is checked as it goes. -/
theorem ReachableVia.runChecked (h : M.ReachableVia ok s) {test : σ → α → Bool} {as : List α}
    (htest : ∀ s a, test s a = true → ok s a) (hr : M.runChecked test s as = some s') :
    M.ReachableVia ok s' := by
  induction as generalizing s with
  | nil =>
      simp only [Machine.runChecked, Option.some.injEq] at hr
      exact hr ▸ h
  | cons a as ih =>
      simp only [Machine.runChecked, Option.ite_none_right_eq_some, Option.bind_eq_some_iff] at hr
      obtain ⟨hpermitted, t, ht, hr⟩ := hr
      exact ih (h.step (htest s a hpermitted) ht) hr

/-- A run of such actions, from where it starts. -/
theorem reachableVia_startedIn {as : List α} (hok : ∀ a ∈ as, ∀ s, ok s a)
    (hr : M.runFrom s as = some s') : (M.startedIn s).ReachableVia ok s' := by
  rw [← M.runFrom_startedIn s] at hr
  exact ReachableVia.runFrom (.init rfl) hok hr

end Machine
