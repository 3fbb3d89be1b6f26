import Mathlib.Logic.Function.Basic
import Mathlib.Data.List.Nodup

/-!
# WaterValve.Lib.Polling

A thread that polls counting semaphores.  A round tries each semaphore of
`order` once, without waiting, and then executes the branch that `choose`
picks among the tokens it has taken.  Releases may come between any two steps.

A round that takes two tokens executes one branch, so the other token is gone.
`balanced_iff` says that this is the only way to lose one: at the head of the
loop every token released is either still there or has been executed, if and
only if no poll of the run has found a token after an earlier poll of the same
round had.
-/

namespace Polling

variable {ε : Type*} [DecidableEq ε]

/-- The semaphores, the polls this round still makes, and what it has taken. -/
structure Poll (ε : Type*) where
  sem : ε → Nat
  polls : List ε
  taken : ε → Bool

inductive Act (ε : Type*)
  | release (e : ε)
  | take
  | dispatch

/-- One step.  A semaphore holds at most `cap` tokens, and a release beyond
that fails. -/
def step (cap : Nat) (order : List ε) (p : Poll ε) : Act ε → Option (Poll ε)
  | .release e =>
    some { p with sem := if p.sem e < cap then Function.update p.sem e (p.sem e + 1) else p.sem }
  | .take =>
    match p.polls with
    | [] => none
    | e :: polls => some
        { sem := Function.update p.sem e (p.sem e - 1)
          polls := polls
          taken := Function.update p.taken e (decide (0 < p.sem e)) }
  | .dispatch =>
    if p.polls = [] then some { p with polls := order, taken := fun _ => false } else none

/-- Before the first round. -/
def start (order : List ε) : Poll ε := ⟨fun _ => 0, order, fun _ => false⟩

/-- The history of a run: how often each semaphore was released and its branch
executed, and whether a poll has found a token after an earlier poll of its
round had. -/
structure Tally (ε : Type*) where
  released : ε → Nat
  executed : ε → Nat
  crowded : Bool

def Tally.zero : Tally ε := ⟨fun _ => 0, fun _ => 0, false⟩

def Tally.count (cap : Nat) (order : List ε) (choose : (ε → Bool) → Option ε) (p : Poll ε)
    (t : Tally ε) : Act ε → Tally ε
  | .release e =>
    if p.sem e < cap then { t with released := Function.update t.released e (t.released e + 1) }
    else t
  | .take =>
    match p.polls with
    | [] => t
    | e :: _ => { t with crowded := t.crowded || (decide (0 < p.sem e) && order.any p.taken) }
  | .dispatch =>
    match choose p.taken with
    | some e => { t with executed := Function.update t.executed e (t.executed e + 1) }
    | none => t

/-- What the dispatcher must do: execute the branch of a token it has taken,
whenever there is one. -/
structure Chooses (choose : (ε → Bool) → Option ε) : Prop where
  taken : ∀ {f e}, choose f = some e → f e = true
  some : ∀ {f e}, f e = true → choose f ≠ none

/-- A token that this round has taken and not yet executed. -/
def hand (p : Poll ε) (e : ε) : Nat := if p.taken e then 1 else 0

/-- The tokens of `e` that are accounted for. -/
def held (p : Poll ε) (t : Tally ε) (e : ε) : Nat := p.sem e + hand p e + t.executed e

/-- Every token released is still there or has been executed. -/
def Balanced (p : Poll ε) (t : Tally ε) : Prop := ∀ e, t.released e = p.sem e + t.executed e

/-- **The accounts of a run**: tokens only get lost, and do when a round takes
two. -/
structure Accounts (order : List ε) (p : Poll ε) (t : Tally ε) : Prop where
  nodup : p.polls.Nodup
  fresh : ∀ e ∈ p.polls, p.taken e = false
  polled : ∀ e, e ∈ p.polls ∨ p.taken e = true → e ∈ order
  le : ∀ e, held p t e ≤ t.released e
  kept : t.crowded = false →
    (∀ e, held p t e = t.released e) ∧ ∀ e e', p.taken e = true → p.taken e' = true → e = e'
  lost : t.crowded = true →
    (∃ e, held p t e < t.released e) ∨ ∃ e e', e ≠ e' ∧ p.taken e = true ∧ p.taken e' = true

variable {cap : Nat} {order : List ε} {choose : (ε → Bool) → Option ε} {p p' : Poll ε}
  {t : Tally ε}

omit [DecidableEq ε] in
theorem accounts_start (hnodup : order.Nodup) : Accounts order (start order) Tally.zero where
  nodup := hnodup
  fresh _ _ := rfl
  polled _ h := by simpa [start] using h
  le _ := by simp [start, held, hand, Tally.zero]
  kept _ := ⟨fun _ => by simp [start, held, hand, Tally.zero], fun _ _ h => by simp [start] at h⟩
  lost h := by simp [Tally.zero] at h

/-- A release adds a token on both sides. -/
theorem Accounts.release (h : Accounts order p t) (e : ε)
    (hs : step cap order p (.release e) = some p') :
    Accounts order p' (t.count cap order choose p (.release e)) := by
  simp only [step, Option.some.injEq] at hs
  subst hs
  by_cases hcap : p.sem e < cap
  · simp only [hcap, if_true, Tally.count]
    have hheld : ∀ e', held { p with sem := Function.update p.sem e (p.sem e + 1) }
        { t with released := Function.update t.released e (t.released e + 1) } e' + t.released e' =
        held p t e' + Function.update t.released e (t.released e + 1) e' := by
      intro e'
      by_cases he : e' = e
      · subst he
        simp only [held, hand, Function.update_self]
        omega
      · simp [held, hand, Function.update_of_ne he]
    refine ⟨h.nodup, h.fresh, h.polled, fun e' => ?_, fun hcrowded => ⟨fun e' => ?_, ?_⟩, ?_⟩
    · have := hheld e'
      have := h.le e'
      simp only at *
      omega
    · have := hheld e'
      have := (h.kept hcrowded).1 e'
      simp only at *
      omega
    · exact (h.kept hcrowded).2
    · intro hcrowded
      obtain ⟨e', he'⟩ | htwo := h.lost hcrowded
      · refine .inl ⟨e', ?_⟩
        have := hheld e'
        simp only at *
        omega
      · exact .inr htwo
  · simpa [hcap, Tally.count] using h

/-- A poll moves a token from the semaphore to the hand. -/
theorem Accounts.take (h : Accounts order p t) (hs : step cap order p .take = some p') :
    Accounts order p' (t.count cap order choose p .take) := by
  cases hpolls : p.polls with
  | nil => simp [step, hpolls] at hs
  | cons e polls =>
      simp only [step, hpolls, Option.some.injEq] at hs
      subst hs
      have hnodup := h.nodup
      rw [hpolls] at hnodup
      obtain ⟨hnew, hnodup⟩ := List.nodup_cons.mp hnodup
      have hfresh : p.taken e = false := h.fresh e (by simp [hpolls])
      have hmem : e ∈ order := h.polled e (.inl (by simp [hpolls]))
      have hheld : ∀ e', held ⟨Function.update p.sem e (p.sem e - 1), polls,
          Function.update p.taken e (decide (0 < p.sem e))⟩ t e' = held p t e' := by
        intro e'
        by_cases he : e' = e
        · subst he
          by_cases hsem : 0 < p.sem e'
          · simp [held, hand, hfresh, hsem]
            omega
          · simp [held, hand, hfresh, hsem]
            omega
        · simp [held, hand, Function.update_of_ne he]
      have hother : ∀ {e'}, p.taken e' = true → e' ≠ e := by
        rintro e' htaken rfl
        rw [hfresh] at htaken
        cases htaken
      simp only [Tally.count, hpolls]
      refine ⟨hnodup, fun e' he' => ?_, fun e' he' => ?_, fun e' => ?_, fun hcrowded => ?_,
        fun hcrowded => ?_⟩
      · have hne : e' ≠ e := fun heq => hnew (heq ▸ he')
        simpa [Function.update_of_ne hne] using h.fresh e' (by simp [hpolls, he'])
      · by_cases hne : e' = e
        · exact hne ▸ hmem
        · simp only [Function.update_of_ne hne] at he'
          exact h.polled e' (he'.imp_left fun hin => by simp [hpolls, hin])
      · exact Nat.le_trans (Nat.le_of_eq (hheld e')) (h.le e')
      · simp only [Bool.or_eq_false_iff, Bool.and_eq_false_imp, decide_eq_true_eq,
          List.any_eq_false] at hcrowded
        obtain ⟨hbefore, halone⟩ := hcrowded
        obtain ⟨heq, huniq⟩ := h.kept hbefore
        refine ⟨fun e' => (hheld e').trans (heq e'), fun e₁ e₂ h₁ h₂ => ?_⟩
        -- a token in hand besides the new one would have been seen
        have hnone : 0 < p.sem e → ∀ {e'}, p.taken e' = true → False := fun hsem e' htaken =>
          halone hsem e' (h.polled e' (.inr htaken)) htaken
        by_cases hne₁ : e₁ = e <;> by_cases hne₂ : e₂ = e
        · rw [hne₁, hne₂]
        · subst hne₁
          simp only [Function.update_self, decide_eq_true_eq, Function.update_of_ne hne₂] at h₁ h₂
          exact (hnone h₁ h₂).elim
        · subst hne₂
          simp only [Function.update_self, decide_eq_true_eq, Function.update_of_ne hne₁] at h₁ h₂
          exact (hnone h₂ h₁).elim
        · simp only [Function.update_of_ne hne₁, Function.update_of_ne hne₂] at h₁ h₂
          exact huniq e₁ e₂ h₁ h₂
      · simp only [Bool.or_eq_true, Bool.and_eq_true, decide_eq_true_eq,
          List.any_eq_true] at hcrowded
        obtain hbefore | ⟨hsem, e', -, htaken⟩ := hcrowded
        · obtain ⟨e', he'⟩ | ⟨e₁, e₂, hne, h₁, h₂⟩ := h.lost hbefore
          · exact .inl ⟨e', Nat.lt_of_le_of_lt (Nat.le_of_eq (hheld e')) he'⟩
          · refine .inr ⟨e₁, e₂, hne, ?_, ?_⟩
            · simpa [Function.update_of_ne (hother h₁)] using h₁
            · simpa [Function.update_of_ne (hother h₂)] using h₂
        · refine .inr ⟨e, e', (hother htaken).symm, by simpa using hsem, ?_⟩
          simpa [Function.update_of_ne (hother htaken)] using htaken

/-- The dispatcher executes one token of the hand and drops the others. -/
theorem Accounts.dispatch (hchoose : Chooses choose) (hnodup : order.Nodup)
    (h : Accounts order p t) (hs : step cap order p .dispatch = some p') :
    Accounts order p' (t.count cap order choose p .dispatch) := by
  simp only [step, Option.ite_none_right_eq_some, Option.some.injEq] at hs
  obtain ⟨-, rfl⟩ := hs
  have hfields : (t.count cap order choose p .dispatch).released = t.released ∧
      (t.count cap order choose p .dispatch).crowded = t.crowded := by
    simp only [Tally.count]
    split <;> exact ⟨rfl, rfl⟩
  have hheld : ∀ e, held ⟨p.sem, order, fun _ => false⟩ (t.count cap order choose p .dispatch) e =
      if choose p.taken = some e then held p t e else held p t e - hand p e := by
    intro e
    cases hc : choose p.taken with
    | none => simp [held, hand, Tally.count, hc]; omega
    | some c =>
        by_cases he : e = c
        · subst he
          simp [held, hand, Tally.count, hc, hchoose.taken hc]; omega
        · have he' : ¬c = e := fun heq => he heq.symm
          simp [held, hand, Tally.count, hc, Function.update_of_ne he, he']; omega
  refine ⟨hnodup, fun _ _ => rfl, fun e he => ?_, fun e => ?_, fun hcrowded => ?_,
    fun hcrowded => ?_⟩
  · simpa using he
  · rw [hfields.1, hheld]
    have := h.le e
    split <;> omega
  · rw [hfields.2] at hcrowded
    obtain ⟨heq, huniq⟩ := h.kept hcrowded
    refine ⟨fun e => ?_, fun _ _ he => by simp at he⟩
    rw [hfields.1, hheld, ← heq e]
    split
    · rfl
    · rename_i hne
      -- the one token in hand, if there is one, is what the dispatcher executes
      have hhand : hand p e = 0 := by
        by_contra hpos
        have htaken : p.taken e = true := by
          by_contra hnot
          exact hpos (by simp [hand, hnot])
        obtain ⟨c, hc⟩ := Option.ne_none_iff_exists'.mp (hchoose.some htaken)
        exact hne (by rw [hc, huniq e c htaken (hchoose.taken hc)])
      omega
  · rw [hfields.2] at hcrowded
    left
    rw [hfields.1]
    obtain ⟨e, he⟩ | ⟨e₁, e₂, hne, h₁, h₂⟩ := h.lost hcrowded
    · refine ⟨e, ?_⟩
      rw [hheld]
      split <;> omega
    · have hdropped : ∀ e, p.taken e = true → choose p.taken ≠ some e →
          held ⟨p.sem, order, fun _ => false⟩ (t.count cap order choose p .dispatch) e <
            t.released e := by
        intro e htaken hnot
        have hle := h.le e
        have hone : hand p e = 1 := by simp [hand, htaken]
        rw [hheld, if_neg hnot]
        have : hand p e ≤ held p t e := by simp only [held]; omega
        omega
      by_cases hc : choose p.taken = some e₁
      · exact ⟨e₂, hdropped e₂ h₂ fun hc' => hne (Option.some.inj (hc.symm.trans hc'))⟩
      · exact ⟨e₁, hdropped e₁ h₁ hc⟩

/-- **Every step keeps the accounts.** -/
theorem Accounts.step (hchoose : Chooses choose) (hnodup : order.Nodup) (h : Accounts order p t)
    {a : Act ε} (hs : Polling.step cap order p a = some p') :
    Accounts order p' (t.count cap order choose p a) := by
  cases a with
  | release e => exact h.release e hs
  | take => exact h.take hs
  | dispatch => exact h.dispatch hchoose hnodup hs

omit [DecidableEq ε] in
/-- **No token is lost if and only if no round has taken two**, at the head of
the loop. -/
theorem Accounts.balanced_iff (h : Accounts order p t) (hhead : p.polls = order) :
    Balanced p t ↔ t.crowded = false := by
  have hnone : ∀ e, p.taken e = false := by
    intro e
    by_contra htaken
    rw [Bool.not_eq_false] at htaken
    have hmem := h.polled e (.inr htaken)
    rw [← hhead] at hmem
    rw [h.fresh e hmem] at htaken
    cases htaken
  have hheld : ∀ e, held p t e = p.sem e + t.executed e := by
    intro e
    simp [held, hand, hnone]
  constructor
  · intro hbalanced
    by_contra hcrowded
    obtain ⟨e, he⟩ | ⟨e, -, -, he, -⟩ := h.lost (by simpa using hcrowded)
    · rw [hheld, ← hbalanced e] at he
      exact Nat.lt_irrefl _ he
    · rw [hnone] at he
      cases he
  · intro hcrowded e
    rw [← hheld, (h.kept hcrowded).1 e]

end Polling
