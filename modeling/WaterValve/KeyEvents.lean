import WaterValve.Lib.Polling
import WaterValve.System

/-!
# WaterValve.KeyEvents

The loop of `Key_Reponse_Callback` and the semaphores it polls.  Each round
tries the five semaphores once and then executes the first branch of an
`else if` chain whose token it has; the button thread, which has the higher
priority, may release between any two of these steps, and other handlers run
in between.

A round executes one branch, so a second token of the same round is lost
(`key_events_balanced_iff`).  A press of `K1` that meets a press of `K0` in one
round leaves the valve open (`key_event_lost`).
-/

namespace WaterValve

open Polling

/-! ## the loop -/

/-- The semaphores of the key thread. -/
inductive KeyEvent
  | k0
  | k0Long
  | k1
  | k1Long
  | k0k1
deriving DecidableEq, Repr

/-- The order of the `rt_sem_take` calls. -/
def keyPolls : List KeyEvent := [.k0, .k0Long, .k1, .k1Long, .k0k1]

/-- `RT_SEM_VALUE_MAX`. -/
def rtSemValueMax : Nat := 65535

/-- The branch a round executes. -/
def keyBranch (taken : KeyEvent → Bool) : Option KeyEvent :=
  if taken .k0 then some .k0
  else if taken .k1 then some .k1
  else if taken .k0k1 then some .k0k1
  else if taken .k0Long then some .k0Long
  else if taken .k1Long then some .k1Long
  else none

/-- What the branch does to the unit.  `K0` and `K1` held erase the registry;
the reset follows three seconds later. -/
def KeyEvent.execute (pins : Pins) (s : State) : KeyEvent → State
  | k0 => keyOn s
  | k1 => keyOff pins s
  | k0k1 => deleteAllDevice s
  | k0Long => s
  | k1Long => keyLong s

/-- The key thread: its loop, whether it waits for the reset, and the unit. -/
structure KeyThread where
  poll : Poll KeyEvent
  halted : Bool
  valve : State

inductive KeyAction
  | release (e : KeyEvent)
  | take
  | dispatch (pins : Pins)
  | handler (a : Action)

/-- The rounds of the key thread itself, and resets, are not other handlers. -/
def Action.isOther : Action → Bool
  | .keyReponse _ _ | .reboot _ => false
  | _ => true

def KeyAction.toPoll : KeyAction → Option (Act KeyEvent)
  | release e => some (.release e)
  | take => some .take
  | dispatch _ => some .dispatch
  | handler _ => none

/-- One `rt_sem_release`, one `rt_sem_take`, the `else if` chain, or a handler
of another thread. -/
def KeyThread.step (rom : UInt32) (s : KeyThread) : KeyAction → Option KeyThread
  | .release e =>
    (Polling.step rtSemValueMax keyPolls s.poll (.release e)).map fun poll => { s with poll }
  | .take =>
    if s.halted then none
    else (Polling.step rtSemValueMax keyPolls s.poll .take).map fun poll => { s with poll }
  | .dispatch pins =>
    if s.halted then none
    else (Polling.step rtSemValueMax keyPolls s.poll .dispatch).map fun poll =>
      { poll
        halted := decide (keyBranch s.poll.taken = some .k0k1)
        valve := match keyBranch s.poll.taken with
          | some e => e.execute pins s.valve
          | none => s.valve }
  | .handler a =>
    if a.isOther then (WaterValve.step rom s.valve a).map fun valve => { s with valve } else none

/-- The key thread of a unit that has just started. -/
def keyMachine (rom : UInt32) : Machine KeyThread KeyAction where
  init := fun s => s.poll = start keyPolls ∧ s.halted = false ∧ (valveMachine rom).init s.valve
  step := KeyThread.step rom

/-! ## the rounds of the loop are rounds of the unit -/

/-- The result of the five `rt_sem_take` calls. -/
def keySem (taken : KeyEvent → Bool) : KeySem where
  k0 := taken .k0
  k0Long := taken .k0Long
  k1 := taken .k1
  k1Long := taken .k1Long
  k0k1 := taken .k0k1

theorem keyReponse_keySem (rom : UInt32) (taken : KeyEvent → Bool) (pins : Pins) (s : State)
    (h : keyBranch taken ≠ some .k0k1) :
    keyReponse rom (keySem taken) pins s =
      some (match keyBranch taken with
        | some e => e.execute pins s
        | none => s) := by
  grind [keyBranch, keyReponse, keySem, KeyEvent.execute]

/-- Until it waits for the reset, the unit under the loop is one of the
transition system whose key rounds are complete executions. -/
theorem valve_reachable {rom : UInt32} {s : KeyThread} (h : (keyMachine rom).Reachable s)
    (hrunning : s.halted = false) : (valveMachine rom).Reachable s.valve := by
  have hinv : s.halted = false → (valveMachine rom).Reachable s.valve := by
    refine Machine.ReachableVia.invariant
      (I := fun s => s.halted = false → (valveMachine rom).Reachable s.valve) h
      (fun s hs _ => .init hs.2.2) fun s a s' ih _ hs => ?_
    cases a with
    | release e =>
        simp only [keyMachine, KeyThread.step, Option.map_eq_some_iff] at hs
        obtain ⟨poll, -, rfl⟩ := hs
        exact ih
    | take =>
        obtain ⟨hrun, hs⟩ := Option.ite_none_left_eq_some.mp hs
        obtain ⟨poll, -, rfl⟩ := Option.map_eq_some_iff.mp hs
        exact ih
    | dispatch pins =>
        obtain ⟨hrun, hs⟩ := Option.ite_none_left_eq_some.mp hs
        obtain ⟨poll, -, rfl⟩ := Option.map_eq_some_iff.mp hs
        intro hbranch
        exact (ih (by simpa using hrun)).step
          (a := .keyReponse (keySem s.poll.taken) pins)
          (keyReponse_keySem rom s.poll.taken pins s.valve (by simpa using hbranch))
    | handler a =>
        obtain ⟨-, hs⟩ := Option.ite_none_right_eq_some.mp hs
        obtain ⟨valve, hvalve, rfl⟩ := Option.map_eq_some_iff.mp hs
        exact fun hrun => (ih hrun).step (a := a) hvalve
  exact hinv hrunning

/-! ## the tokens -/

/-- The key thread with the tally of its tokens. -/
def keyHistory (rom : UInt32) : Machine (KeyThread × Tally KeyEvent) KeyAction :=
  (keyMachine rom).observed (fun _ => .zero) fun s t a _ =>
    match a.toPoll with
    | some b => t.count rtSemValueMax keyPolls keyBranch s.poll b
    | none => t

theorem chooses_keyBranch : Chooses keyBranch where
  taken {f e} h := by grind [keyBranch]
  some {f e} h := by cases e <;> grind [keyBranch]

/-- A step of the loop is a step of its polls, and other handlers leave them
alone. -/
theorem keyThread_poll {rom : UInt32} {s s' : KeyThread} {a : KeyAction}
    (h : KeyThread.step rom s a = some s') :
    match a.toPoll with
    | some b => Polling.step rtSemValueMax keyPolls s.poll b = some s'.poll
    | none => s'.poll = s.poll := by
  cases a with
  | release e =>
      simp only [KeyThread.step, Option.map_eq_some_iff] at h
      obtain ⟨poll, hpoll, rfl⟩ := h
      exact hpoll
  | take =>
      obtain ⟨-, h⟩ := Option.ite_none_left_eq_some.mp h
      obtain ⟨poll, hpoll, rfl⟩ := Option.map_eq_some_iff.mp h
      exact hpoll
  | dispatch pins =>
      obtain ⟨-, h⟩ := Option.ite_none_left_eq_some.mp h
      obtain ⟨poll, hpoll, rfl⟩ := Option.map_eq_some_iff.mp h
      exact hpoll
  | handler a =>
      obtain ⟨-, h⟩ := Option.ite_none_right_eq_some.mp h
      obtain ⟨valve, -, rfl⟩ := Option.map_eq_some_iff.mp h
      rfl

/-- The accounts hold in every state reached. -/
theorem key_accounts {rom : UInt32} {p : KeyThread × Tally KeyEvent}
    (h : (keyHistory rom).Reachable p) : Accounts keyPolls p.1.poll p.2 := by
  refine Machine.ReachableVia.invariant (I := fun p => Accounts keyPolls p.1.poll p.2) h ?_ ?_
  · rintro ⟨s, t⟩ ⟨hs, ht⟩
    simp only at hs ht
    rw [hs.1, ht]
    exact accounts_start (by decide)
  · intro p a p' ih _ hs
    obtain ⟨hstep, htally⟩ := Machine.observed_step_eq_some.mp hs
    have hpoll := keyThread_poll hstep
    rw [htally]
    cases hb : a.toPoll with
    | some b =>
        simp only [hb] at hpoll
        exact ih.step chooses_keyBranch (by decide) hpoll
    | none =>
        simp only [hb] at hpoll
        rw [hpoll]
        exact ih

/-- **No key event is lost if and only if no round takes two tokens**: at the
head of the loop, every token released on each of the five semaphores is still
there or its branch has been executed exactly if no poll of the run has found
a token after an earlier poll of the same round had. -/
theorem key_events_balanced_iff {rom : UInt32} {s : KeyThread} {t : Tally KeyEvent}
    (h : (keyHistory rom).Reachable (s, t)) (hhead : s.poll.polls = keyPolls) :
    Balanced s.poll t ↔ t.crowded = false :=
  (key_accounts h).balanced_iff hhead

/-- Both keys are pressed, then the thread makes a round. -/
def bothKeysRound : List KeyAction :=
  [.release .k0, .release .k1, .take, .take, .take, .take, .take, .dispatch dryPins]

/-- The key thread of `started`, with an empty tally. -/
def startedKeys : KeyThread × Tally KeyEvent := (⟨start keyPolls, false, started⟩, .zero)

theorem startedKeys_reachable : (keyHistory 0).Reachable startedKeys :=
  .init ⟨⟨rfl, rfl, ⟨dryPins, boot_started⟩⟩, rfl⟩

/-- What the round shows: where the loop stands, the tokens of `K1`, and the
valve. -/
private theorem bothKeysRound_run :
    ∃ p, (keyHistory 0).Reachable p ∧ p.1.poll.polls = keyPolls ∧ p.2.released .k1 = 1 ∧
      p.1.poll.sem .k1 = 0 ∧ p.2.executed .k1 = 0 ∧ p.1.valve.valveStatus = 1 := by
  have hrun : ((keyHistory 0).runFrom startedKeys bothKeysRound).map (fun p =>
      (p.1.poll.polls, p.2.released .k1, p.1.poll.sem .k1, p.2.executed .k1,
        p.1.valve.valveStatus)) = some (keyPolls, 1, 0, 0, 1) := by decide +kernel
  obtain ⟨p, hp, hobs⟩ := Option.map_eq_some_iff.mp hrun
  simp only [Prod.mk.injEq] at hobs
  exact ⟨p, startedKeys_reachable.runFrom hp, hobs⟩

/-- The round executes the branch of `K0`; the press of `K1` is gone. -/
theorem key_event_lost :
    ¬∀ (rom : UInt32) (s : KeyThread) (t : Tally KeyEvent), (keyHistory rom).Reachable (s, t) →
      s.poll.polls = keyPolls → Balanced s.poll t := by
  intro hclaim
  obtain ⟨⟨s, t⟩, hreach, hhead, hreleased, hsem, hexecuted, -⟩ := bothKeysRound_run
  have hbalanced := hclaim 0 s t hreach hhead .k1
  simp only at hreleased hsem hexecuted
  omega

/-- In the state after the round both sides are false. -/
theorem key_events_balanced_iff_bothKeys :
    ∃ s t, (keyHistory 0).Reachable (s, t) ∧ ¬Balanced s.poll t ∧ t.crowded = true ∧
      s.valve.valveStatus = 1 := by
  obtain ⟨⟨s, t⟩, hreach, hhead, hreleased, hsem, hexecuted, hvalve⟩ := bothKeysRound_run
  have hnot : ¬Balanced s.poll t := by
    intro hbalanced
    have := hbalanced .k1
    simp only at hreleased hsem hexecuted
    omega
  refine ⟨s, t, hreach, hnot, ?_, hvalve⟩
  by_contra hcrowded
  exact hnot ((key_events_balanced_iff hreach hhead).mpr (by simpa using hcrowded))

end WaterValve
