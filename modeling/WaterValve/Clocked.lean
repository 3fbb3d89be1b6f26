import WaterValve.RunningTimers
import WaterValve.Timers

/-!
# WaterValve.Clocked

The firmware on its kernel: the handlers, and the software timers that they
start and stop and that the timer thread calls them for.  A timer of the
firmware expires when the kernel says so, and not when it likes.

The main result is `clocked_refines`: every run of the clocked firmware in which
no timer gets too late for the wrapped ticks (`ClockedInTime`) is a run of
`valveMachine`, the timers that run are the activated ones, and the function that
the timer thread calls is one that may run.  The timer of the transmit thread,
`rf_433_send_timer`, is left out, and with it the queue, which is no timer.
-/

namespace WaterValve

/-! ## the timers of the firmware -/

/-- What the timers are created with. -/
def timerConfig : TimerConfig KernelObject where
  initTick
    | .learnTimer => 30 * 1000
    | .delayTimer => 4 * 60 * 60 * 1000
    | .moto1TimerAct => 5100
    | .moto2TimerAct => 5000
    | .moto1TimerDetect | .moto2TimerDetect => 3000
    | .motoDetectTimer => 60000 * 5
    | .ntcscanTimer | .waterscanTimer => 1000
    | .factoryCycle | .gatewaySyncT => 2000
    | .heartTestT => 5000
    | .heartCheckT => 1000 * 60 * 20
    | .rf433SendTimer => 1000
    | .rfEnMq => 0
  periodic
    | .ntcscanTimer | .waterscanTimer | .factoryCycle | .heartTestT | .heartCheckT
    | .gatewaySyncT => true
    | _ => false

/-- The longest time, and how late a timer may then be. -/
def longestTime : Nat := 4 * 60 * 60 * 1000

def mostLate : Nat := 0x80000001 - longestTime

theorem timerConfig_fits {late : Nat} (h : late ≤ mostLate) :
    timerConfig.Fits late longestTime where
  initTick_le t := by cases t <;> decide
  ahead_le := by decide
  late_le := Nat.le_trans h (by decide)
  late_add_ahead_le := by
    have hsum : mostLate + longestTime = 0x80000001 := rfl
    omega

/-- The timers of the handlers; `rf_433_send_timer` is started by the transmit
thread. -/
def KernelObject.isTimer : KernelObject → Bool
  | .rf433SendTimer | .rfEnMq => false
  | _ => true

/-- The timer whose function the handler is. -/
def Action.timer : Action → Option KernelObject
  | .waterscanTimer _ => some .waterscanTimer
  | .ntcScanTimer _ _ => some .ntcscanTimer
  | .delayTimer => some .delayTimer
  | .learnTimer => some .learnTimer
  | .moto1TimerAct => some .moto1TimerAct
  | .moto2TimerAct => some .moto2TimerAct
  | .moto1TimerDetect => some .moto1TimerDetect
  | .moto2TimerDetect => some .moto2TimerDetect
  | .motoDetectTimer _ => some .motoDetectTimer
  | .gatewaySyncT => some .gatewaySyncT
  | .heartCheckT => some .heartCheckT
  | .heartTestT => some .heartTestT
  | .factoryCycle => some .factoryCycle
  | .keyReponse _ _ | .rf433Rx _ _ _ _ | .rfEncode | .turn1Edge | .turn2Edge | .rtcAlarm _
  | .reboot _ => none

instance (a : Action) : Decidable (Restarts a) :=
  match a with
  | .keyReponse sem _ =>
    inferInstanceAs (Decidable (sem.k0 = false ∧ sem.k1 = false ∧ sem.k0k1 = true))
  | .reboot _ => .isTrue trivial
  | .rf433Rx .. | .rfEncode | .waterscanTimer _ | .ntcScanTimer .. | .delayTimer | .learnTimer
  | .turn1Edge | .turn2Edge | .moto1TimerAct | .moto2TimerAct | .moto1TimerDetect
  | .moto2TimerDetect | .motoDetectTimer _ | .rtcAlarm _ | .gatewaySyncT | .heartCheckT
  | .heartTestT | .factoryCycle => .isFalse id

theorem State.expired_of_timer_eq_none {a : Action} (h : a.timer = none) (s : State) :
    s.expired a = s := by
  cases a <;> first | rfl | simp [Action.timer] at h

/-- Only a one-shot timer stops when it expires. -/
theorem State.running_expired {a : Action} {t : KernelObject} (h : a.timer = some t) (s : State)
    (o : KernelObject) : (s.expired a).running o =
      if o = t ∧ timerConfig.periodic t = false then false else s.running o := by
  cases a <;> simp only [Action.timer, Option.some.injEq, reduceCtorEq] at h <;> subst h <;>
    cases o <;> rfl

/-! ## the clocked firmware -/

/-- The kernel's timers with the alarms that they are. -/
abbrev Clock := Timers KernelObject × Alarms KernelObject

/-- The clock when `main` begins: the timer thread has come before it and waits
for a timer. -/
def resetClock : Clock := ({ Timers.start with timerThread := .suspended }, .idle)

/-- The state of the firmware and of its timers. -/
structure Clocked where
  state : State
  clock : Clock

/-- The starts and stops among the calls of a handler that ends in `s`.  The
last call for a timer decides, and in `s` the timer runs if it was a start. -/
def timerActions (s : State) (calls : List KernelObject) : List (TimerAction KernelObject) :=
  startsAndStops s.running (calls.filter KernelObject.isTimer)

/-- The timers that `main` starts, in its order, if it starts them. -/
def bootTimers : List KernelObject :=
  [.ntcscanTimer, .waterscanTimer, .factoryCycle, .heartTestT, .heartCheckT]

namespace Clocked

/-- After `main`. -/
def start (s : State) : Option Clocked :=
  ((timerMachine timerConfig).runFrom resetClock (timerActions s bootTimers)).map (⟨s, ·⟩)

/-- The calls of a handler that ends in `s`. -/
def served (s : State) (calls : List KernelObject) (k : Clock) : Option Clock :=
  (timerMachine timerConfig).runFrom k (timerActions s calls)

/-- A handler.  The function of a timer runs when the timer thread has called
it, and returns to it; the others run when the timer thread waits or is on its
way. -/
def handle (rom : UInt32) (a : Action) (c : Clocked) : Option Clocked :=
  (WaterValve.step rom c.state a).bind fun s =>
    if Restarts a then start s
    else
      let calls := handlerCalls (c.state.factoryFlag ≠ 0) c.state a
      match a.timer, c.clock.1.timerThread with
      | none, .calling _ => none
      | none, _ => (served s calls c.clock).map (⟨s, ·⟩)
      | some t, .calling u =>
        if t = u then
          (served s calls c.clock).bind fun k =>
            ((timerMachine timerConfig).step k .thread).map (⟨s, ·⟩)
        else none
      | some _, _ => none

end Clocked

/-- A tick, a step of the timer thread, or a handler. -/
inductive ClockedAction
  | tick
  | thread
  | handler (a : Action)

/-- One action.  The timer thread does not go on while it is in a function. -/
def Clocked.step (rom : UInt32) (c : Clocked) : ClockedAction → Option Clocked
  | .tick => ((timerMachine timerConfig).step c.clock .tick).map (⟨c.state, ·⟩)
  | .thread =>
    match c.clock.1.timerThread with
    | .calling _ => none
    | _ => ((timerMachine timerConfig).step c.clock .thread).map (⟨c.state, ·⟩)
  | .handler a => c.handle rom a

/-- The clocked firmware, from an erased flash on. -/
def clockedMachine (rom : UInt32) : Machine Clocked ClockedAction where
  init c := ∃ pins s, boot rom pins .default = some s ∧ Clocked.start s = some c
  step := Clocked.step rom

/-! ## what a step can do -/

/-- The outcomes of a step. -/
inductive Stepped (rom : UInt32) (c : Clocked) : ClockedAction → Clocked → Prop
  | tick {k : Clock} (hk : (timerMachine timerConfig).step c.clock .tick = some k) :
      Stepped rom c .tick ⟨c.state, k⟩
  | thread {k : Clock} (hno : ∀ t, c.clock.1.timerThread ≠ .calling t)
      (hk : (timerMachine timerConfig).step c.clock .thread = some k) :
      Stepped rom c .thread ⟨c.state, k⟩
  | restart {a : Action} {s : State} {c' : Clocked} (ha : Restarts a)
      (hs : step rom c.state a = some s) (hc : Clocked.start s = some c') :
      Stepped rom c (.handler a) c'
  | handler {a : Action} {s : State} {k : Clock} (ha : ¬Restarts a) (htimer : a.timer = none)
      (hno : ∀ t, c.clock.1.timerThread ≠ .calling t) (hs : step rom c.state a = some s)
      (hk : Clocked.served s (handlerCalls (c.state.factoryFlag ≠ 0) c.state a) c.clock = some k) :
      Stepped rom c (.handler a) ⟨s, k⟩
  | timer {a : Action} {s : State} {k k' : Clock} {t : KernelObject} (ha : ¬Restarts a)
      (htimer : a.timer = some t) (hcalling : c.clock.1.timerThread = .calling t)
      (hs : step rom c.state a = some s)
      (hk : Clocked.served s (handlerCalls (c.state.factoryFlag ≠ 0) c.state a) c.clock = some k)
      (hk' : (timerMachine timerConfig).step k .thread = some k') :
      Stepped rom c (.handler a) ⟨s, k'⟩

variable {rom : UInt32} {c c' : Clocked} {act : ClockedAction}

theorem stepped_of_step (hs : Clocked.step rom c act = some c') : Stepped rom c act c' := by
  cases act with
  | tick =>
      simp only [Clocked.step] at hs
      obtain ⟨k, hk, rfl⟩ := Option.map_eq_some_iff.mp hs
      exact .tick hk
  | thread =>
      simp only [Clocked.step] at hs
      split at hs
      · cases hs
      · rename_i hno
        obtain ⟨k, hk, rfl⟩ := Option.map_eq_some_iff.mp hs
        exact .thread hno hk
  | handler a =>
      simp only [Clocked.step, Clocked.handle] at hs
      obtain ⟨s, hstep, hs⟩ := Option.bind_eq_some_iff.mp hs
      split at hs
      · exact .restart ‹_› hstep hs
      · rename_i ha
        split at hs
        · cases hs
        · rename_i htimer hno
          obtain ⟨k, hk, rfl⟩ := Option.map_eq_some_iff.mp hs
          exact .handler ha htimer hno hstep hk
        · rename_i t u htimer hcalling
          split at hs
          · rename_i htu
            obtain ⟨k, hk, hs⟩ := Option.bind_eq_some_iff.mp hs
            obtain ⟨k', hk', rfl⟩ := Option.map_eq_some_iff.mp hs
            exact .timer ha htimer (htu ▸ hcalling) hstep hk hk'
          · cases hs
        · cases hs

/-- The clock shows the alarms, and the calls of a handler leave them so. -/
theorem served_of_eq {s : State} {calls : List KernelObject} {k k' : Clock}
    (h : Clocked.served s calls k = some k') :
    Served timerConfig s.running (calls.filter KernelObject.isTimer) k k' := by
  obtain ⟨k₁, hk₁, hserved⟩ := exists_served timerConfig s.running
    (calls.filter KernelObject.isTimer) k
  obtain rfl := Option.some.inj (hk₁.symm.trans h)
  exact hserved

/-! ## the runs of the clock -/

/-- The clock does not go on while that leaves a timer too late for the wrapped
ticks. -/
def ClockedInTime (c : Clocked) : ClockedAction → Prop
  | .tick => InTime mostLate c.clock .tick
  | _ => True

/-- The timer thread comes first: a tick, and a handler of another thread, find
it waiting. -/
def ClockedPrompt (c : Clocked) : ClockedAction → Prop
  | .tick => c.clock.1.timerThread.Waits
  | .handler a => a.timer = none → ¬Restarts a → c.clock.1.timerThread.Waits
  | .thread => True

theorem TimerThread.Waits.not_turns {ι : Type*} {thread : TimerThread ι} (h : thread.Waits) :
    ¬thread.Turns := by
  cases thread <;> simp_all [TimerThread.Waits, TimerThread.Turns]

/-- The clock when the firmware starts. -/
theorem clock_start {s : State} (h : Clocked.start s = some c) : c.state = s ∧
    (timerMachine timerConfig).runFrom resetClock (timerActions s bootTimers) = some c.clock := by
  obtain ⟨k, hk, rfl⟩ := Option.map_eq_some_iff.mp h
  exact ⟨rfl, hk⟩

theorem resetClock_reachable {ok : Clock → TimerAction KernelObject → Prop}
    (hok : ∀ k, ok k .thread) : (timerMachine timerConfig).ReachableVia ok resetClock := by
  have hfirst : (timerMachine timerConfig).step (Timers.start, .idle) .thread =
      some ({ Timers.start with timerThread := .nextTimeout none }, .idle) := rfl
  have hsecond : (timerMachine timerConfig).step
      ({ Timers.start with timerThread := .nextTimeout none }, .idle) .thread =
      some resetClock := rfl
  exact .step (.step (.init ⟨rfl, rfl⟩) (hok _) hfirst) (hok _) hsecond

theorem clock_inTime (h : (clockedMachine rom).ReachableVia ClockedInTime c) :
    (timerMachine timerConfig).ReachableVia (InTime mostLate) c.clock := by
  have hstart : ∀ {s : State} {c : Clocked}, Clocked.start s = some c →
      (timerMachine timerConfig).ReachableVia (InTime mostLate) c.clock := fun hc =>
    InTime.startsAndStops (resetClock_reachable fun _ => trivial) (clock_start hc).2
  refine h.invariant
    (I := fun c => (timerMachine timerConfig).ReachableVia (InTime mostLate) c.clock)
    (fun c ⟨pins, s, _, hc⟩ => hstart hc) fun c act c' hreach hok hs => ?_
  cases stepped_of_step hs with
  | tick hk => exact hreach.step (a := .tick) hok hk
  | thread hno hk => exact hreach.step (a := .thread) trivial hk
  | restart ha hstep hc => exact hstart hc
  | handler ha htimer hno hstep hk => exact InTime.startsAndStops hreach hk
  | timer ha htimer hcalling hstep hk hk' =>
      exact (InTime.startsAndStops hreach hk).step (a := .thread) trivial hk'

theorem clock_prompt (h : (clockedMachine rom).ReachableVia ClockedPrompt c) :
    (timerMachine timerConfig).ReachableVia Prompt c.clock := by
  have hstart : ∀ {s : State} {c : Clocked}, Clocked.start s = some c →
      (timerMachine timerConfig).ReachableVia Prompt c.clock := fun hc =>
    Prompt.startsAndStops (resetClock_reachable fun _ => trivial) id (clock_start hc).2
  refine h.invariant (I := fun c => (timerMachine timerConfig).ReachableVia Prompt c.clock)
    (fun c ⟨pins, s, _, hc⟩ => hstart hc) fun c act c' hreach hok hs => ?_
  cases stepped_of_step hs with
  | tick hk => exact hreach.step (a := .tick) hok hk
  | thread hno hk => exact hreach.step (a := .thread) trivial hk
  | restart ha hstep hc => exact hstart hc
  | handler ha htimer hno hstep hk =>
      exact Prompt.startsAndStops hreach (hok htimer ha).not_turns hk
  | timer ha htimer hcalling hstep hk hk' =>
      refine Machine.ReachableVia.step (a := .thread) (Prompt.startsAndStops hreach ?_ hk)
        trivial hk'
      rw [hcalling]
      exact id

/-! ## the flags are the activated timers -/

/-- The flags of the state against the timers of the kernel.  A one-shot timer
that has been called is no longer activated when its function begins. -/
structure Synced (c : Clocked) : Prop where
  running : ∀ o, c.state.running o = true ↔
    c.clock.1.activated o = true ∨ c.clock.1.timerThread = .calling o
  called : ∀ o, c.clock.1.timerThread = .calling o →
    (c.clock.1.activated o = true ↔ timerConfig.periodic o = true)

namespace Synced

variable {k : Clock} {s : State} {late : Nat}

/-- The clock goes on, and the timer thread on its way. -/
theorem moved (h : Synced c) (hactivated : k.1.activated = c.clock.1.activated)
    (hcalling : ∀ o, k.1.timerThread = .calling o ↔ c.clock.1.timerThread = .calling o) :
    Synced ⟨c.state, k⟩ where
  running o := by
    rw [hactivated, hcalling o]
    exact h.running o
  called o ho := by
    rw [hactivated]
    exact h.called o ((hcalling o).mp ho)

theorem tick (h : Synced c) (hk : (timerMachine timerConfig).step c.clock .tick = some k) :
    Synced ⟨c.state, k⟩ := by
  obtain rfl := Option.some.inj hk
  exact h.moved rfl fun o => TimerThread.ticked_eq_calling

/-- The timer thread calls a timer, or goes on. -/
theorem thread (h : Synced c) (hshown : Shown timerConfig late longestTime c.clock)
    (hfits : timerConfig.Fits late longestTime) (hno : ∀ t, c.clock.1.timerThread ≠ .calling t)
    (hk : (timerMachine timerConfig).step c.clock .thread = some k) : Synced ⟨c.state, k⟩ := by
  obtain ⟨hstep, -⟩ := Machine.observed_step_eq_some.mp hk
  obtain ⟨t, -, hnext, hcall⟩ | ⟨thread, hthread, -, hmoved⟩ :=
    hshown.threadStep_cases hfits hno hstep
  · obtain ⟨q, hq, -⟩ := hnext.due
    have hactivated : c.clock.1.activated t = true :=
      (hshown.tracks.activated t).mpr (.inl (Option.isSome_iff_exists.mpr ⟨q, hq⟩))
    have hrunning := fun o => (h.running o).trans (or_iff_left (hno o))
    constructor
    · intro o
      simp only [hrunning o, hcall, Timers.callTimeout]
      by_cases ho : o = t
      · simp [ho, hactivated]
      · by_cases hperiodic : timerConfig.periodic t = true <;>
          simp [hperiodic, Timers.set, ho, Ne.symm ho]
    · intro o ho
      simp only [hcall, Timers.callTimeout, TimerThread.calling.injEq] at ho ⊢
      subst ho
      by_cases hperiodic : timerConfig.periodic t = true <;>
        simp [hperiodic, Timers.set, hactivated]
  · refine h.moved (by rw [hmoved]) fun o => ?_
    rw [hmoved]
    exact iff_of_false (hthread o) (hno o)

/-- The calls of a handler agree with what it writes, where they start or stop
something. -/
private theorem activated_served {calls : List KernelObject} (hk : Served timerConfig s.running
      (calls.filter KernelObject.isTimer) c.clock k)
    (hkept : ∀ o, o ∉ calls → (s.running o = true ↔ c.clock.1.activated o = true))
    (hother : ∀ o, o.isTimer = false → c.clock.1.activated o = false) (o : KernelObject) :
    s.running o = true ↔ k.1.activated o = true := by
  rw [hk.activated o]
  by_cases ho : o ∈ calls.filter KernelObject.isTimer
  · rw [if_pos ho]
  · rw [if_neg ho]
    by_cases hmem : o ∈ calls
    · have htimer : o.isTimer = false := by simpa [hmem] using ho
      rw [hother o htimer]
      cases o <;> simp_all [KernelObject.isTimer, State.running]
    · exact hkept o hmem

theorem not_activated (h : Synced c) {o : KernelObject} (ho : o.isTimer = false) :
    c.clock.1.activated o = false := by
  have hrunning : c.state.running o = false := by
    cases o <;> simp_all [KernelObject.isTimer, State.running]
  rw [Bool.eq_false_iff]
  intro hactivated
  simp [(h.running o).mpr (.inl hactivated)] at hrunning

/-- A handler of another thread, or of an interrupt. -/
theorem handler (h : Synced c) {a : Action} (ha : ¬Restarts a) (htimer : a.timer = none)
    (hno : ∀ t, c.clock.1.timerThread ≠ .calling t) (hs : step rom c.state a = some s)
    (hk : Clocked.served s (handlerCalls (c.state.factoryFlag ≠ 0) c.state a) c.clock = some k) :
    Synced ⟨s, k⟩ := by
  have hserved := served_of_eq hk
  have hframed := framed_step hs ha
  rw [State.expired_of_timer_eq_none htimer] at hframed
  have hcalling : ∀ o, k.1.timerThread ≠ .calling o := fun o => mt (hserved.calling o).mp (hno o)
  refine ⟨fun o => ?_, fun o ho => absurd ho (hcalling o)⟩
  rw [or_iff_left (hcalling o)]
  refine activated_served hserved (fun o ho => ?_) (fun o => h.not_activated) o
  rw [hframed o ho, h.running o, or_iff_left (hno o)]

/-- The function of a timer. -/
theorem timer (h : Synced c) {a : Action} {t : KernelObject} {k' : Clock} (ha : ¬Restarts a)
    (htimer : a.timer = some t) (hcalling : c.clock.1.timerThread = .calling t)
    (hs : step rom c.state a = some s)
    (hk : Clocked.served s (handlerCalls (c.state.factoryFlag ≠ 0) c.state a) c.clock = some k)
    (hk' : (timerMachine timerConfig).step k .thread = some k') : Synced ⟨s, k'⟩ := by
  have hserved := served_of_eq hk
  have hframed := framed_step hs ha
  have hthread : k.1.timerThread = .calling t := (hserved.calling t).mpr hcalling
  obtain ⟨hreturn, -⟩ := Machine.observed_step_eq_some.mp hk'
  have hreturn : k.1.callReturns timerConfig t = k'.1 := by
    simpa [Timers.step, Timers.threadStep, hthread] using hreturn
  have hcheck : k'.1.timerThread = .check := hreturn ▸ Timers.callReturns_timerThread ..
  have hactivated : k'.1.activated = k.1.activated := hreturn ▸ Timers.callReturns_activated ..
  refine ⟨fun o => ?_, fun o ho => by simp [hcheck] at ho⟩
  rw [hactivated, or_iff_left (by simp [hcheck])]
  refine activated_served hserved (fun o ho => ?_) (fun o => h.not_activated) o
  rw [hframed o ho, State.running_expired htimer]
  by_cases hot : o = t
  · subst hot
    have hrunning := (h.running o).mpr (.inr hcalling)
    rw [h.called o hcalling]
    simp [hrunning]
  · have hne : ¬c.clock.1.timerThread = .calling o := by
      rw [hcalling]
      exact fun he => hot (TimerThread.calling.inj he).symm
    rw [if_neg (fun hand => hot hand.1), h.running o, or_iff_left hne]

end Synced

/-! ## the start -/

/-- `Moto_Close` starts nothing. -/
theorem running_motoClose_le (actFlag : UInt8) (s : State) (o : KernelObject)
    (ho : s.running o = false) : (motoClose actFlag s).running o = false := by
  unfold motoClose
  dsimp only
  split_ifs
  · obtain ⟨mq, hmq⟩ := queueOnly_controlUploadGW 1 0 1 0
      (setLastFlag actFlag { s with nowStatus := .close, valveStatus := 0 })
    rw [hmq]
    cases o with
    | delayTimer | moto1TimerAct | moto2TimerAct | moto1TimerDetect | moto2TimerDetect => rfl
    | _ => exact ho
  · cases o with
    | delayTimer | moto1TimerAct | moto2TimerAct | moto1TimerDetect | moto2TimerDetect => rfl
    | _ => exact ho
  · cases o with
    | delayTimer => rfl
    | _ => exact ho
  · exact ho

/-- Nor does `Moto_Init`. -/
theorem running_motoInit_le (s : State) (o : KernelObject) (ho : s.running o = false) :
    (motoInit s).running o = false := by
  have hwarn : (warningEnable slaverWaterAlarmActiveEvent s).running o = false := by
    unfold warningEnable
    split
    · exact running_motoClose_le otherOff _ o ho
    · exact ho
  unfold motoInit
  split_ifs
  · exact hwarn
  · unfold motoInitOpen
    split_ifs <;> exact ho
  · exact ho

/-- `main` starts its timers and no others. -/
theorem running_boot {rom : UInt32} {pins : Pins} {env : Env} {s : State}
    (h : boot rom pins env = some s) {o : KernelObject} (ho : o ∉ bootTimers) :
    s.running o = false := by
  obtain ⟨st, -, rfl⟩ := Option.map_eq_some_iff.mp h
  have hinit : ∀ t : State, t.running o = false →
      (waterScanIOInit (motoInit t)).running o = false := fun t ht => running_motoInit_le t o ht
  have hreset :
      (radioQueueInit rom { State.reset env with toStorage := st }).running o = false := by
    cases o <;> first | rfl | simp [bootTimers] at ho
  have hfactory : ∀ t : State, t.running o = false → (detectFactory pins t).running o = false := by
    intro t ht
    unfold detectFactory
    split
    · exact ht
    · cases o <;> first | exact ht | simp [bootTimers] at ho
  have hgateway : ∀ t : State, t.running o = false → (gatewayInit t).running o = false := by
    intro t ht
    have hheart : ∀ u : State, u.running o = t.running o →
        State.running { heartTestStart u with heartCheckT := true } o = false := by
      intro u hu
      cases o <;> first | exact hu.trans ht | simp [bootTimers] at ho
    have hreport := (queueOnly_controlUploadGW 0 0 5 t.valveStatus
      { t with gatewayID := t.globalDevice.id t.globalDevice.gatewayNum }).running
    unfold gatewayInit
    dsimp only
    split
    · exact (congrFun hreport o).trans ht
    · exact hheart _ (congrFun hreport o)
  exact hgateway _ (hfactory _ (hinit _ hreset))

/-- A handler that restarts the firmware boots it. -/
theorem exists_boot_of_restarts {s s' : State} {a : Action} (ha : Restarts a)
    (hs : step rom s a = some s') : ∃ pins env, boot rom pins env = some s' := by
  cases a with
  | keyReponse sem pins =>
      obtain ⟨h0, h1, h01⟩ := ha
      simp only [step, keyReponse, h0, h1, h01, Bool.false_eq_true, if_false, if_true] at hs
      exact ⟨_, _, hs⟩
  | reboot pins => exact ⟨_, _, hs⟩
  | _ => exact absurd ha id

theorem Synced.start {pins : Pins} {env : Env} {s : State} (hs : boot rom pins env = some s)
    (hc : Clocked.start s = some c) : Synced c := by
  obtain ⟨rfl, hk⟩ := clock_start hc
  have hserved : Served timerConfig c.state.running (bootTimers.filter KernelObject.isTimer)
      resetClock c.clock := served_of_eq hk
  have hcalling : ∀ o, c.clock.1.timerThread ≠ .calling o := fun o =>
    mt (hserved.calling o).mp (by simp [resetClock])
  refine ⟨fun o => ?_, fun o ho => absurd ho (hcalling o)⟩
  rw [or_iff_left (hcalling o), hserved.activated o]
  by_cases ho : o ∈ bootTimers
  · have hmem : o ∈ bootTimers.filter KernelObject.isTimer := by
      revert o
      decide
    rw [if_pos hmem]
  · have hmem : o ∉ bootTimers.filter KernelObject.isTimer := fun hmem =>
      ho (List.mem_of_mem_filter hmem)
    rw [if_neg hmem, running_boot hs ho]
    simp [resetClock, Timers.start]

/-! ## every run -/

/-- A run of the clocked firmware is a run of the firmware, and the flags are
the activated timers. -/
structure Refines (rom : UInt32) (c : Clocked) : Prop where
  reachable : (valveMachine rom).Reachable c.state
  synced : Synced c

theorem Refines.step {late : Nat} (h : Refines rom c) (hlate : late ≤ mostLate)
    (hshown : Shown timerConfig late longestTime c.clock)
    (hs : (clockedMachine rom).step c act = some c') : Refines rom c' := by
  have hfits := timerConfig_fits hlate
  cases stepped_of_step hs with
  | tick hk => exact ⟨h.reachable, h.synced.tick hk⟩
  | thread hno hk => exact ⟨h.reachable, h.synced.thread hshown hfits hno hk⟩
  | restart ha hstep hc =>
      obtain ⟨pins, env, hboot⟩ := exists_boot_of_restarts ha hstep
      refine ⟨?_, Synced.start hboot hc⟩
      rw [(clock_start hc).1]
      exact h.reachable.step hstep
  | handler ha htimer hno hstep hk =>
      exact ⟨h.reachable.step hstep, h.synced.handler ha htimer hno hstep hk⟩
  | timer ha htimer hcalling hstep hk hk' =>
      exact ⟨h.reachable.step hstep, h.synced.timer ha htimer hcalling hstep hk hk'⟩

theorem Refines.init (h : (clockedMachine rom).init c) : Refines rom c := by
  obtain ⟨pins, s, hboot, hc⟩ := h
  refine ⟨?_, Synced.start hboot hc⟩
  rw [(clock_start hc).1]
  exact .init ⟨pins, hboot⟩

/-- The function of a timer that runs may run, whatever the pins show. -/
theorem exists_step_of_running {s : State} {o : KernelObject} (h : s.running o = true) :
    ∃ a, a.timer = some o ∧ (step rom s a).isSome := by
  cases o with
  | rf433SendTimer | rfEnMq => simp [State.running] at h
  | learnTimer => exact ⟨.learnTimer, rfl, by simp_all [step, State.running]⟩
  | delayTimer => exact ⟨.delayTimer, rfl, by simp_all [step, State.running]⟩
  | moto1TimerAct => exact ⟨.moto1TimerAct, rfl, by simp_all [step, State.running]⟩
  | moto2TimerAct => exact ⟨.moto2TimerAct, rfl, by simp_all [step, State.running]⟩
  | moto1TimerDetect => exact ⟨.moto1TimerDetect, rfl, by simp_all [step, State.running]⟩
  | moto2TimerDetect => exact ⟨.moto2TimerDetect, rfl, by simp_all [step, State.running]⟩
  | motoDetectTimer => exact ⟨.motoDetectTimer dryPins, rfl, by simp_all [step, State.running]⟩
  | ntcscanTimer => exact ⟨.ntcScanTimer false false, rfl, rfl⟩
  | waterscanTimer => exact ⟨.waterscanTimer dryPins, rfl, rfl⟩
  | factoryCycle => exact ⟨.factoryCycle, rfl, by simp_all [step, State.running]⟩
  | heartTestT => exact ⟨.heartTestT, rfl, by simp_all [step, State.running]⟩
  | heartCheckT => exact ⟨.heartCheckT, rfl, by simp_all [step, State.running]⟩
  | gatewaySyncT => exact ⟨.gatewaySyncT, rfl, by simp_all [step, State.running]⟩

theorem Refines.of_inTime (h : (clockedMachine rom).ReachableVia ClockedInTime c) :
    Refines rom c := by
  induction h with
  | init h0 => exact .init h0
  | step hreach hok hs ih =>
      exact ih.step (Nat.le_refl _)
        (Shown.of_reachable (timerConfig_fits (Nat.le_refl _)) (clock_inTime hreach)) hs

theorem Refines.of_prompt (h : (clockedMachine rom).ReachableVia ClockedPrompt c) :
    Refines rom c := by
  induction h with
  | init h0 => exact .init h0
  | step hreach hok hs ih =>
      exact ih.step (Nat.zero_le _)
        (OnTime.of_reachable (timerConfig_fits (Nat.zero_le _)) (clock_prompt hreach)).1 hs

/-! ## runs from the start -/

instance (c : Clocked) (act : ClockedAction) : Decidable (ClockedPrompt c act) :=
  match act with
  | .tick => inferInstanceAs (Decidable c.clock.1.timerThread.Waits)
  | .handler a =>
    inferInstanceAs (Decidable (a.timer = none → ¬Restarts a → c.clock.1.timerThread.Waits))
  | .thread => .isTrue trivial

/-- The way of the timer thread from `rt_soft_timer_check` to its delay. -/
def toDelay : List ClockedAction := [.thread, .thread, .thread, .thread]

/-- What the unit `started` does on its clock, if the timer thread comes first. -/
def clockedRun (acts : List ClockedAction) : Option Clocked :=
  (Clocked.start started).bind fun c =>
    (clockedMachine 0).runChecked (fun c act => ClockedPrompt c act) c acts

theorem clockedRun_prompt {acts : List ClockedAction} (h : clockedRun acts = some c) :
    (clockedMachine 0).ReachableVia ClockedPrompt c := by
  obtain ⟨c₀, hstart, hrun⟩ := Option.bind_eq_some_iff.mp h
  have hinit : (clockedMachine 0).init c₀ := ⟨dryPins, started, boot_started, hstart⟩
  exact Machine.ReachableVia.runChecked (.init hinit) (fun _ _ => of_decide_eq_true) hrun

/-- A timer thread that comes first is in time. -/
theorem inTime_of_prompt (h : (clockedMachine rom).ReachableVia ClockedPrompt c) :
    (clockedMachine rom).ReachableVia ClockedInTime c := by
  induction h with
  | init h0 => exact .init h0
  | @step c c' act hreach hok hs ih =>
      refine ih.step ?_ hs
      cases act with
      | tick =>
          obtain ⟨-, hontime⟩ :=
            OnTime.of_reachable (timerConfig_fits (Nat.zero_le _)) (clock_prompt hreach)
          intro t q hq
          exact Nat.le_add_right_of_le (hontime.quiet_of_waits hok t q hq)
      | thread | handler => trivial

/-! ## the firmware on its kernel -/

/-- **The firmware on its kernel.**  Every run of the clocked firmware in which no
tick leaves a timer more than `mostLate` overdue is a run of the firmware; the
timers of the handlers whose flags say that they run are those that the kernel has
activated or whose function it is calling; and the function that the timer thread
calls is one that may run. -/
theorem clocked_refines (h : (clockedMachine rom).ReachableVia ClockedInTime c) :
    (valveMachine rom).Reachable c.state ∧
    (∀ o, c.state.running o = true ↔
      c.clock.1.activated o = true ∨ c.clock.1.timerThread = .calling o) ∧
    ∀ o, c.clock.1.timerThread = .calling o →
      ∃ a, a.timer = some o ∧ (step rom c.state a).isSome := by
  obtain ⟨hreach, hsynced⟩ := Refines.of_inTime h
  exact ⟨hreach, hsynced.running, fun o ho =>
    exists_step_of_running ((hsynced.running o).mpr (.inr ho))⟩

/-- A second after `K1` has been held, the timer thread calls the scan of the
temperature. -/
theorem clocked_refines_secondLater : ∃ c,
    clockedRun (toDelay ++ .handler holdK1 :: toDelay ++ List.replicate 1000 .tick ++ [.thread]) =
      some c ∧
    c.clock.1.timerThread = .calling .ntcscanTimer ∧
    ∃ a, a.timer = some .ntcscanTimer ∧ (step 0 c.state a).isSome := by
  have hrun : (clockedRun
      (toDelay ++ .handler holdK1 :: toDelay ++ List.replicate 1000 .tick ++ [.thread])).map
      (fun c => c.clock.1.timerThread.called) = some (some .ntcscanTimer) := by decide +kernel
  obtain ⟨c, hc, hcalling⟩ := Option.map_eq_some_iff.mp hrun
  have hthread := TimerThread.called_eq_some.mp hcalling
  exact ⟨c, hc, hthread, (clocked_refines (inTime_of_prompt (clockedRun_prompt hc))).2.2 _ hthread⟩

end WaterValve
