import WaterValve.Lib.Alarms
import WaterValve.Lib.Machine

/-!
# WaterValve.Timers

The kernel's software timers (`timer.c`) and the timer thread that calls their
functions.  The ticks are 32 bits wide and wrap around; the list is sorted by
what is left of each time, as the wrapped ticks show it
(`RT_TIMER_SKIP_LIST_LEVEL` is 1, so there is one list).

`Tracks` relates the timers to alarms on an unbounded clock.  The main results
are `check_fires_next`: however starts, stops, ticks and the timer thread
interleave, `rt_soft_timer_check` calls the alarm that is due first, and none
before its time; and `calls_on_time`: a timer thread that nothing interrupts on
its way misses no tick.
-/

namespace WaterValve

open Serial

/-! ## the timers and the timer thread -/

/-- What `rt_timer_create` is given: the time, and `RT_TIMER_FLAG_PERIODIC`. -/
structure TimerConfig (ι : Type*) where
  initTick : ι → UInt32
  periodic : ι → Bool

/-- Where `_timer_thread_entry` is: at the head of its loop, behind
`_timer_list_next_timeout`, before a delay, suspended, delayed until a tick, in
`rt_soft_timer_check`, or there in the function of a timer. -/
inductive TimerThread (ι : Type*)
  | top
  | nextTimeout (tick : Option UInt32)
  | toDelay (ticks : UInt32)
  | suspended
  | delay (wake : UInt32)
  | check
  | calling (t : ι)

namespace TimerThread

variable {ι : Type*} {thread : TimerThread ι} {tick : UInt32} {t : ι}

/-- The thread waits for a tick or a start. -/
def Waits : TimerThread ι → Prop
  | .suspended | .delay _ => True
  | _ => False

/-- The thread is on its way from `rt_soft_timer_check` to its next wait. -/
def Turns : TimerThread ι → Prop
  | .top | .nextTimeout _ | .toDelay _ => True
  | _ => False

/-- `rt_timer_start` resumes the thread when it waits, but not from within the
function of a timer. -/
def resumed : TimerThread ι → TimerThread ι
  | .suspended | .delay _ => .check
  | thread => thread

/-- `rt_timer_check` in the tick `tick`, for the delay of the thread. -/
def ticked (tick : UInt32) : TimerThread ι → TimerThread ι
  | .delay wake => if tick - wake < half then .check else .delay wake
  | thread => thread

@[simp]
theorem resumed_eq_calling : thread.resumed = .calling t ↔ thread = .calling t := by
  cases thread <;> simp [resumed]

@[simp]
theorem ticked_eq_calling : thread.ticked tick = .calling t ↔ thread = .calling t := by
  cases thread with
  | delay wake =>
      simp only [ticked]
      split_ifs <;> simp
  | _ => rfl

end TimerThread

/-- The tick of the kernel, `_soft_timer_list`, of each timer its tick and its
`RT_TIMER_FLAG_ACTIVATED`, and the `list` of `rt_soft_timer_check`. -/
structure Timers (ι : Type*) where
  rtTick : UInt32
  softTimerList : List ι
  timeoutTick : ι → UInt32
  activated : ι → Bool
  list : List ι
  timerThread : TimerThread ι

namespace Timers

variable {ι : Type*} [DecidableEq ι]

/-- The timers after `rt_system_timer_thread_init`. -/
def start : Timers ι := ⟨0, [], fun _ => 0, fun _ => false, [], .top⟩

/-- `f` with another value at `t`. -/
def set {β : Type*} (f : ι → β) (t : ι) (v : β) : ι → β := fun u => if u = t then v else f u

/-- `_timer_remove`, from whichever list. -/
def remove (t : ι) (k : Timers ι) : Timers ι :=
  { k with softTimerList := k.softTimerList.erase t, list := k.list.erase t }

/-- Where the scan of `rt_timer_start` breaks. -/
def timesOutAfter (timeoutTick : ι → UInt32) (t u : ι) : Bool :=
  if timeoutTick u - timeoutTick t = 0 then false else timeoutTick u - timeoutTick t < half

/-- What `rt_timer_start` writes into the timer and where it inserts it. -/
def activate (cfg : TimerConfig ι) (t : ι) (k : Timers ι) : Timers ι :=
  let timeoutTick := set k.timeoutTick t (k.rtTick + cfg.initTick t)
  { k.remove t with
    timeoutTick := timeoutTick
    softTimerList := Alarms.insertAfter (timesOutAfter timeoutTick t) t (k.softTimerList.erase t)
    activated := set k.activated t true }

/-- `rt_timer_start`. -/
def rtTimerStart (cfg : TimerConfig ι) (t : ι) (k : Timers ι) : Timers ι :=
  { k.activate cfg t with timerThread := k.timerThread.resumed }

/-- `rt_timer_stop` behind its test of `RT_TIMER_FLAG_ACTIVATED`, which it makes
with interrupts enabled. -/
def deactivate (t : ι) (k : Timers ι) : Timers ι :=
  { k.remove t with activated := set k.activated t false }

/-- `rt_timer_stop`. -/
def rtTimerStop (t : ι) (k : Timers ι) : Timers ι :=
  if k.activated t then k.deactivate t else k

/-- `rt_tick_increase`. -/
def rtTickIncrease (k : Timers ι) : Timers ι :=
  { k with rtTick := k.rtTick + 1, timerThread := k.timerThread.ticked (k.rtTick + 1) }

/-- `_timer_list_next_timeout` on `_soft_timer_list`. -/
def timerListNextTimeout (k : Timers ι) : Option UInt32 := k.softTimerList.head?.map k.timeoutTick

/-- `_timer_thread_entry` with what `_timer_list_next_timeout` gave. -/
def afterNextTimeout (tick : Option UInt32) (k : Timers ι) : Timers ι :=
  match tick with
  | none => { k with timerThread := .suspended }
  | some tick =>
    if tick - k.rtTick < half then { k with timerThread := .toDelay (tick - k.rtTick) }
    else { k with timerThread := .check }

/-- The body of the loop of `rt_soft_timer_check`, up to the call of the function
of `t`. -/
def callTimeout (cfg : TimerConfig ι) (t : ι) (k : Timers ι) : Timers ι :=
  { k.remove t with
    activated := if cfg.periodic t then k.activated else set k.activated t false
    list := t :: (k.remove t).list
    timerThread := .calling t }

/-- The loop of `rt_soft_timer_check`. -/
def softTimerCheck (cfg : TimerConfig ι) (k : Timers ι) : Timers ι :=
  match k.softTimerList with
  | [] => { k with timerThread := .top }
  | t :: _ =>
    if k.rtTick - k.timeoutTick t < half then k.callTimeout cfg t
    else { k with timerThread := .top }

/-- The rest of its body, after the function of `t` has returned. -/
def callReturns (cfg : TimerConfig ι) (t : ι) (k : Timers ι) : Timers ι :=
  if k.list = [] then { k with timerThread := .check }
  else if cfg.periodic t ∧ k.activated t then
    rtTimerStart cfg t
      { k with
        activated := set k.activated t false
        list := k.list.erase t
        timerThread := .check }
  else { k with list := k.list.erase t, timerThread := .check }

theorem callReturns_timerThread (cfg : TimerConfig ι) (t : ι) (k : Timers ι) :
    (k.callReturns cfg t).timerThread = .check := by
  unfold callReturns
  split_ifs <;> rfl

/-- A periodic timer that is started again was activated. -/
theorem callReturns_activated (cfg : TimerConfig ι) (t : ι) (k : Timers ι) :
    (k.callReturns cfg t).activated = k.activated := by
  unfold callReturns
  split_ifs with hlist hagain
  · rfl
  · funext u
    by_cases hu : u = t
    · simp [rtTimerStart, activate, set, hu, hagain.2]
    · simp [rtTimerStart, activate, set, hu]
  · rfl

/-- A step of the timer thread; `none` while it waits. -/
def threadStep (cfg : TimerConfig ι) (k : Timers ι) : Option (Timers ι) :=
  match k.timerThread with
  | .top => some { k with timerThread := .nextTimeout k.timerListNextTimeout }
  | .nextTimeout tick => some (k.afterNextTimeout tick)
  | .toDelay ticks => some { k with timerThread := .delay (k.rtTick + ticks) }
  | .check => some (k.softTimerCheck cfg)
  | .calling t => some (k.callReturns cfg t)
  | .suspended | .delay _ => none

end Timers

/-- What happens to the timers, in any order. -/
inductive TimerAction (ι : Type*)
  | tick
  | start (t : ι)
  | stop (t : ι)
  | deactivate (t : ι)
  | thread

/-- One action.  What comes between the test of a `rt_timer_stop` and the rest of
it makes the rest an action of its own. -/
def Timers.step {ι : Type*} [DecidableEq ι] (cfg : TimerConfig ι) (k : Timers ι) :
    TimerAction ι → Option (Timers ι)
  | .tick => some k.rtTickIncrease
  | .start t => some (k.rtTimerStart cfg t)
  | .stop t => some (k.rtTimerStop t)
  | .deactivate t => some (k.deactivate t)
  | .thread => k.threadStep cfg

/-- What the action is for the alarms: the timer thread sets one off when it
calls its function. -/
def Timers.observe {ι : Type*} [DecidableEq ι] (cfg : TimerConfig ι) (k : Timers ι)
    (a : Alarms ι) (act : TimerAction ι) (k' : Timers ι) : Alarms ι :=
  match act with
  | .tick => a.tick
  | .start t => a.start t (cfg.initTick t).toNat
  | .stop t | .deactivate t => a.stop t
  | .thread =>
    match k.timerThread, k'.timerThread with
    | .check, .calling t => a.fire t (cfg.periodic t)
    | .calling t, _ => a.returns t (cfg.initTick t).toNat
    | _, _ => a

/-- The timers, with the alarms they are to be. -/
def timerMachine {ι : Type*} [DecidableEq ι] (cfg : TimerConfig ι) :
    Machine (Timers ι × Alarms ι) (TimerAction ι) :=
  Machine.observed ⟨(· = Timers.start), Timers.step cfg⟩ (fun _ => .idle) (Timers.observe cfg)

/-! ## the timers are the alarms -/

section

variable {ι : Type*} {cfg : TimerConfig ι} {late ahead : Nat}

/-- How long the times are, and how late the timer thread may be, for the
wrapped ticks to show which comes first. -/
structure TimerConfig.Fits (cfg : TimerConfig ι) (late ahead : Nat) : Prop where
  initTick_le : ∀ t, (cfg.initTick t).toNat ≤ ahead
  ahead_le : ahead ≤ 0x7ffffffe
  late_le : late ≤ 0x7ffffffe
  late_add_ahead_le : late + ahead ≤ 0x80000001

/-- The clock does not go on while that leaves an alarm more than `late`
overdue. -/
def InTime (late : Nat) (p : Timers ι × Alarms ι) : TimerAction ι → Prop
  | .tick => ∀ t q, p.2.pending t = some q → p.2.now + 1 ≤ q.deadline + late
  | _ => True

/-- The timers show the alarms. -/
structure Tracks (cfg : TimerConfig ι) (a : Alarms ι) (k : Timers ι) : Prop where
  tick : k.rtTick = UInt32.ofNat a.now
  sorted : a.Sorted k.softTimerList
  timeout : ∀ t p, a.pending t = some p → k.timeoutTick t = UInt32.ofNat p.deadline
  activated : ∀ t, k.activated t = true ↔
    (a.pending t).isSome ∨ a.calling = some t ∧ a.rearm = true
  calling : ∀ t, k.timerThread = .calling t ↔ a.calling = some t
  list : ∀ t ∈ k.list, k.list = [t] ∧ a.calling = some t ∧ a.pending t = none
  rearm : a.rearm = true ↔ ∃ t ∈ k.list, cfg.periodic t = true

namespace Tracks

variable {a : Alarms ι} {k k' : Timers ι} {t : ι}

theorem start : Tracks cfg .idle (Timers.start : Timers ι) where
  tick := rfl
  sorted := ⟨List.nodup_nil, by simp [Alarms.idle, Timers.start], List.Pairwise.nil⟩
  timeout := by simp [Alarms.idle]
  activated := by simp [Alarms.idle, Timers.start]
  calling := by simp [Alarms.idle, Timers.start]
  list := by simp [Timers.start]
  rearm := by simp [Alarms.idle, Timers.start]

/-- Where the thread is does not matter, as long as it is in the same
function. -/
theorem moved (h : Tracks cfg a k) {thread : TimerThread ι}
    (hthread : ∀ t, thread = .calling t ↔ k.timerThread = .calling t) :
    Tracks cfg a { k with timerThread := thread } :=
  { h with calling := fun t => (hthread t).trans (h.calling t) }

theorem rtTickIncrease (h : Tracks cfg a k) : Tracks cfg a.tick k.rtTickIncrease where
  tick := by
    refine (congrArg (· + 1) h.tick).trans ?_
    exact (ofNat_add a.now 1).symm
  sorted := ⟨h.sorted.nodup, h.sorted.mem_iff, h.sorted.ordered⟩
  timeout := h.timeout
  activated := h.activated
  calling t := TimerThread.ticked_eq_calling.trans (h.calling t)
  list := h.list
  rearm := h.rearm

variable [DecidableEq ι]

/-- A timer is inserted behind those that time out no later. -/
theorem timesOutAfter_iff (h : Tracks cfg a k) (hfits : cfg.Fits late ahead)
    (htimely : a.Timely late ahead) {u : ι} {p : Alarm} (hu : u ≠ t) (hp : a.pending u = some p) :
    Timers.timesOutAfter (Timers.set k.timeoutTick t (k.rtTick + cfg.initTick t)) t u = true ↔
      a.now + (cfg.initTick t).toNat < p.deadline := by
  have hoverdue := htimely.overdue u p hp
  have hupcoming := htimely.upcoming u p hp
  have hinit := hfits.initTick_le t
  have hnear : Near p.deadline (a.now + (cfg.initTick t).toNat) := by
    have := hfits.ahead_le
    have := hfits.late_add_ahead_le
    constructor <;> omega
  have htick : k.rtTick + cfg.initTick t = UInt32.ofNat (a.now + (cfg.initTick t).toNat) := by
    rw [ofNat_add, h.tick, UInt32.ofNat_toNat]
  unfold Timers.timesOutAfter Timers.set
  rw [if_pos rfl, if_neg hu, h.timeout u p hp, htick]
  simp only [sub_eq_zero_iff hnear, sub_lt_half_iff hnear]
  grind

/-- Who removes a timer removes it from the list of `rt_soft_timer_check`, too,
which is how that notices. -/
theorem list_erase (h : Tracks cfg a k) (t : ι) :
    (∀ u ∈ k.list.erase t,
      k.list.erase t = [u] ∧ a.calling = some u ∧ a.pending u = none ∧ u ≠ t) ∧
    ((a.touch t).rearm = true ↔ ∃ u ∈ k.list.erase t, cfg.periodic u = true) := by
  have hrearm : (a.touch t).rearm = true ↔ a.rearm = true ∧ a.calling ≠ some t := by
    simp [Alarms.touch]
  rw [hrearm, h.rearm]
  cases hlist : k.list with
  | nil => simp
  | cons u l =>
      obtain ⟨hone, hcalling, hpending⟩ := h.list u (by simp [hlist])
      obtain ⟨-, rfl⟩ := List.cons.inj (hlist.symm.trans hone)
      by_cases hu : u = t
      · simp [hu, hcalling]
      · have herase : [u].erase t = [u] := List.erase_of_not_mem (by simpa using Ne.symm hu)
        rw [herase]
        simp [hcalling, hpending, hu]

theorem activate (h : Tracks cfg a k) (hfits : cfg.Fits late ahead)
    (htimely : a.Timely late ahead) :
    Tracks cfg (a.start t (cfg.initTick t).toNat) (k.activate cfg t) where
  tick := h.tick
  sorted := by
    have herase := (h.sorted.erase (b := a.stop t) (t := t) fun _ => rfl)
    refine herase.insertAfter (q := ⟨a.now + (cfg.initTick t).toNat, a.started⟩) ?_ ?_ ?_ ?_
    · exact fun hmem => absurd rfl (h.sorted.nodup.mem_erase_iff.mp hmem).1
    · intro u
      by_cases hu : u = t <;> simp [Alarms.start, Alarms.stop, Alarms.touch, hu]
    · exact fun u p hp => htimely.stop.order u p hp
    · intro u p hp
      by_cases hu : u = t
      · simp [Alarms.stop, hu] at hp
      · exact timesOutAfter_iff h hfits htimely hu ((if_neg hu).symm.trans hp)
  timeout u p hp := by
    by_cases hu : u = t
    · obtain rfl := Option.some.inj ((if_pos hu).symm.trans hp)
      simp only [Timers.activate, Timers.set, hu, if_true, h.tick, ofNat_add, UInt32.ofNat_toNat]
    · simp only [Timers.activate, Timers.set, hu, if_false]
      exact h.timeout u p ((if_neg hu).symm.trans hp)
  activated u := by
    have hold := h.activated u
    by_cases hu : u = t
    · simp [Timers.activate, Timers.set, Alarms.start, Alarms.touch, hu]
    · simp only [Timers.activate, Timers.set, Alarms.start, Alarms.touch, hu, if_false, hold]
      grind
  calling := h.calling
  list u hu := by
    obtain ⟨hone, hcalling, hpending, hne⟩ := (h.list_erase t).1 u hu
    exact ⟨hone, hcalling, (if_neg hne).trans hpending⟩
  rearm := (h.list_erase t).2

theorem deactivate (h : Tracks cfg a k) : Tracks cfg (a.stop t) (k.deactivate t) where
  tick := h.tick
  sorted := h.sorted.erase fun _ => rfl
  timeout u p hp := by
    by_cases hu : u = t
    · exact absurd ((if_pos hu).symm.trans hp) (by simp)
    · exact h.timeout u p ((if_neg hu).symm.trans hp)
  activated u := by
    have hold := h.activated u
    by_cases hu : u = t
    · simp [Timers.deactivate, Timers.set, Alarms.stop, Alarms.touch, hu]
      exact fun hcalling _ => hcalling
    · simp only [Timers.deactivate, Timers.set, Alarms.stop, Alarms.touch, hu, if_false, hold]
      grind
  calling := h.calling
  list u hu := by
    obtain ⟨hone, hcalling, hpending, hne⟩ := (h.list_erase t).1 u hu
    exact ⟨hone, hcalling, (if_neg hne).trans hpending⟩
  rearm := (h.list_erase t).2

theorem rtTimerStart (h : Tracks cfg a k) (hfits : cfg.Fits late ahead)
    (htimely : a.Timely late ahead) :
    Tracks cfg (a.start t (cfg.initTick t).toNat) (k.rtTimerStart cfg t) :=
  (h.activate hfits htimely).moved fun _ => TimerThread.resumed_eq_calling

/-- A timer that is not activated is no alarm to stop. -/
theorem rtTimerStop (h : Tracks cfg a k) : Tracks cfg (a.stop t) (k.rtTimerStop t) := by
  unfold Timers.rtTimerStop
  split
  · exact h.deactivate
  · rename_i hactivated
    rw [h.activated] at hactivated
    obtain ⟨hpending, hrearm⟩ := not_or.mp hactivated
    have hsame : a.stop t = a := by
      have hnone : a.pending t = none := by simpa using hpending
      have hkeep : (a.rearm && decide (a.calling ≠ some t)) = a.rearm := by
        cases hr : a.rearm with
        | false => rfl
        | true => simpa using fun hc => hrearm ⟨hc, hr⟩
      have hold : (fun u => if u = t then none else a.pending u) = a.pending := by
        funext u
        split
        · rename_i hu
          exact (hu ▸ hnone).symm
        · rfl
      unfold Alarms.stop Alarms.touch
      simp only [hkeep, hold]
    exact hsame.symm ▸ h

omit [DecidableEq ι] in
/-- The list is empty between two calls. -/
theorem list_eq_nil (h : Tracks cfg a k) (hcalling : a.calling = none) : k.list = [] := by
  refine List.eq_nil_iff_forall_not_mem.mpr fun u hu => ?_
  simp [(h.list u hu).2.1] at hcalling

/-- What `rt_soft_timer_check` does: it calls the timer that is due first, or
goes back to the head of the loop, when none is due. -/
theorem softTimerCheck_cases (h : Tracks cfg a k) (hfits : cfg.Fits late ahead)
    (htimely : a.Timely late ahead) :
    (∃ t, a.Next t ∧ k.softTimerCheck cfg = k.callTimeout cfg t) ∨
    ¬a.SomeDue ∧ k.softTimerCheck cfg = { k with timerThread := .top } := by
  have hsorted := h.sorted
  unfold Timers.softTimerCheck
  cases hlist : k.softTimerList with
  | nil =>
      rw [hlist] at hsorted
      exact .inr ⟨hsorted.not_someDue_nil, rfl⟩
  | cons t l =>
      rw [hlist] at hsorted
      obtain ⟨p, hp⟩ := Option.isSome_iff_exists.mp ((hsorted.mem_iff t).mp List.mem_cons_self)
      have hdue : k.rtTick - k.timeoutTick t < half ↔ p.deadline ≤ a.now := by
        rw [h.tick, h.timeout t p hp]
        have hoverdue := htimely.overdue t p hp
        have hupcoming := htimely.upcoming t p hp
        have hahead := hfits.ahead_le
        have hlate := hfits.late_le
        exact sub_lt_half_iff ⟨by omega, by omega⟩
      simp only [hdue]
      split
      · rename_i hle
        exact .inl ⟨t, hsorted.next hp hle, rfl⟩
      · rename_i hle
        exact .inr ⟨hsorted.not_someDue hp (Nat.lt_of_not_le hle), rfl⟩

/-- The call of a timer sets the alarm off. -/
theorem fire (h : Tracks cfg a k) (hcalling : a.calling = none) (hpending : (a.pending t).isSome) :
    Tracks cfg (a.fire t (cfg.periodic t)) (k.callTimeout cfg t) where
  tick := h.tick
  sorted := h.sorted.erase fun _ => rfl
  timeout u p hp := by
    by_cases hu : u = t
    · exact absurd ((if_pos hu).symm.trans hp) (by simp)
    · exact h.timeout u p ((if_neg hu).symm.trans hp)
  activated u := by
    have hold := h.activated u
    by_cases hu : u = t
    · subst hu
      by_cases hperiodic : cfg.periodic u = true <;>
        simp [Timers.callTimeout, Alarms.fire, Timers.set, hperiodic, hold, hpending]
    · by_cases hperiodic : cfg.periodic t = true <;>
        simp [Timers.callTimeout, Alarms.fire, Timers.set, hperiodic, hold, hu, Ne.symm hu,
          hcalling]
  calling u := by simp [Timers.callTimeout, Alarms.fire]
  list u hu := by
    have hlist : (k.remove t).list = [] := by simp [Timers.remove, h.list_eq_nil hcalling]
    simp only [Timers.callTimeout, hlist, List.mem_singleton] at hu
    subst hu
    simp [Timers.callTimeout, hlist, Alarms.fire]
  rearm := by
    have hlist : (k.remove t).list = [] := by simp [Timers.remove, h.list_eq_nil hcalling]
    simp [Timers.callTimeout, hlist, Alarms.fire]

omit [DecidableEq ι] in
/-- Between two calls, `RT_TIMER_FLAG_ACTIVATED` is set while a timer is
pending. -/
theorem settled (h : Tracks cfg a k) {activated : ι → Bool}
    (hactivated : ∀ t, activated t = true ↔ (a.pending t).isSome) :
    Tracks cfg { a with calling := none, rearm := false }
      { k with activated := activated, list := [], timerThread := .check } where
  tick := h.tick
  sorted := ⟨h.sorted.nodup, h.sorted.mem_iff, h.sorted.ordered⟩
  timeout := h.timeout
  activated u := by simp [hactivated]
  calling := by simp
  list := by simp
  rearm := by simp

/-- The function of a timer returns. -/
theorem callReturns (h : Tracks cfg a k) (hfits : cfg.Fits late ahead)
    (htimely : a.Timely late ahead) (hcalling : a.calling = some t) :
    Tracks cfg (a.returns t (cfg.initTick t).toNat) (k.callReturns cfg t) := by
  have hkept : a.rearm = false → ∀ u, k.activated u = true ↔ (a.pending u).isSome := by
    intro hrearm u
    simp [h.activated u, hrearm]
  have hnot : a.rearm = false →
      a.returns t (cfg.initTick t).toNat = { a with calling := none, rearm := false } := by
    intro hrearm
    simp [Alarms.returns, hrearm]
  unfold Timers.callReturns
  cases hlist : k.list with
  | nil =>
      -- the function, or someone meanwhile, has started or stopped the timer
      have hrearm : a.rearm = false := by
        rw [Bool.eq_false_iff, Ne, h.rearm]
        simp [hlist]
      rw [hnot hrearm]
      simpa [hlist] using h.settled (hkept hrearm)
  | cons u l =>
      obtain ⟨hone, hu, hpending⟩ := h.list u (by simp [hlist])
      obtain ⟨-, rfl⟩ := List.cons.inj (hlist.symm.trans hone)
      obtain rfl : t = u := Option.some.inj (hcalling.symm.trans hu)
      have hrearm : a.rearm = true ↔ cfg.periodic t = true := by
        rw [h.rearm]
        simp [hlist]
      have hactivated : k.activated t = true ↔ cfg.periodic t = true := by
        rw [h.activated t]
        simp [hpending, hcalling, hrearm]
      by_cases hperiodic : cfg.periodic t = true
      · have hsettled : Tracks cfg { a with calling := none, rearm := false }
            { k with
              activated := Timers.set k.activated t false
              list := []
              timerThread := .check } := by
          refine h.settled fun v => ?_
          by_cases hv : v = t
          · simp [Timers.set, hv, hpending]
          · simp [Timers.set, hv, h.activated v, hcalling, Ne.symm hv]
        have hrestart : a.returns t (cfg.initTick t).toNat =
            Alarms.start t (cfg.initTick t).toNat { a with calling := none, rearm := false } := by
          simp [Alarms.returns, hrearm.mpr hperiodic, Alarms.start, Alarms.touch]
        rw [hrestart]
        have htimely' : Alarms.Timely late ahead { a with calling := none, rearm := false } :=
          ⟨htimely.overdue, htimely.upcoming, htimely.order⟩
        simpa [hlist, hperiodic, hactivated.mpr hperiodic] using
          hsettled.rtTimerStart hfits htimely'
      · have hrearm : a.rearm = false := by
          rw [Bool.eq_false_iff, Ne, hrearm]
          exact hperiodic
        rw [hnot hrearm]
        simpa [hlist, hperiodic] using h.settled (hkept hrearm)

end Tracks

/-- The timers show alarms that are neither too late nor too far ahead. -/
structure Shown (cfg : TimerConfig ι) (late ahead : Nat) (p : Timers ι × Alarms ι) : Prop where
  tracks : Tracks cfg p.2 p.1
  timely : p.2.Timely late ahead

variable [DecidableEq ι] {p p' : Timers ι × Alarms ι}

/-- What a step of the timer thread does between two calls: it calls the timer
that is due first, or moves on. -/
theorem Shown.threadStep_cases (h : Shown cfg late ahead p) (hfits : cfg.Fits late ahead)
    (hno : ∀ t, p.1.timerThread ≠ .calling t) {k' : Timers ι} (hs : p.1.threadStep cfg = some k') :
    (∃ t, p.1.timerThread = .check ∧ p.2.Next t ∧ k' = p.1.callTimeout cfg t) ∨
    ∃ thread : TimerThread ι, (∀ t, thread ≠ .calling t) ∧
      (p.1.timerThread = .check → thread = .top ∧ ¬p.2.SomeDue) ∧
      k' = { p.1 with timerThread := thread } := by
  cases hthread : p.1.timerThread with
  | top | toDelay ticks =>
      simp only [Timers.threadStep, hthread, Option.some.injEq] at hs
      exact .inr ⟨_, by simp, by simp, hs.symm⟩
  | nextTimeout tick =>
      simp only [Timers.threadStep, hthread, Option.some.injEq] at hs
      cases tick with
      | none => exact .inr ⟨.suspended, by simp, by simp, hs.symm⟩
      | some tick =>
          simp only [Timers.afterNextTimeout] at hs
          split at hs <;> exact .inr ⟨_, by simp, by simp, hs.symm⟩
  | suspended => simp [Timers.threadStep, hthread] at hs
  | delay wake => simp [Timers.threadStep, hthread] at hs
  | check =>
      simp only [Timers.threadStep, hthread, Option.some.injEq] at hs
      obtain ⟨t, hnext, hcheck⟩ | ⟨hnone, hcheck⟩ := h.tracks.softTimerCheck_cases hfits h.timely
      · exact .inl ⟨t, rfl, hnext, hs.symm.trans hcheck⟩
      · exact .inr ⟨.top, by simp, fun _ => ⟨rfl, hnone⟩, hs.symm.trans hcheck⟩
  | calling t => exact absurd hthread (hno t)

/-- A step of the timer thread. -/
theorem Shown.thread (h : Shown cfg late ahead p) (hfits : cfg.Fits late ahead) {k' : Timers ι}
    (hs : p.1.threadStep cfg = some k') :
    Shown cfg late ahead (k', Timers.observe cfg p.1 p.2 .thread k') := by
  by_cases hcalling : ∃ t, p.1.timerThread = .calling t
  · obtain ⟨t, ht⟩ := hcalling
    simp only [Timers.threadStep, ht, Option.some.injEq] at hs
    subst hs
    simp only [Timers.observe, ht]
    exact ⟨h.tracks.callReturns hfits h.timely ((h.tracks.calling t).mp ht),
      h.timely.returns (hfits.initTick_le t)⟩
  · have hno : ∀ t, p.1.timerThread ≠ .calling t := fun t ht => hcalling ⟨t, ht⟩
    obtain ⟨t, hcheck, hnext, rfl⟩ | ⟨thread, hthread, -, rfl⟩ := h.threadStep_cases hfits hno hs
    · obtain ⟨q, hq, -⟩ := hnext.due
      have hnone : p.2.calling = none :=
        Option.eq_none_iff_forall_ne_some.mpr fun u hu => hno u ((h.tracks.calling u).mpr hu)
      simp only [Timers.observe, hcheck, Timers.callTimeout]
      exact ⟨h.tracks.fire hnone (Option.isSome_iff_exists.mpr ⟨q, hq⟩), h.timely.fire⟩
    · have hsame : Timers.observe cfg p.1 p.2 .thread { p.1 with timerThread := thread } = p.2 := by
        unfold Timers.observe
        dsimp only
        split
        · exact absurd rfl (hthread _)
        · rename_i ht
          exact absurd ht (hno _)
        · rfl
      rw [hsame]
      exact ⟨h.tracks.moved fun t => iff_of_false (hthread t) (hno t), h.timely⟩

/-- What one step keeps. -/
theorem Shown.step (h : Shown cfg late ahead p) (hfits : cfg.Fits late ahead) {act : TimerAction ι}
    (hok : InTime late p act) (hs : (timerMachine cfg).step p act = some p') :
    Shown cfg late ahead p' := by
  obtain ⟨k', a'⟩ := p'
  obtain ⟨hstep, hobserve⟩ := Machine.observed_step_eq_some.mp hs
  simp only at hstep hobserve
  subst hobserve
  obtain ⟨htracks, htimely⟩ := id h
  cases act with
  | tick =>
      obtain rfl := Option.some.inj hstep
      exact ⟨htracks.rtTickIncrease, htimely.tick hok⟩
  | start t =>
      obtain rfl := Option.some.inj hstep
      exact ⟨htracks.rtTimerStart hfits htimely, htimely.start (hfits.initTick_le t)⟩
  | stop t =>
      obtain rfl := Option.some.inj hstep
      exact ⟨htracks.rtTimerStop, htimely.stop⟩
  | deactivate t =>
      obtain rfl := Option.some.inj hstep
      exact ⟨htracks.deactivate, htimely.stop⟩
  | thread => exact h.thread hfits hstep

theorem Shown.start {p : Timers ι × Alarms ι} (hp : (timerMachine cfg).init p) :
    Shown cfg late ahead p := by
  obtain ⟨hk, ha⟩ := hp
  refine ⟨?_, ?_⟩
  · rw [hk, ha]
    exact .start
  · rw [ha]
    exact ⟨by simp [Alarms.idle], by simp [Alarms.idle], by simp [Alarms.idle]⟩

/-- A run in time shows the alarms. -/
theorem Shown.of_reachable (hfits : cfg.Fits late ahead)
    (h : (timerMachine cfg).ReachableVia (InTime late) p) : Shown cfg late ahead p :=
  h.invariant (fun _ => Shown.start) fun _ _ _ hp hok hs => hp.step hfits hok hs

/-! ## starts and stops in a row -/

/-- Start the timers of a list that are to run, and stop the others. -/
def startsAndStops (runs : ι → Bool) (l : List ι) : List (TimerAction ι) :=
  l.map fun t => if runs t then .start t else .stop t

/-- What they leave. -/
structure Served (cfg : TimerConfig ι) (runs : ι → Bool) (l : List ι)
    (p p' : Timers ι × Alarms ι) : Prop where
  now : p'.2.now = p.2.now
  calling : ∀ t, p'.1.timerThread = .calling t ↔ p.1.timerThread = .calling t
  turns : p'.1.timerThread.Turns ↔ p.1.timerThread.Turns
  activated : ∀ t, p'.1.activated t = if t ∈ l then runs t else p.1.activated t
  started : ∀ t ∈ l, runs t = true →
    ∃ n, p'.2.pending t = some ⟨p.2.now + (cfg.initTick t).toNat, n⟩
  stopped : ∀ t ∈ l, runs t = false → p'.2.pending t = none
  kept : ∀ t ∉ l, p'.2.pending t = p.2.pending t

theorem Timers.rtTimerStop_activated (t u : ι) (k : Timers ι) :
    (k.rtTimerStop t).activated u = if u = t then false else k.activated u := by
  unfold Timers.rtTimerStop Timers.deactivate Timers.set
  by_cases hu : u = t <;> by_cases ht : k.activated t = true <;> simp_all

@[simp]
theorem Timers.rtTimerStop_timerThread (t : ι) (k : Timers ι) :
    (k.rtTimerStop t).timerThread = k.timerThread := by
  unfold Timers.rtTimerStop
  split <;> rfl

omit [DecidableEq ι] in
theorem TimerThread.resumed_turns {thread : TimerThread ι} :
    thread.resumed.Turns ↔ thread.Turns := by
  cases thread <;> simp [TimerThread.resumed, TimerThread.Turns]

variable (cfg) in
/-- The first start or stop. -/
theorem served_singleton (runs : ι → Bool) (t : ι) (p : Timers ι × Alarms ι) :
    ∃ p', (timerMachine cfg).step p (if runs t then .start t else .stop t) = some p' ∧
      Served cfg runs [t] p p' := by
  cases hruns : runs t with
  | true =>
      refine ⟨(p.1.rtTimerStart cfg t, p.2.start t (cfg.initTick t).toNat), rfl, ?_⟩
      constructor
      · rfl
      · exact fun u => TimerThread.resumed_eq_calling
      · exact TimerThread.resumed_turns
      · intro u
        by_cases hu : u = t
        · simp [Timers.rtTimerStart, Timers.activate, Timers.set, hu, hruns]
        · simp [Timers.rtTimerStart, Timers.activate, Timers.set, hu]
      · intro u hu _
        obtain rfl := List.mem_singleton.mp hu
        exact ⟨p.2.started, if_pos rfl⟩
      · intro u hu hstop
        obtain rfl := List.mem_singleton.mp hu
        simp [hruns] at hstop
      · exact fun u hu => if_neg fun he => hu (List.mem_singleton.mpr he)
  | false =>
      refine ⟨(p.1.rtTimerStop t, p.2.stop t), rfl, ?_⟩
      constructor
      · rfl
      · exact fun u => by rw [Timers.rtTimerStop_timerThread]
      · rw [Timers.rtTimerStop_timerThread]
      · intro u
        rw [Timers.rtTimerStop_activated]
        by_cases hu : u = t
        · simp [hu, hruns]
        · simp [hu]
      · intro u hu hstart
        obtain rfl := List.mem_singleton.mp hu
        simp [hruns] at hstart
      · intro u hu _
        obtain rfl := List.mem_singleton.mp hu
        exact if_pos rfl
      · exact fun u hu => if_neg fun he => hu (List.mem_singleton.mpr he)

omit [DecidableEq ι] in
theorem Served.refl (runs : ι → Bool) (p : Timers ι × Alarms ι) [DecidableEq ι] :
    Served cfg runs [] p p :=
  ⟨rfl, fun _ => .rfl, .rfl, by simp, by simp, by simp, fun _ _ => rfl⟩

/-- The rest of them. -/
theorem Served.cons {runs : ι → Bool} {t : ι} {l : List ι} {p q r : Timers ι × Alarms ι}
    (h : Served cfg runs [t] p q) (h' : Served cfg runs l q r) :
    Served cfg runs (t :: l) p r where
  now := h'.now.trans h.now
  calling u := (h'.calling u).trans (h.calling u)
  turns := h'.turns.trans h.turns
  activated u := by
    rw [h'.activated u, h.activated u]
    by_cases hu : u = t <;> by_cases hl : u ∈ l <;> simp [hu, hl]
  started u hu hruns := by
    by_cases hl : u ∈ l
    · rw [← h.now]
      exact h'.started u hl hruns
    · obtain rfl := (List.mem_cons.mp hu).resolve_right hl
      rw [h'.kept u hl]
      exact h.started u List.mem_cons_self hruns
  stopped u hu hruns := by
    by_cases hl : u ∈ l
    · exact h'.stopped u hl hruns
    · obtain rfl := (List.mem_cons.mp hu).resolve_right hl
      rw [h'.kept u hl]
      exact h.stopped u List.mem_cons_self hruns
  kept u hu := by
    obtain ⟨hne, hl⟩ := not_or.mp (mt List.mem_cons.mpr hu)
    exact (h'.kept u hl).trans (h.kept u fun hmem => hne (List.mem_singleton.mp hmem))

variable (cfg) in
theorem exists_served (runs : ι → Bool) (l : List ι) (p : Timers ι × Alarms ι) :
    ∃ p', (timerMachine cfg).runFrom p (startsAndStops runs l) = some p' ∧
      Served cfg runs l p p' := by
  induction l generalizing p with
  | nil => exact ⟨p, rfl, .refl runs p⟩
  | cons t l ih =>
      obtain ⟨q, hq, hfirst⟩ := served_singleton cfg runs t p
      obtain ⟨r, hr, hrest⟩ := ih q
      refine ⟨r, ?_, hfirst.cons hrest⟩
      show ((timerMachine cfg).step p _).bind _ = some r
      rw [hq]
      exact hr

/-- They are permitted at any time. -/
theorem InTime.startsAndStops {runs : ι → Bool} {l : List ι}
    (h : (timerMachine cfg).ReachableVia (InTime late) p)
    (hr : (timerMachine cfg).runFrom p (startsAndStops runs l) = some p') :
    (timerMachine cfg).ReachableVia (InTime late) p' := by
  refine h.runFrom (fun act hact q => ?_) hr
  obtain ⟨t, -, rfl⟩ := List.mem_map.mp hact
  split <;> trivial

/-! ## a timer thread that runs as soon as it is ready -/

/-- The timer thread comes before the threads of the program
(`RT_TIMER_THREAD_PRIO`) and needs less than a tick: the tick comes while it
waits, and none of the others between `rt_soft_timer_check` and the wait.  A
function that it calls may let other threads run. -/
def Prompt (p : Timers ι × Alarms ι) : TimerAction ι → Prop
  | .tick => p.1.timerThread.Waits
  | .start _ | .stop _ | .deactivate _ => ¬p.1.timerThread.Turns
  | .thread => True

/-- Starts and stops in a row, none of them between `rt_soft_timer_check` and
the wait. -/
theorem Prompt.startsAndStops {runs : ι → Bool} {l : List ι}
    (h : (timerMachine cfg).ReachableVia Prompt p) (hturns : ¬p.1.timerThread.Turns)
    (hr : (timerMachine cfg).runFrom p (startsAndStops runs l) = some p') :
    (timerMachine cfg).ReachableVia Prompt p' := by
  induction l generalizing p with
  | nil => exact Option.some.inj hr ▸ h
  | cons t l ih =>
      obtain ⟨q, hq, hfirst⟩ := served_singleton cfg runs t p
      have hr : ((timerMachine cfg).step p (if runs t then .start t else .stop t)).bind
          (fun q => (timerMachine cfg).runFrom q (WaterValve.startsAndStops runs l)) = some p' := hr
      rw [hq] at hr
      refine ih (h.step ?_ hq) (mt hfirst.turns.mp hturns) hr
      split <;> exact hturns

/-- What a prompt timer thread knows where it is.  `w` is the tick it is to wake
in. -/
def OnTime (ahead : Nat) (a : Alarms ι) (k : Timers ι) : Prop :=
  match k.timerThread with
  | .suspended => ∀ t, a.pending t = none
  | .delay wake => ∃ w, wake = UInt32.ofNat w ∧ a.now < w ∧ w ≤ a.now + ahead ∧ a.QuietUntil w
  | .toDelay ticks =>
    ∃ w, ticks = UInt32.ofNat w - k.rtTick ∧ a.now < w ∧ w ≤ a.now + ahead ∧ a.QuietUntil w
  | .nextTimeout tick => tick = k.timerListNextTimeout ∧ a.QuietUntil (a.now + 1)
  | .top => a.QuietUntil (a.now + 1)
  | .check | .calling _ => a.QuietUntil a.now

namespace OnTime

omit [DecidableEq ι] in
/-- Nothing is overdue. -/
theorem quiet {a : Alarms ι} {k : Timers ι} (h : OnTime ahead a k) : a.QuietUntil a.now := by
  intro t q hq
  unfold OnTime at h
  split at h
  · exact absurd hq (by simp [h t])
  · obtain ⟨w, -, hw, -, hquiet⟩ := h
    exact Nat.le_trans (Nat.le_of_lt hw) (hquiet t q hq)
  · obtain ⟨w, -, hw, -, hquiet⟩ := h
    exact Nat.le_trans (Nat.le_of_lt hw) (hquiet t q hq)
  · exact Nat.le_of_lt (h.2 t q hq)
  · exact Nat.le_of_lt (h t q hq)
  · exact h t q hq
  · exact h t q hq

omit [DecidableEq ι] in
/-- While the thread waits, nothing is due either. -/
theorem quiet_of_waits {a : Alarms ι} {k : Timers ι} (h : OnTime ahead a k)
    (hwaits : k.timerThread.Waits) : a.QuietUntil (a.now + 1) := by
  intro t q hq
  cases hthread : k.timerThread with
  | suspended =>
      simp only [OnTime, hthread] at h
      exact absurd hq (by simp [h t])
  | delay wake =>
      simp only [OnTime, hthread] at h
      obtain ⟨w, -, hw, -, hquiet⟩ := h
      exact Nat.le_trans hw (hquiet t q hq)
  | _ => simp [hthread, TimerThread.Waits] at hwaits

omit [DecidableEq ι] in
theorem tick {a : Alarms ι} {k : Timers ι} (h : OnTime ahead a k) (htracks : Tracks cfg a k)
    (hfits : cfg.Fits late ahead) (hwaits : k.timerThread.Waits) :
    OnTime ahead a.tick k.rtTickIncrease := by
  cases hthread : k.timerThread with
  | suspended =>
      simp only [OnTime, hthread] at h
      simp only [OnTime, Timers.rtTickIncrease, hthread, TimerThread.ticked]
      exact h
  | delay wake =>
      simp only [OnTime, hthread] at h
      obtain ⟨w, rfl, hw, hahead, hquiet⟩ := h
      have hfit := hfits.ahead_le
      have hwake : k.rtTick + 1 - UInt32.ofNat w < half ↔ w ≤ a.now + 1 := by
        have hnext : k.rtTick + 1 = UInt32.ofNat (a.now + 1) := htracks.rtTickIncrease.tick
        rw [hnext]
        exact sub_lt_half_iff ⟨by omega, by omega⟩
      simp only [OnTime, Timers.rtTickIncrease, hthread, TimerThread.ticked, hwake]
      by_cases hle : w ≤ a.now + 1
      · rw [if_pos hle]
        exact fun t q hq => Nat.le_trans hw (hquiet t q hq)
      · rw [if_neg hle]
        exact ⟨w, rfl, Nat.lt_of_not_le hle, Nat.le_trans hahead (by simp [Alarms.tick]), hquiet⟩
  | _ => simp [hthread, TimerThread.Waits] at hwaits

omit [DecidableEq ι] in
/-- With fewer alarms, the thread is where it was. -/
theorem remove {a b : Alarms ι} {k k' : Timers ι} (h : OnTime ahead a k) (hnow : b.now = a.now)
    (hpending : ∀ u q, b.pending u = some q → a.pending u = some q)
    (hthread : k'.timerThread = k.timerThread) (hwhere : ¬k.timerThread.Turns) :
    OnTime ahead b k' := by
  cases hold : k.timerThread with
  | suspended =>
      simp only [OnTime, hold] at h
      simp only [OnTime, hthread, hold]
      refine fun t => Option.eq_none_iff_forall_ne_some.mpr fun q hq => ?_
      exact absurd (hpending t q hq) (by simp [h t])
  | delay wake =>
      simp only [OnTime, hold] at h
      simp only [OnTime, hthread, hold, hnow]
      obtain ⟨w, hwake, hw, hahead, hq⟩ := h
      exact ⟨w, hwake, hw, hahead, hq.of_pending hpending⟩
  | check | calling t =>
      simp only [OnTime, hold] at h
      simp only [OnTime, hthread, hold, hnow]
      exact h.of_pending hpending
  | _ => simp [hold, TimerThread.Turns] at hwhere

theorem start {a : Alarms ι} {k : Timers ι} {t : ι} (h : OnTime ahead a k)
    (hwhere : ¬k.timerThread.Turns) :
    OnTime ahead (a.start t (cfg.initTick t).toNat) (k.rtTimerStart cfg t) := by
  have hquiet : (a.start t (cfg.initTick t).toNat).QuietUntil
      (a.start t (cfg.initTick t).toNat).now :=
    h.quiet.start (Nat.le_add_right a.now (cfg.initTick t).toNat)
  cases hold : k.timerThread with
  | suspended | delay wake | check | calling u =>
      simpa only [OnTime, Timers.rtTimerStart, hold, TimerThread.resumed] using hquiet
  | _ => simp [hold, TimerThread.Turns] at hwhere

omit [DecidableEq ι] in
/-- What `_timer_thread_entry` does with the tick that
`_timer_list_next_timeout` gave. -/
theorem nextTimeout {a : Alarms ι} {k : Timers ι} (hquiet : a.QuietUntil (a.now + 1))
    (htracks : Tracks cfg a k) (htimely : a.Timely late ahead) :
    OnTime ahead a (k.afterNextTimeout k.timerListNextTimeout) := by
  have hsorted := htracks.sorted
  unfold Timers.timerListNextTimeout Timers.afterNextTimeout
  cases hlist : k.softTimerList with
  | nil =>
      rw [hlist] at hsorted
      refine fun t => Option.eq_none_iff_forall_ne_some.mpr fun q hq => ?_
      exact List.not_mem_nil ((hsorted.mem_iff t).mpr (by simp [hq]))
  | cons t l =>
      rw [hlist] at hsorted
      obtain ⟨p, hp⟩ := Option.isSome_iff_exists.mp ((hsorted.mem_iff t).mp List.mem_cons_self)
      simp only [List.head?_cons, Option.map_some]
      split
      · refine ⟨p.deadline, by rw [htracks.timeout t p hp], hquiet t p hp,
          htimely.upcoming t p hp, ?_⟩
        exact hsorted.quietUntil hp
      · exact fun u q hq => Nat.le_of_lt (hquiet u q hq)

/-- What a step of the timer thread leaves. -/
theorem thread {p : Timers ι × Alarms ι} (h : OnTime ahead p.2 p.1)
    (hshown : Shown cfg late ahead p) (hfits : cfg.Fits late ahead) {k' : Timers ι}
    (hs : p.1.threadStep cfg = some k') :
    OnTime ahead (Timers.observe cfg p.1 p.2 .thread k') k' := by
  obtain ⟨k, a⟩ := p
  obtain ⟨htracks, htimely⟩ := hshown
  cases hthread : k.timerThread with
  | top =>
      simp only [Timers.threadStep, hthread, Option.some.injEq] at hs
      subst hs
      simp only [OnTime, hthread] at h
      simp only [OnTime, Timers.observe, hthread]
      exact ⟨rfl, h⟩
  | nextTimeout tick =>
      simp only [Timers.threadStep, hthread, Option.some.injEq] at hs
      subst hs
      simp only [OnTime, hthread] at h
      obtain ⟨rfl, hquiet⟩ := h
      simp only [Timers.observe, hthread]
      exact nextTimeout hquiet htracks htimely
  | toDelay ticks =>
      simp only [Timers.threadStep, hthread, Option.some.injEq] at hs
      subst hs
      simp only [OnTime, hthread] at h
      obtain ⟨w, rfl, hw⟩ := h
      simp only [OnTime, Timers.observe, hthread]
      refine ⟨w, ?_, hw⟩
      rw [UInt32.add_comm, UInt32.sub_add_cancel]
  | suspended => simp [Timers.threadStep, hthread] at hs
  | delay wake => simp [Timers.threadStep, hthread] at hs
  | check =>
      simp only [Timers.threadStep, hthread, Option.some.injEq] at hs
      obtain ⟨t, -, hcheck⟩ | ⟨hnone, hcheck⟩ := htracks.softTimerCheck_cases hfits htimely
      · rw [← hs, hcheck]
        simp only [OnTime, Timers.observe, hthread]
        exact h.quiet.of_pending (Alarms.pending_of_remove fun _ => rfl)
      · rw [← hs, hcheck]
        simp only [OnTime, Timers.observe, hthread]
        exact fun t q hq => Nat.lt_of_not_le fun hle => hnone ⟨t, q, hq, hle⟩
  | calling t =>
      simp only [Timers.threadStep, hthread, Option.some.injEq] at hs
      subst hs
      have hquiet := h.quiet.returns (t := t) (Nat.le_add_right a.now (cfg.initTick t).toNat)
      simpa only [OnTime, Timers.observe, hthread, Timers.callReturns_timerThread,
        Alarms.returns_now] using hquiet

theorem step {p p' : Timers ι × Alarms ι} (h : OnTime ahead p.2 p.1)
    (hshown : Shown cfg late ahead p) (hfits : cfg.Fits late ahead) {act : TimerAction ι}
    (hok : Prompt p act) (hs : (timerMachine cfg).step p act = some p') :
    OnTime ahead p'.2 p'.1 := by
  obtain ⟨k', a'⟩ := p'
  obtain ⟨hstep, hobserve⟩ := Machine.observed_step_eq_some.mp hs
  simp only at hstep hobserve
  subst hobserve
  cases act with
  | tick =>
      obtain rfl := Option.some.inj hstep
      exact h.tick hshown.tracks hfits hok
  | start t =>
      obtain rfl := Option.some.inj hstep
      exact h.start hok
  | stop t =>
      obtain rfl := Option.some.inj hstep
      refine h.remove rfl (Alarms.pending_of_remove fun _ => rfl) ?_ hok
      unfold Timers.rtTimerStop
      split <;> rfl
  | deactivate t =>
      obtain rfl := Option.some.inj hstep
      exact h.remove rfl (Alarms.pending_of_remove fun _ => rfl) rfl hok
  | thread => exact h.thread hshown hfits hstep

/-- A prompt run shows the alarms and is on time. -/
theorem of_reachable {p : Timers ι × Alarms ι} (hfits : cfg.Fits 0 ahead)
    (h : (timerMachine cfg).ReachableVia Prompt p) :
    Shown cfg 0 ahead p ∧ OnTime ahead p.2 p.1 := by
  refine h.invariant (I := fun p => Shown cfg 0 ahead p ∧ OnTime ahead p.2 p.1) ?_ ?_
  · intro p hp
    refine ⟨.start hp, ?_⟩
    obtain ⟨hk, ha⟩ := hp
    rw [hk, ha]
    exact fun t q hq => by simp [Alarms.idle] at hq
  · intro p act p' ⟨hshown, hontime⟩ hok hs
    have hintime : InTime 0 p act := by
      cases act with
      | tick => exact hontime.quiet_of_waits hok
      | _ => trivial
    exact ⟨hshown.step hfits hintime hs, hontime.step hshown hfits hok hs⟩

end OnTime

/-- A timer thread that comes first is in time. -/
theorem Prompt.inTime (hfits : cfg.Fits 0 ahead) (h : (timerMachine cfg).ReachableVia Prompt p) :
    (timerMachine cfg).ReachableVia (InTime late) p := by
  induction h with
  | init h0 => exact .init h0
  | @step p p' act hreach hok hs ih =>
      refine ih.step ?_ hs
      cases act with
      | tick =>
          intro t q hq
          have hontime := (OnTime.of_reachable hfits hreach).2
          exact Nat.le_add_right_of_le (hontime.quiet_of_waits hok t q hq)
      | _ => trivial

/-! ## what the timer thread calls -/

/-- The timer whose function the thread is calling. -/
def TimerThread.called : TimerThread ι → Option ι
  | .calling t => some t
  | _ => none

omit [DecidableEq ι] in
theorem TimerThread.called_eq_some {thread : TimerThread ι} {t : ι} :
    thread.called = some t ↔ thread = .calling t := by
  cases thread <;> simp [TimerThread.called]

instance : DecidablePred (TimerThread.Waits (ι := ι)) := fun thread =>
  match thread with
  | .suspended | .delay _ => .isTrue trivial
  | .top | .nextTimeout _ | .toDelay _ | .check | .calling _ => .isFalse id

instance : DecidablePred (TimerThread.Turns (ι := ι)) := fun thread =>
  match thread with
  | .top | .nextTimeout _ | .toDelay _ => .isTrue trivial
  | .suspended | .delay _ | .check | .calling _ => .isFalse id

instance (p : Timers ι × Alarms ι) (act : TimerAction ι) : Decidable (Prompt p act) :=
  match act with
  | .tick => inferInstanceAs (Decidable p.1.timerThread.Waits)
  | .start _ | .stop _ | .deactivate _ => inferInstanceAs (Decidable ¬p.1.timerThread.Turns)
  | .thread => .isTrue trivial

/-- Two timers, of which the second one is periodic. -/
def twoTimers : TimerConfig Bool := ⟨fun t => if t then 3 else 2, fun t => t⟩

theorem twoTimers_fits : twoTimers.Fits 0 3 where
  initTick_le t := by cases t <;> decide
  ahead_le := by decide
  late_le := by decide
  late_add_ahead_le := by decide

/-- Both are started while the timer thread waits, and two ticks pass. -/
def twoTimersRun : Option (Timers Bool × Alarms Bool) :=
  (timerMachine twoTimers).runChecked (fun p act => Prompt p act) (Timers.start, .idle)
    [.thread, .thread, .start true, .thread, .thread, .thread, .thread,
      .start false, .thread, .thread, .thread, .thread, .tick, .tick]

theorem twoTimersRun_prompt {p : Timers Bool × Alarms Bool} (h : twoTimersRun = some p) :
    (timerMachine twoTimers).ReachableVia Prompt p :=
  Machine.ReachableVia.runChecked (.init ⟨rfl, rfl⟩) (fun _ _ => of_decide_eq_true) h

/-- The timer thread is then in `rt_soft_timer_check`. -/
theorem twoTimersRun_check :
    ∃ p, twoTimersRun = some p ∧ p.1.timerThread = .check ∧ p.2.now = 2 := by
  have hrun : twoTimersRun.map (fun p => (p.2.now, match p.1.timerThread with
      | .check => true | _ => false)) = some (2, true) := by decide +kernel
  obtain ⟨p, hp, hobs⟩ := Option.map_eq_some_iff.mp hrun
  obtain ⟨hnow, hcheck⟩ := Prod.ext_iff.mp hobs
  refine ⟨p, hp, ?_, hnow⟩
  dsimp only at hcheck
  split at hcheck
  · assumption
  · cases hcheck

/-- **The timer thread calls the timer that is due first, however starts,
stops, ticks and its own steps interleave.**  It leaves `rt_soft_timer_check`
only when none is due. -/
theorem check_fires_next (hfits : cfg.Fits late ahead)
    (h : (timerMachine cfg).ReachableVia (InTime late) p) (hcheck : p.1.timerThread = .check) :
    ∃ k', p.1.threadStep cfg = some k' ∧
      ((∃ t, k'.timerThread = .calling t ∧ p.2.Next t) ∨
        k'.timerThread = .top ∧ ¬p.2.SomeDue) := by
  have hno : ∀ t, p.1.timerThread ≠ .calling t := by simp [hcheck]
  have hchecked : p.1.threadStep cfg = some (p.1.softTimerCheck cfg) := by
    simp [Timers.threadStep, hcheck]
  refine ⟨p.1.softTimerCheck cfg, hchecked, ?_⟩
  obtain ⟨t, -, hnext, hstep⟩ | ⟨thread, -, htop, hstep⟩ :=
    (Shown.of_reachable hfits h).threadStep_cases hfits hno hchecked
  · exact .inl ⟨t, by rw [hstep]; rfl, hnext⟩
  · obtain ⟨rfl, hnone⟩ := htop hcheck
    exact .inr ⟨by rw [hstep], hnone⟩

/-- The one that is due in two ticks is called. -/
theorem check_fires_next_two : ∃ p, twoTimersRun = some p ∧
    ∃ k', p.1.threadStep twoTimers = some k' ∧
      ((∃ t, k'.timerThread = .calling t ∧ p.2.Next t) ∨
        k'.timerThread = .top ∧ ¬p.2.SomeDue) := by
  obtain ⟨p, hp, hcheck, -⟩ := twoTimersRun_check
  exact ⟨p, hp, check_fires_next twoTimers_fits
    (Prompt.inTime twoTimers_fits (twoTimersRun_prompt hp)) hcheck⟩

/-- **Every alarm goes off in the tick it is due in**, when the ticks come while
the timer thread waits, and no timer is started, stopped or deactivated while it is
on its way from the check to the wait: none is ever overdue, while the thread waits
none is due, and the one that it calls is due now. -/
theorem calls_on_time (hfits : cfg.Fits 0 ahead) (h : (timerMachine cfg).ReachableVia Prompt p) :
    (∀ t q, p.2.pending t = some q → p.2.now ≤ q.deadline) ∧
    (p.1.timerThread.Waits → ∀ t q, p.2.pending t = some q → p.2.now < q.deadline) ∧
    ∀ k' t, p.1.timerThread = .check → p.1.threadStep cfg = some k' →
      k'.timerThread = .calling t → ∃ q, p.2.pending t = some q ∧ q.deadline = p.2.now := by
  obtain ⟨⟨htracks, htimely⟩, hontime⟩ := OnTime.of_reachable hfits h
  refine ⟨hontime.quiet, hontime.quiet_of_waits, fun k' t hcheck hs hcalling => ?_⟩
  simp only [Timers.threadStep, hcheck, Option.some.injEq] at hs
  subst hs
  obtain ⟨u, hnext, hstep⟩ | ⟨-, hstep⟩ := htracks.softTimerCheck_cases hfits htimely
  · rw [hstep] at hcalling
    obtain rfl := TimerThread.calling.inj hcalling
    obtain ⟨q, hq, hdue⟩ := hnext.due
    exact ⟨q, hq, Nat.le_antisymm hdue (hontime.quiet u q hq)⟩
  · simp [hstep] at hcalling

/-- In the second tick nothing is overdue. -/
theorem calls_on_time_two : ∃ p, twoTimersRun = some p ∧ p.2.now = 2 ∧
    ∀ t q, p.2.pending t = some q → p.2.now ≤ q.deadline := by
  obtain ⟨p, hp, -, hnow⟩ := twoTimersRun_check
  exact ⟨p, hp, hnow, (calls_on_time twoTimers_fits (twoTimersRun_prompt hp)).1⟩

end

end WaterValve
