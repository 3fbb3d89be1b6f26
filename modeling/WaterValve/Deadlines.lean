import WaterValve.Clocked
import WaterValve.Leftovers
import WaterValve.SelfTestSafety

/-!
# WaterValve.Deadlines

How long things last.  A log beside the clocked firmware notes the tick in which
each timer was last started, and how often its function has run.  All of it is
about the runs whose timer thread comes first (`LoggedPrompt`): a tick, and a
handler of another thread or of an interrupt, find it waiting, so that the function
of a timer takes no tick.  `Logged` is what then ties the log to the clock.

The main results are `runs_within_time`, that no timer runs longer than its
time; `pauses_end`, that a self-test gives keys and probe back after 8.1
seconds; `learn_mode_ends`, that learn mode is over 30 seconds after the last
frame that prolonged it; and `scans_on_time`, that no scan of the probes is late
or left out.
-/

namespace WaterValve

/-! ## the log -/

/-- What is noted of each timer since the firmware started. -/
structure ClockLog where
  started : KernelObject → Nat
  called : KernelObject → Nat

/-- Nothing to note yet. -/
def ClockLog.empty : ClockLog := ⟨fun _ => 0, fun _ => 0⟩

/-- A handler starts a timer if it calls for it and leaves it running, the timer
thread if its function returns and it still runs. -/
def Starts (c c' : Clocked) (a : Action) (t : KernelObject) : Prop :=
  (t ∈ handlerCalls (c.state.factoryFlag ≠ 0) c.state a ∨ a.timer = some t) ∧
    c'.state.running t = true

instance (c c' : Clocked) (a : Action) (t : KernelObject) : Decidable (Starts c c' a t) :=
  inferInstanceAs (Decidable (_ ∧ _))

/-- What a step adds to the log. -/
def ClockLog.observe (c : Clocked) (g : ClockLog) (act : ClockedAction) (c' : Clocked) : ClockLog :=
  match act with
  | .handler a =>
    if Restarts a then .empty
    else
      { started := fun t => if Starts c c' a t then c.clock.2.now else g.started t
        called := fun t => if a.timer = some t then g.called t + 1 else g.called t }
  | _ => g

/-- The clocked firmware with its log. -/
def loggedMachine (rom : UInt32) : Machine (Clocked × ClockLog) ClockedAction :=
  (clockedMachine rom).observed (fun _ => .empty) ClockLog.observe

/-- The runs in which the timer thread comes first. -/
def LoggedPrompt (p : Clocked × ClockLog) : ClockedAction → Prop := ClockedPrompt p.1

/-! ## the log and the clock -/

/-- The ticks a timer takes. -/
def timeOf (t : KernelObject) : Nat := (timerConfig.initTick t).toNat

/-- The log says since when. -/
def Logged (p : Clocked × ClockLog) : Prop :=
  ∀ t, p.1.clock.2.Since t (timeOf t) (p.2.started t)

variable {rom : UInt32} {c c' : Clocked} {act : ClockedAction} {g g' : ClockLog}

/-- What a prompt run knows of the clock. -/
structure OnClock (c : Clocked) : Prop where
  shown : Shown timerConfig 0 longestTime c.clock
  onTime : OnTime longestTime c.clock.2 c.clock.1
  synced : Synced c

theorem OnClock.of_prompt (h : (clockedMachine rom).ReachableVia ClockedPrompt c) : OnClock c := by
  obtain ⟨hshown, hontime⟩ :=
    OnTime.of_reachable (timerConfig_fits (Nat.zero_le _)) (clock_prompt h)
  exact ⟨hshown, hontime, (Refines.of_prompt h).synced⟩

namespace OnClock

theorem calling_iff (h : OnClock c) (t : KernelObject) :
    c.clock.1.timerThread = .calling t ↔ c.clock.2.calling = some t :=
  h.shown.tracks.calling t

theorem activated_of_pending (h : OnClock c) {t : KernelObject}
    (hpending : c.clock.2.pending t ≠ none) : c.clock.1.activated t = true :=
  (h.shown.tracks.activated t).mpr (.inl (Option.isSome_iff_ne_none.mpr hpending))

/-- A timer that does not run is not pending. -/
theorem pending_eq_none (h : OnClock c) {t : KernelObject} (hruns : c.state.running t ≠ true) :
    c.clock.2.pending t = none := by
  by_contra hpending
  exact hruns ((h.synced.running t).mpr (.inl (h.activated_of_pending hpending)))

/-- One that runs is pending, or its function is called. -/
theorem pending_or_calling (h : OnClock c) {t : KernelObject} (hruns : c.state.running t = true) :
    (c.clock.2.pending t).isSome ∨ c.clock.2.calling = some t := by
  obtain hactivated | hcalling := (h.synced.running t).mp hruns
  · exact ((h.shown.tracks.activated t).mp hactivated).imp_right And.left
  · exact .inr ((h.calling_iff t).mp hcalling)

end OnClock

/-- What is pending after the calls of a handler: what they started, and what
they left alone. -/
theorem Served.pending_cases {s : State} {l : List KernelObject} {k k' : Clock}
    (h : Served timerConfig s.running l k k') {t : KernelObject} {q : Alarm}
    (hq : k'.2.pending t = some q) :
    t ∈ l ∧ s.running t = true ∧ q.deadline = k.2.now + timeOf t ∨
      t ∉ l ∧ k.2.pending t = some q := by
  by_cases hl : t ∈ l
  · by_cases hruns : s.running t = true
    · obtain ⟨n, hn⟩ := h.started t hl hruns
      obtain rfl := Option.some.inj (hn.symm.trans hq)
      exact .inl ⟨hl, hruns, rfl⟩
    · simp [h.stopped t hl (by simpa using hruns)] at hq
  · exact .inr ⟨hl, (h.kept t hl).symm.trans hq⟩

/-- The log when the firmware starts. -/
theorem logged_start {s : State} (hclock : OnClock c) (hstart : Clocked.start s = some c) :
    Logged (c, .empty) := by
  have hserved : Served timerConfig s.running (bootTimers.filter KernelObject.isTimer)
      resetClock c.clock := served_of_eq (clock_start hstart).2
  intro t
  refine ⟨Nat.zero_le _, fun q hq => ?_, fun hcalling => ?_⟩
  · obtain ⟨-, -, hdeadline⟩ | ⟨-, hq⟩ := hserved.pending_cases hq
    · exact hdeadline
    · simp [resetClock, Alarms.idle] at hq
  · have hthread := (hserved.calling t).mp ((hclock.calling_iff t).mpr hcalling)
    simp [resetClock] at hthread

/-- A timer that is no timer of the handlers does not run. -/
theorem not_running_of_mem_of_not_mem {s : State} {calls : List KernelObject} {t : KernelObject}
    (ht : t ∈ calls) (hnot : t ∉ calls.filter KernelObject.isTimer) : s.running t = false := by
  have htimer : t.isTimer = false := by simpa [ht] using hnot
  cases t <;> first | rfl | simp [KernelObject.isTimer] at htimer

/-- The calls of a handler, with what the log notes of them. -/
theorem Logged.handler (h : Logged (c, g)) {a : Action} (ha : ¬Restarts a) (htimer : a.timer = none)
    (hclock : OnClock c') (hno : ∀ t, c.clock.1.timerThread ≠ .calling t)
    (hserved : Served timerConfig c'.state.running
      ((handlerCalls (c.state.factoryFlag ≠ 0) c.state a).filter KernelObject.isTimer)
      c.clock c'.clock) : Logged (c', g.observe c (.handler a) c') := by
  intro t
  have hstarted : (g.observe c (.handler a) c').started t =
      if Starts c c' a t then c.clock.2.now else g.started t := by
    rw [ClockLog.observe, if_neg ha]
  have hcalling : c'.clock.2.calling ≠ some t := fun hcalling =>
    hno t ((hserved.calling t).mp ((hclock.calling_iff t).mpr hcalling))
  simp only [hstarted]
  by_cases hstarts : Starts c c' a t
  · rw [if_pos hstarts]
    refine ⟨Nat.le_of_eq hserved.now.symm, fun q hq => ?_, fun hc => absurd hc hcalling⟩
    obtain ⟨-, -, hdeadline⟩ | ⟨hmem, -⟩ := hserved.pending_cases hq
    · exact hdeadline
    · obtain hcalls | ht := hstarts.1
      · have hstopped := not_running_of_mem_of_not_mem (s := c'.state) hcalls hmem
        simp [hstarts.2] at hstopped
      · simp [htimer] at ht
  · rw [if_neg hstarts]
    refine ⟨hserved.now ▸ (h t).le, fun q hq => ?_, fun hc => absurd hc hcalling⟩
    obtain ⟨hmem, hruns, -⟩ | ⟨-, hq⟩ := hserved.pending_cases hq
    · exact absurd ⟨.inl (List.mem_of_mem_filter hmem), hruns⟩ hstarts
    · exact (h t).pending q hq

/-- The function of a timer, which may start the timer again when it returns. -/
theorem Logged.timer (h : Logged (c, g)) {a : Action} {u : KernelObject} {k : Clock}
    (ha : ¬Restarts a) (htimer : a.timer = some u) (hclock : OnClock c)
    (hclock' : OnClock c') (hcalling : c.clock.1.timerThread = .calling u)
    (hserved : Served timerConfig c'.state.running
      ((handlerCalls (c.state.factoryFlag ≠ 0) c.state a).filter KernelObject.isTimer) c.clock k)
    (hk : (timerMachine timerConfig).step k .thread = some c'.clock) :
    Logged (c', g.observe c (.handler a) c') := by
  have hthread : k.1.timerThread = .calling u := (hserved.calling u).mpr hcalling
  obtain ⟨hstep, hobserve⟩ := Machine.observed_step_eq_some.mp hk
  have hreturn : k.1.callReturns timerConfig u = c'.clock.1 := by
    simpa [Timers.step, Timers.threadStep, hthread] using hstep
  have halarms : c'.clock.2 = k.2.returns u (timeOf u) := by
    simpa [Timers.observe, hthread, timeOf] using hobserve
  have hnow : c'.clock.2.now = c.clock.2.now := by
    rw [halarms, Alarms.returns_now, hserved.now]
  have hidle : ∀ t, c'.clock.2.calling ≠ some t := by
    intro t hc
    have hc := (hclock'.calling_iff t).mpr hc
    rw [← hreturn, Timers.callReturns_timerThread] at hc
    cases hc
  have hcalled := (h u).calling ((hclock.calling_iff u).mp hcalling)
  intro t
  have hstarted : (g.observe c (.handler a) c').started t =
      if Starts c c' a t then c.clock.2.now else g.started t := by
    rw [ClockLog.observe, if_neg ha]
  simp only [hstarted]
  by_cases hstarts : Starts c c' a t
  · rw [if_pos hstarts]
    refine ⟨Nat.le_of_eq hnow.symm, fun q hq => ?_, fun hc => absurd hc (hidle t)⟩
    rw [halarms] at hq
    obtain ⟨rfl, hdeadline⟩ | hq := Alarms.pending_of_returns hq
    · exact hdeadline.trans (congrArg (· + timeOf t) hserved.now)
    obtain ⟨-, -, hdeadline⟩ | ⟨hmem, hq⟩ := hserved.pending_cases hq
    · exact hdeadline
    · obtain hcalls | ht := hstarts.1
      · have hstopped := not_running_of_mem_of_not_mem (s := c'.state) hcalls hmem
        simp [hstarts.2] at hstopped
      · obtain rfl := Option.some.inj (htimer.symm.trans ht)
        exact absurd (hcalled.2.symm.trans hq) (by simp)
  · rw [if_neg hstarts]
    refine ⟨hnow ▸ (h t).le, fun q hq => ?_, fun hc => absurd hc (hidle t)⟩
    have hruns : c'.state.running t = true := by
      by_contra hruns
      exact absurd ((hclock'.pending_eq_none hruns).symm.trans hq) (by simp)
    rw [halarms] at hq
    obtain ⟨rfl, -⟩ | hq := Alarms.pending_of_returns hq
    · exact absurd ⟨.inr htimer, hruns⟩ hstarts
    obtain ⟨hmem, -, -⟩ | ⟨-, hq⟩ := hserved.pending_cases hq
    · exact absurd ⟨.inl (List.mem_of_mem_filter hmem), hruns⟩ hstarts
    · exact (h t).pending q hq

/-- A step of the timer thread on its way. -/
theorem Logged.thread (h : Logged (c, g)) {k : Clock} (hclock : OnClock c)
    (hno : ∀ t, c.clock.1.timerThread ≠ .calling t)
    (hk : (timerMachine timerConfig).step c.clock .thread = some k) :
    Logged (⟨c.state, k⟩, g) := by
  obtain ⟨hstep, hobserve⟩ := Machine.observed_step_eq_some.mp hk
  obtain ⟨u, hcheck, hnext, hcall⟩ | ⟨thread, hthread, -, hmoved⟩ :=
    hclock.shown.threadStep_cases (timerConfig_fits (Nat.zero_le _)) hno hstep
  · have hfire : k.2 = c.clock.2.fire u (timerConfig.periodic u) := by
      simpa only [Timers.observe, hcheck, hcall, Timers.callTimeout] using hobserve
    intro t
    show k.2.Since t (timeOf t) (g.started t)
    exact hfire ▸ (h t).fire hnext hclock.onTime.quiet
  · have hsame : k.2 = c.clock.2 := by
      rw [hobserve, hmoved]
      unfold Timers.observe
      dsimp only
      split
      · exact absurd rfl (hthread _)
      · rename_i ht
        exact absurd ht (hno _)
      · rfl
    intro t
    show k.2.Since t (timeOf t) (g.started t)
    exact hsame ▸ h t

/-- What a step keeps. -/
theorem Logged.step (h : Logged (c, g)) (hclock : OnClock c) (hclock' : OnClock c')
    (hok : ClockedPrompt c act) (hs : (clockedMachine rom).step c act = some c') :
    Logged (c', g.observe c act c') := by
  cases stepped_of_step hs with
  | @tick k hk =>
      obtain rfl := Option.some.inj hk
      refine fun t => (h t).tick fun hcalling => ?_
      have hcalling := (hclock.calling_iff t).mpr hcalling
      simp [ClockedPrompt, hcalling, TimerThread.Waits] at hok
  | thread hno hk => exact h.thread hclock hno hk
  | restart ha hstep hc =>
      rw [ClockLog.observe, if_pos ha]
      exact logged_start hclock' hc
  | handler ha htimer hno hstep hk => exact h.handler ha htimer hclock' hno (served_of_eq hk)
  | timer ha htimer hcalling hstep hk hk' =>
      exact h.timer ha htimer hclock hclock' hcalling (served_of_eq hk) hk'

/-- **A prompt run keeps the log.** -/
theorem logged_of_prompt {p : Clocked × ClockLog}
    (h : (loggedMachine rom).ReachableVia LoggedPrompt p) : Logged p := by
  induction h with
  | init h0 =>
      obtain ⟨hinit, hempty⟩ := h0
      obtain ⟨pins, s, hboot, hstart⟩ := id hinit
      have hlogged := logged_start (OnClock.of_prompt (.init hinit)) hstart
      exact fun t => hempty ▸ hlogged t
  | @step p p' act hreach hok hs ih =>
      have hclock := Machine.ReachableVia.of_observed hreach
      obtain ⟨hstep, hobserve⟩ := Machine.observed_step_eq_some.mp hs
      have hclock' := OnClock.of_prompt (hclock.step hok hstep)
      have hlogged := Logged.step ih (.of_prompt hclock) hclock' hok hstep
      rw [← hobserve] at hlogged
      exact hlogged

/-- What the unit `started` does on its clock, with the log. -/
def loggedRun (acts : List ClockedAction) : Option (Clocked × ClockLog) :=
  (Clocked.start started).bind fun c =>
    (loggedMachine 0).runChecked (fun p act => ClockedPrompt p.1 act) (c, .empty) acts

theorem loggedRun_prompt {acts : List ClockedAction} {p : Clocked × ClockLog}
    (h : loggedRun acts = some p) : (loggedMachine 0).ReachableVia LoggedPrompt p := by
  obtain ⟨c₀, hstart, hrun⟩ := Option.bind_eq_some_iff.mp h
  have hinit : (loggedMachine 0).init (c₀, .empty) :=
    ⟨⟨dryPins, started, boot_started, hstart⟩, rfl⟩
  refine Machine.ReachableVia.runChecked (.init hinit) (fun p act htest => ?_) hrun
  exact of_decide_eq_true (p := ClockedPrompt p.1 act) htest

/-! ## how long a timer runs -/

/-- A timer that runs was started no longer ago than its time. -/
theorem OnClock.now_le (h : OnClock c) (hlogged : Logged (c, g)) {t : KernelObject}
    (hruns : c.state.running t = true) : c.clock.2.now ≤ g.started t + timeOf t :=
  (hlogged t).now_le h.onTime.quiet (h.pending_or_calling hruns)

/-- **No timer runs longer than its time.**  When the timer thread comes first, a
timer that runs was started, or started again, at most its time ago, and its
function is called in the very tick in which the time is over. -/
theorem runs_within_time {p : Clocked × ClockLog}
    (h : (loggedMachine rom).ReachableVia LoggedPrompt p) (t : KernelObject) :
    (p.1.state.running t = true → p.1.clock.2.now ≤ p.2.started t + timeOf t) ∧
      (p.1.clock.1.timerThread = .calling t → p.1.clock.2.now = p.2.started t + timeOf t) := by
  have hclock := OnClock.of_prompt h.of_observed
  have hlogged := logged_of_prompt h
  exact ⟨hclock.now_le hlogged,
    fun hcalling => ((hlogged t).calling ((hclock.calling_iff t).mp hcalling)).1⟩

/-- The first scan after `K1` has been held: it is called a second after its
start. -/
theorem runs_within_time_scan : ∃ p,
    loggedRun (toDelay ++ .handler holdK1 :: toDelay ++ List.replicate 1000 .tick ++ [.thread]) =
      some p ∧
    p.1.clock.1.timerThread = .calling .ntcscanTimer ∧
    p.1.clock.2.now = p.2.started .ntcscanTimer + 1000 := by
  have hrun : (loggedRun
      (toDelay ++ .handler holdK1 :: toDelay ++ List.replicate 1000 .tick ++ [.thread])).map
      (fun p => p.1.clock.1.timerThread.called) = some (some .ntcscanTimer) := by decide +kernel
  obtain ⟨p, hp, hcalling⟩ := Option.map_eq_some_iff.mp hrun
  have hthread := TimerThread.called_eq_some.mp hcalling
  exact ⟨p, hp, hthread, (runs_within_time (loggedRun_prompt hp) _).2 hthread⟩

/-- **Learn mode lasts no longer than its timer**, 30 seconds from the key or the
frame that last started it, when the timer thread comes first. -/
theorem learn_mode_ends {p : Clocked × ClockLog}
    (h : (loggedMachine rom).ReachableVia LoggedPrompt p) (hlearn : p.1.state.learnFlag ≠ 0) :
    p.1.clock.2.now ≤ p.2.started .learnTimer + 30 * 1000 :=
  (OnClock.of_prompt h.of_observed).now_le (logged_of_prompt h) (t := .learnTimer)
    (learnTimer_runs (Refines.of_prompt h.of_observed).reachable hlearn)

/-- Learn mode, 200 ticks after `K1` has been held. -/
theorem learn_mode_ends_held : ∃ p,
    loggedRun (toDelay ++ .handler holdK1 :: toDelay ++ List.replicate 200 .tick) = some p ∧
    p.1.clock.2.now = 200 ∧ p.1.clock.2.now ≤ p.2.started .learnTimer + 30 * 1000 := by
  have hrun : (loggedRun (toDelay ++ .handler holdK1 :: toDelay ++ List.replicate 200 .tick)).map
      (fun p => (p.1.clock.2.now, p.1.state.learnFlag)) = some (200, 1) := by decide +kernel
  obtain ⟨p, hp, hobs⟩ := Option.map_eq_some_iff.mp hrun
  obtain ⟨hnow, hlearn⟩ := Prod.ext_iff.mp hobs
  have hlearning : p.1.state.learnFlag ≠ 0 := by
    rw [show p.1.state.learnFlag = 1 from hlearn]
    decide
  exact ⟨p, hp, hnow, learn_mode_ends (loggedRun_prompt hp) hlearning⟩

/-! ## a handler on the clock -/

/-- What a handler does to the state: it boots the firmware, or it is a step of
it, which the timer thread calls if it is the function of a timer. -/
theorem handled_of_step {a : Action} (hs : Clocked.step rom c (.handler a) = some c') :
    Restarts a ∧ (∃ pins env, boot rom pins env = some c'.state) ∨
      ¬Restarts a ∧ step rom c.state a = some c'.state ∧
        ∀ t, a.timer = some t → c.clock.1.timerThread = .calling t := by
  cases stepped_of_step hs with
  | restart ha hstep hc =>
      obtain ⟨pins, env, hboot⟩ := exists_boot_of_restarts ha hstep
      exact .inl ⟨ha, pins, env, (clock_start hc).1 ▸ hboot⟩
  | handler ha htimer hno hstep hk => exact .inr ⟨ha, hstep, fun t ht => by simp [htimer] at ht⟩
  | timer ha htimer hcalling hstep hk hk' =>
      exact .inr ⟨ha, hstep, fun t ht => Option.some.inj (htimer.symm.trans ht) ▸ hcalling⟩

theorem ClockLog.observe_started {a : Action} (ha : ¬Restarts a) (t : KernelObject) :
    (g.observe c (.handler a) c').started t =
      if Starts c c' a t then c.clock.2.now else g.started t := by
  rw [ClockLog.observe, if_neg ha]

theorem Logged.started_le (h : Logged (c, g)) {a : Action} (ha : ¬Restarts a) (t : KernelObject) :
    g.started t ≤ (g.observe c (.handler a) c').started t := by
  rw [ClockLog.observe_started ha]
  split
  · exact (h t).le
  · exact Nat.le_refl _

/-- A timer whose function the handler is not, and that it makes no call for. -/
theorem running_of_not_called {s s' : State} {a : Action} (hs : step rom s a = some s')
    (ha : ¬Restarts a) {t : KernelObject} (ht : t ∉ handlerCalls (s.factoryFlag ≠ 0) s a)
    (htimer : a.timer ≠ some t) : s'.running t = s.running t := by
  rw [framed_step hs ha t ht]
  cases hnone : a.timer with
  | none => rw [State.expired_of_timer_eq_none hnone]
  | some u =>
      rw [State.running_expired hnone, if_neg]
      rintro ⟨rfl, -⟩
      exact htimer hnone

/-! ## the self-test -/

/-- The timer whose function starts a Detect timer. -/
def KernelObject.actTimer : KernelObject → KernelObject
  | .moto2TimerDetect => .moto2TimerAct
  | _ => .moto1TimerAct

/-- A Detect timer that runs was started when the Act timer before it expired. -/
def DetectsAfterAct (p : Clocked × ClockLog) : Prop :=
  ∀ o : KernelObject, o.IsDetect → p.1.state.running o = true →
    p.2.started o ≤ p.2.started o.actTimer + timeOf o.actTimer

/-- The function of its Act timer is the only handler that starts a Detect
timer. -/
theorem timer_eq_actTimer_of_starts {a : Action} (ha : ¬Restarts a)
    (hs : step rom c.state a = some c'.state) {o : KernelObject} (ho : o.IsDetect)
    (hstarts : Starts c c' a o) : a.timer = some o.actTimer := by
  obtain ⟨hcalls, hruns⟩ := hstarts
  by_cases hmem : o ∈ handlerCalls (c.state.factoryFlag ≠ 0) c.state a
  · by_cases h1 : a = .moto1TimerAct
    · subst h1
      obtain rfl := List.mem_singleton.mp hmem
      rfl
    by_cases h2 : a = .moto2TimerAct
    · subst h2
      obtain rfl := List.mem_singleton.mp hmem
      rfl
    have hstopped := stops_step hs ha h1 h2 o ho hmem
    simp [hruns] at hstopped
  · have htimer := hcalls.resolve_left hmem
    have hone : timerConfig.periodic o = false := by
      obtain rfl | rfl := ho <;> rfl
    have hrunning := framed_step hs ha o hmem
    rw [State.running_expired htimer, if_pos ⟨rfl, hone⟩, hruns] at hrunning
    cases hrunning

theorem DetectsAfterAct.handler (h : DetectsAfterAct (c, g)) (hlogged : Logged (c, g))
    (hclock : OnClock c) {a : Action} (ha : ¬Restarts a) (hs : step rom c.state a = some c'.state)
    (hcalling : ∀ t, a.timer = some t → c.clock.1.timerThread = .calling t) :
    DetectsAfterAct (c', g.observe c (.handler a) c') := by
  intro o ho hruns
  have hact : g.started o.actTimer ≤ (g.observe c (.handler a) c').started o.actTimer :=
    hlogged.started_le ha o.actTimer
  refine Nat.le_trans ?_ (Nat.add_le_add_right hact (timeOf o.actTimer))
  rw [ClockLog.observe_started ha]
  by_cases hstarts : Starts c c' a o
  · rw [if_pos hstarts]
    have hcalled := hcalling _ (timer_eq_actTimer_of_starts ha hs ho hstarts)
    exact Nat.le_of_eq ((hlogged o.actTimer).calling ((hclock.calling_iff _).mp hcalled)).1
  · rw [if_neg hstarts]
    have hcalls : o ∉ handlerCalls (c.state.factoryFlag ≠ 0) c.state a := fun hmem =>
      hstarts ⟨.inl hmem, hruns⟩
    have htimer : a.timer ≠ some o := fun htimer => hstarts ⟨.inr htimer, hruns⟩
    exact h o ho ((running_of_not_called hs ha hcalls htimer).symm.trans hruns)

/-- A boot leaves no test running. -/
theorem detectsAfterAct_start {pins : Pins} {env : Env} (hboot : boot rom pins env = some c.state) :
    DetectsAfterAct (c, g) := by
  intro o ho hruns
  have hnot : o ∉ bootTimers := by
    obtain rfl | rfl := ho <;> decide
  have hstopped := running_boot hboot hnot
  simp [hruns] at hstopped

/-- Only a handler changes the state. -/
theorem state_eq_of_step (hs : (clockedMachine rom).step c act = some c')
    (hno : ∀ a, act ≠ .handler a) : c'.state = c.state := by
  cases stepped_of_step hs with
  | tick | thread => rfl
  | restart | handler | timer => exact absurd rfl (hno _)

theorem detectsAfterAct_of_prompt {p : Clocked × ClockLog}
    (h : (loggedMachine rom).ReachableVia LoggedPrompt p) : DetectsAfterAct p := by
  induction h with
  | init h0 =>
      obtain ⟨⟨pins, s, hboot, hstart⟩, -⟩ := h0
      exact detectsAfterAct_start ((clock_start hstart).1 ▸ hboot)
  | @step p p' act hreach hok hs ih =>
      obtain ⟨hstep, hobserve⟩ := Machine.observed_step_eq_some.mp hs
      rw [← Prod.mk.eta (p := p'), hobserve]
      cases act with
      | tick | thread =>
          have hsame : p'.1.state = p.1.state := state_eq_of_step hstep (by simp)
          intro o ho hruns
          exact ih o ho (hsame ▸ hruns)
      | handler a =>
          obtain ⟨-, pins, env, hboot⟩ | ⟨ha, hhandled, hcalling⟩ := handled_of_step hstep
          · exact detectsAfterAct_start hboot
          · exact DetectsAfterAct.handler ih (logged_of_prompt hreach)
              (.of_prompt hreach.of_observed) ha hhandled hcalling

/-- **Keys and probe come back.**  When the timer thread comes first, they are
paused at most 8.1 seconds from the start of the last self-test of motor 1, or 8
seconds from that of motor 2; and an open valve has the output of a motor back 5.1
or 5 seconds after the start of its test. -/
theorem pauses_end {p : Clocked × ClockLog}
    (h : (loggedMachine rom).ReachableVia LoggedPrompt p) :
    (p.1.state.keyPauseFlag = 1 ∨ p.1.state.waterAlarmPause = 1 →
      p.1.clock.2.now ≤ p.2.started .moto1TimerAct + 8100 ∨
        p.1.clock.2.now ≤ p.2.started .moto2TimerAct + 8000) ∧
    (p.1.state.valveStatus = 1 →
      (p.1.state.turn1 = false → p.1.clock.2.now ≤ p.2.started .moto1TimerAct + 5100) ∧
        (p.1.state.turn2 = false → p.1.clock.2.now ≤ p.2.started .moto2TimerAct + 5000)) := by
  have hclock := OnClock.of_prompt h.of_observed
  have hwithin := fun t => hclock.now_le (logged_of_prompt h) (t := t)
  have hafter := detectsAfterAct_of_prompt h
  have hsafe := valveMachine_safe (Refines.of_prompt h.of_observed).reachable
  refine ⟨fun hpaused => ?_, fun hopen => ⟨fun hlow => ?_, fun hlow => ?_⟩⟩
  · obtain h1 | h2 | h3 | h4 := hsafe.resumes hpaused
    · exact .inl (Nat.le_trans (hwithin .moto1TimerAct h1) (Nat.add_le_add_left (by decide) _))
    · exact .inr (Nat.le_trans (hwithin .moto2TimerAct h2) (Nat.add_le_add_left (by decide) _))
    · have hdetect := hafter .moto1TimerDetect (.inl rfl) h3
      exact .inl (Nat.le_trans (hwithin .moto1TimerDetect h3) (Nat.add_le_add_right hdetect 3000))
    · have hdetect := hafter .moto2TimerDetect (.inr rfl) h4
      exact .inr (Nat.le_trans (hwithin .moto2TimerDetect h4) (Nat.add_le_add_right hdetect 3000))
  · exact hwithin .moto1TimerAct (hsafe.restores1 hopen hlow)
  · exact hwithin .moto2TimerAct (hsafe.restores2 hopen hlow)

/-- A unit in factory mode, its valve open: `K1` tests both motors. -/
def factoryTest : List ClockedAction :=
  let pins : Pins := { dryPins with senor1 := true, senor2 := true, test := false }
  toDelay ++ .handler (.reboot pins) :: toDelay ++
    .handler (.keyReponse ⟨false, false, true, false, false⟩ pins) :: toDelay

/-- The keys are paused 100 ticks after the start of the tests. -/
theorem pauses_end_testing : ∃ p,
    loggedRun (factoryTest ++ List.replicate 100 .tick) = some p ∧
    p.1.clock.2.now = 100 ∧ p.1.state.keyPauseFlag = 1 ∧
    (p.1.clock.2.now ≤ p.2.started .moto1TimerAct + 8100 ∨
      p.1.clock.2.now ≤ p.2.started .moto2TimerAct + 8000) := by
  have hrun : (loggedRun (factoryTest ++ List.replicate 100 .tick)).map
      (fun p => (p.1.clock.2.now, p.1.state.keyPauseFlag)) = some (100, 1) := by decide +kernel
  obtain ⟨p, hp, hobs⟩ := Option.map_eq_some_iff.mp hrun
  obtain ⟨hnow, hkeys⟩ := Prod.ext_iff.mp hobs
  exact ⟨p, hp, hnow, hkeys, (pauses_end (loggedRun_prompt hp)).1 (.inl hkeys)⟩

/-! ## the scans -/

/-- The two timers that no handler starts or stops. -/
def KernelObject.IsScan (t : KernelObject) : Prop := t = .ntcscanTimer ∨ t = .waterscanTimer

theorem KernelObject.IsScan.running {t : KernelObject} (ht : t.IsScan) (s : State) :
    s.running t = true := by
  obtain rfl | rfl := ht <;> rfl

theorem KernelObject.IsScan.timeOf {t : KernelObject} (ht : t.IsScan) :
    WaterValve.timeOf t = 1000 := by
  obtain rfl | rfl := ht <;> rfl

/-- No handler starts or stops a scan. -/
theorem not_mem_handlerCalls_of_isScan {s s' : State} {a : Action}
    (hr : (valveMachine rom).Reachable s) (hs : step rom s a = some s') {t : KernelObject}
    (ht : t.IsScan) : t ∉ handlerCalls (s.factoryFlag ≠ 0) s a := by
  have hqueue : ¬KernelObject.IsScan .rfEnMq := by simp [KernelObject.IsScan]
  have hcalls : Within (fun o => ¬o.IsScan) (handlerCalls (s.factoryFlag ≠ 0) s a) := by
    refine (within_handlerCalls ?_ ?_ ?_ (.of_created hqueue s) fun _ => hqueue).mpr ?_
    · rintro pins rfl
      exact ⟨reachable_registryMachine hr, s', hs⟩
    · simp [KernelObject.IsScan]
    · cases a <;> simp [startedWith, coreObjects, motoTimers, KernelObject.IsScan]
    · intro o hneeds
      cases hneeds with
      | motors _ _ hmem =>
          revert hmem
          cases o <;> simp [motoTimers, KernelObject.IsScan]
      | _ => simp [KernelObject.IsScan]
  exact fun hmem => hcalls t hmem ht

/-- The scans are started when their functions return, and at no other time. -/
def ScansCounted (p : Clocked × ClockLog) : Prop :=
  ∀ t : KernelObject, t.IsScan → p.2.started t = 1000 * p.2.called t

theorem ScansCounted.handler (h : ScansCounted (c, g)) (hlogged : Logged (c, g))
    (hclock : OnClock c) (hr : (valveMachine rom).Reachable c.state) {a : Action}
    (ha : ¬Restarts a) (hs : step rom c.state a = some c'.state)
    (hcalling : ∀ t, a.timer = some t → c.clock.1.timerThread = .calling t) :
    ScansCounted (c', g.observe c (.handler a) c') := by
  intro t ht
  have hcalled : (g.observe c (.handler a) c').called t =
      if a.timer = some t then g.called t + 1 else g.called t := by
    rw [ClockLog.observe, if_neg ha]
  have hstarts : Starts c c' a t ↔ a.timer = some t :=
    ⟨fun hstarts => hstarts.1.resolve_left (not_mem_handlerCalls_of_isScan hr hs ht),
      fun htimer => ⟨.inr htimer, ht.running _⟩⟩
  simp only [ClockLog.observe_started ha, hcalled, hstarts]
  split
  · rename_i htimer
    have hnow := ((hlogged t).calling ((hclock.calling_iff t).mp (hcalling t htimer))).1
    rw [ht.timeOf, h t ht] at hnow
    exact hnow
  · exact h t ht

theorem scansCounted_of_prompt {p : Clocked × ClockLog}
    (h : (loggedMachine rom).ReachableVia LoggedPrompt p) : ScansCounted p := by
  induction h with
  | init h0 => exact fun t _ => by rw [h0.2]; rfl
  | @step p p' act hreach hok hs ih =>
      obtain ⟨hstep, hobserve⟩ := Machine.observed_step_eq_some.mp hs
      rw [← Prod.mk.eta (p := p'), hobserve]
      cases act with
      | tick | thread => exact ih
      | handler a =>
          obtain ⟨ha, -⟩ | ⟨ha, hhandled, hcalling⟩ := handled_of_step hstep
          · rw [ClockLog.observe, if_pos ha]
            exact fun _ _ => rfl
          · exact ScansCounted.handler ih (logged_of_prompt hreach)
              (.of_prompt hreach.of_observed) (Refines.of_prompt hreach.of_observed).reachable
              ha hhandled hcalling

/-- **No scan is late and none is left out.**  When the timer thread comes first,
the water probes and the temperature have been scanned once in every second that is
over since the firmware started; the scan at its end may be still to come. -/
theorem scans_on_time {p : Clocked × ClockLog}
    (h : (loggedMachine rom).ReachableVia LoggedPrompt p) (t : KernelObject) (ht : t.IsScan) :
    1000 * p.2.called t ≤ p.1.clock.2.now ∧ p.1.clock.2.now ≤ 1000 * (p.2.called t + 1) := by
  have hlogged := logged_of_prompt h
  have hcounted := scansCounted_of_prompt h t ht
  have hwithin := (OnClock.of_prompt h.of_observed).now_le hlogged (ht.running _)
  rw [ht.timeOf, hcounted] at hwithin
  exact ⟨hcounted ▸ (hlogged t).le, hwithin⟩

/-- The scan of the temperature when it has returned for the first time. -/
theorem scans_on_time_once : ∃ p,
    loggedRun (toDelay ++ List.replicate 1000 .tick ++
      [.thread, .handler (.ntcScanTimer false false)]) = some p ∧
    p.2.called .ntcscanTimer = 1 ∧ 1000 * 1 ≤ p.1.clock.2.now ∧ p.1.clock.2.now ≤ 1000 * 2 := by
  have hrun : (loggedRun (toDelay ++ List.replicate 1000 .tick ++
      [.thread, .handler (.ntcScanTimer false false)])).map
      (fun p => p.2.called .ntcscanTimer) = some 1 := by decide +kernel
  obtain ⟨p, hp, hcalled⟩ := Option.map_eq_some_iff.mp hrun
  have htimes := scans_on_time (loggedRun_prompt hp) .ntcscanTimer (.inl rfl)
  rw [hcalled] at htimes
  exact ⟨p, hp, hcalled, htimes⟩

end WaterValve
