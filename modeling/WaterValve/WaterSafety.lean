import WaterValve.ControlRun

/-!
# WaterValve.WaterSafety

Water closes the valve and keeps it closed:

* `slave_alarm_closes`: while a registered device has its alarm set;
* `wet_probe_closes`: when the scan finds the unit's own probe wet.

Both are invariants of the control core that a special transition breaks; the
counterexamples are runs from an erased flash.
-/

namespace WaterValve

/-! ## the alarm of a slave -/

namespace Ctl

/-- A stored alarm is shown, and what is shown keeps the valve closed: its
priority is the highest and neither timer runs. -/
structure AlarmShown (c : Ctl) : Prop where
  shown : c.alarm = true → c.status = .slaverWaterAlarmActive
  held : c.status = .slaverWaterAlarmActive →
    c.priority = 8 ∧ c.valve = 0 ∧ c.delay = false ∧ c.learnFlag = 0
  timer : c.learnTimer = true → c.learnFlag ≠ 0
  bound : c.priority ≤ 8

variable {c c' : Ctl}

/-- While something else is shown no alarm is stored, and a transition that
moves no alarm may show anything but the alarm. -/
theorem AlarmShown.leave (h : c.AlarmShown) (hs : c.status ≠ .slaverWaterAlarmActive)
    (hs' : c'.status ≠ .slaverWaterAlarmActive) (hp : c'.priority ≤ 8)
    (hc : (c'.alarm, c'.learnTimer, c'.learnFlag) = (c.alarm, c.learnTimer, c.learnFlag)) :
    c'.AlarmShown := by
  obtain ⟨ha, ht, hl⟩ : c'.alarm = c.alarm ∧ c'.learnTimer = c.learnTimer ∧
      c'.learnFlag = c.learnFlag := by simpa using hc
  exact ⟨fun halarm => absurd (h.shown (ha ▸ halarm)) hs, fun hshow => absurd hshow hs',
    by rw [ht, hl]; exact h.timer, hp⟩

/-- The invariant depends on these parts. -/
theorem AlarmShown.congr (h : c.AlarmShown)
    (hc : (c'.status, c'.priority, c'.valve, c'.delay, c'.alarm, c'.learnTimer, c'.learnFlag) =
      (c.status, c.priority, c.valve, c.delay, c.alarm, c.learnTimer, c.learnFlag)) :
    c'.AlarmShown := by
  simp only [Prod.mk.injEq] at hc
  obtain ⟨hs, hp, hv, hd, ha, ht, hl⟩ := hc
  exact ⟨by rw [ha, hs]; exact h.shown, by rw [hs, hp, hv, hd, hl]; exact h.held,
    by rw [ht, hl]; exact h.timer, by rw [hp]; exact h.bound⟩

/-- Opening the valve while no slave alarm is shown. -/
theorem AlarmShown.openAs (h : c.AlarmShown) (actFlag : UInt8)
    (hs : c.status ≠ .slaverWaterAlarmActive) : (c.openAs actFlag).AlarmShown := by
  refine h.leave hs ?_ (by rw [openAs_priority]; exact h.bound) (by simp)
  obtain hs' | hs' := openAs_status actFlag c <;> rw [hs']
  · exact hs
  · nofun

/-- Closing it, likewise. -/
theorem AlarmShown.closeAs (h : c.AlarmShown) (actFlag : UInt8)
    (hs : c.status ≠ .slaverWaterAlarmActive) : (c.closeAs actFlag).AlarmShown := by
  refine h.leave hs ?_ (by rw [closeAs_priority]; exact h.bound) (by simp)
  obtain hs' | hs' := closeAs_status actFlag c <;> rw [hs']
  · exact hs
  · nofun

/-- What is shown when no warning is. -/
theorem backToNormal_status (c : Ctl) :
    c.backToNormal.status = .opened ∨ c.backToNormal.status = .close := by
  unfold backToNormal
  dsimp only
  split <;> simp

/-- The normal status shows no alarm. -/
theorem AlarmShown.backToNormal (h : c.AlarmShown) (hs : c.status ≠ .slaverWaterAlarmActive) :
    c.backToNormal.AlarmShown := by
  refine h.leave hs ?_ h.bound rfl
  obtain hs' | hs' := c.backToNormal_status <;> rw [hs'] <;> nofun

/-- Clearing the warning needs that no alarm is stored. -/
theorem AlarmShown.disable (ha : c.alarm = false) (ht : c.learnTimer = true → c.learnFlag ≠ 0) :
    c.disable.AlarmShown := by
  have hs : c.disable.status ≠ .slaverWaterAlarmActive := by
    obtain hs' | hs' := { c with priority := 0 }.backToNormal_status <;>
      rw [Ctl.disable, hs'] <;> simp
  have ha' : c.disable.alarm = false := ha
  exact ⟨fun halarm => absurd (ha'.symm.trans halarm) (by simp), fun hshow => absurd hshow hs, ht,
    (by decide : (0 : UInt8) ≤ 8)⟩

/-- An alarm that is not shown is not set. -/
theorem AlarmShown.alarm_eq (h : c.AlarmShown) (hs : c.status ≠ .slaverWaterAlarmActive) :
    c.alarm = false := by
  cases ha : c.alarm with
  | false => rfl
  | true => exact absurd (h.shown ha) hs

/-- The other warnings are refused while the alarm is shown. -/
theorem AlarmShown.warn (h : c.AlarmShown) {event : WariningEvent} {callback : WarningCallback}
    (hcall : event.callback = some callback) (hp : event.priority < 8)
    (hshow : shows callback ≠ some .slaverWaterAlarmActive) : (c.warn event).AlarmShown := by
  by_cases hle : c.priority ≤ event.priority
  · have hs : c.status ≠ .slaverWaterAlarmActive := by
      intro hs
      rw [(h.held hs).1] at hle
      exact absurd hp (UInt8.not_lt.mpr hle)
    have hkeep : ((c.warn event).alarm, (c.warn event).learnTimer, (c.warn event).learnFlag) =
        (c.alarm, c.learnTimer, c.learnFlag) := by
      rw [warn_of_le hcall hle]
      cases callback <;> simp [call]
      split <;> simp
    refine h.leave hs ?_ ?_ hkeep
    · rw [warn_of_le hcall hle]
      cases hshow' : shows callback with
      | none => cases callback <;> first | exact hs | cases hshow'
      | some status =>
          rw [call_status hshow']
          rintro rfl
          exact hshow hshow'
    · rw [warn_of_le hcall hle, call_priority]
      exact UInt8.le_of_lt hp
  · rw [Ctl.warn, if_neg hle]
    exact h

/-- The alarm is accepted whatever is in force, and closes the valve. -/
theorem AlarmShown.slaveWater (hb : c.priority ≤ 8) (hl : c.learnFlag = 0)
    (ht : c.learnTimer = true → c.learnFlag ≠ 0) :
    (c.warn slaverWaterAlarmActiveEvent).AlarmShown := by
  rw [warn_of_le rfl hb]
  have hclose : ∀ c : Ctl, (c.closeAs otherOff).valve = 0 ∧ (c.closeAs otherOff).delay = false := by
    intro c
    simp [Ctl.closeAs]
  refine ⟨fun _ => rfl, fun _ => ⟨?_, ?_, ?_, ?_⟩, ?_, ?_⟩
  · exact closeAs_priority ..
  · exact (hclose _).1
  · exact (hclose _).2
  · exact (closeAs_learnFlag ..).trans hl
  · intro htimer
    have hkeep : (Ctl.call .slaverWaterAlarmWarning { c with priority := 8 }).learnTimer =
        c.learnTimer := closeAs_learnTimer ..
    exact absurd hl (ht (hkeep.symm.trans htimer))
  · have hp : (Ctl.call .slaverWaterAlarmWarning { c with priority := 8 }).priority = 8 :=
      call_priority ..
    exact UInt8.le_of_eq hp

/-- A scan, if no slave alarm is set when it finds the probe dry. -/
theorem AlarmShown.scan (h : c.AlarmShown) (reading : UInt8)
    (hdry : c.Dries reading → c.alarm = false) : (c.scan reading).AlarmShown := by
  have hscan := c.scanned_scan reading
  generalize c.scan reading = c' at hscan ⊢
  cases hscan with
  | idle => exact h
  | dries hd =>
      exact ⟨fun halarm => absurd ((hdry hd).symm.trans halarm) nofun, nofun, h.timer, h.bound⟩
  | driesLearning | wetLost => exact h.congr (by rfl)
  | lost =>
      have hpeak : (c.peak 1).AlarmShown := by
        rw [peak_one]
        split
        · exact h
        · exact h.warn rfl (by decide) (by decide)
      exact hpeak.congr (by rfl)
  | wet =>
      have hpeak : (c.peak 2).AlarmShown := by
        rw [peak_two]
        split
        · exact h
        · exact h.warn rfl (by decide) (by decide)
      exact hpeak.congr (by rfl)
  | back =>
      have hpeak : (c.peak 0).AlarmShown := by
        rw [peak_zero]
        split
        · exact h
        · split
          · rename_i hs
            exact h.backToNormal (by obtain hs | hs | hs := hs <;> rw [hs] <;> nofun)
          · exact h
      exact hpeak.congr (by rfl)

/-- The firmware starts with the alarm shown, if one is set. -/
theorem alarmShown_boot (lastFlag : UInt8) (alarm : Bool) : (boot lastFlag alarm).AlarmShown := by
  have hle : (0 : UInt8) ≤ 8 := by decide
  unfold boot
  cases alarm with
  | true =>
      have hreset : (reset lastFlag true).learnTimer = true →
          (reset lastFlag true).learnFlag ≠ 0 := nofun
      exact .slaveWater hle rfl hreset
  | false =>
      have hreset : (reset lastFlag false).AlarmShown := ⟨nofun, nofun, nofun, hle⟩
      dsimp only
      split
      · contradiction
      · split
        · exact hreset.openAs normalOpen nofun
        · exact hreset

/-- Every transition keeps the alarm shown, two of the special ones when there
is none. -/
theorem AlarmShown.step {ok : Special → Ctl → Prop} (h : c.AlarmShown) (hs : CtlStep ok c c')
    (hdry : ok .probeDries c → c.alarm = false) (hkey : ok .factoryKey c → c.alarm = false) :
    c'.AlarmShown := by
  have hother : ∀ {status : DeviceStatus}, c.status = status →
      status ≠ .slaverWaterAlarmActive → c.status ≠ .slaverWaterAlarmActive :=
    fun he hne => he ▸ hne
  have hvalve : c.status = .close ∨ c.status = .opened → c.status ≠ .slaverWaterAlarmActive :=
    fun hs => hs.elim (hother · nofun) (hother · nofun)
  cases hs with
  | remoteOpen hs => exact h.openAs otherOpen (hvalve hs)
  | remoteClose hs => exact h.closeAs otherOff (hvalve hs)
  | nodeOpen hs => exact (h.openAs otherOpen (hvalve hs)).congr (by rfl)
  | nodeClose hs =>
      have hd : c.disable.AlarmShown := .disable (h.alarm_eq (hvalve hs)) h.timer
      have hd' : { c.disable with lastClose := 1 }.AlarmShown := hd.congr (by rfl)
      refine hd'.closeAs otherOff ?_
      obtain hs' | hs' := { c with priority := 0 }.backToNormal_status <;>
        exact fun hshow => absurd (hs'.symm.trans hshow) nofun
  | keyOpen hs => exact h.openAs normalOpen (hother hs nofun)
  | lostPeakOpens hs =>
      have hopen : { c with status := .opened }.AlarmShown :=
        h.leave (hother hs nofun) nofun h.bound rfl
      exact hopen.openAs normalOpen nofun
  | keyClose hs => exact (h.congr (by rfl)).closeAs normalOff (hother hs nofun)
  | lostPeakCloses hs =>
      have hclose := h.closeAs normalOff (hother hs nofun)
      exact h.leave (hother hs nofun) nofun hclose.bound (by simp)
  | dismiss hs | online hs => exact .disable (h.alarm_eq (hother hs nofun)) h.timer
  | factoryKey hok => exact .disable (hkey hok) h.timer
  | startLearn hs =>
      refine ⟨fun ha => absurd (h.shown ha) (hvalve hs), nofun, fun _ => ?_, h.bound⟩
      exact (by decide : (1 : UInt8) ≠ 0)
  | stopLearn hs =>
      have ha : c.alarm = false := by
        refine h.alarm_eq fun hshow => ?_
        cases hs with
        | inl ht => exact h.timer ht (h.held hshow).2.2.2
        | inr hs => exact absurd (hshow.symm.trans hs) nofun
      exact .disable ha nofun
  | learning hl => exact ⟨h.shown, h.held, fun _ => hl, h.bound⟩
  | scan reading hok => exact h.scan reading fun hd => hdry (hok hd)
  | freeze cold =>
      unfold Ctl.freeze
      split
      · exact (h.congr (by rfl)).warn rfl (by decide) (by decide)
      · exact h
  | thaw warm =>
      unfold Ctl.thaw
      split
      · rename_i hntc
        have hd : c.disable.AlarmShown := .disable (h.alarm_eq (hother hntc.2 nofun)) h.timer
        have hs : c.disable.status ≠ .slaverWaterAlarmActive := by
          obtain hs' | hs' := { c with priority := 0 }.backToNormal_status <;>
            exact fun hshow => absurd (hs'.symm.trans hshow) nofun
        split
        · exact hd.openAs normalOpen hs
        · exact hd.closeAs normalOff hs
      · exact h
  | warnOffline | warnMoto1 | warnMoto2 | ultraLow | lowBattery =>
      exact h.warn rfl (by decide) (by decide)
  | slaveWater hl =>
      split
      · exact .slaveWater h.bound hl h.timer
      · rename_i hs
        exact ⟨fun _ => not_not.mp hs, h.held, h.timer, h.bound⟩
  | slaveDry => exact .disable rfl h.timer
  | delayStart hs => exact h.leave (hother hs nofun) (hother hs nofun) h.bound rfl
  | delayStop => exact ⟨h.shown, fun hs => ⟨(h.held hs).1, (h.held hs).2.1, rfl, (h.held hs).2.2.2⟩,
      h.timer, h.bound⟩
  | delayExpires hd =>
      have hs : c.status ≠ .slaverWaterAlarmActive := fun hs =>
        absurd (hd.symm.trans (h.held hs).2.2.1) nofun
      have hstop : { c with delay := false }.AlarmShown := h.leave hs hs h.bound rfl
      exact hstop.closeAs otherOff hs
  | boot lastFlag alarm => exact alarmShown_boot lastFlag alarm

end Ctl

/-- Condition on a step: while an alarm is stored the probe does not dry, and
`K1` is not pressed in factory mode. -/
def KeepsSlaveAlarm (s : State) (a : Action) : Prop :=
  s.flashGetSlaveAlarmFlag ≠ 0 → ¬ProbeDries s a ∧ ¬FactoryKey s a

/-- The alarm of a registered device has the valve closed. -/
def AlarmCloses (s : State) : Prop :=
  ∀ i ≤ s.globalDevice.num, s.globalDevice.id i ≠ 0 → s.globalDevice.slaveAlarm i ≠ 0 →
    s.valveStatus = 0

variable {rom : UInt32} {s : State}

/-- **A slave alarm keeps the valve closed**, in every run whose steps meet
`KeepsSlaveAlarm`. -/
theorem slave_alarm_closes (h : (valveMachine rom).ReachableVia KeepsSlaveAlarm s) :
    AlarmCloses s := by
  have hshown : (ctl s).AlarmShown := ctl_invariant
    (fun special c => special = .probeDries ∨ special = .factoryKey → c.alarm = false) h
    (fun s a special hok hocc hsp => by
      by_contra halarm
      have hflag : s.flashGetSlaveAlarmFlag ≠ 0 := by simpa [ctl] using halarm
      obtain rfl | rfl := hsp
      · exact (hok hflag).1 hocc
      · exact (hok hflag).2 hocc)
    Ctl.alarmShown_boot
    (fun c c' hc hs => hc.step hs (fun hok => hok (Or.inl rfl)) (fun hok => hok (Or.inr rfl)))
  have hwf : s.Wf := valveMachine_wf h.reachable
  intro i hi hid ha
  have h0 : 0 < i := hwf.table.pos_of_used hid
  have hflag : s.flashGetSlaveAlarmFlag ≠ 0 := hwf.alarmFlag_iff.mpr ⟨i, h0, ha⟩
  have hstatus := hshown.shown (by simpa [ctl] using hflag)
  exact (hshown.held hstatus).2.1

/-- A slave is learned and reports water. -/
theorem slave_alarm_closes_nodeRx :
    ∃ s, (valveMachine 0).runFrom started (learnDevice 10000001 ++ [nodeRx 10000001 4 1]) =
      some s ∧ AlarmCloses s := by
  have hkeep : ∀ a ∈ learnDevice 10000001 ++ [nodeRx 10000001 4 1], ∀ s,
      KeepsSlaveAlarm s a := by
    intro a ha s _
    simp only [learnDevice, List.cons_append, List.nil_append, List.mem_cons, List.not_mem_nil,
      or_false] at ha
    refine ⟨fun ⟨_, hscan, _⟩ => ?_, fun ⟨_, _, hkey, _, hk1, _⟩ => ?_⟩
    · subst hscan; simp [holdK1, nodeRx] at ha
    · subst hkey
      simp only [holdK1, nodeRx, Action.keyReponse.injEq, reduceCtorEq, false_or, or_false,
        or_self] at ha
      rw [ha.1] at hk1
      exact absurd hk1 nofun
  have hsome : ((valveMachine 0).runFrom started
      (learnDevice 10000001 ++ [nodeRx 10000001 4 1])).isSome = true := by decide +kernel
  obtain ⟨s, hs⟩ := Option.isSome_iff_exists.mp hsome
  have h0 : (valveMachine 0).ReachableVia KeepsSlaveAlarm started :=
    .init ⟨dryPins, boot_started⟩
  exact ⟨s, hs, slave_alarm_closes (h0.runFrom hkeep hs)⟩

/-- The probe is wet, a slave reports water, the probe dries, and `K1` clears
what the display shows: a remote command opens the valve. -/
theorem not_slave_alarm_closes : ¬∀ s, (valveMachine 0).Reachable s → AlarmCloses s := by
  intro hall
  have hrun : ((valveMachine 0).runFrom started
      (learnDevice 10000001 ++
        [scanWet, nodeRx 10000001 4 1, scanDry, pressK1, nodeRx 10000001 5 0])).map
        (fun s => (s.globalDevice.num, s.globalDevice.id 1, s.globalDevice.slaveAlarm 1,
          s.valveStatus)) = some (1, 10000001, 1, 1) := by decide +kernel
  obtain ⟨s, hreach, hobs⟩ := exists_of_run hrun
  simp only [Prod.mk.injEq] at hobs
  obtain ⟨hnum, hid, halarm, hvalve⟩ := hobs
  have hclosed := hall s hreach 1 (by rw [hnum]) (by rw [hid]; decide) (by rw [halarm]; decide)
  rw [hvalve] at hclosed
  exact absurd hclosed (by decide)

/-! ## the probe -/

namespace Ctl

/-- No water in force: the priority is below the slave alarm, and a probe last
seen wet was seen so in learn mode. -/
def Quiet (c : Ctl) : Prop := c.priority < 8 ∧ (c.past = 2 → c.learnFlag ≠ 0)

/-- A water alarm in force, with the valve closed. -/
structure Alarmed (c : Ctl) : Prop where
  valve : c.valve = 0
  learnFlag : c.learnFlag = 0
  priority : c.priority = 7 ∨ c.priority = 8
  status : c.status = .slaverWaterAlarmActive ∨ c.status = .masterWaterAlarmActive ∨
    c.status = .masterWaterAlarmDeActive

/-- The history of the probe, `WarningPastStatus` with `WarningStatus`, and
what it says about the alarm in force. -/
structure ProbeSafe (c : Ctl) : Prop where
  held : c.lastFlag = otherOff → c.valve = 0
  slave : c.status = .slaverWaterAlarmActive → c.delay = false
  learn : c.learnFlag = 0 → c.status ≠ .learn
  history : (c.past = 0 ∧ (c.handled = 0 ∨ c.handled = 16)) ∨ (c.past = 1 ∧ c.handled = 4) ∨
    (c.past = 2 ∧ (c.handled = 1 ∨ c.handled = 2 ∨ c.handled = 8 ∨ c.handled = 32))
  alarm : c.Quiet ∨ c.Alarmed

variable {c c' : Ctl}

/-- The invariant depends on these parts. -/
theorem ProbeSafe.congr (h : c.ProbeSafe)
    (hc : (c'.status, c'.priority, c'.valve, c'.lastFlag, c'.delay, c'.learnFlag, c'.past,
      c'.handled) = (c.status, c.priority, c.valve, c.lastFlag, c.delay, c.learnFlag, c.past,
      c.handled)) : c'.ProbeSafe := by
  simp only [Prod.mk.injEq] at hc
  obtain ⟨hs, hp, hv, hf, hd, hl, hpast, hh⟩ := hc
  refine ⟨by rw [hf, hv]; exact h.held, by rw [hs, hd]; exact h.slave,
    by rw [hl, hs]; exact h.learn, by rw [hpast, hh]; exact h.history, ?_⟩
  refine h.alarm.imp (fun hq => ?_) fun ha => ?_
  · rw [Quiet, hp, hpast, hl]; exact hq
  · exact ⟨hv ▸ ha.valve, hl ▸ ha.learnFlag, hp ▸ ha.priority, hs ▸ ha.status⟩

/-! The alarm is not in force while another status is shown, in learn mode,
and below its priorities. -/

/-- No water is in force unless its status is shown. -/
theorem ProbeSafe.quiet_of_status (h : c.ProbeSafe) (h1 : c.status ≠ .slaverWaterAlarmActive)
    (h2 : c.status ≠ .masterWaterAlarmActive) (h3 : c.status ≠ .masterWaterAlarmDeActive) :
    c.Quiet :=
  h.alarm.resolve_right fun ha => by
    obtain hs | hs | hs := ha.status
    · exact h1 hs
    · exact h2 hs
    · exact h3 hs

/-- So none is while the status is a position of the valve. -/
theorem ProbeSafe.quiet_of_valve (h : c.ProbeSafe) (hs : c.status = .close ∨ c.status = .opened) :
    c.Quiet := by
  refine h.quiet_of_status ?_ ?_ ?_ <;>
    · obtain hs | hs := hs <;> rw [hs] <;> nofun

/-- Nor in learn mode. -/
theorem ProbeSafe.quiet_of_learnFlag (h : c.ProbeSafe) (hl : c.learnFlag ≠ 0) : c.Quiet :=
  h.alarm.resolve_right fun ha => hl ha.learnFlag

/-- Nor below the priority of water. -/
theorem ProbeSafe.quiet_of_lt (h : c.ProbeSafe) (hp : c.priority < 7) : c.Quiet :=
  h.alarm.resolve_right fun ha => by
    obtain h7 | h8 := ha.priority
    · rw [h7] at hp; exact absurd hp (by decide)
    · rw [h8] at hp; exact absurd hp (by decide)

/-- The slave alarm has the highest priority. -/
theorem ProbeSafe.priority_le (h : c.ProbeSafe) : c.priority ≤ 8 := by
  obtain hq | ha := h.alarm
  · exact UInt8.le_of_lt hq.1
  · obtain h7 | h8 := ha.priority
    · rw [h7]; decide
    · rw [h8]; decide

/-! The operations. -/

/-- Opening the valve while the probe is quiet. -/
theorem ProbeSafe.openAs (h : c.ProbeSafe) (hq : c.Quiet) (actFlag : UInt8)
    (hf : actFlag ≠ otherOff) : (c.openAs actFlag).ProbeSafe := by
  unfold Ctl.openAs
  split
  · exact h
  · exact ⟨fun hl => absurd hl hf, nofun, nofun, h.history, Or.inl hq⟩

/-- Closing it, likewise. -/
theorem ProbeSafe.closeAs (h : c.ProbeSafe) (hq : c.Quiet) (actFlag : UInt8) :
    (c.closeAs actFlag).ProbeSafe := by
  unfold Ctl.closeAs
  split
  · exact h
  · exact ⟨fun _ => rfl, nofun, nofun, h.history, Or.inl hq⟩

/-- Showing a status that belongs to no slave alarm and no learn mode. -/
theorem ProbeSafe.show_as (h : c.ProbeSafe) (hq : c.Quiet) {status : DeviceStatus}
    (hs : status ≠ .slaverWaterAlarmActive) (hl : status ≠ .learn) :
    { c with status := status }.ProbeSafe :=
  ⟨h.held, fun hshow => absurd hshow hs, fun _ => hl, h.history, Or.inl hq⟩

/-- Closing it under a status that shows no water. -/
theorem ProbeSafe.closed_as (h : c.ProbeSafe) (hq : c.Quiet) (actFlag : UInt8)
    {status : DeviceStatus} (hs : status ≠ .slaverWaterAlarmActive) (hl : status ≠ .learn) :
    { c.closeAs actFlag with status := status }.ProbeSafe := by
  refine (h.closeAs hq actFlag).show_as ?_ hs hl
  rw [Quiet, closeAs_priority, closeAs_past, closeAs_learnFlag]
  exact hq

/-- Back to the position of the valve. -/
theorem ProbeSafe.backToNormal (h : c.ProbeSafe) (hp : c.priority < 8) :
    c.backToNormal.ProbeSafe := by
  refine ⟨h.held, fun hs => ?_, fun _ => ?_, Or.inl ⟨rfl, Or.inl rfl⟩, Or.inl ⟨hp, nofun⟩⟩
  · obtain hs' | hs' := c.backToNormal_status <;> exact absurd (hs'.symm.trans hs) nofun
  · obtain hs' | hs' := c.backToNormal_status <;> rw [hs'] <;> nofun

/-- A disabled warning leaves the probe quiet. -/
theorem quiet_disable (c : Ctl) : c.disable.Quiet := ⟨(by decide : (0 : UInt8) < 8), nofun⟩

/-- Clearing the warning forgets the history of the probe. -/
theorem ProbeSafe.disable (hheld : c.lastFlag = otherOff → c.valve = 0) : c.disable.ProbeSafe := by
  refine ⟨hheld, fun hs => ?_, fun _ => ?_, Or.inl ⟨rfl, Or.inl rfl⟩, Or.inl c.quiet_disable⟩
  · obtain hs' | hs' := { c with priority := 0 }.backToNormal_status <;>
      exact absurd (hs'.symm.trans hs) nofun
  · obtain hs' | hs' := { c with priority := 0 }.backToNormal_status <;>
      exact fun hs => absurd (hs'.symm.trans hs) nofun

/-- A warning other than the slave alarm while the probe is quiet. -/
theorem ProbeSafe.call (h : c.ProbeSafe) (hq : c.Quiet) {callback : WarningCallback}
    (hshow : shows callback ≠ some .slaverWaterAlarmActive) : (c.call callback).ProbeSafe := by
  cases callback with
  | slaverLowBatteryWarning => exact h
  | slaverUltraLowBatteryWarning | masterWaterAlarmWarning | ntcWarningEventCallback =>
      exact h.closed_as hq _ (by simp) (by simp)
  | slaverWaterAlarmWarning => exact absurd rfl hshow
  | masterLostPeakWarning | moto1FailCallback | moto2FailCallback =>
    exact h.show_as hq (by simp) (by simp)
  | offlineWarning =>
      simp only [Ctl.call]
      split
      · exact h.closed_as hq _ (by simp) (by simp)
      · exact h

/-- The warnings below the water alarms are refused while one is in force. -/
theorem ProbeSafe.warn (h : c.ProbeSafe) {event : WariningEvent} {callback : WarningCallback}
    (hcall : event.callback = some callback) (hp : event.priority < 7)
    (hshow : shows callback ≠ some .slaverWaterAlarmActive) : (c.warn event).ProbeSafe := by
  by_cases hle : c.priority ≤ event.priority
  · rw [warn_of_le hcall hle]
    have hq : c.Quiet := h.quiet_of_lt (UInt8.lt_of_le_of_lt hle hp)
    have hq' : { c with priority := event.priority }.Quiet :=
      ⟨UInt8.lt_trans hp (by decide), hq.2⟩
    have h' : { c with priority := event.priority }.ProbeSafe :=
      ⟨h.held, h.slave, h.learn, h.history, Or.inl hq'⟩
    exact h'.call hq' hshow
  · rw [Ctl.warn, if_neg hle]
    exact h

/-- The slave alarm takes over. -/
theorem ProbeSafe.slaveWater (h : c.ProbeSafe) (hl : c.learnFlag = 0) :
    (c.warn slaverWaterAlarmActiveEvent).ProbeSafe := by
  rw [warn_of_le rfl h.priority_le]
  have hclose : ∀ c : Ctl, (c.closeAs otherOff).valve = 0 ∧ (c.closeAs otherOff).delay = false := by
    intro c
    simp [Ctl.closeAs]
  refine ⟨fun _ => (hclose _).1, fun _ => (hclose _).2, nofun, ?_, Or.inr ?_⟩
  · simp only [Ctl.call, closeAs_past, closeAs_handled]
    exact h.history
  · exact ⟨(hclose _).1, (closeAs_learnFlag ..).trans hl, Or.inr (call_priority ..), Or.inl rfl⟩

/-- A wet probe: the master alarm, or the slave alarm that is in force. -/
theorem ProbeSafe.wet (h : c.ProbeSafe) {handled : UInt8} (hh : handled = 8 ∨ handled = 32) :
    { c.peak 2 with past := 2, handled := handled }.ProbeSafe := by
  have hhist : handled = 1 ∨ handled = 2 ∨ handled = 8 ∨ handled = 32 := by tauto
  rw [peak_two]
  split
  · rename_i hlearn
    have hl : c.learnFlag ≠ 0 := fun hl => h.learn hl hlearn
    have hq := h.quiet_of_learnFlag hl
    exact ⟨h.held, h.slave, h.learn, Or.inr (Or.inr ⟨rfl, hhist⟩), Or.inl ⟨hq.1, fun _ => hl⟩⟩
  · by_cases hle : c.priority ≤ masterWaterAlarmActiveEvent.priority
    · rw [warn_of_le rfl hle]
      let c₁ : Ctl := { c with priority := 7 }
      have hv : (c₁.closeAs normalOff).valve = 0 := valve_closeAs normalOff h.held
      refine ⟨fun _ => hv, nofun, nofun, Or.inr (Or.inr ⟨rfl, hhist⟩), ?_⟩
      have hp : (c₁.closeAs normalOff).priority = 7 := closeAs_priority ..
      have hlf : (c₁.closeAs normalOff).learnFlag = c.learnFlag := closeAs_learnFlag ..
      by_cases hl : c.learnFlag = 0
      · exact Or.inr ⟨hv, hlf.trans hl, Or.inl hp, Or.inr (Or.inl rfl)⟩
      · have hlow : (c₁.closeAs normalOff).priority < 8 :=
          UInt8.lt_of_le_of_lt (UInt8.le_of_eq hp) (by decide)
        exact Or.inl ⟨hlow, fun _ h0 => hl (hlf.symm.trans h0)⟩
    · rw [Ctl.warn, if_neg hle]
      have hna : ¬c.Quiet := fun hq => by
        have h7 : (7 : UInt8) < c.priority := UInt8.not_le.mp hle
        have h8 := hq.1
        rw [UInt8.lt_iff_toNat_lt] at h7 h8
        simp at h7 h8
        omega
      have ha := h.alarm.resolve_left hna
      exact ⟨h.held, h.slave, h.learn, Or.inr (Or.inr ⟨rfl, hhist⟩),
        Or.inr ⟨ha.valve, ha.learnFlag, ha.priority, ha.status⟩⟩

/-- A scan of the probe. -/
theorem ProbeSafe.scan (h : c.ProbeSafe) (reading : UInt8) : (c.scan reading).ProbeSafe := by
  have hscan := c.scanned_scan reading
  generalize c.scan reading = c' at hscan ⊢
  cases hscan with
  | idle => exact h
  | dries hd =>
      refine ⟨h.held, nofun, nofun, Or.inr (Or.inr ⟨hd.1, Or.inl rfl⟩), ?_⟩
      exact h.alarm.imp id fun ha => ⟨ha.valve, ha.learnFlag, ha.priority, Or.inr (Or.inr rfl)⟩
  | driesLearning hpast =>
      refine ⟨h.held, h.slave, h.learn, Or.inr (Or.inr ⟨hpast, Or.inl rfl⟩), ?_⟩
      exact h.alarm.imp id fun ha => ⟨ha.valve, ha.learnFlag, ha.priority, ha.status⟩
  | wetLost hpast =>
      refine ⟨h.held, h.slave, h.learn, Or.inr (Or.inr ⟨hpast, Or.inr (Or.inl rfl)⟩), ?_⟩
      exact h.alarm.imp id fun ha => ⟨ha.valve, ha.learnFlag, ha.priority, ha.status⟩
  | wet handled hpast hwet hh => exact h.wet hh
  | lost hpast =>
      have hpeak : (c.peak 1).ProbeSafe := by
        rw [peak_one]
        split
        · exact h
        · exact h.warn rfl (by decide) (by decide)
      refine ⟨hpeak.held, hpeak.slave, hpeak.learn, Or.inr (Or.inl ⟨rfl, rfl⟩), ?_⟩
      exact hpeak.alarm.imp (fun hq => ⟨hq.1, nofun⟩)
        fun ha => ⟨ha.valve, ha.learnFlag, ha.priority, ha.status⟩
  | back hpast =>
      have hpeak : (c.peak 0).ProbeSafe := by
        rw [peak_zero]
        split
        · exact h
        · split
          · rename_i hs
            refine h.backToNormal (h.quiet_of_status ?_ ?_ ?_).1 <;>
              · obtain hs | hs | hs := hs <;> rw [hs] <;> nofun
          · exact h
      refine ⟨hpeak.held, hpeak.slave, hpeak.learn, Or.inl ⟨rfl, Or.inr rfl⟩, ?_⟩
      exact hpeak.alarm.imp (fun hq => ⟨hq.1, nofun⟩)
        fun ha => ⟨ha.valve, ha.learnFlag, ha.priority, ha.status⟩

/-- The firmware starts safe. -/
theorem probeSafe_boot (lastFlag : UInt8) (alarm : Bool) : (boot lastFlag alarm).ProbeSafe := by
  have hq : (reset lastFlag alarm).Quiet := ⟨(by decide : (0 : UInt8) < 8), nofun⟩
  have hreset : (reset lastFlag alarm).ProbeSafe :=
    ⟨fun _ => rfl, nofun, nofun, Or.inl ⟨rfl, Or.inl rfl⟩, Or.inl hq⟩
  unfold boot
  dsimp only
  repeat' split
  · exact hreset.slaveWater rfl
  · exact hreset.openAs hq normalOpen (by decide)
  · exact hreset

/-- Every transition keeps the probe safe, the expiry of the delay timer when
no water alarm is shown or in learn mode. -/
theorem ProbeSafe.step {ok : Special → Ctl → Prop} (h : c.ProbeSafe) (hs : CtlStep ok c c')
    (hdelay : ok .delayExpires c → c.learnFlag = 0 →
      c.status ≠ .masterWaterAlarmActive ∧ c.status ≠ .masterWaterAlarmDeActive) :
    c'.ProbeSafe := by
  cases hs with
  | remoteOpen hs => exact h.openAs (h.quiet_of_valve hs) otherOpen (by decide)
  | remoteClose hs => exact h.closeAs (h.quiet_of_valve hs) otherOff
  | nodeOpen hs => exact (h.openAs (h.quiet_of_valve hs) otherOpen (by decide)).congr (by rfl)
  | nodeClose =>
      have hd : { c.disable with lastClose := 1 }.ProbeSafe :=
        (ProbeSafe.disable h.held).congr (by rfl)
      exact hd.closeAs c.quiet_disable otherOff
  | keyOpen hs => exact h.openAs (h.quiet_of_valve (Or.inl hs)) normalOpen (by decide)
  | lostPeakOpens hs =>
      have hq : c.Quiet := by refine h.quiet_of_status ?_ ?_ ?_ <;> rw [hs] <;> nofun
      have hshow : { c with status := .opened }.ProbeSafe := h.show_as hq nofun nofun
      exact hshow.openAs hq normalOpen (by decide)
  | keyClose hs =>
      have hflag : { c with lastClose := 0 }.ProbeSafe := h.congr (by rfl)
      exact hflag.closeAs (h.quiet_of_valve (Or.inr hs)) normalOff
  | lostPeakCloses hs =>
      have hq : c.Quiet := by refine h.quiet_of_status ?_ ?_ ?_ <;> rw [hs] <;> nofun
      exact h.closed_as hq normalOff nofun nofun
  | dismiss | factoryKey | online | stopLearn | slaveDry => exact .disable h.held
  | startLearn hs =>
      have hq := h.quiet_of_valve hs
      exact ⟨h.held, nofun, fun hl => absurd hl (by decide : (1 : UInt8) ≠ 0), h.history,
        Or.inl ⟨hq.1, fun _ => (by decide : (1 : UInt8) ≠ 0)⟩⟩
  | learning => exact h.congr (by rfl)
  | scan reading => exact h.scan reading
  | freeze cold =>
      unfold Ctl.freeze
      split
      · exact (h.congr (by rfl)).warn rfl (by decide) (by decide)
      · exact h
  | thaw warm =>
      unfold Ctl.thaw
      repeat' split
      · exact (ProbeSafe.disable h.held).openAs c.quiet_disable normalOpen (by decide)
      · exact (ProbeSafe.disable h.held).closeAs c.quiet_disable normalOff
      · exact h
  | warnOffline | warnMoto1 | warnMoto2 | ultraLow | lowBattery =>
      exact h.warn rfl (by decide) (by decide)
  | slaveWater hl =>
      split
      · have halarm : { c with alarm := true }.ProbeSafe := h.congr (by rfl)
        exact halarm.slaveWater hl
      · exact h.congr (by rfl)
  | delayStart hs =>
      exact ⟨h.held, fun hshow => absurd (hs.symm.trans hshow) nofun, h.learn, h.history,
        Or.inl (h.quiet_of_valve (Or.inr hs))⟩
  | delayStop =>
      exact ⟨h.held, fun _ => rfl, h.learn, h.history,
        h.alarm.imp id fun ha => ⟨ha.valve, ha.learnFlag, ha.priority, ha.status⟩⟩
  | delayExpires hd hok =>
      have hq : c.Quiet := by
        by_cases hl : c.learnFlag = 0
        · obtain ⟨h2, h3⟩ := hdelay hok hl
          exact h.quiet_of_status (fun hs => absurd (hd.symm.trans (h.slave hs)) nofun) h2 h3
        · exact h.quiet_of_learnFlag hl
      have hstop : { c with delay := false }.ProbeSafe :=
        ⟨h.held, fun _ => rfl, h.learn, h.history, Or.inl hq⟩
      exact hstop.closeAs hq otherOff
  | boot lastFlag alarm => exact probeSafe_boot lastFlag alarm

/-- A probe last seen wet outside learn mode has the valve closed. -/
theorem ProbeSafe.valve_of_wet (h : c.ProbeSafe) (hpast : c.past = 2) (hl : c.learnFlag = 0) :
    c.valve = 0 :=
  (h.alarm.resolve_left fun hq => hq.2 hpast hl).valve

/-- Whatever the history, a wet scan is remembered. -/
theorem ProbeSafe.past_scan (h : c.ProbeSafe) : (c.scan 2).past = 2 := by
  unfold Ctl.scan
  obtain ⟨hpast, hh⟩ | ⟨hpast, hh⟩ | ⟨hpast, -⟩ := h.history
  · obtain hh | hh := hh <;> simp [hpast, hh]
  · simp [hpast, hh]
  · simp [hpast]

end Ctl

/-- Condition on a step: outside learn mode the delay timer does not expire
while a water alarm of the own probe is shown. -/
def KeepsWaterAlarm (s : State) (a : Action) : Prop :=
  DelayExpires s a → s.learnFlag = 0 →
    s.nowStatus ≠ .masterWaterAlarmActive ∧ s.nowStatus ≠ .masterWaterAlarmDeActive

/-- A scan that finds the probe wet, outside learn mode and not paused, leaves
the valve closed. -/
def WetCloses (s : State) : Prop :=
  s.learnFlag = 0 → s.waterAlarmPause = 0 → ∀ pins : Pins, pins.peakLoss = false →
    pins.peakOn = false → (waterscanTimerCallback pins s).valveStatus = 0

/-- How a wet probe reads. -/
theorem peakReading_wet {pins : Pins} (hpause : s.waterAlarmPause = 0)
    (hloss : pins.peakLoss = false) (hon : pins.peakOn = false) : peakReading pins s = 2 := by
  simp [peakReading, getPeakLOSSLevel, getPeakONLevel, hpause, hloss, hon]

/-- **A wet probe closes the valve**, in every run whose steps meet
`KeepsWaterAlarm`. -/
theorem wet_probe_closes (h : (valveMachine rom).ReachableVia KeepsWaterAlarm s) :
    WetCloses s := by
  have hsafe : (ctl s).ProbeSafe := ctl_invariant
    (fun special c => special = .delayExpires → c.learnFlag = 0 →
      c.status ≠ .masterWaterAlarmActive ∧ c.status ≠ .masterWaterAlarmDeActive) h
    (fun s a special hok hocc hsp => hok (by subst hsp; exact hocc))
    Ctl.probeSafe_boot (fun c c' hc hs => hc.step hs fun hok => hok rfl)
  intro hl hpause pins hloss hon
  have hscan := ctl_waterscanTimerCallback pins s
  rw [peakReading_wet hpause hloss hon] at hscan
  have hvalve : ((ctl s).scan 2).valve = 0 :=
    (hsafe.scan 2).valve_of_wet hsafe.past_scan ((Ctl.scan_learn ..).1.trans hl)
  exact (congrArg Ctl.valve hscan).trans hvalve

/-- A wet scan after one that finds the probe gone. -/
theorem wet_probe_closes_scanLost :
    (waterscanTimerCallback { dryPins with peakOn := false }
      (waterscanTimerCallback { dryPins with peakLoss := true } started)).valveStatus = 0 := by
  have hkeep : KeepsWaterAlarm started scanLost := fun ⟨ha, _⟩ => by simp [scanLost] at ha
  have h0 : (valveMachine 0).ReachableVia KeepsWaterAlarm started :=
    .init ⟨dryPins, boot_started⟩
  have h1 := h0.step hkeep rfl
  exact wet_probe_closes h1 (by decide +kernel) (by decide +kernel) _ rfl rfl

/-- The delay timer runs on while the master alarm is shown, because the alarm
finds the valve closed remotely; its expiry takes the alarm off the display,
a remote command opens the valve, and the wet probe is no news. -/
theorem not_wet_probe_closes : ¬∀ s, (valveMachine 0).Reachable s → WetCloses s := by
  intro hall
  let wet : Pins := { dryPins with peakOn := false }
  have hrun : ((valveMachine 0).runFrom started
      (learnDevice 10000001 ++
        [nodeRx 10000001 6 0, scanLost, pressK0, nodeRx 10000001 8 0, scanWet, .delayTimer,
          nodeRx 10000001 5 0])).map
        (fun s => (s.learnFlag, s.waterAlarmPause, (waterscanTimerCallback wet s).valveStatus)) =
          some (0, 0, 1) := by decide +kernel
  obtain ⟨s, hreach, hobs⟩ := exists_of_run hrun
  simp only [Prod.mk.injEq] at hobs
  obtain ⟨hl, hpause, hvalve⟩ := hobs
  have hclosed := hall s hreach hl hpause wet rfl rfl
  rw [hvalve] at hclosed
  exact absurd hclosed (by decide)

end WaterValve
