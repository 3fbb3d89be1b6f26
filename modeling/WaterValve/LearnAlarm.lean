import WaterValve.AlarmOwner

/-!
# WaterValve.LearnAlarm

A warning and learn mode.  Learn mode starts in the normal status and is left
by `Stop_Learn`, which clears whatever warning is in force.  A warning accepted
in between does not start over the learn timer, so it is lost as soon as the
timer expires (`learn_end_drops_warning`).
-/

namespace WaterValve

variable {rom : UInt32} {s s' : State} {a : Action} {w : WariningEvent} {status : DeviceStatus}

/-! ## warnings in force -/

/-- `w` is a warning of the firmware that shows `status`. -/
def WariningEvent.Shows (w : WariningEvent) (status : DeviceStatus) : Prop :=
  (∃ id, warningEvent id = some w) ∧
    ∃ callback, w.callback = some callback ∧ Ctl.shows callback = some status

/-- The warning is in force: its status is shown, at its priority. -/
def WariningEvent.InForce (w : WariningEvent) (s : State) : Prop :=
  w.Shows s.nowStatus ∧ s.nowStatusEvent.priority = w.priority

/-- Every warning of the firmware has a priority. -/
theorem WariningEvent.Shows.priority_ne (h : w.Shows status) : w.priority ≠ 0 := by
  obtain ⟨⟨id, hid⟩, -⟩ := h
  unfold warningEvent at hid
  repeat' split at hid
  all_goals cases hid
  all_goals decide

/-- A warning shows neither learn mode nor the normal status. -/
theorem WariningEvent.Shows.status_ne (h : w.Shows status) :
    status ≠ .learn ∧ status ≠ .opened ∧ status ≠ .close := by
  obtain ⟨-, callback, -, hshow⟩ := h
  cases callback <;> cases hshow <;> simp

/-- A warning shows one status. -/
theorem WariningEvent.Shows.unique {status' : DeviceStatus} (h : w.Shows status)
    (h' : w.Shows status') : status = status' := by
  obtain ⟨-, callback, hcall, hshow⟩ := h
  obtain ⟨-, callback', hcall', hshow'⟩ := h'
  obtain rfl : callback = callback' := Option.some.inj (hcall.symm.trans hcall')
  exact Option.some.inj (hshow.symm.trans hshow')

/-- **An accepted warning is in force**, and learn mode goes on. -/
theorem inForce_warningEnable (h : w.Shows status)
    (haccept : s.nowStatusEvent.priority ≤ w.priority) :
    w.InForce (warningEnable w s) ∧ (warningEnable w s).learnFlag = s.learnFlag := by
  have hctl := ctl_warningEnable w s
  obtain ⟨hid, callback, hcall, hshow⟩ := h
  have hwarn := Ctl.warn_of_le (c := ctl s) hcall haccept
  have hstatus : (warningEnable w s).nowStatus = status :=
    (congrArg Ctl.status (hctl.trans hwarn)).trans (Ctl.call_status hshow _)
  refine ⟨⟨⟨hid, callback, hcall, hstatus ▸ hshow⟩, ?_⟩, ?_⟩
  · exact (congrArg Ctl.priority (hctl.trans hwarn)).trans (Ctl.call_priority ..)
  · exact (congrArg Ctl.learnFlag hctl).trans (Ctl.warn_learn ..).1

/-! ## what leaves learn mode on -/

/-- What leaves the control part alone leaves learn mode on. -/
theorem learnFlag_of_ctl (h : ctl s' = ctl s) : s'.learnFlag = s.learnFlag :=
  congrArg Ctl.learnFlag h

/-- Opening the valve leaves learn mode on. -/
@[simp] theorem learnFlag_motoOpen (actFlag : UInt8) (s : State) :
    (motoOpen actFlag s).learnFlag = s.learnFlag :=
  (congrArg Ctl.learnFlag (ctl_motoOpen actFlag s)).trans (Ctl.openAs_learnFlag ..)

/-- So does closing it. -/
@[simp] theorem learnFlag_motoClose (actFlag : UInt8) (s : State) :
    (motoClose actFlag s).learnFlag = s.learnFlag :=
  (congrArg Ctl.learnFlag (ctl_motoClose actFlag s)).trans (Ctl.closeAs_learnFlag ..)

/-- So does a warning. -/
@[simp] theorem learnFlag_warningEnable (event : WariningEvent) (s : State) :
    (warningEnable event s).learnFlag = s.learnFlag :=
  (congrArg Ctl.learnFlag (ctl_warningEnable event s)).trans (Ctl.warn_learn ..).1

@[simp] theorem learnFlag_warUploadGW (ack : UInt8) (deviceId : UInt32) (warnId value : UInt8)
    (s : State) : (warUploadGW ack deviceId warnId value s).learnFlag = s.learnFlag :=
  learnFlag_of_ctl (ctl_warUploadGW ..)

@[simp] theorem learnFlag_controlUploadGW (ack : UInt8) (deviceId : UInt32)
    (controlId value : UInt8) (s : State) :
    (controlUploadGW ack deviceId controlId value s).learnFlag = s.learnFlag :=
  learnFlag_of_ctl (ctl_controlUploadGW ..)

/-- So does a self-test. -/
@[simp] theorem learnFlag_motoDetect (pins : Pins) (s : State) :
    (motoDetect pins s).learnFlag = s.learnFlag :=
  learnFlag_of_ctl (ctl_motoDetect ..)

@[simp] theorem learnFlag_warningDisable (s : State) :
    (warningDisable s).learnFlag = s.learnFlag := rfl

/-- So does the open key. -/
private theorem learnFlag_keyOn (s : State) : (keyOn s).learnFlag = s.learnFlag := by
  unfold keyOn
  repeat' split
  all_goals simp

/-- So does the close key. -/
private theorem learnFlag_keyOff (pins : Pins) (s : State) :
    (keyOff pins s).learnFlag = s.learnFlag := by
  unfold keyOff
  repeat' split
  all_goals simp

private theorem learnFlag_turn1TimerCallback (s : State) :
    (turn1TimerCallback s).learnFlag = s.learnFlag := by
  unfold turn1TimerCallback
  dsimp only
  repeat' split
  all_goals simp [warningEnableNum, warningEvent, waterScanIOInit, keyIOInit]

private theorem learnFlag_turn2TimerCallback (s : State) :
    (turn2TimerCallback s).learnFlag = s.learnFlag := by
  unfold turn2TimerCallback
  dsimp only
  split <;> simp [warningEnableNum, warningEvent, waterScanIOInit, keyIOInit]

/-- So does a scan of the temperature. -/
private theorem learnFlag_ntcScanTimerCallback (cold warm : Bool) (s : State) :
    (ntcScanTimerCallback cold warm s).learnFlag = s.learnFlag := by
  refine (congrArg Ctl.learnFlag (ctl_ntcScanTimerCallback cold warm s)).trans ?_
  have hfreeze : ((ctl s).freeze cold).learnFlag = s.learnFlag := by
    unfold Ctl.freeze
    split
    · exact (Ctl.warn_learn ..).1
    · rfl
  unfold Ctl.thaw
  repeat' split
  · exact (Ctl.openAs_learnFlag ..).trans hfreeze
  · exact (Ctl.closeAs_learnFlag ..).trans hfreeze
  · exact hfreeze

/-- So does the hour. -/
private theorem learnFlag_rtcTimerEntry {pins : Pins} (hs : rtcTimerEntry pins s = some s') :
    s'.learnFlag = s.learnFlag := by
  have hdetect : ∀ {t t' : State}, detectAllTime t = some t' → t'.learnFlag = t.learnFlag := by
    intro t t' h
    unfold detectAllTime at h
    split at h
    · cases h
      rfl
    · have hloop := learnFlag_of_ctl (ctl_detectLoop t.searchStart (false, t))
      dsimp only at h
      generalize detectLoop t.searchStart (false, t) = p at h hloop
      obtain ⟨st, -, rfl⟩ := Option.map_eq_some_iff.mp h
      dsimp only
      split
      · exact (learnFlag_warningEnable offlineEvent p.2).trans hloop
      · exact hloop
  rw [rtcTimerEntry_eq] at hs
  obtain ⟨t, ht, hs⟩ := Option.bind_eq_some_iff.mp hs
  have haged : t.learnFlag = s.learnFlag := by
    obtain ⟨st, -, rfl⟩ := Option.map_eq_some_iff.mp ht
    show (hourBegins pins s).learnFlag = _
    unfold hourBegins
    dsimp only
    split
    · exact learnFlag_motoDetect pins _
    · rfl
  split at hs
  · cases hs
    exact haged
  · obtain ⟨u, hu, rfl⟩ := Option.map_eq_some_iff.mp hs
    exact (hdetect hu).trans haged

/-- In learn mode a node frame is a learn frame. -/
private theorem learnFlag_normalAct (hwf : s.Wf) (hl : s.learnFlag ≠ 0) (rssi : Int)
    (buf : Message) :
    (normalAct rssi buf s).learnFlag = s.learnFlag := by
  by_cases haccept : Accepts buf s
  · have hwf' := wf_heardFrom rssi buf.fromID.toUInt32 s hwf
    have hheard := learnFlag_of_ctl (ctl_heardFrom rssi buf.fromID.toUInt32 s)
    rw [normalAct_of_accepts haccept, if_pos hl]
    refine (congrArg Ctl.learnFlag (ctl_deviceLearn hwf')).trans (Eq.trans ?_ hheard)
    split <;> rfl
  · rw [normalAct_of_not_accepts haccept]

/-- So does a command of the gateway. -/
private theorem learnFlag_gatewayCommand (buf : Message) (s : State) :
    (gatewayCommand buf s).learnFlag = s.learnFlag := by
  unfold gatewayCommand gatewayValve remoteOpen remoteClose
  repeat' split
  all_goals simp [learnFlag_of_ctl (ctl_gatewaySync _), State.withStorage]

/-- So does any frame of the gateway. -/
private theorem learnFlag_gatewayAct (buf : Message) (s : State) :
    (gatewayAct buf s).learnFlag = s.learnFlag := by
  unfold gatewayAct heartRefresh
  repeat' split
  · exact learnFlag_gatewayCommand buf _
  · exact learnFlag_gatewayCommand buf s
  · rfl

/-- The handler executes `Stop_Learn`: the timer expires, or `K1` is held while
learn mode is shown. -/
def StopsLearn (s : State) (a : Action) : Prop :=
  a = .learnTimer ∨ ∃ sem pins, a = .keyReponse sem pins ∧
    sem = ⟨false, false, false, true, false⟩ ∧ s.nowStatus = .learn

/-- A key ends learn mode only as `StopsLearn` says, or by a restart. -/
private theorem learnFlag_keyReponse {sem : KeySem} {pins : Pins} (hl : s.learnFlag ≠ 0)
    (hs : keyReponse rom sem pins s = some s') :
    s'.learnFlag ≠ 0 ∨ StopsLearn s (.keyReponse sem pins) ∨
      ∃ p env, event s (.keyReponse sem pins) = .restart p env := by
  obtain ⟨k0, k0Long, k1, k1Long, k0k1⟩ := sem
  unfold keyReponse at hs
  dsimp only at hs
  cases k0 with
  | true =>
      cases hs
      exact .inl (learnFlag_keyOn s ▸ hl)
  | false =>
      cases k1 with
      | true =>
          cases hs
          exact .inl (learnFlag_keyOff pins s ▸ hl)
      | false =>
          cases k0k1 with
          | true => exact .inr (.inr ⟨pins, _, rfl⟩)
          | false =>
              cases k0Long with
              | true =>
                  cases hs
                  exact .inl hl
              | false =>
                  cases k1Long with
                  | true =>
                      cases hs
                      by_cases hlearn : s.nowStatus = .learn
                      · exact .inr (.inl (.inr ⟨_, pins, rfl, rfl, hlearn⟩))
                      · unfold keyLong
                        split
                        · exact .inl (by decide : (1 : UInt8) ≠ 0)
                        · exact .inl hl
                  | false =>
                      cases hs
                      exact .inl hl

/-- **What ends learn mode**: `Stop_Learn` and a start of the unit. -/
theorem learnFlag_step (hr : registryMachine.Reachable s) (hl : s.learnFlag ≠ 0)
    (hs : step rom s a = some s') :
    s'.learnFlag ≠ 0 ∨ StopsLearn s a ∨ ∃ pins env, event s a = .restart pins env := by
  have hwf := registryMachine_wf hr
  have hkeep : s'.learnFlag = s.learnFlag → s'.learnFlag ≠ 0 ∨ StopsLearn s a ∨
      ∃ pins env, event s a = .restart pins env := fun h => .inl (h ▸ hl)
  cases a <;> simp only [step, Option.ite_none_right_eq_some, Option.ite_none_left_eq_some,
    Option.some.injEq] at hs
  case keyReponse sem pins => exact learnFlag_keyReponse hl hs
  case rf433Rx rxMessage rssi buffer len =>
    refine hkeep (hs ▸ ?_)
    unfold rf433RxCallback normalSolve gatewayDataSolve
    repeat' split
    · exact learnFlag_normalAct hwf hl rssi _
    · rfl
    · exact learnFlag_gatewayAct _ s
    · rfl
    · rfl
  case learnTimer => exact .inr (.inl (.inl rfl))
  case reboot pins => exact .inr (.inr ⟨pins, _, rfl⟩)
  case rtcAlarm pins => exact hkeep (learnFlag_rtcTimerEntry hs)
  case rfEncode | turn1Edge | turn2Edge | moto1TimerAct | moto2TimerAct =>
    exact hkeep (hs.2 ▸ rfl)
  case waterscanTimer pins =>
    refine hkeep (hs ▸ (congrArg Ctl.learnFlag (ctl_waterscanTimerCallback pins s)).trans ?_)
    exact (Ctl.scan_learn ..).1
  case ntcScanTimer cold warm => exact hkeep (hs ▸ learnFlag_ntcScanTimerCallback cold warm s)
  case delayTimer => exact hkeep (hs.2 ▸ by simp [delayTimerCallback])
  case moto1TimerDetect => exact hkeep (hs.2 ▸ learnFlag_turn1TimerCallback _)
  case moto2TimerDetect => exact hkeep (hs.2 ▸ learnFlag_turn2TimerCallback _)
  case motoDetectTimer pins => exact hkeep (hs.2 ▸ learnFlag_motoDetect pins _)
  case gatewaySyncT => exact hkeep (hs.2 ▸ learnFlag_of_ctl (ctl_gatewaySyncCallback s))
  case heartCheckT => exact hkeep (hs.2 ▸ learnFlag_of_ctl (ctl_heartCheck s))
  case heartTestT => exact hkeep (hs.2 ▸ learnFlag_of_ctl (ctl_heartTest s))
  case factoryCycle => exact hkeep (hs.2 ▸ learnFlag_of_ctl (ctl_radioEnqueue ..))

/-! ## what learn mode does to a warning -/

/-- `Stop_Learn` goes back to normal. -/
theorem normal_stopLearn (s : State) : (stopLearn s).nowStatusEvent.priority = 0 ∧
    ((stopLearn s).nowStatus = .opened ∨ (stopLearn s).nowStatus = .close) := by
  have hctl : ctl (stopLearn s) = { ctl s with learnFlag := 0 }.disable := by
    unfold stopLearn
    dsimp only
    split
    · rw [ctl_gatewaySync]
      rfl
    · rfl
  have hstatus : (stopLearn s).nowStatus = _ := congrArg Ctl.status hctl
  refine ⟨congrArg Ctl.priority hctl, ?_⟩
  rw [hstatus]
  exact { ctl s with learnFlag := 0, priority := 0 }.backToNormal_status

/-- A handler that executes `Stop_Learn` ends with it. -/
theorem normal_of_stopsLearn (hstop : StopsLearn s a) (hs : step rom s a = some s') :
    s'.nowStatusEvent.priority = 0 ∧ (s'.nowStatus = .opened ∨ s'.nowStatus = .close) := by
  obtain rfl | ⟨sem, pins, rfl, rfl, hlearn⟩ := hstop
  · simp only [step, Option.ite_none_right_eq_some, Option.some.injEq] at hs
    exact hs.2 ▸ normal_stopLearn _
  · cases hs
    unfold keyLong
    rw [if_neg (by simp [hlearn]), if_pos hlearn]
    exact normal_stopLearn _

/-- In learn mode the learn timer runs, and the slave alarm is not shown. -/
structure LearnInv (s : State) : Prop where
  reach : registryMachine.Reachable s
  timer : s.learnFlag ≠ 0 → s.learnTimer = true
  held : (ctl s).AlarmHeld

/-- Every step keeps the invariant. -/
theorem LearnInv.step (h : LearnInv s) (hs : WaterValve.step rom s a = some s') : LearnInv s' := by
  have hrun : CtlRun (fun _ _ => True) (ctl s) (ctl s') := ctl_step h.reach hs fun _ _ => trivial
  exact {
    reach := reach_step h.reach hs
    timer := hrun.invariant (I := fun c => c.learnFlag ≠ 0 → c.learnTimer = true) h.timer
      fun _ _ hc hs => hs.learnTimer hc
    held := hrun.invariant h.held fun _ _ hc hs => hc.step hs }

/-- A start of the unit shows the slave alarm or nothing. -/
theorem status_boot (lastFlag : UInt8) (alarm : Bool) :
    (Ctl.boot lastFlag alarm).status = .slaverWaterAlarmActive ∨
      (Ctl.boot lastFlag alarm).status = .opened ∨ (Ctl.boot lastFlag alarm).status = .close := by
  unfold Ctl.boot
  dsimp only
  split
  · rw [Ctl.warn_of_le rfl (by decide : (0 : UInt8) ≤ 8)]
    exact .inl (Ctl.call_status rfl _)
  · split
    · obtain hs | hs := Ctl.openAs_status normalOpen (Ctl.reset lastFlag alarm)
      · exact .inr (.inr hs)
      · exact .inr (.inl hs)
    · exact .inr (.inr rfl)

/-- It holds in every reachable state. -/
theorem learnInv (h : (valveMachine rom).Reachable s) : LearnInv s := by
  refine Machine.ReachableVia.invariant (I := LearnInv) h (fun s hinit => ?_)
    fun s a s' hI _ hs => hI.step hs
  obtain ⟨pins, hs⟩ := hinit
  obtain ⟨lastFlag, alarm, hc⟩ := ctl_boot hs
  have hlearn : s.learnFlag = 0 := by
    refine (congrArg Ctl.learnFlag hc).trans ?_
    unfold Ctl.boot
    dsimp only
    repeat' split
    · exact (Ctl.warn_learn ..).1
    · exact Ctl.openAs_learnFlag ..
    · rfl
  exact {
    reach := reachable_registryMachine (Machine.Reachable.init ⟨pins, hs⟩)
    timer := fun hl => absurd hlearn hl
    held := hc ▸ Ctl.alarmHeld_boot lastFlag alarm }

/-- A warning in force in learn mode stays there as long as learn mode. -/
theorem LearnInv.learning (h : LearnInv s) (hl : s.learnFlag ≠ 0) (hw : w.InForce s)
    (hs : WaterValve.step rom s a = some s') (hw' : w.InForce s') : s'.learnFlag ≠ 0 := by
  obtain hkeep | hstop | ⟨pins, env, hevent⟩ := learnFlag_step h.reach hl hs
  · exact hkeep
  · have hnormal := normal_of_stopsLearn hstop hs
    exact absurd (hw'.2.symm.trans hnormal.1) hw'.1.priority_ne
  · have hhandles := handles_event hs
    rw [hevent] at hhandles
    cases hhandles with
    | restart hboot =>
        obtain ⟨lastFlag, alarm, hc⟩ := ctl_boot hboot
        have hstatus : s'.nowStatus = (Ctl.boot lastFlag alarm).status := congrArg Ctl.status hc
        obtain ⟨-, hopened, hclose⟩ := hw'.1.status_ne
        rw [hstatus] at hopened hclose
        have halarm := (status_boot lastFlag alarm).resolve_right (not_or.mpr ⟨hopened, hclose⟩)
        rw [← hstatus, ← hw.1.unique hw'.1] at halarm
        exact absurd (h.held halarm).2 hl

/-- **Leaving learn mode drops every warning accepted in it.**  An accepted
warning is in force; from there on, in every run and as long as it is in force,
learn mode goes on and its timer runs, and a handler that executes `Stop_Learn`
changes the status and the priority. -/
theorem learn_end_drops_warning :
    (∀ s status, w.Shows status → s.learnFlag ≠ 0 → s.nowStatusEvent.priority ≤ w.priority →
      w.InForce (warningEnable w s) ∧ (warningEnable w s).learnFlag ≠ 0) ∧
    ∀ s u, (valveMachine rom).Reachable s → s.learnFlag ≠ 0 → w.InForce s →
      ((valveMachine rom).startedIn s).ReachableVia
        (fun t a => ∀ t', step rom t a = some t' → w.InForce t') u →
      w.InForce u ∧ (∃ u', step rom u .learnTimer = some u') ∧
        ∀ a u', StopsLearn u a → step rom u a = some u' →
          u'.nowStatus ≠ u.nowStatus ∧ u'.nowStatusEvent.priority ≠ u.nowStatusEvent.priority := by
  refine ⟨fun s status hshow hl haccept => ?_, fun s u h hl hw hrun => ?_⟩
  · obtain ⟨hforce, hlearn⟩ := inForce_warningEnable hshow haccept
    exact ⟨hforce, hlearn ▸ hl⟩
  · have hinv : LearnInv u ∧ u.learnFlag ≠ 0 ∧ w.InForce u := by
      refine hrun.invariant (I := fun u => LearnInv u ∧ u.learnFlag ≠ 0 ∧ w.InForce u)
        (fun t ht => ?_) fun t a t' hI hok ht => ?_
      · obtain rfl : t = s := ht
        exact ⟨learnInv h, hl, hw⟩
      · obtain ⟨hinv, hlearn, hforce⟩ := hI
        have hforce' := hok t' ht
        exact ⟨hinv.step ht, hinv.learning hlearn hforce ht hforce', hforce'⟩
    obtain ⟨hu, hlearn, hforce⟩ := hinv
    refine ⟨hforce, ⟨_, if_pos (hu.timer hlearn)⟩, fun a u' hstop hs => ?_⟩
    obtain ⟨hpriority, hstatus⟩ := normal_of_stopsLearn hstop hs
    obtain ⟨-, hopened, hclose⟩ := hforce.1.status_ne
    constructor
    · intro hsame
      rw [hsame] at hstatus
      exact hstatus.elim hopened hclose
    · rw [hpriority, hforce.2]
      exact hforce.1.priority_ne.symm

/-- The frost warning is in force when it is shown at its priority. -/
private theorem inForce_ntcWarningEvent (hstatus : s.nowStatus = .ntcWarning)
    (hpriority : s.nowStatusEvent.priority = 2) : ntcWarningEvent.InForce s :=
  ⟨⟨⟨8, rfl⟩, _, rfl, hstatus ▸ rfl⟩, hpriority⟩

/-- The freeze warning is accepted in learn mode, and the probe is scanned: the
learn timer drops the warning. -/
theorem learn_end_drops_warning_ntc : ∃ s u,
    (valveMachine 0).runFrom started [holdK1, .ntcScanTimer true false] = some s ∧
    step 0 s scanDry = some u ∧ ntcWarningEvent.InForce u ∧ ∃ u', step 0 u .learnTimer = some u' ∧
      u'.nowStatus ≠ u.nowStatus ∧ u'.nowStatusEvent.priority ≠ u.nowStatusEvent.priority := by
  have hrun : ((valveMachine 0).runFrom started [holdK1, .ntcScanTimer true false]).map
      (fun s => (s.learnFlag, s.nowStatus, s.nowStatusEvent.priority,
        (step 0 s scanDry).map fun u => (u.nowStatus, u.nowStatusEvent.priority))) =
      some (1, .ntcWarning, 2, some (.ntcWarning, 2)) := by decide +kernel
  obtain ⟨s, hs, hobs⟩ := Option.map_eq_some_iff.mp hrun
  simp only [Prod.mk.injEq, Option.map_eq_some_iff] at hobs
  obtain ⟨hlearn, hstatus, hpriority, u, hu, hstatus', hpriority'⟩ := hobs
  have hreach := started_reachable.runFrom hs
  have hl : s.learnFlag ≠ 0 := by
    rw [hlearn]
    decide
  have hscan : ∀ t', step 0 s scanDry = some t' → ntcWarningEvent.InForce t' := fun t' ht' =>
    Option.some.inj (hu.symm.trans ht') ▸ inForce_ntcWarningEvent hstatus' hpriority'
  obtain ⟨hforce, ⟨u', hu'⟩, hdrops⟩ :=
    (learn_end_drops_warning (w := ntcWarningEvent)).2 s u hreach
    hl (inForce_ntcWarningEvent hstatus hpriority) (.step (.init rfl) hscan hu)
  exact ⟨s, u, hs, hu, hforce, u', hu', hdrops _ _ (.inl rfl) hu'⟩

/-- The sensor freezes in learn mode, and the learn timer expires: the freeze
warning is gone. -/
theorem not_learn_end_keeps_warning : ∃ s s' s'', (valveMachine 0).Reachable s ∧ s.learnFlag = 1 ∧
    step 0 s (.ntcScanTimer true false) = some s' ∧ s'.nowStatus = .ntcWarning ∧
    s'.nowStatusEvent.priority = 2 ∧ step 0 s' .learnTimer = some s'' ∧ s''.nowStatus = .close ∧
    s''.nowStatusEvent.priority = 0 := by
  have hrun : (((valveMachine 0).runFrom started [holdK1]).bind fun s =>
      (step 0 s (.ntcScanTimer true false)).bind fun s' => (step 0 s' .learnTimer).map fun s'' =>
        (s.learnFlag, s'.nowStatus, s'.nowStatusEvent.priority, s''.nowStatus,
          s''.nowStatusEvent.priority)) = some (1, .ntcWarning, 2, .close, 0) := by decide +kernel
  obtain ⟨s, hs, hrun⟩ := Option.bind_eq_some_iff.mp hrun
  obtain ⟨s', hs', hrun⟩ := Option.bind_eq_some_iff.mp hrun
  obtain ⟨s'', hs'', hobs⟩ := Option.map_eq_some_iff.mp hrun
  simp only [Prod.mk.injEq] at hobs
  obtain ⟨hlearn, hstatus, hpriority, hstatus', hpriority'⟩ := hobs
  exact ⟨s, s', s'', started_reachable.runFrom hs, hlearn, hs', hstatus, hpriority, hs'', hstatus',
    hpriority'⟩

end WaterValve
