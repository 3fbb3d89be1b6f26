import WaterValve.AlarmOwner

/-!
# WaterValve.RemoteClose

Closing from a distance.  The close command of a node is acknowledged before
the source looks at the status, and is executed only when no warning is shown:
`close_command_closes_iff` says when an acknowledged close leaves the valve
closed.  A remote close locks the open key twice, in `Last_Close_Flag` and in
`LastFlag`; the two agree as long as the gateway opens only after the first is
clear (`key_locked_by_remote_close`).
-/

namespace WaterValve

/-! ## the close command -/

variable {rom : UInt32} {s s' : State} {a : Action}

/-- The alarm of the device is the only one. -/
def LastAlarm (deviceID : UInt32) (s : State) : Prop :=
  s.globalDevice.slaveAlarm (s.slotOf deviceID) ≠ 0 ∧
    ∀ i, 0 < i → s.globalDevice.slaveAlarm i ≠ 0 → i = s.slotOf deviceID

/-- After the alarm of the device is turned off, the flag tells of the others. -/
private theorem lastAlarm_iff {deviceID : UInt32} (hwf : s.Wf) (hs : s.slotOf deviceID ≠ 0) :
    LastAlarm deviceID s ↔ s.flashGetSlaveAlarmFlag ≠ 0 ∧
      (s.flashSetSlaveAlarmFlag deviceID 0).2.flashGetSlaveAlarmFlag = 0 := by
  have honly : OnlyDevice deviceID _ s.toStorage (s.flashSetSlaveAlarmFlag deviceID 0).2 :=
    onlyDevice_flashSetSlaveAlarmFlag 0
  have hwf' := hwf.onlyDevice honly
  have hflag' : (s.flashSetSlaveAlarmFlag deviceID 0).2.flashGetSlaveAlarmFlag = 0 ↔
      ∀ i, 0 < i → i ≠ s.slotOf deviceID → s.globalDevice.slaveAlarm i = 0 := by
    rw [← not_iff_not]
    change (s.flashSetSlaveAlarmFlag deviceID 0).2.flashGetSlaveAlarmFlag ≠ 0 ↔ _
    rw [hwf'.alarmFlag_iff, slaveAlarm_set hs]
    push Not
    refine exists_congr fun i => and_congr_right fun _ => ?_
    by_cases his : i = s.slotOf deviceID
    · subst his
      simp
    · rw [Function.update_of_ne his]
      exact ⟨fun h => ⟨his, h⟩, fun h => h.2⟩
  rw [hflag', hwf.alarmFlag_iff, LastAlarm]
  constructor
  · rintro ⟨halarm, honlyAlarm⟩
    refine ⟨⟨_, Nat.pos_of_ne_zero hs, halarm⟩, fun i h0 hne => ?_⟩
    by_contra hi
    exact hne (honlyAlarm i h0 hi)
  · rintro ⟨⟨i, h0, halarm⟩, hothers⟩
    have hslot : ∀ j, 0 < j → s.globalDevice.slaveAlarm j ≠ 0 → j = s.slotOf deviceID := by
      intro j hj hne
      by_contra hj'
      exact hne (hothers j hj hj')
    exact ⟨hslot i h0 halarm ▸ halarm, hslot⟩

/-- Clearing the alarm of a device ends the warning with the last alarm. -/
private theorem ctl_clearSlaveAlarm_cases {buf : Message} (hwf : s.Wf)
    (hs : s.slotOf buf.fromID.toUInt32 ≠ 0) :
    LastAlarm buf.fromID.toUInt32 s ∧
        ctl (clearSlaveAlarm buf s) = { ctl s with alarm := false }.disable ∨
      ¬LastAlarm buf.fromID.toUInt32 s ∧ ctl (clearSlaveAlarm buf s) = ctl s := by
  rw [lastAlarm_iff hwf hs]
  unfold clearSlaveAlarm
  by_cases halarm : s.flashGetSlaveAlarmFlag ≠ 0
  · rw [if_pos halarm]
    have hset := ctl_flashSetSlaveAlarmFlag buf.fromID.toUInt32 0 s
    have hbefore : (ctl s).alarm = true := decide_eq_true halarm
    dsimp only
    split
    · rename_i hzero
      refine .inl ⟨⟨halarm, hzero⟩, ?_⟩
      rw [ctl_warningDisable, hset, hzero]
      rfl
    · rename_i hmore
      refine .inr ⟨fun h => hmore h.2, ?_⟩
      rw [hset, decide_eq_true hmore, ← hbefore]
  · rw [if_neg halarm]
    exact .inr ⟨fun h => halarm h.1, rfl⟩

private theorem Ctl.valve_closeAs_otherOff (c : Ctl) : (c.closeAs otherOff).valve = 0 := by
  simp [closeAs]

/-- **The close command** closes in the normal status, and after the last
alarm. -/
private theorem valve_nodeClose_iff {buf : Message} (hwf : s.Wf)
    (hs : s.slotOf buf.fromID.toUInt32 ≠ 0) :
    (nodeClose buf s).valveStatus = 0 ↔ s.valveStatus = 0 ∨ s.nowStatus = .opened ∨
      s.nowStatus = .close ∨ LastAlarm buf.fromID.toUInt32 s := by
  have hq := queueOnly_radioEnqueue buf.fromID.toUInt32 (toU8 buf.counter) 6 0 s
  have hst := hq.toStorage
  have hctl : ctl (radioEnqueue buf.fromID.toUInt32 (toU8 buf.counter) 6 0 s) = ctl s := hq.ctl
  have hlast : LastAlarm buf.fromID.toUInt32
      (radioEnqueue buf.fromID.toUInt32 (toU8 buf.counter) 6 0 s) ↔
      LastAlarm buf.fromID.toUInt32 s := by rw [LastAlarm, hst, LastAlarm]
  have hcases := ctl_clearSlaveAlarm_cases (hst ▸ hwf) (hst ▸ hs)
  rw [hlast, hctl] at hcases
  unfold nodeClose
  dsimp only
  generalize clearSlaveAlarm buf (radioEnqueue buf.fromID.toUInt32 (toU8 buf.counter) 6 0 s) = t
    at hcases ⊢
  have hvalve : t.valveStatus = s.valveStatus := by
    obtain ⟨-, h⟩ | ⟨-, h⟩ := hcases <;> exact congrArg Ctl.valve h
  have hnormal : (t.nowStatus = .opened ∨ t.nowStatus = .close) ↔
      s.nowStatus = .opened ∨ s.nowStatus = .close ∨ LastAlarm buf.fromID.toUInt32 s := by
    obtain ⟨hl, h⟩ | ⟨hl, h⟩ := hcases
    · have hstatus := { ctl s with priority := 0, alarm := false }.backToNormal_status
      have ht : t.nowStatus = _ := congrArg Ctl.status h
      rw [ht]
      tauto
    · have ht : t.nowStatus = s.nowStatus := congrArg Ctl.status h
      rw [ht]
      tauto
  have hreport : ∀ u, (reportValve buf u).valveStatus = u.valveStatus :=
    fun u => congrArg Ctl.valve (ctl_reportValve buf u)
  rw [← hnormal, hreport]
  by_cases hclose : t.nowStatus = .opened ∨ t.nowStatus = .close
  · have hclosed :
        (motoClose otherOff { warningDisable t with lastCloseFlag := 1 }).valveStatus = 0 :=
      (congrArg Ctl.valve (ctl_motoClose ..)).trans (Ctl.valve_closeAs_otherOff _)
    rw [if_pos hclose]
    exact ⟨fun _ => .inr hclose, fun _ => hclosed⟩
  · rw [if_neg hclose, hvalve]
    tauto

/-- After the command the frame leaves the valve alone. -/
private theorem valve_dataSolve {buf : Message} (h6 : buf.command = 6) (s : State) :
    (dataSolve buf s).valveStatus = (nodeClose buf s).valveStatus := by
  have hcommand : dataSolveCommand buf s = nodeClose buf s := by simp [dataSolveCommand, h6]
  obtain ⟨t, ht, hsolve⟩ := ctl_dataSolve buf s
  rw [hcommand] at ht
  have hreact : (ctl (offlineReact t)).valve = (ctl t).valve := by
    obtain h | ⟨-, h⟩ := ctl_offlineReact t <;> rw [h]
    rfl
  rw [← ctl_valve, ← ctl_valve, hsolve, hreact, ht]

/-- **When an acknowledged close closes the valve**: the valve was closed
already, or no warning is shown, or the sender's alarm is the last one and
takes the warning with it. -/
theorem close_command_closes_iff {deviceID : UInt32} (h : (valveMachine rom).Reachable s)
    (hlearn : s.learnFlag = 0) (hclose : (event s a).ClosesFrom deviceID)
    (hs : step rom s a = some s') :
    s'.valveStatus = 0 ↔ s.valveStatus = 0 ∨ s.nowStatus = .opened ∨ s.nowStatus = .close ∨
      LastAlarm deviceID s := by
  have hwf : s.Wf := valveMachine_wf h
  have hevent := handles_event hs
  generalize event s a = e at hevent hclose
  cases hevent with
  | quiet | hour | restart | delayEnds | sent | gateway => exact hclose.elim
  | learn haccept hlearn' => exact absurd hlearn hlearn'
  | @solve rssi buf haccept =>
      obtain ⟨h6, rfl⟩ := hclose
      have honly := onlyDevice_heardFrom rssi buf.fromID.toUInt32 s
      have hslot := honly.slotOf buf.fromID.toUInt32
      have hs0 : s.slotOf buf.fromID.toUInt32 ≠ 0 :=
        Storage.flashGetKeyValid_eq_ok.mp (haccept.2.resolve_left (not_not.mpr hlearn))
      have hctl := ctl_heardFrom rssi buf.fromID.toUInt32 s
      have hvalve : (heardFrom rssi buf.fromID.toUInt32 s).valveStatus = s.valveStatus :=
        congrArg Ctl.valve hctl
      have hstatus : (heardFrom rssi buf.fromID.toUInt32 s).nowStatus = s.nowStatus :=
        congrArg Ctl.status hctl
      rw [valve_dataSolve h6, valve_nodeClose_iff (hwf.onlyDevice honly)
        (hslot ▸ hs0), hvalve, hstatus, LastAlarm, hslot, slaveAlarm_heardFrom, LastAlarm]

/-- A learned device closes the open valve. -/
theorem close_command_closes_learned : ∃ s s',
    (valveMachine 0).runFrom started (learnDevice 10000001) = some s ∧
      step 0 s (nodeRx 10000001 6 0) = some s' ∧ s'.valveStatus = 0 := by
  have hrun : ((valveMachine 0).runFrom started (learnDevice 10000001)).map
      (fun s => (s.learnFlag, s.nowStatus,
        decide ((event s (nodeRx 10000001 6 0)).ClosesFrom 10000001))) =
      some (0, .opened, true) := by decide +kernel
  obtain ⟨s, hs, hobs⟩ := Option.map_eq_some_iff.mp hrun
  generalize nodeRx 10000001 6 0 = a at hobs ⊢
  simp only [Prod.mk.injEq, decide_eq_true_eq] at hobs
  obtain ⟨hlearn, hstatus, hclose⟩ := hobs
  obtain ⟨s', hs'⟩ : ∃ s', step 0 s a = some s' := exists_step_of_closesFrom hclose
  exact ⟨s, s', hs, hs', (close_command_closes_iff (started_reachable.runFrom hs) hlearn hclose
    hs').mpr (.inr (.inl hstatus))⟩

/-- The probe of the master is unplugged, which leaves the valve open; the
close command is answered with (6, 0), and the valve stays open. -/
theorem not_close_command_closes : ∃ s s', (valveMachine 0).Reachable s ∧ s.learnFlag = 0 ∧
    (event s (nodeRx 10000001 6 0)).ClosesFrom 10000001 ∧
      step 0 s (nodeRx 10000001 6 0) = some s' ∧ s'.valveStatus = 1 ∧
        s'.rfEnMq.head? = some { tagetID := 10000001, counter := 1, command := 6 } := by
  have hrun : ((valveMachine 0).runFrom started (learnDevice 10000001 ++ [scanLost])).bind
      (fun s => (step 0 s (nodeRx 10000001 6 0)).bind fun s' => s'.rfEnMq.head?.map fun m =>
        (s.learnFlag, decide ((event s (nodeRx 10000001 6 0)).ClosesFrom 10000001),
          s'.valveStatus, m)) =
      some (0, true, 1, { tagetID := 10000001, counter := 1, command := 6 }) := by decide +kernel
  obtain ⟨s, hs, hstep⟩ := Option.bind_eq_some_iff.mp hrun
  obtain ⟨s', hs', hhead⟩ := Option.bind_eq_some_iff.mp hstep
  obtain ⟨m, hm, hobs⟩ := Option.map_eq_some_iff.mp hhead
  generalize nodeRx 10000001 6 0 = a at hobs hs' ⊢
  simp only [Prod.mk.injEq, decide_eq_true_eq] at hobs
  obtain ⟨hlearn, hclose, hvalve, rfl⟩ := hobs
  exact ⟨s, s', started_reachable.runFrom hs, hlearn, hclose, hs', hvalve, hm⟩

/-! ## the two locks of the open key -/

namespace Ctl

variable {c c' : Ctl}

/-- `Last_Close_Flag` is set only after a remote close. -/
def KeyLocked (c : Ctl) : Prop := c.lastClose ≠ 0 → c.lastFlag = otherOff

/-- An opening that is not remote is refused while the key is locked. -/
theorem KeyLocked.openAs (h : c.KeyLocked) {actFlag : UInt8} (hf : actFlag ≠ otherOpen) :
    (c.openAs actFlag).KeyLocked := by
  unfold Ctl.openAs
  split
  · exact h
  · rename_i hopen
    exact fun hlast => absurd ⟨h hlast, hf⟩ hopen

theorem KeyLocked.closeAs (h : c.KeyLocked) (actFlag : UInt8) : (c.closeAs actFlag).KeyLocked := by
  unfold Ctl.closeAs
  split
  · exact h
  · rename_i hclose
    intro hlast
    by_contra hf
    exact hclose ⟨h hlast, hf⟩

/-- A remote close locks. -/
theorem lastFlag_closeAs_otherOff (c : Ctl) : (c.closeAs otherOff).lastFlag = otherOff := by
  simp [Ctl.closeAs]

theorem KeyLocked.call (h : c.KeyLocked) (callback : WarningCallback) :
    (c.call callback).KeyLocked := by
  cases callback with
  | slaverLowBatteryWarning | masterLostPeakWarning | moto1FailCallback | moto2FailCallback =>
      exact h
  | slaverUltraLowBatteryWarning | slaverWaterAlarmWarning => exact h.closeAs otherOff
  | masterWaterAlarmWarning | ntcWarningEventCallback => exact h.closeAs normalOff
  | offlineWarning =>
      simp only [Ctl.call]
      split
      · exact h.closeAs normalOff
      · exact h

theorem KeyLocked.warn (h : c.KeyLocked) (event : WariningEvent) : (c.warn event).KeyLocked := by
  have hpriority : KeyLocked { c with priority := event.priority } := h
  unfold Ctl.warn
  split
  · cases event.callback with
    | none => exact h
    | some callback => exact hpriority.call callback
  · exact h

theorem KeyLocked.peak (h : c.KeyLocked) (status : Nat) : (c.peak status).KeyLocked := by
  unfold Ctl.peak
  split
  · exact h
  · split
    · split <;> exact h
    · exact h.warn _
    · exact h.warn _
    · exact h
    · exact h.warn _
    · exact h

theorem KeyLocked.scan (h : c.KeyLocked) (reading : UInt8) : (c.scan reading).KeyLocked := by
  have hscan := c.scanned_scan reading
  generalize c.scan reading = c' at hscan ⊢
  cases hscan with
  | idle | dries | driesLearning | wetLost => exact h
  | lost => exact h.peak 1
  | wet => exact h.peak 2
  | back => exact h.peak 0

theorem keyLocked_boot (lastFlag : UInt8) (alarm : Bool) : (boot lastFlag alarm).KeyLocked := by
  have hreset : (reset lastFlag alarm).KeyLocked := fun hlast => absurd rfl hlast
  unfold boot
  dsimp only
  repeat' split
  · exact hreset.warn _
  · exact hreset.openAs (by decide)
  · exact hreset

/-- Every transition keeps the locks together, an open command of the gateway
when `Last_Close_Flag` is clear. -/
theorem KeyLocked.step {ok : Special → Ctl → Prop} (h : c.KeyLocked) (hs : CtlStep ok c c')
    (hopen : ok .gatewayOpens c → c.lastClose = 0) : c'.KeyLocked := by
  cases hs with
  | remoteOpen hstatus hok =>
      intro hlast
      have hkeep : (c.openAs otherOpen).lastClose = c.lastClose := by
        unfold Ctl.openAs
        split <;> rfl
      exact absurd (hkeep.trans (hopen hok)) hlast
  | remoteClose => exact h.closeAs otherOff
  | nodeOpen => exact fun hlast => absurd rfl hlast
  | nodeClose => exact fun _ => lastFlag_closeAs_otherOff _
  | keyOpen => exact h.openAs (by decide)
  | lostPeakOpens =>
      have hopened : KeyLocked { c with status := .opened } := h
      exact hopened.openAs (by decide)
  | keyClose =>
      have hclear : KeyLocked { c with lastClose := 0 } := fun hlast => absurd rfl hlast
      exact hclear.closeAs normalOff
  | lostPeakCloses => exact h.closeAs normalOff
  | dismiss | factoryKey | startLearn | stopLearn | learning | slaveDry | delayStart | delayStop
  | online => exact h
  | scan reading => exact h.scan reading
  | freeze cold =>
      have hstored : KeyLocked { c with ntcState := c.valve } := h
      unfold Ctl.freeze
      split
      · exact hstored.warn _
      · exact h
  | thaw warm =>
      have hdisabled : c.disable.KeyLocked := h
      unfold Ctl.thaw
      repeat' split
      · exact hdisabled.openAs (by decide)
      · exact hdisabled.closeAs normalOff
      · exact h
  | warnOffline | warnMoto1 | warnMoto2 | ultraLow | lowBattery => exact h.warn _
  | slaveWater =>
      have halarm : KeyLocked { c with alarm := true } := h
      split
      · exact halarm.warn _
      · exact h
  | delayExpires =>
      have hstopped : KeyLocked { c with delay := false } := h
      exact hstopped.closeAs otherOff
  | boot lastFlag alarm => exact keyLocked_boot lastFlag alarm

end Ctl

/-- The gateway opens the valve only while `Last_Close_Flag` is clear. -/
def OpensUnlocked (s : State) (a : Action) : Prop :=
  ∀ buf, event s a = .gateway buf → GatewayOpens buf s → s.lastCloseFlag = 0

private theorem exists_event_of_gatewayOpenFrame (h : GatewayOpenFrame s a) :
    ∃ buf, event s a = .gateway buf ∧ GatewayOpens buf s := by
  obtain ⟨rxMessage, rssi, buffer, len, rfl, hgateway, hend, htarget, hvalid, hopens⟩ := h
  refine ⟨_, ?_, hopens⟩
  rw [event, frameEvent, if_neg (by rw [hgateway]; decide), if_pos hgateway,
    if_pos ⟨hend, htarget, hvalid⟩]

/-- **The open key is locked only by a remote close**, in every run whose steps
meet `OpensUnlocked`: a closed valve with `Last_Close_Flag` set was closed
remotely, and one that was not is opened by `K0`. -/
theorem key_locked_by_remote_close (h : (valveMachine rom).ReachableVia OpensUnlocked s)
    (hclose : s.nowStatus = .close) :
    (s.lastCloseFlag = 1 → s.globalDevice.lastFlag = otherOff) ∧
      (s.globalDevice.lastFlag ≠ otherOff → ∀ k0Long k1 k1Long k0k1 pins, ∃ s',
        step rom s (.keyReponse ⟨true, k0Long, k1, k1Long, k0k1⟩ pins) = some s' ∧
          s'.nowStatus = .opened ∧ s'.valveStatus = 1) := by
  have hlocked : (ctl s).KeyLocked := ctl_invariant
    (fun special c => special = .gatewayOpens → c.lastClose = 0) h
    (fun s a special hok hocc hsp => by
      subst hsp
      obtain ⟨buf, hevent, hopens⟩ := exists_event_of_gatewayOpenFrame hocc
      exact hok buf hevent hopens)
    Ctl.keyLocked_boot (fun c c' hc hs => hc.step hs fun hok => hok rfl)
  refine ⟨fun h1 => hlocked (by rw [show (ctl s).lastClose = s.lastCloseFlag from rfl, h1]; decide),
    fun hoff k0Long k1 k1Long k0k1 pins => ⟨keyOn s, rfl, ?_⟩⟩
  have hclear : s.lastCloseFlag = 0 := by
    by_contra hlast
    exact hoff (hlocked hlast)
  have hkey : keyOn s = motoOpen normalOpen s := by
    unfold keyOn
    rw [hclose]
    exact if_pos hclear
  have hopened : ctl (keyOn s) =
      { ctl s with status := .opened, valve := 1, lastFlag := normalOpen, delay := false } := by
    rw [hkey, ctl_motoOpen, Ctl.openAs, if_neg fun h => hoff h.1]
  exact ⟨congrArg Ctl.status hopened, congrArg Ctl.valve hopened⟩

/-- Closed by `K1`, opened by `K0`. -/
theorem key_locked_by_remote_close_keys : ∃ s s',
    (valveMachine 0).runFrom started [pressK1] = some s ∧ s.nowStatus = .close ∧
      step 0 s pressK0 = some s' ∧ s'.valveStatus = 1 := by
  have hkeep : ∀ a ∈ [pressK1], ∀ s, OpensUnlocked s a := by
    intro a ha s buf hevent
    rw [List.mem_singleton.mp ha, pressK1, event] at hevent
    split at hevent <;> cases hevent
  have hrun : ((valveMachine 0).runFrom started [pressK1]).map
      (fun s => (s.nowStatus, s.globalDevice.lastFlag)) = some (.close, normalOff) := by
    decide +kernel
  obtain ⟨s, hs, hobs⟩ := Option.map_eq_some_iff.mp hrun
  simp only [Prod.mk.injEq] at hobs
  have hinit : (valveMachine 0).ReachableVia OpensUnlocked started := .init ⟨dryPins, boot_started⟩
  obtain ⟨s', hs', -, hvalve⟩ := (key_locked_by_remote_close (hinit.runFrom hkeep hs) hobs.1).2
    (by rw [hobs.2]; decide) false false false false dryPins
  exact ⟨s, s', hs, hobs.1, hs', hvalve⟩

/-- The gateway opens what a node has closed, the master alarm closes, and `K1`
dismisses it: `K0` is locked although nothing has closed the valve remotely. -/
theorem not_key_locked_by_remote_close : ∃ s, (valveMachine 0).Reachable s ∧
    s.nowStatus = .close ∧ s.lastCloseFlag = 1 ∧ s.globalDevice.lastFlag = normalOff ∧
      ∃ s', step 0 s pressK0 = some s' ∧ s'.valveStatus = 0 := by
  have hrun : ((valveMachine 0).runFrom started (learnDevice 10000001 ++ learnDevice 40000001 ++
      [nodeRx 10000001 6 0, gatewayRx 40000001 0 2 1, scanWet, scanDry, pressK1])).bind
      (fun s => (step 0 s pressK0).map fun s' =>
        (s.nowStatus, s.lastCloseFlag, s.globalDevice.lastFlag, s'.valveStatus)) =
      some (.close, 1, normalOff, 0) := by decide +kernel
  obtain ⟨s, hs, hstep⟩ := Option.bind_eq_some_iff.mp hrun
  obtain ⟨s', hs', hobs⟩ := Option.map_eq_some_iff.mp hstep
  simp only [Prod.mk.injEq] at hobs
  obtain ⟨hstatus, hlast, hflag, hvalve⟩ := hobs
  exact ⟨s, started_reachable.runFrom hs, hstatus, hlast, hflag, s', hs', hvalve⟩

end WaterValve
