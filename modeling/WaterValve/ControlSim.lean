import WaterValve.Control
import WaterValve.SystemRegistry

/-!
# WaterValve.ControlSim

The firmware refines the control core: `ctl` reads the control variables off a
state, each function of the source acts on them as its counterpart in
`WaterValve.Control` does (`ctl_<function>`), and each handler is a run of
`CtlStep` (`ctl_step`).
-/

namespace WaterValve

/-- The control variables of a state. -/
def ctl (s : State) : Ctl where
  status := s.nowStatus
  priority := s.nowStatusEvent.priority
  valve := s.valveStatus
  lastFlag := s.globalDevice.lastFlag
  delay := s.delayTimer
  learnFlag := s.learnFlag
  learnTimer := s.learnTimer
  past := s.warningPastStatus
  handled := s.warningStatus
  alarm := s.flashGetSlaveAlarmFlag ≠ 0
  lastClose := s.lastCloseFlag
  ntcState := s.ntcState

variable {s s' : State}

/-! ## the control variables one by one -/

section

variable (s : State)

/-- The status as the control core has it. -/
theorem ctl_status : (ctl s).status = s.nowStatus := rfl

theorem ctl_valve : (ctl s).valve = s.valveStatus := rfl

theorem ctl_setStatus (status : DeviceStatus) :
    ctl { s with nowStatus := status } = { ctl s with status := status } := rfl

theorem ctl_setDelayTimer (delayTimer : Bool) :
    ctl { s with delayTimer := delayTimer } = { ctl s with delay := delayTimer } := rfl

theorem ctl_setLearnTimer (learnTimer : Bool) :
    ctl { s with learnTimer := learnTimer } = { ctl s with learnTimer := learnTimer } := rfl

theorem ctl_setLastCloseFlag (lastCloseFlag : UInt8) :
    ctl { s with lastCloseFlag := lastCloseFlag } = { ctl s with lastClose := lastCloseFlag } :=
  rfl

end

/-! ## the transmit queue -/

/-- A message that is sent is not seen by the control core. -/
theorem QueueOnly.ctl (h : QueueOnly s s') : ctl s' = WaterValve.ctl s := by
  obtain ⟨mq, rfl⟩ := h
  rfl

/-- Nor is the device list. -/
theorem SyncOnly.ctl (h : SyncOnly s s') : ctl s' = WaterValve.ctl s := by
  obtain ⟨mq, n, t, rfl⟩ := h
  rfl

/-- Nor is a self-test: the core has the position of the valve, not its outputs. -/
theorem TestOnly.ctl (h : TestOnly s s') : ctl s' = WaterValve.ctl s := by
  obtain ⟨t, rfl⟩ := h
  rfl

section

variable (ack counter command data rssi warnId value : UInt8) (deviceId : UInt32) (s : State)

@[simp] theorem ctl_radioEnqueue : ctl (radioEnqueue deviceId counter command data s) = ctl s :=
  (queueOnly_radioEnqueue ..).ctl

@[simp] theorem ctl_gatewaySyncEnqueue :
    ctl (gatewaySyncEnqueue ack command deviceId rssi data s) = ctl s :=
  (queueOnly_gatewaySyncEnqueue ..).ctl

@[simp] theorem ctl_warUploadGW : ctl (warUploadGW ack deviceId warnId value s) = ctl s :=
  (queueOnly_warUploadGW ..).ctl

@[simp] theorem ctl_controlUploadGW : ctl (controlUploadGW ack deviceId command value s) = ctl s :=
  (queueOnly_controlUploadGW ..).ctl

@[simp] theorem ctl_replaceDoor : ctl (replaceDoor deviceId s) = ctl s :=
  (queueOnly_replaceDoor ..).ctl

end

/-! ## the valve -/

/-- After a remote close only a remote open may open. -/
theorem mayOpen_iff (actFlag : UInt8) (s : State) :
    mayOpen actFlag s ↔ ¬((ctl s).lastFlag = otherOff ∧ actFlag ≠ otherOpen) := by
  unfold mayOpen
  show (s.globalDevice.lastFlag = otherOff ∧ _) ∨ s.globalDevice.lastFlag ≠ otherOff ↔
    ¬(s.globalDevice.lastFlag = otherOff ∧ _)
  tauto

/-- `Moto_InitOpen` leaves the delay timer alone, which does not run then. -/
theorem ctl_motoInitOpen (actFlag : UInt8) (hd : s.delayTimer = false) :
    ctl (motoInitOpen actFlag s) = (ctl s).openAs actFlag := by
  unfold motoInitOpen Ctl.openAs
  by_cases hm : mayOpen actFlag s
  · rw [if_pos hm, if_neg ((mayOpen_iff actFlag s).mp hm)]
    exact congrArg (fun delay => { ctl s with
      status := .opened, valve := 1, lastFlag := actFlag, delay := delay }) hd
  · rw [if_neg hm, if_pos (not_not.mp (mt (mayOpen_iff actFlag s).mpr hm))]

/-- An opening of the code is one of the core. -/
theorem ctl_motoOpen (actFlag : UInt8) (s : State) :
    ctl (motoOpen actFlag s) = (ctl s).openAs actFlag := by
  unfold motoOpen Ctl.openAs
  by_cases hm : mayOpen actFlag s
  · rw [if_pos hm, if_neg ((mayOpen_iff actFlag s).mp hm)]
    by_cases hf : actFlag = normalOpen
    · obtain ⟨mq, hmq⟩ := queueOnly_controlUploadGW 1 0 1 1
        (writeTurns true (setLastFlag actFlag { s with nowStatus := .opened, valveStatus := 1 }))
      simp only [if_pos hf, hmq]
      rfl
    · simp only [if_neg hf]
      rfl
  · rw [if_neg hm, if_pos (not_not.mp (mt (mayOpen_iff actFlag s).mpr hm))]

/-- So is a close, in both of its branches. -/
theorem ctl_motoClose (actFlag : UInt8) (s : State) :
    ctl (motoClose actFlag s) = (ctl s).closeAs actFlag := by
  have hlast : (ctl s).lastFlag = s.globalDevice.lastFlag := rfl
  unfold motoClose Ctl.closeAs
  rw [hlast]
  by_cases hoff : s.globalDevice.lastFlag = otherOff
  · rw [if_neg (not_not.mpr hoff)]
    by_cases hf : actFlag = otherOff
    · rw [if_pos ⟨hoff, hf⟩, if_neg (by simp [hf]), hf, ← hoff]
      rfl
    · rw [if_neg (by simp [hf]), if_pos ⟨hoff, hf⟩]
  · rw [if_pos hoff, if_neg (by simp [hoff])]
    by_cases hf : actFlag = normalOff
    · obtain ⟨mq, hmq⟩ := queueOnly_controlUploadGW 1 0 1 0
        (setLastFlag actFlag { s with nowStatus := .close, valveStatus := 0 })
      simp only [if_pos hf, hmq]
      rfl
    · simp only [if_neg hf]
      rfl

/-! ## the warnings and the probe -/

theorem ctl_warningDisable (s : State) : ctl (warningDisable s) = (ctl s).disable := rfl

/-- Each warning does to the core what its callback does. -/
theorem ctl_call (callback : WarningCallback) (s : State) :
    ctl (callback.run s) = (ctl s).call callback := by
  cases callback with
  | slaverLowBatteryWarning => rfl
  | slaverUltraLowBatteryWarning | slaverWaterAlarmWarning | masterLostPeakWarning
  | masterWaterAlarmWarning | ntcWarningEventCallback | moto1FailCallback | moto2FailCallback =>
      simp only [WarningCallback.run, Ctl.call, ctl_setStatus, ctl_warUploadGW, ctl_motoClose]
  | offlineWarning =>
      simp only [WarningCallback.run, Ctl.call, ctl_status]
      by_cases hoffline : s.nowStatus = .offline
      · simp only [hoffline, ne_eq, not_true_eq_false, if_false]
      · simp only [hoffline, ne_eq, not_false_eq_true, if_true, ctl_setStatus, ctl_motoClose]

/-- The priorities are compared alike. -/
theorem ctl_warningEnable (event : WariningEvent) (s : State) :
    ctl (warningEnable event s) = (ctl s).warn event := by
  unfold warningEnable Ctl.warn
  rw [show (ctl s).priority = s.nowStatusEvent.priority from rfl]
  split
  · cases event.callback with
    | none => rfl
    | some callback => exact ctl_call callback _
  · rfl

/-- A transition of the probe, as the core has it. -/
theorem ctl_warningWithPeak (status : Nat) (s : State) :
    ctl (warningWithPeak status s) = (ctl s).peak status := by
  have hlearn : detectLearn s = true ↔ (ctl s).status ≠ .learn := by simp [detectLearn, ctl]
  unfold warningWithPeak Ctl.peak
  by_cases hl : (ctl s).status = .learn
  · rw [if_neg (by rw [hlearn]; exact not_not.mpr hl), if_pos hl]
  · rw [if_pos (hlearn.mpr hl), if_neg hl]
    match status with
    | 0 =>
      obtain ⟨mq, hmq⟩ := queueOnly_warUploadGW 1 0 3 0 s
      simp only [hmq]
      rw [ctl_status]
      split <;> rfl
    | 1 => exact ctl_warningEnable _ s
    | 2 => exact ctl_warningEnable _ s
    | 3 => rfl
    | 4 => exact ctl_warningEnable _ s
    | _ + 5 => rfl

/-- The warnings leave the reading of the scan alone. -/
private theorem warningNowStatus_motoClose (actFlag : UInt8) (s : State) :
    (motoClose actFlag s).warningNowStatus = s.warningNowStatus := by
  unfold motoClose
  split
  · by_cases hf : actFlag = normalOff
    · obtain ⟨mq, hmq⟩ := queueOnly_controlUploadGW 1 0 1 0
        (setLastFlag actFlag { s with nowStatus := .close, valveStatus := 0 })
      simp only [if_pos hf, hmq]
      rfl
    · simp only [if_neg hf]
      rfl
  · split <;> rfl

/-- A message is no reading. -/
private theorem warningNowStatus_warUploadGW (ack warnId value : UInt8) (deviceId : UInt32)
    (s : State) :
    (warUploadGW ack deviceId warnId value s).warningNowStatus = s.warningNowStatus := by
  obtain ⟨mq, hmq⟩ := queueOnly_warUploadGW ack deviceId warnId value s
  rw [hmq]

/-- No callback reads the probe. -/
private theorem warningNowStatus_call (callback : WarningCallback) (s : State) :
    (callback.run s).warningNowStatus = s.warningNowStatus := by
  cases callback with
  | slaverLowBatteryWarning => rfl
  | slaverUltraLowBatteryWarning | slaverWaterAlarmWarning | masterWaterAlarmWarning
  | ntcWarningEventCallback | masterLostPeakWarning | moto1FailCallback | moto2FailCallback =>
      simp only [WarningCallback.run, warningNowStatus_warUploadGW, warningNowStatus_motoClose]
  | offlineWarning =>
      simp only [WarningCallback.run]
      split
      · exact warningNowStatus_motoClose _ _
      · rfl

/-- Nor does a warning that is accepted. -/
private theorem warningNowStatus_warningEnable (event : WariningEvent) (s : State) :
    (warningEnable event s).warningNowStatus = s.warningNowStatus := by
  unfold warningEnable
  split
  · cases event.callback with
    | none => rfl
    | some callback => exact warningNowStatus_call callback _
  · rfl

/-- A transition to status 0 ends the warnings, which sets the reading to 0; it is 0
already. -/
private theorem warningNowStatus_warningWithPeak (status : Nat)
    (h : status = 0 → s.warningNowStatus = 0) :
    (warningWithPeak status s).warningNowStatus = s.warningNowStatus := by
  unfold warningWithPeak
  split
  · split
    · dsimp only
      split
      · exact (h rfl).symm
      · exact warningNowStatus_warUploadGW _ _ _ _ s
    · exact warningNowStatus_warningEnable _ s
    · exact warningNowStatus_warningEnable _ s
    · rfl
    · exact warningNowStatus_warningEnable _ s
    · rfl
  · rfl

/-- A transition that is handled to its end. -/
private theorem ctl_peakHandled (status : Nat) (handled : UInt8) (s : State)
    (h : status = 0 → s.warningNowStatus = 0) :
    ctl (peakHandled handled (warningWithPeak status s)) =
      { (ctl s).peak status with past := s.warningNowStatus, handled := handled } := by
  show { ctl (warningWithPeak status s) with
    past := (warningWithPeak status s).warningNowStatus, handled := handled } = _
  rw [ctl_warningWithPeak, warningNowStatus_warningWithPeak status h]

/-- A branch of the source is the branch of the control core on the same
condition. -/
private theorem ctl_ite {b c : Prop} [Decidable b] [Decidable c] {u v : Ctl} (hbc : b = c)
    (h : b → ctl s = u) (h' : ¬b → ctl s' = v) :
    ctl (if b then s else s') = if c then u else v := by
  subst hbc
  by_cases hb : b
  · rw [if_pos hb, if_pos hb, h hb]
  · rw [if_neg hb, if_neg hb, h' hb]

/-- The scan of the code is that of the core, transition by transition. -/
theorem ctl_waterscanTimerCallback (pins : Pins) (s : State) :
    ctl (waterscanTimerCallback pins s) = (ctl s).scan (peakReading pins s) := by
  unfold waterscanTimerCallback Ctl.scan
  generalize peakReading pins s = reading
  refine ctl_ite rfl (fun _ => ctl_ite rfl (fun _ => ?_) fun _ => ctl_ite rfl (fun _ => ?_)
    fun _ => ctl_ite rfl (fun hr => ?_) fun _ => ctl_ite rfl (fun hr => ?_)
    fun _ => ctl_ite rfl (fun hr => ?_) fun _ => ctl_ite rfl (fun hr => ?_) fun _ => rfl)
    fun _ => rfl
  · exact ctl_ite rfl (fun _ => ctl_warningWithPeak 3 _) fun _ => rfl
  · exact ctl_ite rfl (fun _ => rfl) fun _ => rfl
  · refine ctl_ite rfl (fun _ => ?_) fun _ => rfl
    rw [ctl_peakHandled 1 4 _ nofun, ← hr.2]; rfl
  · refine ctl_ite rfl (fun _ => ?_) fun _ => rfl
    rw [ctl_peakHandled 2 8 _ nofun, ← hr.2]; rfl
  · refine ctl_ite rfl (fun _ => ?_) fun _ => rfl
    rw [ctl_peakHandled 0 16 _ (fun _ => hr.2), ← hr.2]; rfl
  · refine ctl_ite rfl (fun _ => ?_) fun _ => rfl
    rw [ctl_peakHandled 4 32 _ nofun, ← hr.2]; rfl

/-- The freeze scan: first the freeze, then the thaw. -/
theorem ctl_ntcScanTimerCallback (cold warm : Bool) (s : State) :
    ctl (ntcScanTimerCallback cold warm s) = ((ctl s).freeze cold).thaw warm := by
  unfold ntcScanTimerCallback
  extract_lets t
  have ht : ctl t = (ctl s).freeze cold := by
    unfold t Ctl.freeze
    rw [ctl_status]
    split
    · exact ctl_warningEnable _ _
    · rfl
  rw [← ht]
  unfold Ctl.thaw
  rw [ctl_status]
  split
  · have hd : ctl (warningDisable (warUploadGW 1 0 8 0 t)) = (ctl t).disable := by
      rw [ctl_warningDisable, ctl_warUploadGW]
    have hntc : (warningDisable (warUploadGW 1 0 8 0 t)).ntcState = (ctl t).ntcState :=
      congrArg Ctl.ntcState hd
    rw [← hntc, ← hd]
    split
    · exact ctl_motoOpen _ _
    · exact ctl_motoClose _ _
  · rfl

end WaterValve
