import WaterValve.System

/-!
# WaterValve.Effects

What the handlers do outside the control variables.  `view` reads off a state
the registry in RAM, the hour counter, the two ids the unit sends with, whether
the valve is locked by a remote close, and the uplink messages queued without a
gateway.  Nearly every function of the source leaves it alone
(`view_<function>`); the exceptions are remote commands, accepted frames, the
clock and start-up, and each has its effect spelled out here.
-/

namespace WaterValve

/-! ## the view -/

/-- The registry without `LastFlag`, which every valve command writes. -/
def DeviceInfo.noFlag (d : DeviceInfo) : DeviceInfo := { d with lastFlag := 0 }

/-- Messages for the gateway: types 1, 2 and 3. -/
def RadioNormalFormat.uplink (msg : RadioNormalFormat) : Bool :=
  msg.type = 1 ∨ msg.type = 2 ∨ msg.type = 3

/-- What the functions outside the registry leave alone.  `locked` is the state
a remote close leaves; `stray` are the uplink messages in the queue of a unit
that has no gateway id. -/
@[ext] structure View where
  device : DeviceInfo
  rtcCounter : UInt8
  gatewayID : UInt32
  radioID : UInt32
  locked : Bool
  stray : List RadioNormalFormat

def view (s : State) : View where
  device := s.globalDevice.noFlag
  rtcCounter := s.rtcCounter
  gatewayID := s.gatewayID
  radioID := s.radioID
  locked := s.globalDevice.lastFlag = otherOff ∧ s.valveStatus = 0
  stray := if s.gatewayID = 0 then s.rfEnMq.filter (·.uplink) else []

/-- A remote close, if there is one. -/
def View.lockIf (closes : Bool) (v : View) : View := { v with locked := closes || v.locked }

/-- Without a remote close nothing is locked. -/
@[simp] theorem View.lockIf_false (v : View) : v.lockIf false = v := rfl

variable {s s' : State}

/-! ## the transmit queue -/

/-- A unit with a gateway may send it anything. -/
theorem view_rtMqSend {msg : RadioNormalFormat} (hg : s.gatewayID ≠ 0) :
    view (rtMqSend msg s) = view s := by
  unfold rtMqSend
  split
  · simp [view, hg]
  · rfl

section

variable (ack counter command data rssi warnId value : UInt8) (deviceId : UInt32) (s : State)

/-- A message for a node is no uplink, whether there is a gateway or not. -/
@[simp] theorem view_radioEnqueue :
    view (radioEnqueue deviceId counter command data s) = view s := by
  unfold radioEnqueue rtMqUrgent
  split
  · simp [view, RadioNormalFormat.uplink]
  · rfl

/-- The three that write for the gateway ask for its id first. -/
@[simp] theorem view_gatewaySyncEnqueue :
    view (gatewaySyncEnqueue ack command deviceId rssi data s) = view s := by
  unfold gatewaySyncEnqueue
  split
  · rename_i hg; exact view_rtMqSend hg
  · rfl

@[simp] theorem view_gatewayWarningEnqueue :
    view (gatewayWarningEnqueue ack deviceId rssi warnId value s) = view s := by
  unfold gatewayWarningEnqueue
  split
  · rename_i hg; exact view_rtMqSend hg
  · rfl

@[simp] theorem view_gatewayControlEnqueue :
    view (gatewayControlEnqueue ack deviceId rssi command value s) = view s := by
  unfold gatewayControlEnqueue
  split
  · rename_i hg; exact view_rtMqSend hg
  · rfl

/-- A warning is uploaded to the gateway of the registry, by the same three. -/
@[simp] theorem view_warUploadGW : view (warUploadGW ack deviceId warnId value s) = view s := by
  unfold warUploadGW
  split <;> simp

@[simp] theorem view_controlUploadGW :
    view (controlUploadGW ack deviceId command value s) = view s := by
  unfold controlUploadGW
  split <;> simp

@[simp] theorem view_replaceDoor : view (replaceDoor deviceId s) = view s := by
  simp [replaceDoor]

end

/-! ## the valve -/

/-- A valve command under a flag: what it leaves in `locked`. -/
private theorem view_setLastFlag (actFlag : UInt8) (s : State) : view (setLastFlag actFlag s) =
    { view s with locked := actFlag = otherOff ∧ s.valveStatus = 0 } := rfl

/-- Where the last close was not remote, nothing is locked. -/
private theorem locked_of_lastFlag (h : s.globalDevice.lastFlag ≠ otherOff) :
    { view s with locked := false } = view s :=
  View.ext rfl rfl rfl rfl (decide_eq_false fun hl => h hl.1).symm rfl

/-- An open valve is not locked. -/
private theorem view_opened (actFlag : UInt8) (s : State) :
    view (writeTurns true (setLastFlag actFlag { s with nowStatus := .opened, valveStatus := 1 })) =
      { view s with locked := false } := by
  have hlocked : decide (actFlag = otherOff ∧ (1 : UInt8) = 0) = false := by simp
  refine (view_setLastFlag actFlag _).trans ?_
  rw [← hlocked]
  rfl

/-- A valve that is closed is locked exactly by a remote close. -/
private theorem view_closed (actFlag : UInt8) (s : State) :
    view (setLastFlag actFlag { s with nowStatus := .close, valveStatus := 0 }) =
      { view s with locked := actFlag = otherOff } := by
  have hlocked : decide (actFlag = otherOff ∧ (0 : UInt8) = 0) = decide (actFlag = otherOff) := by
    simp
  refine (view_setLastFlag actFlag _).trans ?_
  rw [← hlocked]
  rfl

/-- What `Moto_Close` resets besides. -/
private theorem view_stopped (s : State) :
    view ({ ({ s with senor1Irq := false, senor2Irq := false } |> writeTurns false
      |> delayTimerStop) with
        moto1TimerAct := false
        moto2TimerAct := false
        moto1TimerDetect := false
        moto2TimerDetect := false } |> keyIOInit |> waterScanIOInit) = view s := rfl

/-- An open by hand that is permitted finds no remote close. -/
private theorem lastFlag_of_mayOpen (h : mayOpen normalOpen s) :
    s.globalDevice.lastFlag ≠ otherOff :=
  h.elim (fun h => absurd h.2 (by decide)) id

/-- After a remote close a local open is refused, and otherwise nothing is
locked. -/
@[simp] theorem view_motoOpen_normalOpen (s : State) : view (motoOpen normalOpen s) = view s := by
  unfold motoOpen
  split
  · rename_i hmay
    dsimp only
    rw [if_pos rfl]
    refine Eq.trans (b := view (controlUploadGW 1 0 1 1 _)) rfl ?_
    rw [view_controlUploadGW, view_opened, locked_of_lastFlag (lastFlag_of_mayOpen hmay)]
  · rfl

/-- At the start as by hand. -/
@[simp] theorem view_motoInitOpen_normalOpen (s : State) :
    view (motoInitOpen normalOpen s) = view s := by
  unfold motoInitOpen
  split
  · rename_i hmay
    rw [view_opened, locked_of_lastFlag (lastFlag_of_mayOpen hmay)]
  · rfl

/-- A remote open unlocks. -/
@[simp] theorem view_motoOpen_otherOpen (s : State) :
    view (motoOpen otherOpen s) = { view s with locked := false } := by
  have hmay : mayOpen otherOpen s := by
    unfold mayOpen
    tauto
  unfold motoOpen
  rw [if_pos hmay]
  dsimp only
  rw [if_neg (by decide : otherOpen ≠ normalOpen)]
  exact view_opened otherOpen s

/-- After a remote close a local close is refused, and otherwise nothing is
locked. -/
@[simp] theorem view_motoClose_normalOff (s : State) : view (motoClose normalOff s) = view s := by
  unfold motoClose
  split
  · rename_i hlast
    dsimp only
    rw [if_pos rfl, view_stopped, view_controlUploadGW, view_closed, decide_eq_false (by decide),
      locked_of_lastFlag hlast]
  · rw [if_neg (fun h => absurd h.2 (by decide))]

/-- A remote close locks. -/
@[simp] theorem view_motoClose_otherOff (s : State) :
    view (motoClose otherOff s) = (view s).lockIf true := by
  unfold motoClose
  split
  · dsimp only
    rw [if_neg (by decide : otherOff ≠ normalOff), view_stopped, view_closed, decide_eq_true rfl]
    rfl
  · rename_i hlast
    rw [if_pos ⟨not_not.mp hlast, rfl⟩]
    exact View.ext rfl rfl rfl rfl (decide_eq_true ⟨not_not.mp hlast, rfl⟩) rfl

/-! ## the warnings -/

@[simp] theorem view_backToNormal (s : State) : view (backToNormal s) = view s := rfl

@[simp] theorem view_warningDisable (s : State) : view (warningDisable s) = view s := rfl

/-- The callbacks that close the valve as a remote close does. -/
def WarningCallback.closes : WarningCallback → Bool
  | .slaverUltraLowBatteryWarning | .slaverWaterAlarmWarning => true
  | _ => false

private theorem view_setStatus (status : DeviceStatus) (s : State) :
    view { s with nowStatus := status } = view s := rfl

/-- Two of the warnings lock, and all of them leave the rest alone. -/
theorem view_run (callback : WarningCallback) (s : State) :
    view (callback.run s) = (view s).lockIf callback.closes := by
  cases callback with
  | slaverLowBatteryWarning => rfl
  | slaverUltraLowBatteryWarning | slaverWaterAlarmWarning =>
      rw [WarningCallback.run, view_setStatus, view_motoClose_otherOff]
      rfl
  | masterLostPeakWarning =>
      rw [WarningCallback.run, view_warUploadGW, view_setStatus]
      rfl
  | moto1FailCallback | moto2FailCallback =>
      rw [WarningCallback.run, view_setStatus, view_warUploadGW]
      rfl
  | masterWaterAlarmWarning | ntcWarningEventCallback =>
      rw [WarningCallback.run, view_setStatus, view_warUploadGW, view_motoClose_normalOff]
      rfl
  | offlineWarning =>
      rw [WarningCallback.run]
      split
      · rw [view_setStatus, view_motoClose_normalOff]
        rfl
      · rfl

/-- A warning that is not accepted does not lock. -/
private theorem view_warningEnable {callback : WarningCallback} {event : WariningEvent}
    (hcall : event.callback = some callback) (s : State) :
    view (warningEnable event s) =
      (view s).lockIf (callback.closes && s.nowStatusEvent.priority ≤ event.priority) := by
  unfold warningEnable
  rw [hcall]
  split
  · rename_i hle
    refine (view_run callback _).trans ?_
    rw [decide_eq_true hle, Bool.and_true]
    rfl
  · rename_i hle
    rw [decide_eq_false hle, Bool.and_false, View.lockIf_false]

/-- The ultra-low battery warning locks when it is accepted. -/
@[simp] theorem view_warningEnableNum_one (s : State) :
    view (warningEnableNum 1 s) = (view s).lockIf (s.nowStatusEvent.priority ≤ 6) :=
  have hcall : slaverUltraLowPowerEvent.callback = some .slaverUltraLowBatteryWarning := rfl
  view_warningEnable hcall s

/-- The water alarm of a slave locks when it is accepted. -/
@[simp] theorem view_warningEnableNum_two (s : State) :
    view (warningEnableNum 2 s) = (view s).lockIf (s.nowStatusEvent.priority ≤ 8) :=
  have hcall : slaverWaterAlarmActiveEvent.callback = some .slaverWaterAlarmWarning := rfl
  view_warningEnable hcall s

/-- The two are numbers 1 and 2. -/
private theorem callback_of_warningEvent {id : UInt8} {event : WariningEvent}
    (h : warningEvent id = some event) (h1 : id ≠ 1) (h2 : id ≠ 2) :
    ∃ callback, event.callback = some callback ∧ callback.closes = false := by
  revert h
  fun_cases warningEvent id
  all_goals intro h
  all_goals first
    | contradiction
    | (cases h; exact ⟨_, rfl, rfl⟩)

/-- The other warnings lock nothing. -/
@[simp] theorem view_warningEnableNum {id : UInt8} (h1 : id ≠ 1) (h2 : id ≠ 2) (s : State) :
    view (warningEnableNum id s) = view s := by
  unfold warningEnableNum
  split
  · rename_i event hevent
    obtain ⟨callback, hcall, hopen⟩ := callback_of_warningEvent hevent h1 h2
    rw [view_warningEnable hcall, hopen, Bool.false_and, View.lockIf_false]
  · rfl

/-! ## the probe, the freeze sensor and the self-test -/

/-- The probe closes the valve by hand, which locks nothing. -/
@[simp] theorem view_warningWithPeak (status : Nat) (s : State) :
    view (warningWithPeak status s) = view s := by
  unfold warningWithPeak
  split
  · split
    · dsimp only
      split <;> simp
    · simp
    · simp
    · rfl
    · simp
    · rfl
  · rfl

/-- Whatever the reading. -/
@[simp] theorem view_waterscanTimerCallback (pins : Pins) (s : State) :
    view (waterscanTimerCallback pins s) = view s := by
  have hhandled : ∀ status t, view (peakHandled status t) = view t := fun _ _ => rfl
  have hstatus : ∀ reading status,
      view { s with warningNowStatus := reading, warningStatus := status } = view s :=
    fun _ _ => rfl
  simp only [waterscanTimerCallback, apply_ite view, hhandled, view_warningWithPeak, hstatus,
    ite_self]

/-- A freeze closes by hand, and opens by hand. -/
@[simp] theorem view_ntcScanTimerCallback (cold warm : Bool) (s : State) :
    view (ntcScanTimerCallback cold warm s) = view s := by
  unfold ntcScanTimerCallback
  extract_lets t u
  have ht : view t = view s := by
    unfold t
    split
    · rw [view_warningEnableNum (by decide) (by decide)]
      rfl
    · rfl
  have hu : view u = view s := by
    unfold u
    rw [view_warningDisable, view_warUploadGW, ht]
  split
  · split <;> simp [hu]
  · exact ht

/-- A self-test turns the outputs low without closing the valve. -/
@[simp] theorem view_motoDetect (pins : Pins) (s : State) : view (motoDetect pins s) = view s := by
  obtain ⟨t, htest⟩ := testOnly_motoDetect pins s
  rw [htest]
  rfl

/-- The verdict on a motor is uploaded, or a warning raised that locks nothing. -/
@[simp] theorem view_turn1TimerCallback (s : State) : view (turn1TimerCallback s) = view s := by
  unfold turn1TimerCallback
  dsimp only
  repeat' split
  · exact view_warningEnableNum (by decide) (by decide) _
  · rfl
  · exact view_warUploadGW 1 2 0 0 _
  · rfl

@[simp] theorem view_turn2TimerCallback (s : State) : view (turn2TimerCallback s) = view s := by
  unfold turn2TimerCallback
  dsimp only
  split
  · exact view_warningEnableNum (by decide) (by decide) _
  · exact view_warUploadGW 1 2 1 0 _

/-! ## the gateway timers -/

/-- What is reported after the start, or to a gateway that asks. -/
@[simp] theorem view_powerOnUpload (s : State) : view (powerOnUpload s) = view s := by
  unfold powerOnUpload
  split <;> try simp
  repeat' split
  all_goals simp

/-- The list is sent by the one that asks for the gateway id. -/
@[simp] theorem view_gatewaySync (s : State) : view (gatewaySync s) = view s :=
  (view_powerOnUpload _).trans (view_controlUploadGW ..)

/-- So is each of its entries. -/
@[simp] theorem view_gatewaySyncCallback (s : State) :
    view (gatewaySyncCallback s) = view s := by
  unfold gatewaySyncCallback
  dsimp only
  split
  · refine Eq.trans (b := view (if _ then _ else _)) rfl ?_
    repeat' split
    all_goals simp
  · rfl

@[simp] theorem view_heartRefresh (id : UInt32) (s : State) :
    view (heartRefresh id s) = view s := by
  unfold heartRefresh
  split <;> rfl

@[simp] theorem view_heartCheck (s : State) : view (heartCheck s) = view s := by
  unfold heartCheck
  split <;> rfl

/-- So is the heartbeat. -/
@[simp] theorem view_heartTest (s : State) : view (heartTest s) = view s := by
  unfold heartTest
  repeat' split
  · exact (view_powerOnUpload _).trans (view_controlUploadGW ..)
  · exact view_controlUploadGW ..
  · rfl

/-! ## learn mode and the keys -/

@[simp] theorem view_startLearn (s : State) : view (startLearn s) = view s := by
  unfold startLearn
  split <;> rfl

/-- The end of learn mode sends the list; what was learned is in the registry by then.
-/
@[simp] theorem view_stopLearn (s : State) : view (stopLearn s) = view s := by
  unfold stopLearn
  dsimp only
  split
  · exact view_gatewaySync _
  · rfl

/-- The keys are by hand, so that they neither lock nor unlock. -/
@[simp] theorem view_keyOn (s : State) : view (keyOn s) = view s := by
  unfold keyOn
  repeat' split
  · simp
  · rfl
  · exact view_motoOpen_normalOpen _
  · rfl

@[simp] theorem view_keyOff (pins : Pins) (s : State) : view (keyOff pins s) = view s := by
  unfold keyOff
  repeat' split
  · exact (view_motoDetect ..).trans rfl
  · exact view_motoClose_normalOff _
  · exact view_motoClose_normalOff s
  · exact view_warUploadGW 1 1 0 0 _
  · rfl

/-- Learn mode is no part of the view. -/
@[simp] theorem view_keyLong (s : State) : view (keyLong s) = view s := by
  unfold keyLong
  repeat' split
  · rfl
  · exact view_stopLearn _
  · rfl

/-! ## the replies to a node -/

section

variable (buf : Message) (s : State)

@[simp] theorem view_handshakeReply (level : UInt8) :
    view (handshakeReply buf level s) = view s := by
  simp [handshakeReply]

@[simp] theorem view_learnStart : view (learnStart buf s) = view s := by
  unfold learnStart
  split <;> simp

@[simp] theorem view_reportValve : view (reportValve buf s) = view s := by
  unfold reportValve
  split <;> simp

/-- A delayed close is announced; the timer has still to expire. -/
@[simp] theorem view_nodeDelay : view (nodeDelay buf s) = view s := by
  have hstop : ∀ deviceId s, view (delayTimerCloseDoor deviceId s) = view s :=
    fun deviceId s => view_controlUploadGW 1 3 0 deviceId s
  have hstart : ∀ deviceId s, view (delayTimerOpenDoor deviceId s) = view s := by
    intro deviceId s
    unfold delayTimerOpenDoor
    split
    · exact view_controlUploadGW 1 3 1 deviceId _
    · rfl
  unfold nodeDelay
  dsimp only
  repeat' split
  all_goals simp [hstop, hstart]

/-- The probe of a slave is reported, and no more. -/
@[simp] theorem view_slaveLost : view (slaveLost buf s) = view s := by
  simp [slaveLost]

@[simp] theorem view_changeMaxPower : view (changeMaxPower s) = view s := by
  unfold changeMaxPower
  split <;> rfl

@[simp] theorem view_backNormalPower : view (backNormalPower s) = view s := by
  unfold backNormalPower
  split <;> rfl

/-- To leave the offline warning opens nothing. -/
@[simp] theorem view_offlineReact : view (offlineReact s) = view s := by
  unfold offlineReact offlineDisableWarning
  dsimp only
  repeat' split
  all_goals rfl

end

/-! ## the gateway id -/

/-- Reading the gateway id again leaves no uplink message in the queue of a unit
without one. -/
theorem view_setGatewayID {gatewayID : UInt32} (hstray : (view s).stray = [])
    (hkeep : gatewayID = 0 → s.gatewayID = 0) : view { s with gatewayID := gatewayID } =
      { view s with gatewayID := gatewayID, stray := [] } := by
  refine View.ext rfl rfl rfl rfl rfl ?_
  show (if gatewayID = 0 then s.rfEnMq.filter (·.uplink) else []) = []
  split
  · rename_i h0
    have hnone : (if s.gatewayID = 0 then s.rfEnMq.filter (·.uplink) else []) = [] := hstray
    rwa [if_pos (hkeep h0)] at hnone
  · rfl

/-- At the start the unit takes up the gateway of the registry. -/
theorem view_gatewayInit (h0 : s.gatewayID = 0) (hstray : (view s).stray = []) :
    view (gatewayInit s) = { view s with
      gatewayID := s.globalDevice.id s.globalDevice.gatewayNum, stray := [] } := by
  refine Eq.trans ?_ (view_setGatewayID hstray fun _ => h0)
  unfold gatewayInit heartTestStart
  dsimp only
  split
  · exact view_controlUploadGW ..
  · exact (view_controlUploadGW 0 5 s.valveStatus 0 { s with gatewayID := _ })

/-! ## start-up -/

/-- The radio id of a unit with this id word. -/
def unitID (rom : UInt32) : UInt32 := if rom = 0xFFFFFFFF ∨ rom = 0 then selfDefaultId else rom

/-- `Moto_Init` locks when a slave alarm is stored. -/
theorem view_motoInit (s : State) (h0 : s.nowStatusEvent.priority = 0) :
    view (motoInit s) = (view s).lockIf (s.flashGetSlaveAlarmFlag ≠ 0) := by
  unfold motoInit
  split
  · rename_i halarm
    rw [view_warningEnableNum_two, h0, decide_eq_true halarm]
    rfl
  · rename_i halarm
    rw [decide_eq_false halarm, View.lockIf_false]
    split
    · exact view_motoInitOpen_normalOpen s
    · rfl

/-- **What `main` starts from**: the registry it loads, the ids, an empty
queue, and a locked valve after a remote close or with a slave alarm stored. -/
theorem view_boot {rom : UInt32} {pins : Pins} {env : Env} (hs : boot rom pins env = some s') :
    ∃ st, (State.reset env).loadDevice2Memory = some st ∧ view s' =
      { device := st.globalDevice.noFlag
        rtcCounter := 0
        gatewayID := st.globalDevice.id st.globalDevice.gatewayNum
        radioID := unitID rom
        locked := st.flashGetSlaveAlarmFlag ≠ 0 || decide (st.globalDevice.lastFlag = otherOff)
        stray := [] } := by
  unfold boot at hs
  dsimp only at hs
  obtain ⟨st, hst, rfl⟩ := Option.map_eq_some_iff.mp hs
  refine ⟨st, hst, ?_⟩
  let t := radioQueueInit rom { State.reset env with toStorage := st }
  have hfactory : ∀ u, view (detectFactory pins u) = view u := by
    intro u
    unfold detectFactory
    split <;> rfl
  have hmoto : view (detectFactory pins (waterScanIOInit (motoInit t))) =
      (view t).lockIf (st.flashGetSlaveAlarmFlag ≠ 0) :=
    (hfactory _).trans (view_motoInit t rfl)
  have hgateway : (detectFactory pins (waterScanIOInit (motoInit t))).gatewayID = 0 :=
    congrArg View.gatewayID hmoto
  have hid : (detectFactory pins (waterScanIOInit (motoInit t))).globalDevice.id
      (detectFactory pins (waterScanIOInit (motoInit t))).globalDevice.gatewayNum =
        st.globalDevice.id st.globalDevice.gatewayNum :=
    congrArg (fun v : View => v.device.id v.device.gatewayNum) hmoto
  have hlocked : (view t).locked = decide (st.globalDevice.lastFlag = otherOff) :=
    decide_eq_decide.mpr (and_iff_left rfl)
  rw [view_gatewayInit hgateway (congrArg View.stray hmoto), hid, hmoto, View.lockIf, hlocked]
  rfl

end WaterValve
