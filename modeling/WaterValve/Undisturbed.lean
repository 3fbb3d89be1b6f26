import WaterValve.Hour
import WaterValve.SelfTestSafety

/-!
# WaterValve.Undisturbed

What most of the firmware leaves alone: the edge counters and verdicts of the
motor self-test, the self-test while `MotoFail` is shown, and, while the freeze
alarm is the last warning accepted, the valve and the position saved for it.

`Undisturbed moves s₀ s` says so of the code between `s₀` and `s`; `moves` tells
whether this code may carry out a command to open or close.  Each function of
the source has one lemma, `Undisturbed.<function>`, and `undisturbed_step` is the
one about every step but those of the self-test, of the freeze sensor and of a
reset.
-/

namespace WaterValve

/-! ## the relation -/

/-- The edge counters, and which motors are held to have failed. -/
def verdicts (s : State) : UInt8 × UInt8 × UInt8 × UInt8 :=
  (s.turn1Flag, s.turn2Flag, s.moto1FailFlag, s.moto2FailFlag)

/-- The timers of the self-test. -/
def testTimers (s : State) : Bool × Bool × Bool × Bool :=
  (s.moto1TimerAct, s.moto2TimerAct, s.moto1TimerDetect, s.moto2TimerDetect)

/-- The position saved by `NTC_State_Save`, and what decides whether it can be
restored. -/
def savedPosition (s : State) : UInt8 × UInt8 × UInt8 :=
  (s.ntcState, s.valveStatus, s.globalDevice.lastFlag)

/-- The freeze alarm is the last warning that was accepted. -/
def FreezeAccepted (s : State) : Prop :=
  s.nowStatusEvent.callback = some .ntcWarningEventCallback

instance (s : State) : Decidable (FreezeAccepted s) := inferInstanceAs (Decidable (_ = _))

/-- What the code between `s₀` and `s` has left alone. -/
structure Undisturbed (moves : Prop) (s₀ s : State) : Prop where
  verdicts : verdicts s = WaterValve.verdicts s₀
  motoFail : s.nowStatus = .motoFail → s₀.nowStatus = .motoFail ∧ testTimers s = testTimers s₀
  frozen : ¬moves → FreezeAccepted s → FreezeAccepted s₀ ∧ savedPosition s = savedPosition s₀

variable {moves : Prop} {s₀ s s' : State} {buf : Message}

theorem Undisturbed.refl (moves : Prop) (s : State) : Undisturbed moves s s :=
  ⟨rfl, fun h => ⟨h, rfl⟩, fun _ h => ⟨h, rfl⟩⟩

/-- What `Undisturbed` looks at. -/
def bench (s : State) :=
  (verdicts s, s.nowStatus, testTimers s, s.nowStatusEvent.callback, savedPosition s)

/-- Code that does not touch what `Undisturbed` looks at. -/
theorem Undisturbed.same (h : Undisturbed moves s₀ s) (hsame : bench s' = bench s) :
    Undisturbed moves s₀ s' := by
  obtain ⟨hverdicts, hstatus, htimers, hcallback, hsaved⟩ := by
    simpa only [bench, Prod.mk.injEq] using hsame
  refine ⟨hverdicts.trans h.verdicts, fun hfail => ?_, fun hm haccepted => ?_⟩
  · rw [htimers]
    exact h.motoFail (hstatus ▸ hfail)
  · rw [hsaved]
    exact h.frozen hm (hcallback.symm.trans haccepted)

/-- Showing another status than `MotoFail`. -/
theorem Undisturbed.shows (h : Undisturbed moves s₀ s) (hstatus : s'.nowStatus ≠ .motoFail)
    (hverdicts : WaterValve.verdicts s' = WaterValve.verdicts s)
    (hcallback : s'.nowStatusEvent.callback = s.nowStatusEvent.callback)
    (hsaved : savedPosition s' = savedPosition s) : Undisturbed moves s₀ s' := by
  refine ⟨hverdicts.trans h.verdicts, fun hfail => absurd hfail hstatus, fun hm haccepted => ?_⟩
  rw [hsaved]
  exact h.frozen hm (hcallback.symm.trans haccepted)

/-- A status that is shown without a warning is never `MotoFail`. -/
theorem Undisturbed.setStatus (h : Undisturbed moves s₀ s) {status : DeviceStatus}
    (hstatus : status ≠ .motoFail) : Undisturbed moves s₀ { s with nowStatus := status } :=
  h.shows hstatus rfl rfl rfl

theorem Undisturbed.ite {b : Prop} [Decidable b] (h : b → Undisturbed moves s₀ s)
    (h' : ¬b → Undisturbed moves s₀ s') : Undisturbed moves s₀ (if b then s else s') :=
  iteInduction h h'

/-! ## the queue and the registry -/

theorem QueueOnly.bench (h : QueueOnly s s') : bench s' = WaterValve.bench s := by
  obtain ⟨mq, rfl⟩ := h
  rfl

/-- A message that is sent disturbs nothing. -/
theorem Undisturbed.queue (h : Undisturbed moves s₀ s) (hq : QueueOnly s s') :
    Undisturbed moves s₀ s' :=
  h.same hq.bench

theorem Undisturbed.radioEnqueue (h : Undisturbed moves s₀ s) (tagetID : UInt32)
    (counter command data : UInt8) :
    Undisturbed moves s₀ (radioEnqueue tagetID counter command data s) :=
  h.queue (queueOnly_radioEnqueue ..)

theorem Undisturbed.warUploadGW (h : Undisturbed moves s₀ s) (ack : UInt8) (deviceId : UInt32)
    (warnId value : UInt8) : Undisturbed moves s₀ (warUploadGW ack deviceId warnId value s) :=
  h.queue (queueOnly_warUploadGW ..)

theorem Undisturbed.controlUploadGW (h : Undisturbed moves s₀ s) (ack : UInt8) (deviceId : UInt32)
    (command value : UInt8) : Undisturbed moves s₀ (controlUploadGW ack deviceId command value s) :=
  h.queue (queueOnly_controlUploadGW ..)

/-- The registry but for `LastFlag`. -/
theorem Undisturbed.setStorage (h : Undisturbed moves s₀ s) {st : Storage}
    (hlast : st.globalDevice.lastFlag = s.globalDevice.lastFlag) :
    Undisturbed moves s₀ { s with toStorage := st } := by
  refine h.same ?_
  unfold bench savedPosition
  dsimp only
  rw [hlast]
  rfl

/-- Nor does an operation that keeps the flag of the last command. -/
theorem Undisturbed.withStorage (h : Undisturbed moves s₀ s) (op : Storage → UInt8 × Storage)
    (hlast : ∀ st, (op st).2.globalDevice.lastFlag = st.globalDevice.lastFlag) :
    Undisturbed moves s₀ (s.withStorage op) :=
  h.setStorage (hlast s.toStorage)

/-! ## the valve -/

section

variable (actFlag : UInt8) (s : State)

/-- An opening that is carried out shows `Opened`, and no verdict is touched. -/
private theorem motoOpen_effect : verdicts (motoOpen actFlag s) = verdicts s ∧
    (motoOpen actFlag s = s ∨ (motoOpen actFlag s).nowStatus = .opened) := by
  unfold motoOpen
  dsimp only
  split_ifs
  · obtain ⟨mq, hmq⟩ := queueOnly_controlUploadGW 1 0 1 1
      (writeTurns true (setLastFlag actFlag { s with nowStatus := .opened, valveStatus := 1 }))
    rw [hmq]
    exact ⟨rfl, .inr rfl⟩
  · exact ⟨rfl, .inr rfl⟩
  · exact ⟨rfl, .inl rfl⟩

/-- A close shows `Close`, and leaves the last warning standing. -/
private theorem motoClose_effect : verdicts (motoClose actFlag s) = verdicts s ∧
    (motoClose actFlag s).nowStatusEvent = s.nowStatusEvent ∧
      (motoClose actFlag s = s ∨ (motoClose actFlag s).nowStatus = .close) := by
  unfold motoClose
  dsimp only
  split_ifs
  · obtain ⟨mq, hmq⟩ := queueOnly_controlUploadGW 1 0 1 0
      (setLastFlag actFlag { s with nowStatus := .close, valveStatus := 0 })
    rw [hmq]
    exact ⟨rfl, rfl, .inr rfl⟩
  · exact ⟨rfl, rfl, .inr rfl⟩
  · exact ⟨rfl, rfl, .inr rfl⟩
  · exact ⟨rfl, rfl, .inl rfl⟩

end

/-- The valve is moved by a command only. -/
theorem Undisturbed.moved (h : Undisturbed moves s₀ s) (hm : moves)
    (hverdicts : WaterValve.verdicts s' = WaterValve.verdicts s)
    (hstatus : s' = s ∨ s'.nowStatus ≠ .motoFail) : Undisturbed moves s₀ s' := by
  refine ⟨hverdicts.trans h.verdicts, fun hfail => ?_, fun hm' => absurd hm hm'⟩
  obtain rfl | hother := hstatus
  · exact h.motoFail hfail
  · exact absurd hfail hother

/-- So an opening disturbs the freeze alarm, if it is a command, and nothing else. -/
theorem Undisturbed.motoOpen (h : Undisturbed moves s₀ s) (hm : moves) (actFlag : UInt8) :
    Undisturbed moves s₀ (motoOpen actFlag s) := by
  obtain ⟨hverdicts, hstatus⟩ := motoOpen_effect actFlag s
  exact h.moved hm hverdicts (hstatus.imp_right fun hopened => by simp [hopened])

/-- So does a close. -/
theorem Undisturbed.motoClose (h : Undisturbed moves s₀ s) (hm : moves) (actFlag : UInt8) :
    Undisturbed moves s₀ (motoClose actFlag s) := by
  obtain ⟨hverdicts, -, hstatus⟩ := motoClose_effect actFlag s
  exact h.moved hm hverdicts (hstatus.imp_right fun hclosed => by simp [hclosed])

/-! ## the warnings -/

theorem backToNormal_status (s : State) : (backToNormal s).nowStatus ≠ .motoFail := by
  unfold backToNormal
  dsimp only
  split <;> simp

theorem Undisturbed.backToNormal (h : Undisturbed moves s₀ s) :
    Undisturbed moves s₀ (backToNormal s) :=
  h.shows (backToNormal_status s) rfl rfl rfl

/-- The end of a warning shows the position of the valve, and does not clear the
callback. -/
theorem Undisturbed.warningDisable (h : Undisturbed moves s₀ s) :
    Undisturbed moves s₀ (warningDisable s) :=
  Undisturbed.backToNormal (h.same (by rfl))

/-- What a warning does but for the valve. -/
private theorem run_effect (callback : WarningCallback) (s : State) :
    verdicts (callback.run s) = verdicts s ∧
      (callback.run s).nowStatusEvent = s.nowStatusEvent := by
  have hqueue : ∀ {t u : State}, QueueOnly t u →
      verdicts u = verdicts t ∧ u.nowStatusEvent = t.nowStatusEvent := by
    rintro t _ ⟨mq, rfl⟩
    exact ⟨rfl, rfl⟩
  have hclose : ∀ actFlag, verdicts (motoClose actFlag s) = verdicts s ∧
      (motoClose actFlag s).nowStatusEvent = s.nowStatusEvent := fun actFlag =>
    ⟨(motoClose_effect actFlag s).1, (motoClose_effect actFlag s).2.1⟩
  cases callback with
  | slaverLowBatteryWarning => exact ⟨rfl, rfl⟩
  | slaverUltraLowBatteryWarning | slaverWaterAlarmWarning => exact hclose otherOff
  | masterLostPeakWarning =>
      exact hqueue (t := { s with nowStatus := .masterLostPeak }) (queueOnly_warUploadGW ..)
  | masterWaterAlarmWarning =>
      obtain ⟨hverdicts, hevent⟩ := hqueue (queueOnly_warUploadGW 1 0 1 1 (motoClose normalOff s))
      exact ⟨hverdicts.trans (hclose normalOff).1, hevent.trans (hclose normalOff).2⟩
  | ntcWarningEventCallback =>
      obtain ⟨hverdicts, hevent⟩ := hqueue (queueOnly_warUploadGW 1 0 8 1 (motoClose normalOff s))
      exact ⟨hverdicts.trans (hclose normalOff).1, hevent.trans (hclose normalOff).2⟩
  | offlineWarning =>
      simp only [WarningCallback.run]
      split
      · exact hclose normalOff
      · exact ⟨rfl, rfl⟩
  | moto1FailCallback =>
      have hupload := hqueue (queueOnly_warUploadGW 1 0 2 2 s)
      exact hupload
  | moto2FailCallback =>
      have hupload := hqueue (queueOnly_warUploadGW 1 0 2 3 s)
      exact hupload

/-- The state an accepted warning hands to its callback. -/
def accepted (event : WariningEvent) (callback : WarningCallback) (s : State) : State :=
  { s with nowStatusEvent := { s.nowStatusEvent with
    lastId := event.warningId, priority := event.priority, callback := some callback } }

/-- A warning that is urgent enough is noted, and its callback runs. -/
theorem warningEnable_of_le {event : WariningEvent} {callback : WarningCallback}
    (hcall : event.callback = some callback) (hle : s.nowStatusEvent.priority ≤ event.priority) :
    warningEnable event s = callback.run (accepted event callback s) := by
  unfold warningEnable
  rw [if_pos hle, hcall]
  rfl

/-- Another one is dropped. -/
theorem warningEnable_of_not_le {event : WariningEvent}
    (hle : ¬s.nowStatusEvent.priority ≤ event.priority) : warningEnable event s = s := by
  unfold warningEnable
  rw [if_neg hle]

/-- A warning is no verdict, not even that of a motor. -/
theorem verdicts_warningEnable (event : WariningEvent) (s : State) :
    verdicts (warningEnable event s) = verdicts s := by
  unfold warningEnable
  split
  · cases event.callback with
    | none => rfl
    | some callback => exact (run_effect callback _).1
  · rfl

/-- It is the last one from then on. -/
theorem callback_run {event : WariningEvent} (callback : WarningCallback) (s : State) :
    (callback.run (accepted event callback s)).nowStatusEvent.callback = some callback :=
  congrArg WariningEvent.callback (run_effect callback _).2

/-- A warning other than a motor failure: once accepted it is the last one. -/
theorem Undisturbed.warningEnable (h : Undisturbed moves s₀ s) (event : WariningEvent)
    {callback : WarningCallback} (hcall : event.callback = some callback)
    (hfreeze : callback = .ntcWarningEventCallback → moves)
    (hmoto : Ctl.shows callback ≠ some .motoFail) :
    Undisturbed moves s₀ (warningEnable event s) := by
  by_cases hle : s.nowStatusEvent.priority ≤ event.priority
  · rw [warningEnable_of_le hcall hle]
    obtain ⟨hverdicts, hevent⟩ := run_effect callback (accepted event callback s)
    refine ⟨hverdicts.trans h.verdicts, fun hfail => ?_, fun hm haccepted => ?_⟩
    · have hstatus : (ctl (callback.run (accepted event callback s))).status = .motoFail := hfail
      rw [ctl_call] at hstatus
      cases hshow : Ctl.shows callback with
      | some status =>
          rw [Ctl.call_status hshow] at hstatus
          exact absurd (hstatus ▸ hshow) hmoto
      | none =>
          cases callback with
          | slaverLowBatteryWarning => exact h.motoFail hfail
          | slaverUltraLowBatteryWarning | slaverWaterAlarmWarning | masterLostPeakWarning
          | masterWaterAlarmWarning | ntcWarningEventCallback | offlineWarning
          | moto1FailCallback | moto2FailCallback => cases hshow
    · exact absurd (hfreeze (Option.some.inj ((callback_run callback _).symm.trans haccepted))) hm
  · rw [warningEnable_of_not_le hle]
    exact h

/-! ## the probe -/

/-- The warnings of the probe are none of a motor or of a freeze. -/
theorem Undisturbed.warningWithPeak (h : Undisturbed moves s₀ s) (status : Nat) :
    Undisturbed moves s₀ (warningWithPeak status s) := by
  unfold WaterValve.warningWithPeak
  split
  · split
    · exact .ite (fun _ => (h.warUploadGW ..).backToNormal) fun _ => h.warUploadGW ..
    · exact h.warningEnable _ rfl nofun (by decide)
    · exact h.warningEnable _ rfl nofun (by decide)
    · exact h.setStatus (by decide)
    · exact h.warningEnable _ rfl nofun (by decide)
    · exact h
  · exact h

/-- Whatever the reading and whatever was handled before. -/
theorem Undisturbed.waterscanTimerCallback (h : Undisturbed moves s₀ s) (pins : Pins) :
    Undisturbed moves s₀ (waterscanTimerCallback pins s) := by
  have hnow : Undisturbed moves s₀ { s with warningNowStatus := peakReading pins s } := h.same rfl
  have hhandled : ∀ (status : Nat) (handled : UInt8),
      Undisturbed moves s₀ (peakHandled handled (WaterValve.warningWithPeak status
        { s with warningNowStatus := peakReading pins s })) :=
    fun status _ => (hnow.warningWithPeak status).same rfl
  unfold WaterValve.waterscanTimerCallback
  refine .ite (fun _ => .ite (fun _ => ?_) fun _ => .ite (fun _ => ?_)
    fun _ => .ite (fun _ => ?_) fun _ => .ite (fun _ => ?_)
    fun _ => .ite (fun _ => ?_) fun _ => .ite (fun _ => ?_) fun _ => hnow) fun _ => hnow
  · exact .ite (fun _ => (hnow.same (by rfl)).warningWithPeak 3) fun _ => hnow
  · exact .ite (fun _ => hnow.same rfl) fun _ => hnow
  all_goals exact .ite (fun _ => hhandled ..) fun _ => hnow

/-! ## frames -/

/-- Signal strength and life sign are attributes of a device. -/
theorem Undisturbed.heardFrom (h : Undisturbed moves s₀ s) (rssi : Int) (fromID : UInt32) :
    Undisturbed moves s₀ (heardFrom rssi fromID s) :=
  (h.withStorage _ fun _ => (onlyDevice_updateDeviceRssi rssi).lastFlag).withStorage _
    fun _ => (onlyDevice_deviceAliveChange 1).lastFlag

/-- The operations on the table, as long as they keep the flag of the last command. -/
theorem Undisturbed.table (h : Undisturbed moves s₀ s) (ht : TableOnly s s')
    (hlast : s'.globalDevice.lastFlag = s.globalDevice.lastFlag) : Undisturbed moves s₀ s' := by
  obtain ⟨st, mq, timer, flag, id, recv, status, check, rfl⟩ := ht
  exact Undisturbed.same (h.setStorage hlast) rfl

/-- A learn frame is one of them. -/
theorem Undisturbed.deviceLearn (h : Undisturbed moves s₀ s) (hwf : s.Wf) (buf : Message) :
    Undisturbed moves s₀ (deviceLearn buf s) := by
  refine h.table (tableOnly_deviceLearn buf s) ?_
  have hctl : (ctl (WaterValve.deviceLearn buf s)).lastFlag = _ :=
    congrArg Ctl.lastFlag (ctl_deviceLearn hwf)
  split at hctl <;> exact hctl

/-- A low battery warns, and takes the place of a freeze alarm if it is accepted. -/
theorem Undisturbed.handshake (h : Undisturbed moves s₀ s) (buf : Message) :
    Undisturbed moves s₀ (handshake buf s) := by
  have hbat : Undisturbed moves s₀
      (s.withStorage (·.updateDeviceBat buf.fromID.toUInt32 (toU8 buf.data))) :=
    h.withStorage _ fun _ => (onlyDevice_updateDeviceBat _).lastFlag
  unfold WaterValve.handshake
  generalize s.withStorage _ = t at hbat ⊢
  have hreply : ∀ level, Undisturbed moves s₀ (handshakeReply buf level t) :=
    fun level => (hbat.radioEnqueue ..).warUploadGW ..
  refine .ite (fun _ => hreply 0) fun _ => .ite (fun _ => .ite (fun _ => ?_) fun _ => hreply 1)
    fun _ => .ite (fun _ => .ite (fun _ => ?_) fun _ => hreply 2)
    fun _ => .ite (fun _ => hreply 3) fun _ => .ite (fun _ => hreply 4) fun _ => hbat
  · exact (hreply 1).warningEnable slaverLowPowerEvent rfl nofun (by decide)
  · exact (hreply 2).warningEnable slaverUltraLowPowerEvent rfl nofun (by decide)

/-- So does the alarm of a slave. -/
theorem Undisturbed.slaveWater (h : Undisturbed moves s₀ s) (buf : Message) :
    Undisturbed moves s₀ (slaveWater buf s) := by
  have hreport : ∀ wet, Undisturbed moves s₀
      (WaterValve.radioEnqueue buf.fromID.toUInt32 (toU8 buf.counter) 4 wet s
        |> WaterValve.warUploadGW 1 buf.fromID.toUInt32 5 wet) :=
    fun wet => (h.radioEnqueue ..).warUploadGW ..
  unfold WaterValve.slaveWater
  refine .ite (fun _ => .ite (fun _ => h) fun _ => hreport 0)
    fun _ => .ite (fun _ => .ite (fun _ => h) fun _ => ?_) fun _ => h
  have hset := (hreport 1).withStorage (·.flashSetSlaveAlarmFlag buf.fromID.toUInt32 1)
    fun _ => (onlyDevice_flashSetSlaveAlarmFlag 1).lastFlag
  refine .ite (fun _ => ?_) fun _ => hset
  exact hset.warningEnable slaverWaterAlarmActiveEvent rfl nofun (by decide)

theorem Undisturbed.reportValve (h : Undisturbed moves s₀ s) (buf : Message) :
    Undisturbed moves s₀ (reportValve buf s) :=
  .ite (fun _ => h.controlUploadGW ..) fun _ => h.controlUploadGW ..

/-- A node that opens gives a command. -/
theorem Undisturbed.nodeOpen (h : Undisturbed moves s₀ s) (buf : Message)
    (hm : s.nowStatus = .opened ∨ s.nowStatus = .close → moves) :
    Undisturbed moves s₀ (nodeOpen buf s) := by
  refine Undisturbed.reportValve (.ite (fun hnormal => ?_) fun _ => h.radioEnqueue ..) buf
  exact ((h.radioEnqueue ..).motoOpen (hm hnormal) otherOpen).same rfl

/-- The last alarm that is over ends the warning. -/
theorem Undisturbed.clearSlaveAlarm (h : Undisturbed moves s₀ s) (buf : Message) :
    Undisturbed moves s₀ (clearSlaveAlarm buf s) := by
  have hset := h.withStorage (·.flashSetSlaveAlarmFlag buf.fromID.toUInt32 0)
    fun _ => (onlyDevice_flashSetSlaveAlarmFlag 0).lastFlag
  exact .ite (fun _ => .ite (fun _ => hset.warningDisable) fun _ => hset) fun _ => h

/-- A node that closes gives a command, if no warning is left when its alarm is cleared.
-/
theorem Undisturbed.nodeClose (h : Undisturbed moves s₀ s) (buf : Message)
    (hm : (WaterValve.clearSlaveAlarm buf s).nowStatus = .opened ∨
      (WaterValve.clearSlaveAlarm buf s).nowStatus = .close → moves) :
    Undisturbed moves s₀ (nodeClose buf s) := by
  have hqueue := queueOnly_radioEnqueue buf.fromID.toUInt32 (toU8 buf.counter) 6 0 s
  have hclear := (h.queue hqueue).clearSlaveAlarm buf
  refine Undisturbed.reportValve (.ite (fun hnormal => ?_) fun _ => hclear) buf
  rw [nowStatus_clearSlaveAlarm hqueue] at hnormal
  exact Undisturbed.motoClose (hclear.warningDisable.same (by rfl)) (hm hnormal) otherOff

/-- To start the delay is no command yet. -/
theorem Undisturbed.nodeDelay (h : Undisturbed moves s₀ s) (buf : Message) :
    Undisturbed moves s₀ (nodeDelay buf s) := by
  have hreply := h.radioEnqueue buf.fromID.toUInt32 (toU8 buf.counter) 8 (toU8 buf.data)
  refine .ite (fun _ => ?_) fun _ => .ite (fun _ => .ite (fun _ => ?_) fun _ => hreply)
    fun _ => hreply
  · exact (hreply.controlUploadGW 1 buf.fromID.toUInt32 3 0).same rfl
  · exact Undisturbed.controlUploadGW (hreply.same (by rfl)) ..

/-- A command frame outside learn mode. -/
theorem Undisturbed.dataSolveCommand (h : Undisturbed moves s₀ s) (buf : Message)
    (hm : NodeOpens buf s ∨ NodeCloses buf s → moves) :
    Undisturbed moves s₀ (dataSolveCommand buf s) := by
  unfold WaterValve.dataSolveCommand
  refine .ite (fun _ => h.radioEnqueue ..) fun _ => .ite (fun _ => h.handshake buf)
    fun _ => .ite (fun _ => ?_) fun _ => .ite (fun _ => h.slaveWater buf)
    fun _ => .ite (fun h5 => ?_) fun _ => .ite (fun h6 => ?_)
    fun _ => .ite (fun _ => h.nodeDelay buf) fun _ => .ite (fun _ => ?_) fun _ => h
  · refine .ite (fun _ => Undisturbed.radioEnqueue (.ite (fun _ => ?_) fun _ => h) ..) fun _ => h
    exact h.shows (by simp) rfl rfl rfl
  · exact h.nodeOpen buf fun hnormal => hm (.inl ⟨h5, hnormal⟩)
  · exact h.nodeClose buf fun hnormal => hm (.inr (.inr (.inr ⟨h6, hnormal⟩)))
  · exact (h.radioEnqueue ..).warUploadGW ..

/-- To leave the offline warning is the end of a warning. -/
theorem Undisturbed.offlineReact (h : Undisturbed moves s₀ s) :
    Undisturbed moves s₀ (offlineReact s) := by
  unfold WaterValve.offlineReact offlineDisableWarning
  dsimp only
  repeat' split
  all_goals first
    | exact h
    | exact h.warningDisable

/-- Behind the command, a frame may change the power of the radio and end the offline
warning. -/
theorem Undisturbed.dataSolve (h : Undisturbed moves s₀ s) (buf : Message)
    (hm : NodeOpens buf s ∨ NodeCloses buf s → moves) : Undisturbed moves s₀ (dataSolve buf s) := by
  have hcommand := h.dataSolveCommand buf hm
  unfold WaterValve.dataSolve changeMaxPower backNormalPower
  refine Undisturbed.offlineReact (Undisturbed.withStorage ?_ _
    fun _ => onlyDevice_clearDeviceTime.lastFlag)
  exact .ite (fun _ => .ite (fun _ => hcommand.same rfl) fun _ => hcommand)
    fun _ => .ite (fun _ => hcommand.same rfl) fun _ => hcommand

/-- The gateway gives its commands in normal operation. -/
theorem Undisturbed.gatewayValve (h : Undisturbed moves s₀ s) (buf : Message)
    (hm : s.nowStatus = .close ∨ s.nowStatus = .opened → moves) :
    Undisturbed moves s₀ (gatewayValve buf s) := by
  refine .ite (fun hnormal => Undisturbed.controlUploadGW (.ite (fun _ => ?_) fun _ => ?_) ..)
    fun _ => h.controlUploadGW ..
  · exact .ite (fun _ => h.motoOpen (hm hnormal) otherOpen) fun _ => h
  · exact h.motoClose (hm hnormal) otherOff

theorem SyncOnly.bench (h : SyncOnly s s') : bench s' = WaterValve.bench s := by
  obtain ⟨mq, n, t, rfl⟩ := h
  rfl

/-- Of the others, one deletes a device. -/
theorem Undisturbed.gatewayCommand (h : Undisturbed moves s₀ s) (buf : Message)
    (hm : GatewayOpens buf s ∨ GatewayCloses buf s → moves) :
    Undisturbed moves s₀ (gatewayCommand buf s) := by
  unfold WaterValve.gatewayCommand
  refine .ite (fun h2 => h.gatewayValve buf fun hnormal => hm ?_)
    fun _ => .ite (fun _ => h.controlUploadGW ..)
    fun _ => .ite (fun _ => h.same (syncOnly_gatewaySync s).bench)
    fun _ => .ite (fun _ => h.setStorage (congrArg Ctl.lastFlag (ctl_deleteDevice s)))
    fun _ => .ite (fun _ => h.same rfl) fun _ => h
  by_cases hdata : buf.data = 0
  · exact .inr ⟨h2, hdata, hnormal⟩
  · exact .inl ⟨h2, hdata, hnormal⟩

theorem Undisturbed.heartRefresh (h : Undisturbed moves s₀ s) (id : UInt32) :
    Undisturbed moves s₀ (heartRefresh id s) :=
  .ite (fun _ => h.same rfl) fun _ => h

/-- What `normalAct` hands to `DataSolve` is a command to open or close. -/
def NodeMoves (rssi : Int) (buf : Message) (s : State) : Prop :=
  s.learnFlag = 0 ∧ (NodeOpens buf (heardFrom rssi buf.fromID.toUInt32 s) ∨
    NodeCloses buf (heardFrom rssi buf.fromID.toUInt32 s))

/-- What `gatewayAct` hands on is a command to open or close. -/
def GatewayMoves (buf : Message) (s : State) : Prop :=
  GatewayOpens buf (heartRefresh buf.fromID.toUInt32 s) ∨
    GatewayCloses buf (heartRefresh buf.fromID.toUInt32 s)

/-- In learn mode nothing is commanded. -/
theorem Undisturbed.normalAct (h : Undisturbed moves s₀ s) (hwf : s.Wf) (rssi : Int) (buf : Message)
    (hm : Accepts buf s → NodeMoves rssi buf s → moves) :
    Undisturbed moves s₀ (normalAct rssi buf s) := by
  have hheard := h.heardFrom rssi buf.fromID.toUInt32
  by_cases haccept : Accepts buf s
  · rw [normalAct_of_accepts haccept]
    refine .ite (fun _ => hheard.deviceLearn (wf_heardFrom _ _ _ hwf) buf)
      fun hlearn => hheard.dataSolve buf fun hmoves => hm haccept ⟨not_not.mp hlearn, hmoves⟩
  · rw [normalAct_of_not_accepts haccept]
    exact h

/-- A frame that is not accepted does nothing. -/
theorem Undisturbed.gatewayAct (h : Undisturbed moves s₀ s) (buf : Message)
    (hm : GatewayAccepts buf s → GatewayMoves buf s → moves) :
    Undisturbed moves s₀ (gatewayAct buf s) := by
  rw [gatewayAct_eq]
  exact .ite (fun haccept => (h.heartRefresh _).gatewayCommand buf (hm haccept)) fun _ => h

/-! ## the clock -/

/-- The induction is on the slots that are left. -/
theorem Undisturbed.detectLoop (num : Nat) (p : Bool × State) (h : Undisturbed moves s₀ p.2) :
    Undisturbed moves s₀ (detectLoop num p).2 := by
  induction num generalizing p with
  | zero => exact h
  | succ num ih =>
      refine ih _ ?_
      rw [detectSlot_eq]
      split
      · exact (h.warUploadGW ..).withStorage _ fun _ => (onlyDevice_deviceAliveChange 0).lastFlag
      · exact h

/-- The ages of the devices. -/
theorem Undisturbed.onlyTimes (h : Undisturbed moves s₀ s) {st : Storage}
    (ht : OnlyTimes s.toStorage st) : Undisturbed moves s₀ { s with toStorage := st } := by
  obtain ⟨idTime, getMesssage, rfl⟩ := ht
  exact h.setStorage rfl

/-- The offline warning may take the place of a freeze alarm. -/
theorem Undisturbed.detectAllTime (h : Undisturbed moves s₀ s) (hr : registryMachine.Reachable s)
    (hs : detectAllTime s = some s') : Undisturbed moves s₀ s' := by
  unfold WaterValve.detectAllTime at hs
  split at hs
  · cases hs
    exact h
  · have hloop := Undisturbed.detectLoop s.searchStart (false, s) h
    have hreach := reach_detectLoop s.searchStart (false, s) hr
    dsimp only at hs
    generalize WaterValve.detectLoop s.searchStart (false, s) = p at hloop hreach hs
    have hwarned : Undisturbed moves s₀ (if p.1 = true then warningEnableNum 5 p.2 else p.2) :=
      .ite (fun _ => hloop.warningEnable offlineEvent rfl nofun (by decide))
        fun _ => hloop
    have hreach' : registryMachine.Reachable (if p.1 = true then warningEnableNum 5 p.2 else p.2) :=
      iteInduction (fun _ => reach_warningEnableNum hreach 5) fun _ => hreach
    obtain ⟨st, hst, rfl⟩ := Option.map_eq_some_iff.mp hs
    exact hwarned.onlyTimes (onlyTimes_clearAllTime (registryMachine_wf hreach') hst)

/-- An hour, but for the self-test it may start. -/
theorem Undisturbed.rtcTimerEntry {pins : Pins} (h : Undisturbed moves s₀ (hourBegins pins s))
    (hr : registryMachine.Reachable s) (hs : rtcTimerEntry pins s = some s') :
    Undisturbed moves s₀ s' := by
  rw [rtcTimerEntry_eq] at hs
  obtain ⟨t, ht, hs⟩ := Option.bind_eq_some_iff.mp hs
  have hreach := reach_aged hr ht
  have hbegins := reach_other hr (hourBegins_toStorage pins s)
  obtain ⟨st, hst, rfl⟩ := Option.map_eq_some_iff.mp ht
  have haged := h.onlyTimes (onlyTimes_updateAllTime (registryMachine_wf hbegins) hst)
  split at hs
  · cases hs
    exact haged.same rfl
  · obtain ⟨u, hu, rfl⟩ := Option.map_eq_some_iff.mp hs
    exact (haged.detectAllTime hreach hu).same rfl

/-! ## the keys and the timers -/

/-- The keys carry out a command to open or close. -/
def KeyMoves (sem : KeySem) (s : State) : Prop :=
  (sem.k0 = true ∧
    (s.nowStatus = .close ∧ s.lastCloseFlag = 0 ∨ s.nowStatus = .masterLostPeak)) ∨
  (sem.k0 = false ∧ sem.k1 = true ∧ s.factoryFlag = 0 ∧
    (s.nowStatus = .opened ∨ s.nowStatus = .masterLostPeak))

/-- The open key gives a command where it opens. -/
theorem Undisturbed.keyOn (h : Undisturbed moves s₀ s)
    (hm : s.nowStatus = .close ∧ s.lastCloseFlag = 0 ∨ s.nowStatus = .masterLostPeak → moves) :
    Undisturbed moves s₀ (keyOn s) := by
  unfold WaterValve.keyOn
  split
  · rename_i hstatus
    exact .ite (fun hlast => h.motoOpen (hm (.inl ⟨hstatus, hlast⟩)) normalOpen) fun _ => h
  · rename_i hstatus
    exact (h.setStatus (by decide)).motoOpen (hm (.inr hstatus)) normalOpen
  · exact h

/-- `K1` outside factory mode. -/
theorem Undisturbed.keyOff {pins : Pins} (h : Undisturbed moves s₀ s) (hfactory : s.factoryFlag = 0)
    (hm : s.nowStatus = .opened ∨ s.nowStatus = .masterLostPeak → moves) :
    Undisturbed moves s₀ (keyOff pins s) := by
  unfold WaterValve.keyOff
  rw [if_neg (not_not.mpr hfactory)]
  split
  · rename_i hstatus
    exact Undisturbed.motoClose (h.same (by rfl)) (hm (.inl hstatus)) normalOff
  · rename_i hstatus
    exact (h.motoClose (hm (.inr hstatus)) normalOff).setStatus (by decide)
  · exact (Undisturbed.warningDisable (h.setStatus (by decide))).warUploadGW ..
  · exact h

/-- The end of learn mode is the end of a warning, and sends the list. -/
theorem Undisturbed.stopLearn (h : Undisturbed moves s₀ s) :
    Undisturbed moves s₀ (stopLearn s) := by
  have hstopped : Undisturbed moves s₀ (WaterValve.warningDisable { s with learnFlag := 0 }) :=
    Undisturbed.warningDisable (h.same (by rfl))
  unfold WaterValve.stopLearn
  refine .ite (fun _ => ?_) fun _ => hstopped
  exact Undisturbed.same (hstopped.same (by rfl)) (syncOnly_gatewaySync _).bench

/-- Learn mode has a status of its own. -/
theorem Undisturbed.keyLong (h : Undisturbed moves s₀ s) : Undisturbed moves s₀ (keyLong s) := by
  unfold WaterValve.keyLong
  refine .ite (fun _ => ?_) fun _ => .ite (fun _ => ?_) fun _ => h
  · exact h.shows (by simp [startLearnKey]) rfl rfl rfl
  · exact Undisturbed.stopLearn (h.same (by rfl))

/-- One key is handled in a round; the self-test of factory mode and the reset are left
out. -/
theorem Undisturbed.keyReponse {rom : UInt32} {sem : KeySem} {pins : Pins}
    (h : Undisturbed moves s₀ s) (hm : KeyMoves sem s → moves)
    (hfactory : sem.k0 = false → sem.k1 = true → s.factoryFlag = 0)
    (hrestart : ¬Restarts (.keyReponse sem pins)) (hs : keyReponse rom sem pins s = some s') :
    Undisturbed moves s₀ s' := by
  unfold WaterValve.keyReponse at hs
  cases h0 : sem.k0 <;> cases h1 : sem.k1 <;> simp only [h0, h1] at hs
  · cases hreset : sem.k0k1 with
    | true => exact absurd ⟨h0, h1, hreset⟩ hrestart
    | false =>
        simp only [hreset] at hs
        cases hk0 : sem.k0Long <;> cases hk1 : sem.k1Long <;> simp only [hk0, hk1] at hs <;>
          obtain rfl := Option.some.inj hs
        · exact h
        · exact h.keyLong
        · exact h
        · exact h
  · obtain rfl := Option.some.inj hs
    have hnormal := hfactory h0 h1
    exact h.keyOff hnormal fun hstatus => hm (.inr ⟨h0, h1, hnormal, hstatus⟩)
  · obtain rfl := Option.some.inj hs
    exact h.keyOn fun hstatus => hm (.inl ⟨h0, hstatus⟩)
  · obtain rfl := Option.some.inj hs
    exact h.keyOn fun hstatus => hm (.inl ⟨h0, hstatus⟩)

/-- The heartbeat is a message. -/
theorem Undisturbed.heartTest (h : Undisturbed moves s₀ s) :
    Undisturbed moves s₀ (heartTest s) := by
  unfold WaterValve.heartTest
  refine .ite (fun _ => ?_) fun _ => .ite (fun _ => ?_) fun _ => h.same rfl
  · exact (Undisturbed.controlUploadGW (h.same (by rfl)) ..).queue (queueOnly_powerOnUpload _)
  · exact Undisturbed.controlUploadGW (h.same (by rfl)) ..

/-- The freeze sensor moves the valve, but tests nothing. -/
theorem Undisturbed.ntcScanTimerCallback (h : Undisturbed moves s₀ s) (hm : moves)
    (cold warm : Bool) : Undisturbed moves s₀ (ntcScanTimerCallback cold warm s) := by
  unfold WaterValve.ntcScanTimerCallback
  extract_lets t
  have ht : Undisturbed moves s₀ t := by
    refine .ite (fun _ => ?_) fun _ => h
    have hsaved : Undisturbed moves s₀ { s with ntcState := s.valveStatus } :=
      ⟨h.verdicts, h.motoFail, fun hm' => absurd hm hm'⟩
    exact hsaved.warningEnable ntcWarningEvent rfl (fun _ => hm) (by decide)
  have hreleased := (ht.warUploadGW 1 0 8 0).warningDisable
  exact .ite (fun _ => .ite (fun _ => hreleased.motoOpen hm normalOpen)
    fun _ => hreleased.motoClose hm normalOff) fun _ => ht

/-! ## a step -/

/-- The handler carries out a command to open or close, of a key, a node, the
gateway or the delay timer. -/
def Commands (s : State) (a : Action) : Prop :=
  (∃ sem pins, a = .keyReponse sem pins ∧ KeyMoves sem s) ∨
  (∃ rssi buf, event s a = .node rssi buf ∧ NodeMoves rssi buf s) ∨
  (∃ buf, event s a = .gateway buf ∧ GatewayMoves buf s) ∨ a = .delayTimer

/-- The handler is part of the self-test, or may start it. -/
def SelfTests (s : State) : Action → Prop
  | .turn1Edge | .turn2Edge | .moto1TimerAct | .moto2TimerAct | .moto1TimerDetect
  | .moto2TimerDetect | .motoDetectTimer _ | .rtcAlarm _ => True
  | .keyReponse sem _ => sem.k0 = false ∧ sem.k1 = true ∧ s.factoryFlag ≠ 0
  | _ => False

/-- What a frame commands is read off the buffer. -/
theorem Undisturbed.rf433RxCallback (h : Undisturbed moves s₀ s) (hwf : s.Wf) {rxMessage : Message}
    {rssi : Int} {buffer : List UInt8} {len : UInt8}
    (hm : Commands s (.rf433Rx rxMessage rssi buffer len) → moves) :
    Undisturbed moves s₀ (rf433RxCallback rxMessage rssi buffer len s) := by
  unfold WaterValve.rf433RxCallback normalSolve gatewayDataSolve
  refine .ite (fun hnode => .ite (fun hend => ?_) fun _ => h)
    fun hnode => .ite (fun hgateway => .ite (fun hend => ?_) fun _ => h) fun _ => h
  · refine h.normalAct hwf rssi _ fun haccept hmoves => hm (.inr (.inl ⟨rssi, _, ?_, hmoves⟩))
    simp only [event, frameEvent, if_pos hnode, if_pos (And.intro hend haccept)]
  · refine h.gatewayAct _ fun haccept hmoves => hm (.inr (.inr (.inl ⟨_, ?_, hmoves⟩)))
    simp only [event, frameEvent, if_neg hnode, if_pos hgateway, if_pos (And.intro hend haccept)]

/-- **What a step leaves alone** that is no part of the self-test and no reset. -/
theorem undisturbed_step {rom : UInt32} {a : Action} (hr : registryMachine.Reachable s)
    (hs : step rom s a = some s') (htest : ¬SelfTests s a) (hrestart : ¬Restarts a) :
    Undisturbed (Commands s a ∨ ∃ cold warm, a = .ntcScanTimer cold warm) s s' := by
  have hrefl := fun moves => Undisturbed.refl moves s
  cases a <;> simp only [step, Option.ite_none_right_eq_some, Option.ite_none_left_eq_some,
    Option.some.injEq] at hs
  case keyReponse sem pins =>
    refine (hrefl _).keyReponse (fun hmoves => .inl (.inl ⟨sem, pins, rfl, hmoves⟩))
      (fun h0 h1 => ?_) hrestart hs
    by_contra hfactory
    exact htest ⟨h0, h1, hfactory⟩
  case rf433Rx rxMessage rssi buffer len =>
    exact hs ▸ (hrefl _).rf433RxCallback (registryMachine_wf hr) .inl
  case rfEncode => exact (hrefl _).same (by rw [← hs.2]; rfl)
  case waterscanTimer pins => exact hs ▸ (hrefl _).waterscanTimerCallback pins
  case ntcScanTimer cold warm =>
    exact hs ▸ (hrefl _).ntcScanTimerCallback (.inr ⟨cold, warm, rfl⟩) cold warm
  case delayTimer =>
    rw [← hs.2]
    exact (Undisturbed.motoClose ((hrefl _).same (by rfl)) (.inl (.inr (.inr (.inr rfl))))
      otherOff).controlUploadGW ..
  case learnTimer => exact hs.2 ▸ Undisturbed.stopLearn ((hrefl _).same (by rfl))
  case gatewaySyncT => exact (hrefl _).same (hs.2 ▸ (syncOnly_gatewaySyncCallback s).bench)
  case heartCheckT =>
    rw [← hs.2]
    exact .ite (fun _ => (hrefl _).same rfl) fun _ => (hrefl _).same rfl
  case heartTestT => exact hs.2 ▸ (hrefl _).heartTest
  case factoryCycle => exact hs.2 ▸ (hrefl _).radioEnqueue ..
  case reboot pins => exact absurd trivial hrestart
  all_goals exact absurd trivial htest

/-! ## the self-test and the freeze alarm -/

/-- What the freeze alarm is concerned with. -/
def freezer (s : State) : Option WarningCallback × UInt8 × UInt8 × UInt8 :=
  (s.nowStatusEvent.callback, savedPosition s)

/-- A self-test is no warning and moves no valve. -/
theorem TestOnly.freezer (h : TestOnly s s') : freezer s' = WaterValve.freezer s := by
  obtain ⟨t, rfl⟩ := h
  rfl

theorem QueueOnly.freezer (h : QueueOnly s s') : freezer s' = WaterValve.freezer s := by
  obtain ⟨mq, rfl⟩ := h
  rfl

/-- When the freeze alarm is the last warning after another one is raised, that
one was refused. -/
theorem warningEnable_refused {event : WariningEvent} {callback : WarningCallback}
    (hcall : event.callback = some callback) (hother : callback ≠ .ntcWarningEventCallback)
    (haccepted : FreezeAccepted (warningEnable event s)) : warningEnable event s = s := by
  by_cases hle : s.nowStatusEvent.priority ≤ event.priority
  · rw [warningEnable_of_le hcall hle] at haccepted
    exact absurd (Option.some.inj ((callback_run callback s).symm.trans haccepted)) hother
  · exact warningEnable_of_not_le hle

/-- `Turn1_Timer_Callback` when its timer expires. -/
theorem turn1TimerCallback_eq (s : State) :
    turn1TimerCallback { s with moto1TimerDetect := false } =
      if s.turn1Flag < 2 then
        { (if s.moto2FailFlag = 0 then
            { warningEnableNum 6 (endTest1 s) with valveAlarmFlag := 1 } else endTest1 s) with
          moto1FailFlag := 1 }
      else
        { (if s.moto2FailFlag = 0 then
            { warUploadGW 1 0 2 0 (endTest1 s) with valveAlarmFlag := 0 } else endTest1 s) with
          moto1FailFlag := 0 } := rfl

/-- `Turn2_Timer_Callback` when its timer expires. -/
theorem turn2TimerCallback_eq (s : State) :
    turn2TimerCallback { s with moto2TimerDetect := false } =
      if s.turn2Flag < 2 then
        { warningEnableNum 9 (endTest2 s) with moto2FailFlag := 1, valveAlarmFlag := 1 }
      else
        { warUploadGW 1 0 2 1 (endTest2 s) with moto2FailFlag := 0, valveAlarmFlag := 0 } := rfl

/-- The verdict on motor 1 warns, or leaves the freeze alarm the last one. -/
private theorem freezer_turn1TimerCallback
    (h : FreezeAccepted (turn1TimerCallback { s with moto1TimerDetect := false })) :
    freezer (turn1TimerCallback { s with moto1TimerDetect := false }) = freezer s := by
  rw [turn1TimerCallback_eq] at h ⊢
  by_cases hfew : s.turn1Flag < 2
  · simp only [if_pos hfew] at h ⊢
    by_cases hother : s.moto2FailFlag = 0
    · simp only [if_pos hother] at h ⊢
      have hrefused : warningEnableNum 6 (endTest1 s) = endTest1 s :=
        warningEnable_refused rfl (by decide) h
      have hsame := congrArg freezer hrefused
      exact hsame
    · simp only [if_neg hother]
      rfl
  · simp only [if_neg hfew]
    by_cases hother : s.moto2FailFlag = 0
    · simp only [if_pos hother]
      exact (queueOnly_warUploadGW 1 0 2 0 (endTest1 s)).freezer
    · simp only [if_neg hother]
      rfl

/-- The same for motor 2. -/
private theorem freezer_turn2TimerCallback
    (h : FreezeAccepted (turn2TimerCallback { s with moto2TimerDetect := false })) :
    freezer (turn2TimerCallback { s with moto2TimerDetect := false }) = freezer s := by
  rw [turn2TimerCallback_eq] at h ⊢
  by_cases hfew : s.turn2Flag < 2
  · simp only [if_pos hfew] at h ⊢
    have hrefused : warningEnableNum 9 (endTest2 s) = endTest2 s :=
      warningEnable_refused rfl (by decide) h
    have hsame := congrArg freezer hrefused
    exact hsame
  · simp only [if_neg hfew]
    exact (queueOnly_warUploadGW 1 0 2 1 (endTest2 s)).freezer

/-- An hour may begin with a self-test. -/
private theorem freezer_hourBegins (pins : Pins) (s : State) :
    freezer (hourBegins pins s) = freezer s := by
  unfold hourBegins
  dsimp only
  split
  · exact (testOnly_motoDetect pins _).freezer
  · rfl

/-- **The freeze alarm and what it saved** survive every step that accepts no
other warning, carries out no command and is not a scan of the sensor. -/
theorem frozen_step {rom : UInt32} {a : Action} (hr : registryMachine.Reachable s)
    (hs : step rom s a = some s') (hrestart : ¬Restarts a) (hcommand : ¬Commands s a)
    (hscan : ∀ cold warm, a ≠ .ntcScanTimer cold warm) (haccepted : FreezeAccepted s') :
    FreezeAccepted s ∧ savedPosition s' = savedPosition s := by
  have hof : freezer s' = freezer s → FreezeAccepted s ∧ savedPosition s' = savedPosition s :=
    fun hsame => ⟨(congrArg Prod.fst hsame).symm.trans haccepted, congrArg Prod.snd hsame⟩
  by_cases htest : SelfTests s a
  · cases a <;> simp only [step, Option.ite_none_right_eq_some, Option.some.injEq] at hs
    case keyReponse sem pins =>
      obtain ⟨h0, h1, hfactory⟩ := htest
      simp only [keyReponse, h0, h1, keyOff, if_pos hfactory] at hs
      obtain rfl := Option.some.inj hs
      exact hof (testOnly_motoDetect pins _).freezer
    case turn1Edge | turn2Edge | moto1TimerAct | moto2TimerAct => exact hof (hs.2 ▸ rfl)
    case moto1TimerDetect =>
      obtain ⟨-, rfl⟩ := hs
      exact hof (freezer_turn1TimerCallback haccepted)
    case moto2TimerDetect =>
      obtain ⟨-, rfl⟩ := hs
      exact hof (freezer_turn2TimerCallback haccepted)
    case motoDetectTimer pins => exact hof (hs.2 ▸ (testOnly_motoDetect pins _).freezer)
    case rtcAlarm pins =>
      have hhour := (Undisturbed.refl False (hourBegins pins s)).rtcTimerEntry hr hs
      obtain ⟨hbefore, hsaved⟩ := hhour.frozen not_false haccepted
      have hbegins := freezer_hourBegins pins s
      exact hof (Prod.ext (haccepted.trans (hbefore.symm.trans (congrArg Prod.fst hbegins)))
        (hsaved.trans (congrArg Prod.snd hbegins)))
    all_goals exact htest.elim
  · refine (undisturbed_step hr hs htest hrestart).frozen ?_ haccepted
    rintro (hmoves | ⟨cold, warm, hntc⟩)
    · exact hcommand hmoves
    · exact hscan cold warm hntc

end WaterValve
