import WaterValve.ControlSim

/-!
# WaterValve.ControlRun

Every handler of the firmware is a run of the control core (`ctl_step`).  The
special transitions it makes are those of `Occurs`, read off the state before
the handler and the action.
-/

namespace WaterValve

/-! ## the registry seen from the control core -/

/-- Two storages the control core cannot tell apart. -/
structure SameControl (st st' : Storage) : Prop where
  lastFlag : st'.globalDevice.lastFlag = st.globalDevice.lastFlag
  alarm : st'.flashGetSlaveAlarmFlag = st.flashGetSlaveAlarmFlag

variable {st st' : Storage} {deviceID : UInt32} {s s' : State}

/-- The alarm flag is a function of `Num` and the alarms. -/
theorem SameControl.of_eq (hl : st'.globalDevice.lastFlag = st.globalDevice.lastFlag)
    (hn : st'.globalDevice.num = st.globalDevice.num)
    (ha : st'.globalDevice.slaveAlarm = st.globalDevice.slaveAlarm) : SameControl st st' := by
  refine ⟨hl, ?_⟩
  unfold Storage.flashGetSlaveAlarmFlag Storage.searchStart
  rw [hn, ha]

/-- On an intact registry the alarm flag says that some slot has an alarm. -/
theorem Storage.Wf.alarmFlag_iff (h : st.Wf) :
    st.flashGetSlaveAlarmFlag ≠ 0 ↔ ∃ i, 0 < i ∧ st.globalDevice.slaveAlarm i ≠ 0 := by
  have hflag : st.flashGetSlaveAlarmFlag ≠ 0 ↔
      ¬Nat.findGreatest (fun num => st.globalDevice.slaveAlarm num ≠ 0) st.searchStart = 0 := by
    unfold Storage.flashGetSlaveAlarmFlag
    split <;> simp_all
  rw [hflag, Nat.findGreatest_eq_zero_iff, h.searchStart_eq]
  constructor
  · intro hex
    push Not at hex
    obtain ⟨i, h0, -, hi⟩ := hex
    exact ⟨i, h0, hi⟩
  · rintro ⟨i, h0, hi⟩ hnone
    by_cases hle : i ≤ st.globalDevice.num
    · exact hnone h0 hle hi
    · exact hi (h.alarm_beyond i (by omega))

theorem Storage.alarmFlag_cases (st : Storage) :
    st.flashGetSlaveAlarmFlag = 0 ∨ st.flashGetSlaveAlarmFlag = 1 := by
  unfold flashGetSlaveAlarmFlag
  split <;> simp

/-- Raising `Num` over slots without alarm changes nothing. -/
theorem SameControl.of_wf (h : st.Wf) (h' : st'.Wf)
    (hl : st'.globalDevice.lastFlag = st.globalDevice.lastFlag)
    (ha : st'.globalDevice.slaveAlarm = st.globalDevice.slaveAlarm) : SameControl st st' := by
  refine ⟨hl, ?_⟩
  have hiff : st'.flashGetSlaveAlarmFlag ≠ 0 ↔ st.flashGetSlaveAlarmFlag ≠ 0 := by
    rw [h.alarmFlag_iff, h'.alarmFlag_iff, ha]
  obtain h0 | h1 := st.alarmFlag_cases <;> obtain h0' | h1' := st'.alarmFlag_cases <;>
    simp_all

/-- The core sees two things of a storage. -/
theorem ctl_setStorage (h : SameControl s.toStorage st) :
    ctl { s with toStorage := st } = ctl s := by
  unfold ctl
  dsimp only
  rw [h.lastFlag, h.alarm]

private theorem OnlyDevice.sameControl {i : Nat} (h : OnlyDevice deviceID i st st')
    (ha : st'.globalDevice.slaveAlarm = st.globalDevice.slaveAlarm) : SameControl st st' :=
  .of_eq h.lastFlag h.num ha

/-- To be heard, or to be found silent, is no alarm. -/
private theorem sameControl_deviceAliveChange (deviceID : UInt32) (value : UInt8) (st : Storage) :
    SameControl st (st.deviceAliveChange deviceID value).2 := by
  obtain ⟨_, _, _, hcolumns⟩ := deviceAliveChange_columns deviceID st value
  exact (onlyDevice_deviceAliveChange value).sameControl (by rw [hcolumns])

/-- Nor is a battery, as long as nobody warns. -/
private theorem sameControl_updateDeviceBat (deviceID : UInt32) (bat : UInt8) (st : Storage) :
    SameControl st (st.updateDeviceBat deviceID bat).2 := by
  obtain ⟨_, _, hcolumns⟩ := updateDeviceBat_columns deviceID st bat
  exact (onlyDevice_updateDeviceBat bat).sameControl (by rw [hcolumns])

private theorem sameControl_updateDeviceRssi (deviceID : UInt32) (rssi : Int) (st : Storage) :
    SameControl st (st.updateDeviceRssi deviceID rssi).2 := by
  obtain ⟨_, _, hcolumns⟩ := updateDeviceRssi_columns deviceID st rssi
  exact (onlyDevice_updateDeviceRssi rssi).sameControl (by rw [hcolumns])

private theorem sameControl_clearDeviceTime (deviceID : UInt32) (st : Storage) :
    SameControl st (st.clearDeviceTime deviceID).2 := by
  obtain ⟨_, hcolumns⟩ := clearDeviceTime_columns deviceID st
  exact onlyDevice_clearDeviceTime.sameControl (by rw [hcolumns])

/-- A deletion empties a slot and lets its alarm stand. -/
private theorem sameControl_deleteDevice (deviceID : UInt32) (st : Storage) :
    SameControl st (st.deleteDevice deviceID).2 := by
  refine .of_eq ?_ ?_ ?_
  all_goals
    unfold Storage.deleteDevice
    dsimp only
    repeat' split
    all_goals rfl

/-- So the core does not see who is heard. -/
@[simp] theorem ctl_deviceAliveChange (value : UInt8) (s : State) :
    ctl (s.withStorage (·.deviceAliveChange deviceID value)) = ctl s :=
  ctl_setStorage (sameControl_deviceAliveChange deviceID value s.toStorage)

@[simp] theorem ctl_updateDeviceBat (bat : UInt8) (s : State) :
    ctl (s.withStorage (·.updateDeviceBat deviceID bat)) = ctl s :=
  ctl_setStorage (sameControl_updateDeviceBat deviceID bat s.toStorage)

@[simp] theorem ctl_updateDeviceRssi (rssi : Int) (s : State) :
    ctl (s.withStorage (·.updateDeviceRssi deviceID rssi)) = ctl s :=
  ctl_setStorage (sameControl_updateDeviceRssi deviceID rssi s.toStorage)

@[simp] theorem ctl_clearDeviceTime (s : State) :
    ctl (s.withStorage (·.clearDeviceTime deviceID)) = ctl s :=
  ctl_setStorage (sameControl_clearDeviceTime deviceID s.toStorage)

/-- Nor who is deleted. -/
@[simp] theorem ctl_deleteDevice (s : State) :
    ctl (s.withStorage (·.deleteDevice deviceID)) = ctl s :=
  ctl_setStorage (sameControl_deleteDevice deviceID s.toStorage)

/-- Nor how old they are. -/
theorem ctl_onlyTimes (h : OnlyTimes s.toStorage st) : ctl { s with toStorage := st } = ctl s := by
  obtain ⟨idTime, getMesssage, rfl⟩ := h
  rfl

/-- Setting or clearing one alarm: only `alarm` can change. -/
theorem ctl_flashSetSlaveAlarmFlag (deviceID : UInt32) (flag : UInt8) (s : State) :
    ctl (s.withStorage (·.flashSetSlaveAlarmFlag deviceID flag)) =
      { ctl s with alarm := (s.withStorage
        (·.flashSetSlaveAlarmFlag deviceID flag)).flashGetSlaveAlarmFlag ≠ 0 } := by
  have honly : OnlyDevice deviceID _ s.toStorage (s.flashSetSlaveAlarmFlag deviceID flag).2 :=
    onlyDevice_flashSetSlaveAlarmFlag flag
  unfold ctl
  simp only [State.withStorage, honly.lastFlag]

/-- The alarm of a device that is found is seen by the flag. -/
theorem alarmFlag_set (hv : st.flashGetKeyValid deviceID = RT_EOK) :
    (st.flashSetSlaveAlarmFlag deviceID 1).2.flashGetSlaveAlarmFlag ≠ 0 := by
  rw [Storage.flashGetKeyValid_eq_ok] at hv
  have honly : OnlyDevice deviceID _ st (st.flashSetSlaveAlarmFlag deviceID 1).2 :=
    onlyDevice_flashSetSlaveAlarmFlag 1
  have hset : (st.flashSetSlaveAlarmFlag deviceID 1).2.globalDevice.slaveAlarm
      (st.slotOf deviceID) ≠ 0 := by
    simp only [Storage.flashSetSlaveAlarmFlag, if_neg hv]
    split
    · simp [deviceSlaveAlarmChange, Storage.put]
    · rename_i hsame
      rw [not_not.mp hsame]
      decide
  have hle : st.slotOf deviceID ≤ (st.flashSetSlaveAlarmFlag deviceID 1).2.searchStart := by
    rw [Storage.searchStart, honly.num]
    exact Nat.findGreatest_le _
  unfold Storage.flashGetSlaveAlarmFlag
  rw [if_neg]
  · decide
  · rw [Nat.findGreatest_eq_zero_iff]
    exact fun hnone => hnone (Nat.pos_of_ne_zero hv) hle hset

/-! ## learn frames -/

/-- Learning moves no alarm. -/
private theorem sameControl_addDevice (h : st.Wf) (hv : st.flashGetKeyValid deviceID ≠ RT_EOK) :
    SameControl st (st.addDevice deviceID).2 := by
  refine .of_wf h (h.addDevice (h.fresh_of_invalid hv)) ?_ ?_
  all_goals
    unfold Storage.addDevice Storage.getLearnNumsValid
    dsimp only
    repeat' split
    all_goals rfl

/-- A door is learned like a slave, with a pointer to its slot besides. -/
private theorem sameControl_addDoorDevice (h : st.Wf)
    (hv : st.flashGetKeyValid deviceID ≠ RT_EOK) :
    SameControl st (st.addDoorDevice deviceID).2 := by
  refine .of_wf h (h.addDoorDevice (h.fresh_of_invalid hv)) ?_ ?_
  all_goals
    unfold Storage.addDoorDevice Storage.getLearnNumsValid
    dsimp only
    repeat' split
    all_goals rfl

private theorem sameControl_addGatewayDevice (h : st.Wf)
    (hv : st.flashGetKeyValid deviceID ≠ RT_EOK) :
    SameControl st (st.addGatewayDevice deviceID).2 := by
  refine .of_wf h (h.addGatewayDevice (h.fresh_of_invalid hv)) ?_ ?_
  all_goals
    unfold Storage.addGatewayDevice Storage.getLearnNumsValid
    dsimp only
    repeat' split
    all_goals rfl

/-- The answer to a learn frame is a message. -/
private theorem ctl_learnNew {add : UInt32 → State → UInt8 × State} {buf : Message}
    (hadd : ctl (add buf.fromID.toUInt32 s).2 = ctl s) : ctl (learnNew add buf s) = ctl s := by
  unfold learnNew
  dsimp only
  split
  · rw [ctl_radioEnqueue, hadd]
  · exact hadd

/-- What is learned, of any class, is not seen by the core. -/
theorem ctl_learnRequest {buf : Message} (h : s.Wf) : ctl (learnRequest buf s) = ctl s := by
  unfold learnRequest
  split
  · rename_i hv
    repeat' split
    · exact ctl_learnNew (ctl_setStorage (sameControl_addDevice h hv))
    · refine ctl_learnNew ?_
      unfold addDoorDevice
      split
      · obtain ⟨mq, hmq⟩ := queueOnly_replaceDoor s.getDoorID s
        rw [hmq]
        exact ctl_setStorage (s := { s with rfEnMq := mq }) (sameControl_addDoorDevice h hv)
      · exact ctl_setStorage (sameControl_addDoorDevice h hv)
    · exact ctl_learnNew (ctl_setStorage (sameControl_addGatewayDevice h hv))
    · rfl
  · exact ctl_radioEnqueue ..

/-- A confirmation marks the device as alive, and a gateway as the one in use. -/
private theorem ctl_learnConfirm (buf : Message) (s : State) :
    ctl (learnConfirm buf s) = ctl s := by
  have hreload : ctl (gatewayReload s) = ctl s := by
    unfold gatewayReload heartRefresh
    dsimp only
    split <;> rfl
  unfold learnConfirm
  split
  · rfl
  · dsimp only
    rw [ctl_gatewaySyncEnqueue, ctl_radioEnqueue, ctl_deviceAliveChange]
    split
    · exact hreload
    · rfl

/-- A learn frame is the core's own only in that it starts the timer again. -/
theorem ctl_deviceLearn {buf : Message} (h : s.Wf) :
    ctl (deviceLearn buf s) =
      if buf.command = 3 then { ctl s with learnTimer := true } else ctl s := by
  unfold deviceLearn
  split
  · dsimp only
    repeat' split
    · rw [ctl_setLearnTimer, ctl_learnRequest h]
    · rw [ctl_setLearnTimer, ctl_learnConfirm]
    · rfl
  · rfl

/-! ## node frames -/

variable {ok : Special → Ctl → Prop} {buf : Message}

/-- A handler that the core does not see. -/
private theorem run_of_eq (h : ctl s' = ctl s) : CtlRun ok (ctl s) (ctl s') := h ▸ .refl

/-- A handler that is one transition of it. -/
private theorem run_step {c : Ctl} (h : CtlStep ok (ctl s) c) (hc : ctl s' = c) :
    CtlRun ok (ctl s) (ctl s') := hc ▸ .single h

private theorem ctl_handshakeReply (buf : Message) (level : UInt8) (s : State) :
    ctl (handshakeReply buf level s) = ctl s := by
  simp [handshakeReply]

/-- The handshake shows a warning for levels 1 and 2 of any device but the
door. -/
private theorem run_handshake (hlearn : s.learnFlag = 0)
    (hok : buf.data = 1 → buf.fromID.toUInt32 ≠ s.getDoorID → ok .lowBattery (ctl s)) :
    CtlRun ok (ctl s) (ctl (handshake buf s)) := by
  have hreply : ∀ level, ctl (handshakeReply buf level
      (s.withStorage (·.updateDeviceBat buf.fromID.toUInt32 (toU8 buf.data)))) = ctl s := by
    intro level
    rw [ctl_handshakeReply, ctl_updateDeviceBat]
  have hdoor : ∀ level, (handshakeReply buf level
      (s.withStorage (·.updateDeviceBat buf.fromID.toUInt32 (toU8 buf.data)))).getDoorID =
        s.getDoorID := by
    intro level
    have honly : OnlyDevice buf.fromID.toUInt32 _ s.toStorage
        (s.updateDeviceBat buf.fromID.toUInt32 (toU8 buf.data)).2 := onlyDevice_updateDeviceBat _
    have hst : (handshakeReply buf level
        (s.withStorage (·.updateDeviceBat buf.fromID.toUInt32 (toU8 buf.data)))).toStorage =
          (s.updateDeviceBat buf.fromID.toUInt32 (toU8 buf.data)).2 := by
      simp [handshakeReply, State.withStorage]
    rw [hst]
    exact honly.getDoorID
  unfold handshake
  dsimp only
  split
  · exact run_of_eq (hreply 0)
  · split
    · rename_i hdata
      split
      · rename_i hne
        rw [hdoor] at hne
        refine run_step (.lowBattery hlearn (hok hdata hne)) ?_
        rw [← hreply 1]
        exact ctl_warningEnable _ _
      · exact run_of_eq (hreply 1)
    · split
      · split
        · refine run_step (.ultraLow hlearn) ?_
          rw [← hreply 2]
          exact ctl_warningEnable _ _
        · exact run_of_eq (hreply 2)
      · repeat' split
        · exact run_of_eq (hreply 3)
        · exact run_of_eq (hreply 4)
        · exact run_of_eq (ctl_updateDeviceBat _ s)

/-- Water at a slave: the alarm is stored, and shown unless it is already. -/
private theorem run_slaveWater (hlearn : s.learnFlag = 0)
    (hv : s.flashGetKeyValid buf.fromID.toUInt32 = RT_EOK) :
    CtlRun ok (ctl s) (ctl (slaveWater buf s)) := by
  have hreport : ∀ wet, ctl (radioEnqueue buf.fromID.toUInt32 (toU8 buf.counter) 4 wet s
      |> warUploadGW 1 buf.fromID.toUInt32 5 wet) = ctl s := fun wet => by simp
  unfold slaveWater
  split
  · split
    · exact .refl
    · exact run_of_eq (hreport 0)
  · split
    · split
      · exact .refl
      · extract_lets t u
        have hst : t.toStorage = s.toStorage := by simp [t]
        have hu : ctl u = { ctl s with alarm := true } := by
          have hflag : u.flashGetSlaveAlarmFlag ≠ 0 := alarmFlag_set (by rw [hst]; exact hv)
          have hset : ctl u = { ctl t with alarm := u.flashGetSlaveAlarmFlag ≠ 0 } :=
            ctl_flashSetSlaveAlarmFlag _ 1 t
          rw [hset, hreport 1, decide_eq_true hflag]
        refine run_step (.slaveWater hlearn) ?_
        have hstatus : u.nowStatus = (ctl s).status := by
          rw [← ctl_status, hu]
        rw [← hu, ← hstatus]
        split
        · exact ctl_warningEnable _ u
        · rfl
    · exact .refl

theorem ctl_reportValve (buf : Message) (s : State) : ctl (reportValve buf s) = ctl s := by
  unfold reportValve
  split <;> exact ctl_controlUploadGW ..

/-- A node opens in normal operation. -/
private theorem run_nodeOpen : CtlRun ok (ctl s) (ctl (nodeOpen buf s)) := by
  unfold nodeOpen
  rw [ctl_reportValve]
  split
  · rename_i h
    refine run_step (.nodeOpen h.symm) ?_
    rw [ctl_setLastCloseFlag, ctl_motoOpen, ctl_radioEnqueue]
  · exact run_of_eq (ctl_radioEnqueue ..)

/-- **The last alarm takes the warning with it.** -/
theorem ctl_clearSlaveAlarm (buf : Message) (s : State) :
    ctl (clearSlaveAlarm buf s) = ctl s ∨
      (ctl s).alarm = true ∧
        ctl (clearSlaveAlarm buf s) = { ctl s with alarm := false }.disable := by
  unfold clearSlaveAlarm
  split
  · rename_i halarm
    have hset := ctl_flashSetSlaveAlarmFlag buf.fromID.toUInt32 0 s
    have hbefore : (ctl s).alarm = true := decide_eq_true halarm
    dsimp only
    split
    · rename_i hzero
      refine .inr ⟨hbefore, ?_⟩
      rw [ctl_warningDisable, hset, hzero]
      rfl
    · rename_i hmore
      refine .inl ?_
      rw [hset, decide_eq_true hmore, ← hbefore]
  · exact .inl rfl

/-- A remote close clears an alarm and then closes, unless a warning is shown. -/
theorem ctl_nodeClose (buf : Message) (s : State) :
    ∃ c, (c = ctl s ∨ (ctl s).alarm = true ∧ c = { ctl s with alarm := false }.disable) ∧
      (ctl (nodeClose buf s) = c ∨ (c.status = .opened ∨ c.status = .close) ∧
        ctl (nodeClose buf s) = { c.disable with lastClose := 1 }.closeAs otherOff) := by
  have hclear := ctl_clearSlaveAlarm buf (radioEnqueue buf.fromID.toUInt32 (toU8 buf.counter) 6 0 s)
  rw [ctl_radioEnqueue] at hclear
  refine ⟨_, hclear, ?_⟩
  unfold nodeClose
  rw [ctl_reportValve]
  extract_lets t
  split
  · rename_i h
    refine .inr ⟨h, ?_⟩
    rw [ctl_motoClose, ctl_setLastCloseFlag, ctl_warningDisable]
  · exact .inl rfl

/-- Two transitions: the alarm is over, and the valve closes. -/
private theorem run_nodeClose : CtlRun ok (ctl s) (ctl (nodeClose buf s)) := by
  obtain ⟨c, hclear, hclose⟩ := ctl_nodeClose buf s
  have hrun : CtlRun ok (ctl s) c := by
    obtain rfl | ⟨halarm, rfl⟩ := hclear
    · exact .refl
    · exact .single (.slaveDry halarm)
  obtain hsame | ⟨hnormal, hclose⟩ := hclose
  · rw [hsame]
    exact hrun
  · rw [hclose]
    exact hrun.tail (.nodeClose hnormal.symm)

/-- The delayed close is started or stopped. -/
private theorem run_nodeDelay : CtlRun ok (ctl s) (ctl (nodeDelay buf s)) := by
  have henq : ctl (radioEnqueue buf.fromID.toUInt32 (toU8 buf.counter) 8 (toU8 buf.data) s) =
      ctl s := ctl_radioEnqueue ..
  unfold nodeDelay
  dsimp only
  split
  · refine run_step .delayStop ?_
    rw [delayTimerCloseDoor, delayTimerStop, ctl_setDelayTimer, ctl_controlUploadGW, henq]
  · split
    · rename_i hopen
      rw [show (radioEnqueue _ _ _ _ s).nowStatus = s.nowStatus from congrArg Ctl.status henq]
        at hopen
      unfold delayTimerOpenDoor
      split
      · refine run_step (.delayStart hopen) ?_
        rw [ctl_controlUploadGW, ctl_setDelayTimer, henq]
      · exact run_of_eq henq
    · exact run_of_eq henq

/-- A node begins learn mode in normal operation. -/
private theorem run_learnStart : CtlRun ok (ctl s) (ctl (learnStart buf s)) := by
  unfold learnStart startLearn
  split
  · rw [ctl_radioEnqueue]
    split
    · rename_i h
      exact run_step (.startLearn h) rfl
    · exact .refl
  · exact .refl

/-- A command frame of a registered device, outside learn mode. -/
private theorem run_dataSolveCommand (hlearn : s.learnFlag = 0)
    (hv : s.flashGetKeyValid buf.fromID.toUInt32 = RT_EOK)
    (hok : buf.command = 2 → buf.data = 1 → buf.fromID.toUInt32 ≠ s.getDoorID →
      ok .lowBattery (ctl s)) : CtlRun ok (ctl s) (ctl (dataSolveCommand buf s)) := by
  unfold dataSolveCommand
  split
  · exact run_of_eq (ctl_radioEnqueue ..)
  · split
    · rename_i hcmd
      exact run_handshake hlearn (hok hcmd)
    · repeat' split
      · exact run_learnStart
      · exact run_slaveWater hlearn hv
      · exact run_nodeOpen
      · exact run_nodeClose
      · exact run_nodeDelay
      · exact run_of_eq (by simp [slaveLost])
      · exact .refl

/-- The offline warning is left at once or not at all. -/
theorem ctl_offlineReact (s : State) : ctl (offlineReact s) = ctl s ∨
    (ctl s).status = .offline ∧ ctl (offlineReact s) = (ctl s).disable := by
  unfold offlineReact offlineDisableWarning
  dsimp only
  split
  · exact .inl rfl
  · rename_i hoff
    have honline : ctl (warningDisable s) = (ctl s).disable := ctl_warningDisable s
    repeat' split
    all_goals first
      | exact .inl rfl
      | exact .inr ⟨not_not.mp hoff, honline⟩

/-- So it is a transition, or none. -/
private theorem run_offlineReact : CtlRun ok (ctl s) (ctl (offlineReact s)) := by
  obtain hsame | ⟨hoff, honline⟩ := ctl_offlineReact s
  · exact run_of_eq hsame
  · exact run_step (.online hoff) honline

/-- After the command only `Offline_React` acts on the control core. -/
theorem ctl_dataSolve (buf : Message) (s : State) :
    ∃ t, ctl t = ctl (dataSolveCommand buf s) ∧ ctl (dataSolve buf s) = ctl (offlineReact t) := by
  unfold dataSolve changeMaxPower backNormalPower
  extract_lets t u v
  have hu : ctl u = ctl t := by
    unfold u
    repeat' split
    all_goals rfl
  exact ⟨v, (ctl_clearDeviceTime u).trans hu, rfl⟩

/-- After the command, the frame may end the offline warning. -/
private theorem run_dataSolve (hlearn : s.learnFlag = 0)
    (hv : s.flashGetKeyValid buf.fromID.toUInt32 = RT_EOK)
    (hok : buf.command = 2 → buf.data = 1 → buf.fromID.toUInt32 ≠ s.getDoorID →
      ok .lowBattery (ctl s)) : CtlRun ok (ctl s) (ctl (dataSolve buf s)) := by
  refine (run_dataSolveCommand hlearn hv hok).trans ?_
  obtain ⟨t, ht, hsolve⟩ := ctl_dataSolve buf s
  rw [← ht, hsolve]
  exact run_offlineReact

/-- A received low-battery report that is accepted: command 2 with data 1 from
a registered device other than the door, outside learn mode. -/
def LowBatteryReport (buf : Message) (s : State) : Prop :=
  (buf.targetID.toUInt32 = s.radioID ∨ buf.targetID = 99999999) ∧ s.learnFlag = 0 ∧
    s.flashGetKeyValid buf.fromID.toUInt32 = RT_EOK ∧ buf.command = 2 ∧ buf.data = 1 ∧
    buf.fromID.toUInt32 ≠ s.getDoorID

/-- Signal strength and life sign are for the registry. -/
theorem ctl_heardFrom (rssi : Int) (fromID : UInt32) (s : State) :
    ctl (heardFrom rssi fromID s) = ctl s := by
  simp [heardFrom]

/-- A node frame in learn mode is learned from, and else obeyed. -/
private theorem run_normalAct (hwf : s.Wf) (rssi : Int)
    (hok : LowBatteryReport buf s → ok .lowBattery (ctl s)) :
    CtlRun ok (ctl s) (ctl (normalAct rssi buf s)) := by
  have honly := onlyDevice_heardFrom rssi buf.fromID.toUInt32 s
  have hvalid := honly.flashGetKeyValid buf.fromID.toUInt32
  have hdoor := honly.getDoorID
  have hctl := ctl_heardFrom rssi buf.fromID.toUInt32 s
  have hlearn : (heardFrom rssi buf.fromID.toUInt32 s).learnFlag = s.learnFlag :=
    congrArg Ctl.learnFlag hctl
  unfold normalAct
  split
  · rename_i htarget
    split
    · rename_i hl
      have hheard := wf_heardFrom rssi buf.fromID.toUInt32 s hwf
      rw [ctl_deviceLearn hheard, hctl]
      split
      · exact .single (.learning hl)
      · exact .refl
    · rename_i hl
      have hl0 : s.learnFlag = 0 := not_not.mp hl
      split
      · rename_i hv
        have hrun : CtlRun ok (ctl (heardFrom rssi buf.fromID.toUInt32 s))
            (ctl (dataSolve buf (heardFrom rssi buf.fromID.toUInt32 s))) := run_dataSolve
          (hlearn.trans hl0) (hvalid.trans hv) (fun hcmd hdata hne => by
            rw [hctl]
            exact hok ⟨htarget, hl0, hv, hcmd, hdata, hdoor ▸ hne⟩)
        rwa [hctl] at hrun
      · exact .refl
  · exact .refl

/-! ## gateway frames -/

private theorem ctl_powerOnUpload (s : State) : ctl (powerOnUpload s) = ctl s :=
  (queueOnly_powerOnUpload s).ctl

theorem ctl_gatewaySync (s : State) : ctl (gatewaySync s) = ctl s := (syncOnly_gatewaySync s).ctl

/-- A gateway command that executes `Moto_Open(OtherOpen)`. -/
def GatewayOpens (buf : Message) (s : State) : Prop :=
  buf.command = 2 ∧ buf.data ≠ 0 ∧ (s.nowStatus = .close ∨ s.nowStatus = .opened)

/-- The gateway may open, which is special, or close. -/
private theorem run_gatewayValve (h2 : buf.command = 2)
    (hok : GatewayOpens buf s → ok .gatewayOpens (ctl s)) :
    CtlRun ok (ctl s) (ctl (gatewayValve buf s)) := by
  unfold gatewayValve remoteOpen remoteClose
  split
  · rename_i h
    dsimp only
    rw [ctl_controlUploadGW]
    split
    · rename_i hdata
      exact run_step (.remoteOpen h (hok ⟨h2, hdata, h⟩)) (ctl_motoOpen otherOpen s)
    · exact run_step (.remoteClose h) (ctl_motoClose otherOff s)
  · exact run_of_eq (ctl_controlUploadGW ..)

/-- Of the commands of the gateway, only 2 is seen by the core. -/
private theorem run_gatewayAct (hok : buf.targetID.toUInt32 = s.radioID →
    checkValid buf.fromID.toUInt32 s = RT_EOK → GatewayOpens buf s →
      ok .gatewayOpens (ctl s)) :
    CtlRun ok (ctl s) (ctl (gatewayAct buf s)) := by
  have hrefresh : ctl (heartRefresh buf.fromID.toUInt32 s) = ctl s := by
    unfold heartRefresh
    split <;> rfl
  unfold gatewayAct gatewayCommand
  split
  · rename_i haccept
    rw [← hrefresh]
    repeat' split
    · rename_i h2
      refine run_gatewayValve h2 fun hopen => ?_
      have hstatus : (heartRefresh buf.fromID.toUInt32 s).nowStatus = s.nowStatus :=
        congrArg Ctl.status hrefresh
      rw [GatewayOpens, hstatus] at hopen
      rw [hrefresh]
      exact hok haccept.1 haccept.2 hopen
    · exact run_of_eq (ctl_controlUploadGW ..)
    · exact run_of_eq (ctl_gatewaySync _)
    · exact run_of_eq (ctl_deleteDevice _)
    · exact .refl
    · exact .refl
  · exact .refl

/-- The frame `a` hands to `NormalSolve` is an accepted low-battery report. -/
def LowBatteryFrame (s : State) (a : Action) : Prop :=
  ∃ rxMessage rssi buffer len, a = .rf433Rx rxMessage rssi buffer len ∧
    byteAt buffer 1 = 123 ∧ nodeFrameEnd buffer len ∧
    LowBatteryReport (scanNode rxMessage buffer).2 s

/-- The frame `a` hands to `GatewayDataSolve` is an accepted command to open. -/
def GatewayOpenFrame (s : State) (a : Action) : Prop :=
  ∃ rxMessage rssi buffer len, a = .rf433Rx rxMessage rssi buffer len ∧
    byteAt buffer 1 = 71 ∧ gatewayFrameEnd buffer len ∧
    (scanGateway rxMessage buffer).2.targetID.toUInt32 = s.radioID ∧
    checkValid (scanGateway rxMessage buffer).2.fromID.toUInt32 s = RT_EOK ∧
    GatewayOpens (scanGateway rxMessage buffer).2 s

/-- Each of the two kinds of frame may make a special transition. -/
private theorem run_rf433RxCallback (hwf : s.Wf) {rxMessage : Message} {rssi : Int}
    {buffer : List UInt8} {len : UInt8}
    (hok : LowBatteryFrame s (.rf433Rx rxMessage rssi buffer len) → ok .lowBattery (ctl s))
    (hok' : GatewayOpenFrame s (.rf433Rx rxMessage rssi buffer len) → ok .gatewayOpens (ctl s)) :
    CtlRun ok (ctl s) (ctl (rf433RxCallback rxMessage rssi buffer len s)) := by
  unfold rf433RxCallback normalSolve gatewayDataSolve
  split
  · rename_i hnode
    split
    · rename_i hend
      exact run_normalAct hwf rssi fun hreport =>
        hok ⟨rxMessage, rssi, buffer, len, rfl, hnode, hend, hreport⟩
    · exact .refl
  · split
    · rename_i hgateway
      split
      · rename_i hend
        exact run_gatewayAct fun htarget hvalid hopen =>
          hok' ⟨rxMessage, rssi, buffer, len, rfl, hgateway, hend, htarget, hvalid, hopen⟩
      · exact .refl
    · exact .refl

/-! ## the clock -/

private theorem ctl_detectSlot (num : Nat) (p : Bool × State) :
    ctl (detectSlot num p).2 = ctl p.2 := by
  unfold detectSlot
  dsimp only
  repeat' split
  all_goals simp

/-- The induction is on the slots that are left. -/
theorem ctl_detectLoop (num : Nat) (p : Bool × State) :
    ctl (detectLoop num p).2 = ctl p.2 := by
  induction num generalizing p with
  | zero => rfl
  | succ num ih => exact (ih _).trans (ctl_detectSlot (num + 1) p)

/-- The core does not see the outputs of the motors. -/
theorem ctl_motoDetect (pins : Pins) (s : State) : ctl (motoDetect pins s) = ctl s :=
  (testOnly_motoDetect pins s).ctl

/-- After the slots, the offline warning is one transition. -/
private theorem run_detectAllTime (hr : registryMachine.Reachable s)
    (hs : detectAllTime s = some s') : CtlRun ok (ctl s) (ctl s') := by
  unfold detectAllTime at hs
  split at hs
  · cases hs; exact .refl
  · have hloop := ctl_detectLoop s.searchStart (false, s)
    have hreach := reach_detectLoop s.searchStart (false, s) hr
    dsimp only at hs hloop
    have hwarn : CtlRun ok (ctl s) (ctl (if (detectLoop s.searchStart (false, s)).1 = true then
          warningEnableNum 5 (detectLoop s.searchStart (false, s)).2
        else (detectLoop s.searchStart (false, s)).2)) ∧
        registryMachine.Reachable (if (detectLoop s.searchStart (false, s)).1 = true then
          warningEnableNum 5 (detectLoop s.searchStart (false, s)).2
        else (detectLoop s.searchStart (false, s)).2) := by
      split
      · refine ⟨run_step .warnOffline ?_, reach_warningEnableNum hreach 5⟩
        rw [← hloop]
        exact ctl_warningEnable _ _
      · exact ⟨run_of_eq hloop, hreach⟩
    obtain ⟨st, hst, rfl⟩ := Option.map_eq_some_iff.mp hs
    have htimes := ctl_onlyTimes (onlyTimes_clearAllTime (registryMachine_wf hwarn.2) hst)
    rw [htimes]
    exact hwarn.1

/-- An hour is the transition of its search, if there is one. -/
private theorem run_rtcTimerEntry (hr : registryMachine.Reachable s) {pins : Pins}
    (hs : rtcTimerEntry pins s = some s') : CtlRun ok (ctl s) (ctl s') := by
  unfold rtcTimerEntry at hs
  extract_lets t t' at hs
  have ht : ctl t' = ctl s := by
    unfold t'
    split
    · exact ctl_motoDetect _ _
    · rfl
  have hst' : t'.toStorage = s.toStorage := by
    unfold t'
    split
    · exact motoDetect_toStorage _ _
    · rfl
  have hr' : registryMachine.Reachable t' := reach_other hr hst'
  obtain ⟨st, hst, hs⟩ := Option.bind_eq_some_iff.mp hs
  have haged : ctl { t' with toStorage := st } = ctl s :=
    (ctl_onlyTimes (onlyTimes_updateAllTime (registryMachine_wf hr') hst)).trans ht
  have hreach : registryMachine.Reachable { t' with toStorage := st } :=
    hr'.step (a := .updateAllTime) (Option.map_eq_some_iff.mpr ⟨st, hst, rfl⟩)
  dsimp only at hs
  split at hs
  · cases hs
    exact run_of_eq haged
  · obtain ⟨u, hu, rfl⟩ := Option.map_eq_some_iff.mp hs
    have hrun : CtlRun ok _ (ctl u) := run_detectAllTime hreach hu
    rw [haged] at hrun
    exact hrun

/-! ## start-up and the keys -/

/-- The gateway is told of the start. -/
theorem ctl_gatewayInit (s : State) : ctl (gatewayInit s) = ctl s := by
  unfold gatewayInit heartTestStart
  dsimp only
  split
  · exact ctl_controlUploadGW ..
  · exact ctl_controlUploadGW 0 5 s.valveStatus 0 { s with gatewayID := _ }

/-- `main` leads to `Ctl.boot`, whatever was found in flash. -/
theorem ctl_boot {rom : UInt32} {pins : Pins} {env : Env} (hs : boot rom pins env = some s) :
    ∃ lastFlag alarm, ctl s = Ctl.boot lastFlag alarm := by
  unfold boot at hs
  dsimp only at hs
  obtain ⟨st, hst, rfl⟩ := Option.map_eq_some_iff.mp hs
  let t := radioQueueInit rom { State.reset env with toStorage := st }
  have hfactory : ∀ u, ctl (detectFactory pins u) = ctl u := by
    intro u
    unfold detectFactory
    split <;> rfl
  refine ⟨st.globalDevice.lastFlag, st.flashGetSlaveAlarmFlag ≠ 0, ?_⟩
  rw [ctl_gatewayInit, hfactory]
  show ctl (motoInit t) = if decide (t.flashGetSlaveAlarmFlag ≠ 0) = true then
      (ctl t).warn slaverWaterAlarmActiveEvent
    else if t.globalDevice.lastFlag ≠ otherOff then (ctl t).openAs normalOpen
    else ctl t
  unfold motoInit
  by_cases halarm : t.flashGetSlaveAlarmFlag = 0
  · simp only [halarm, ne_eq, not_true_eq_false, if_false, decide_false, Bool.false_eq_true]
    split
    · exact ctl_motoInitOpen normalOpen rfl
    · rfl
  · simp only [ne_eq, halarm, not_false_eq_true, if_true, decide_true]
    exact ctl_warningEnable _ t

/-- From any state, `main` is one transition. -/
private theorem run_boot {rom : UInt32} {pins : Pins} {env : Env}
    (hs : boot rom pins env = some s') : CtlRun ok (ctl s) (ctl s') := by
  obtain ⟨lastFlag, alarm, hboot⟩ := ctl_boot hs
  exact run_step (.boot lastFlag alarm) hboot

/-- Learn mode ends by its timer or by the key. -/
private theorem run_stopLearn (h : s.learnTimer = true ∨ s.nowStatus = .learn) :
    CtlRun ok (ctl s) (ctl (stopLearn { s with learnTimer := false })) := by
  refine run_step (.stopLearn h) ?_
  unfold stopLearn
  dsimp only
  split
  · rw [ctl_gatewaySync]; rfl
  · rfl

/-- `K0` pressed while the probe is lost. -/
def LostPeakOpens (s : State) (a : Action) : Prop :=
  ∃ sem pins, a = .keyReponse sem pins ∧ sem.k0 = true ∧ s.nowStatus = .masterLostPeak

/-- `K1` pressed in factory mode. -/
def FactoryKey (s : State) (a : Action) : Prop :=
  ∃ sem pins, a = .keyReponse sem pins ∧ sem.k0 = false ∧ sem.k1 = true ∧ s.factoryFlag ≠ 0

/-- The open key after a close, and while the probe is lost, which is special. -/
private theorem run_keyOn (hok : s.nowStatus = .masterLostPeak → ok .lostPeakOpens (ctl s)) :
    CtlRun ok (ctl s) (ctl (keyOn s)) := by
  unfold keyOn
  split
  · rename_i h
    split
    · rename_i hlast
      exact run_step (.keyOpen h hlast) (ctl_motoOpen normalOpen s)
    · exact .refl
  · rename_i h
    exact run_step (.lostPeakOpens h (hok h)) (ctl_motoOpen normalOpen _)
  · exact .refl

/-- The close key: in factory mode, which is special, when open, when the probe is lost,
and to dismiss an alarm that is over. -/
private theorem run_keyOff {pins : Pins} (hok : s.factoryFlag ≠ 0 → ok .factoryKey (ctl s)) :
    CtlRun ok (ctl s) (ctl (keyOff pins s)) := by
  unfold keyOff
  split
  · rename_i h
    exact run_step (.factoryKey (hok h)) (ctl_motoDetect _ _)
  · split
    · rename_i h
      exact run_step (.keyClose h) (ctl_motoClose normalOff _)
    · rename_i h
      refine run_step (.lostPeakCloses h) ?_
      rw [ctl_setStatus, ctl_motoClose]
    · rename_i h
      exact run_step (.dismiss h) (ctl_warUploadGW ..)
    · exact .refl

/-- One key is handled in a round. -/
private theorem run_keyReponse {rom : UInt32} {sem : KeySem} {pins : Pins}
    (hon : LostPeakOpens s (.keyReponse sem pins) → ok .lostPeakOpens (ctl s))
    (hoff : FactoryKey s (.keyReponse sem pins) → ok .factoryKey (ctl s))
    (hs : keyReponse rom sem pins s = some s') : CtlRun ok (ctl s) (ctl s') := by
  unfold keyReponse at hs
  split at hs
  · rename_i hk0
    cases hs
    exact run_keyOn fun h => hon ⟨sem, pins, rfl, hk0, h⟩
  · rename_i hk0
    split at hs
    · rename_i hk1
      cases hs
      exact run_keyOff fun h => hoff ⟨sem, pins, rfl, by simpa using hk0, hk1, h⟩
    · repeat' split at hs
      · exact run_boot hs
      · cases hs; exact .refl
      · cases hs
        unfold keyLong
        split
        · rename_i h
          exact run_step (.startLearn h) rfl
        · split
          · rename_i h
            exact run_stopLearn (Or.inr h)
          · exact .refl
      · cases hs; exact .refl

/-! ## the other timers -/

/-- The expiry of the delay timer. -/
def DelayExpires (s : State) (a : Action) : Prop := a = .delayTimer ∧ s.delayTimer = true

/-- A scan that takes the probe from wet to dry outside learn mode, so that
the de-activated alarm is shown. -/
def ProbeDries (s : State) (a : Action) : Prop :=
  ∃ pins, a = .waterscanTimer pins ∧ s.warningPastStatus = 2 ∧ peakReading pins s = 0 ∧
    s.warningStatus ≠ 1 ∧ s.nowStatus ≠ .learn

/-- The verdict on a motor may warn. -/
private theorem run_turn1TimerCallback : CtlRun ok (ctl s) (ctl (turn1TimerCallback s)) := by
  unfold turn1TimerCallback
  dsimp only
  split
  · split
    · exact run_step .warnMoto1 (ctl_warningEnable _ _)
    · exact .refl
  · split
    · exact run_of_eq (ctl_warUploadGW 1 2 0 0 _)
    · exact .refl

private theorem run_turn2TimerCallback : CtlRun ok (ctl s) (ctl (turn2TimerCallback s)) := by
  unfold turn2TimerCallback
  dsimp only
  split
  · exact run_step .warnMoto2 (ctl_warningEnable _ _)
  · exact run_of_eq (ctl_warUploadGW 1 2 1 0 _)

theorem ctl_gatewaySyncCallback (s : State) : ctl (gatewaySyncCallback s) = ctl s :=
  (syncOnly_gatewaySyncCallback s).ctl

theorem ctl_heartCheck (s : State) : ctl (heartCheck s) = ctl s := by
  unfold heartCheck
  split <;> rfl

/-- The heartbeat is a message. -/
theorem ctl_heartTest (s : State) : ctl (heartTest s) = ctl s := by
  unfold heartTest
  repeat' split
  · rw [ctl_powerOnUpload, ctl_controlUploadGW]; rfl
  · rw [ctl_controlUploadGW]; rfl
  · rfl

/-! ## every step -/

/-- The special transitions of a step. -/
def Occurs (s : State) (a : Action) : Special → Prop
  | .delayExpires => DelayExpires s a
  | .probeDries => ProbeDries s a
  | .lostPeakOpens => LostPeakOpens s a
  | .factoryKey => FactoryKey s a
  | .lowBattery => LowBatteryFrame s a
  | .gatewayOpens => GatewayOpenFrame s a

/-- **A step of the firmware is a run of the control core.** -/
theorem ctl_step {rom : UInt32} {a : Action} (hr : registryMachine.Reachable s)
    (hs : step rom s a = some s') (hok : ∀ special, Occurs s a special → ok special (ctl s)) :
    CtlRun ok (ctl s) (ctl s') := by
  have hwf := registryMachine_wf hr
  cases a <;> simp only [step, Option.ite_none_right_eq_some, Option.ite_none_left_eq_some,
    Option.some.injEq] at hs
  case keyReponse sem pins => exact run_keyReponse (hok .lostPeakOpens) (hok .factoryKey) hs
  case rf433Rx rxMessage rssi buffer len =>
    rw [← hs]
    exact run_rf433RxCallback hwf (hok .lowBattery) (hok .gatewayOpens)
  case rfEncode => rw [← hs.2]; exact .refl
  case waterscanTimer pins =>
    rw [← hs]
    refine run_step (.scan (peakReading pins s) fun hd => hok .probeDries ⟨pins, rfl, hd⟩) ?_
    exact ctl_waterscanTimerCallback pins s
  case ntcScanTimer cold warm =>
    rw [← hs, ctl_ntcScanTimerCallback]
    exact .tail (.single (.freeze cold)) (.thaw warm)
  case delayTimer =>
    refine run_step (.delayExpires hs.1 (hok .delayExpires ⟨rfl, hs.1⟩)) ?_
    rw [← hs.2, delayTimerCallback, ctl_controlUploadGW, ctl_motoClose]
    rfl
  case learnTimer => rw [← hs.2]; exact run_stopLearn (Or.inl hs.1)
  case turn1Edge | turn2Edge | moto1TimerAct | moto2TimerAct => rw [← hs.2]; exact .refl
  case moto1TimerDetect =>
    rw [← hs.2]
    exact run_turn1TimerCallback (s := { s with moto1TimerDetect := false })
  case moto2TimerDetect =>
    rw [← hs.2]
    exact run_turn2TimerCallback (s := { s with moto2TimerDetect := false })
  case motoDetectTimer pins => rw [← hs.2]; exact run_of_eq (ctl_motoDetect _ _)
  case rtcAlarm pins => exact run_rtcTimerEntry hr hs
  case gatewaySyncT => rw [← hs.2]; exact run_of_eq (ctl_gatewaySyncCallback s)
  case heartCheckT => rw [← hs.2]; exact run_of_eq (ctl_heartCheck s)
  case heartTestT => rw [← hs.2]; exact run_of_eq (ctl_heartTest s)
  case factoryCycle => rw [← hs.2]; exact run_of_eq (ctl_radioEnqueue ..)
  case reboot pins => exact run_boot hs

/-- **An invariant of the control core holds of the firmware**: it holds after
start-up and survives the transitions that the runs permit. -/
theorem ctl_invariant {rom : UInt32} {okStep : State → Action → Prop}
    (ok : Special → Ctl → Prop) {I : Ctl → Prop} (h : (valveMachine rom).ReachableVia okStep s)
    (hok : ∀ s a special, okStep s a → Occurs s a special → ok special (ctl s))
    (hboot : ∀ lastFlag alarm, I (Ctl.boot lastFlag alarm))
    (hstep : ∀ c c', I c → CtlStep ok c c' → I c') : I (ctl s) := by
  have hinv : registryMachine.Reachable s ∧ I (ctl s) := by
    refine h.invariant (I := fun s => registryMachine.Reachable s ∧ I (ctl s))
      (fun s hinit => ?_) fun s a s' ⟨hr, hI⟩ hoks hs => ?_
    · obtain ⟨pins, hinit⟩ := hinit
      obtain ⟨lastFlag, alarm, hc⟩ := ctl_boot hinit
      exact ⟨reachable_registryMachine (Machine.Reachable.init ⟨pins, hinit⟩),
        hc ▸ hboot lastFlag alarm⟩
    · exact ⟨reach_step hr hs, (ctl_step hr hs fun sp ho => hok s a sp hoks ho).invariant hI hstep⟩
  exact hinv.2

end WaterValve
