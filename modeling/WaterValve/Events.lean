import WaterValve.FrameEffects

/-!
# WaterValve.Events

The actions of the firmware by what they do to the view.  `event` names the few
that change it: an accepted frame, an hour, a start of the unit, the end of the
delay and a message leaving the queue.  `handles_event` is the inversion of
`step` that the run properties outside the control core are proved from.
-/

namespace WaterValve

variable {rom : UInt32} {s s' : State} {buf : Message}

/-! ## accepted frames -/

/-- An accepted node frame is learned in learn mode and answered outside it. -/
theorem normalAct_of_accepts (h : Accepts buf s) (rssi : Int) : normalAct rssi buf s =
    if s.learnFlag ≠ 0 then deviceLearn buf (heardFrom rssi buf.fromID.toUInt32 s)
    else dataSolve buf (heardFrom rssi buf.fromID.toUInt32 s) := by
  unfold normalAct
  rw [if_pos h.1]
  split
  · rfl
  · rename_i hlearn
    rw [if_pos (h.2.resolve_left hlearn)]

/-- A node frame that is not accepted does nothing. -/
theorem normalAct_of_not_accepts (h : ¬Accepts buf s) (rssi : Int) : normalAct rssi buf s = s := by
  unfold Accepts at h
  unfold normalAct
  split
  · split
    · tauto
    · split
      · tauto
      · rfl
  · rfl

/-- The same of a gateway frame. -/
theorem gatewayAct_eq (buf : Message) (s : State) : gatewayAct buf s =
    if GatewayAccepts buf s then gatewayCommand buf (heartRefresh buf.fromID.toUInt32 s) else s :=
  rfl

/-! ## events -/

/-- What can change the view. -/
inductive Event
  | quiet
  | node (rssi : Int) (buf : Message)
  | gateway (buf : Message)
  | hour (pins : Pins)
  | restart (pins : Pins) (env : Env)
  | delayEnds
  | sent

/-- A received frame. -/
def frameEvent (rxMessage : Message) (rssi : Int) (buffer : List UInt8) (len : UInt8) (s : State) :
    Event :=
  if byteAt buffer 1 = 123 then
    if nodeFrameEnd buffer len ∧ Accepts (scanNode rxMessage buffer).2 s then
      .node rssi (scanNode rxMessage buffer).2
    else .quiet
  else if byteAt buffer 1 = 71 then
    if gatewayFrameEnd buffer len ∧ GatewayAccepts (scanGateway rxMessage buffer).2 s then
      .gateway (scanGateway rxMessage buffer).2
    else .quiet
  else .quiet

/-- What an action is in a state. -/
def event (s : State) : Action → Event
  | .rf433Rx rxMessage rssi buffer len => frameEvent rxMessage rssi buffer len s
  | .rtcAlarm pins => .hour pins
  | .reboot pins => .restart pins s.env
  | .keyReponse sem pins =>
    if sem.k0 = false ∧ sem.k1 = false ∧ sem.k0k1 then .restart pins (deleteAllDevice s).env
    else .quiet
  | .delayTimer => .delayEnds
  | .rfEncode => .sent
  | _ => .quiet

/-- What an event does. -/
inductive Handles (rom : UInt32) (s : State) : Event → State → Prop
  | quiet {s' : State} (hview : view s' = view s) : Handles rom s .quiet s'
  | learn {rssi : Int} {buf : Message} (haccept : Accepts buf s) (hlearn : s.learnFlag ≠ 0) :
      Handles rom s (.node rssi buf) (deviceLearn buf (heardFrom rssi buf.fromID.toUInt32 s))
  | solve {rssi : Int} {buf : Message} (haccept : Accepts buf s) (hlearn : s.learnFlag = 0) :
      Handles rom s (.node rssi buf) (dataSolve buf (heardFrom rssi buf.fromID.toUInt32 s))
  | gateway {buf : Message} (haccept : GatewayAccepts buf s) :
      Handles rom s (.gateway buf) (gatewayCommand buf (heartRefresh buf.fromID.toUInt32 s))
  | hour {pins : Pins} {s' : State} (hs : rtcTimerEntry pins s = some s') :
      Handles rom s (.hour pins) s'
  | restart {pins : Pins} {env : Env} {s' : State} (hs : boot rom pins env = some s') :
      Handles rom s (.restart pins env) s'
  | delayEnds {s' : State} (hview : view s' = (view s).lockIf true) : Handles rom s .delayEnds s'
  | sent : Handles rom s .sent { s with rfEnMq := s.rfEnMq.tail, rfAckSem := false }

/-- The handler of a received buffer does what the frame found in it asks for. -/
private theorem handles_frameEvent (rxMessage : Message) (rssi : Int) (buffer : List UInt8)
    (len : UInt8) : Handles rom s (frameEvent rxMessage rssi buffer len s)
      (rf433RxCallback rxMessage rssi buffer len s) := by
  have hquiet : Handles rom s .quiet s := .quiet rfl
  unfold frameEvent rf433RxCallback
  split
  · unfold normalSolve
    by_cases hend : nodeFrameEnd buffer len
    · by_cases haccept : Accepts (scanNode rxMessage buffer).2 s
      · rw [if_pos ⟨hend, haccept⟩, if_pos hend, normalAct_of_accepts haccept]
        split
        · rename_i hlearn
          exact .learn haccept hlearn
        · rename_i hlearn
          exact .solve haccept (not_not.mp hlearn)
      · rw [if_neg (fun h => haccept h.2), if_pos hend, normalAct_of_not_accepts haccept]
        exact hquiet
    · rw [if_neg (fun h => hend h.1), if_neg hend]
      exact hquiet
  · split
    · unfold gatewayDataSolve
      rw [gatewayAct_eq]
      by_cases hend : gatewayFrameEnd buffer len
      · by_cases haccept : GatewayAccepts (scanGateway rxMessage buffer).2 s
        · rw [if_pos ⟨hend, haccept⟩, if_pos hend, if_pos haccept]
          exact .gateway haccept
        · rw [if_neg (fun h => haccept h.2), if_pos hend, if_neg haccept]
          exact hquiet
      · rw [if_neg (fun h => hend h.1), if_neg hend]
        exact hquiet
    · exact hquiet

/-- The handler of a key does what its semaphore asks for. -/
private theorem handles_keyReponse {sem : KeySem} {pins : Pins}
    (hs : keyReponse rom sem pins s = some s') :
    Handles rom s (event s (.keyReponse sem pins)) s' := by
  obtain ⟨k0, k0Long, k1, k1Long, k0k1⟩ := sem
  unfold keyReponse at hs
  dsimp only at hs
  cases k0 with
  | true =>
      cases hs
      exact .quiet (view_keyOn s)
  | false =>
      cases k1 with
      | true =>
          cases hs
          exact .quiet (view_keyOff pins s)
      | false =>
          cases k0k1 with
          | true => exact .restart hs
          | false =>
              cases k0Long with
              | true =>
                  cases hs
                  exact .quiet rfl
              | false =>
                  cases k1Long with
                  | true =>
                      cases hs
                      exact .quiet (view_keyLong s)
                  | false =>
                      cases hs
                      exact .quiet rfl

/-- **A step of the firmware is its event.** -/
theorem handles_event {a : Action} (hs : step rom s a = some s') :
    Handles rom s (event s a) s' := by
  cases a <;> simp only [step, Option.ite_none_right_eq_some, Option.ite_none_left_eq_some,
    Option.some.injEq] at hs
  case keyReponse sem pins => exact handles_keyReponse hs
  case rf433Rx rxMessage rssi buffer len => exact hs ▸ handles_frameEvent rxMessage rssi buffer len
  case rfEncode =>
    obtain ⟨-, rfl⟩ := hs
    exact .sent
  case waterscanTimer pins => exact .quiet (hs ▸ view_waterscanTimerCallback pins s)
  case ntcScanTimer cold warm => exact .quiet (hs ▸ view_ntcScanTimerCallback cold warm s)
  case delayTimer =>
    have hview : view (delayTimerCallback { s with delayTimer := false }) = (view s).lockIf true :=
      (view_controlUploadGW ..).trans (view_motoClose_otherOff _)
    exact .delayEnds (hs.2 ▸ hview)
  case learnTimer => exact .quiet (hs.2 ▸ (view_stopLearn _).trans rfl)
  case turn1Edge | turn2Edge | moto1TimerAct | moto2TimerAct =>
    obtain ⟨-, rfl⟩ := hs
    exact .quiet rfl
  case moto1TimerDetect => exact .quiet (hs.2 ▸ (view_turn1TimerCallback _).trans rfl)
  case moto2TimerDetect => exact .quiet (hs.2 ▸ (view_turn2TimerCallback _).trans rfl)
  case motoDetectTimer pins => exact .quiet (hs.2 ▸ (view_motoDetect pins _).trans rfl)
  case rtcAlarm pins => exact .hour hs
  case gatewaySyncT => exact .quiet (hs.2 ▸ view_gatewaySyncCallback s)
  case heartCheckT => exact .quiet (hs.2 ▸ view_heartCheck s)
  case heartTestT => exact .quiet (hs.2 ▸ view_heartTest s)
  case factoryCycle => exact .quiet (hs.2 ▸ view_radioEnqueue ..)
  case reboot pins => exact .restart hs

/-! ## the commands of the gateway -/

/-- A gateway command that executes `Moto_Close(OtherOff)`. -/
def GatewayCloses (buf : Message) (s : State) : Prop :=
  buf.command = 2 ∧ buf.data = 0 ∧ (s.nowStatus = .close ∨ s.nowStatus = .opened)

instance (buf : Message) (s : State) : Decidable (GatewayOpens buf s) :=
  inferInstanceAs (Decidable (_ ∧ _))

instance (buf : Message) (s : State) : Decidable (GatewayCloses buf s) :=
  inferInstanceAs (Decidable (_ ∧ _))

/-- The registry after a gateway command. -/
def gatewayUpdate (buf : Message) (st : Storage) : UInt8 × Storage :=
  if buf.command = 6 then st.deleteDevice buf.deviceID.toUInt32 else (RT_EOK, st)

/-- The valve command of the gateway unlocks the key when it opens and locks it when it
closes. -/
private theorem view_gatewayValve (h : buf.command = 2) : view (gatewayValve buf s) =
    if GatewayOpens buf s then { view s with locked := false }
    else (view s).lockIf (GatewayCloses buf s) := by
  unfold gatewayValve GatewayOpens GatewayCloses
  by_cases hstatus : s.nowStatus = .close ∨ s.nowStatus = .opened
  · by_cases hdata : buf.data = 0
    · simp [hstatus, hdata, h, remoteClose]
    · simp [hstatus, hdata, h, remoteOpen]
  · simp [hstatus]

/-- **The effect of a gateway command on the view.** -/
theorem view_gatewayCommand (buf : Message) (s : State) : view (gatewayCommand buf s) =
    if GatewayOpens buf s then { view s with locked := false }
    else (view (s.withStorage (gatewayUpdate buf))).lockIf (GatewayCloses buf s) := by
  have hkeep : buf.command ≠ 6 → view (s.withStorage (gatewayUpdate buf)) = view s := by
    intro h6
    unfold State.withStorage gatewayUpdate
    rw [if_neg h6]
  by_cases h2 : buf.command = 2
  · rw [gatewayCommand, if_pos h2, hkeep (by simp [h2]), view_gatewayValve h2]
  · rw [if_neg (fun h => h2 h.1), decide_eq_false (fun h : GatewayCloses buf s => h2 h.1),
      View.lockIf_false, gatewayCommand, if_neg h2]
    by_cases h6 : buf.command = 6
    · simp [h6, gatewayUpdate, State.withStorage]
    · rw [hkeep h6, if_neg h6]
      repeat' split
      · exact view_controlUploadGW ..
      · exact view_gatewaySync s
      · rfl
      · rfl

/-! ## what a node frame does to the registry -/

section

variable {st st' : Storage} {deviceID : UInt32} {i : Nat}

/-- The slots do not depend on `LastFlag`. -/
theorem slot_of_noFlag (h : st'.globalDevice.noFlag = st.globalDevice.noFlag) (i : Nat) :
    st'.slot i = st.slot i := by
  have hslot : (Storage.mk st'.globalDevice.noFlag st.env).slot i =
      (Storage.mk st.globalDevice.noFlag st.env).slot i := by rw [h]
  exact hslot

/-- Nor does the search. -/
theorem slotOf_of_noFlag (h : st'.globalDevice.noFlag = st.globalDevice.noFlag)
    (deviceID : UInt32) : st'.slotOf deviceID = st.slotOf deviceID := by
  have hslot : (Storage.mk st'.globalDevice.noFlag st.env).slotOf deviceID =
      (Storage.mk st.globalDevice.noFlag st.env).slotOf deviceID := by rw [h]
  exact hslot

/-- `deviceID` has been heard: only its slot is touched, and its message flag is
set. -/
structure HeardOf (deviceID : UInt32) (st st' : Storage) : Prop where
  num : st'.globalDevice.num = st.globalDevice.num
  doorNum : st'.globalDevice.doorNum = st.globalDevice.doorNum
  gatewayNum : st'.globalDevice.gatewayNum = st.globalDevice.gatewayNum
  id : st'.globalDevice.id = st.globalDevice.id
  slot : ∀ j, j ≠ st.slotOf deviceID → st'.slot j = st.slot j
  time : ∀ j, st'.globalDevice.idTime j = st.globalDevice.idTime j ∨ st'.globalDevice.idTime j = 0
  message : st.slotOf deviceID ≠ 0 → st'.globalDevice.getMesssage (st.slotOf deviceID) = 1

/-- An update of one device that clears times only counts as hearing of it. -/
theorem OnlyDevice.heardOf (h : OnlyDevice deviceID (st.slotOf deviceID) st st')
    (htime : ∀ j, st'.globalDevice.idTime j = st.globalDevice.idTime j ∨
      st'.globalDevice.idTime j = 0)
    (hmessage : st.slotOf deviceID ≠ 0 →
      st'.globalDevice.getMesssage (st.slotOf deviceID) = 1) : HeardOf deviceID st st' :=
  ⟨h.num, h.doorNum, h.gatewayNum, h.id, h.slot, htime, hmessage⟩

/-- What is heard of a device does not depend on `LastFlag`. -/
theorem HeardOf.congr {st'' : Storage} (h : HeardOf deviceID st st')
    (hsame : st''.globalDevice.noFlag = st'.globalDevice.noFlag) : HeardOf deviceID st st'' where
  num := (congrArg DeviceInfo.num hsame).trans h.num
  doorNum := (congrArg DeviceInfo.doorNum hsame).trans h.doorNum
  gatewayNum := (congrArg DeviceInfo.gatewayNum hsame).trans h.gatewayNum
  id := (congrArg DeviceInfo.id hsame).trans h.id
  slot := fun j hj => (slot_of_noFlag hsame j).trans (h.slot j hj)
  time := by
    intro j
    have htime : st''.globalDevice.noFlag.idTime = st'.globalDevice.noFlag.idTime := by rw [hsame]
    have hj : st''.globalDevice.idTime j = st'.globalDevice.idTime j := congrFun htime j
    rw [hj]
    exact h.time j
  message := fun h0 => (congrFun (congrArg DeviceInfo.getMesssage hsame) _).trans (h.message h0)

end

/-- `Device_AliveChange(id, 1)` sets the message flag. -/
theorem getMesssage_deviceAliveChange {st : Storage} {deviceID : UInt32}
    (hs : st.slotOf deviceID ≠ 0) :
    (st.deviceAliveChange deviceID 1).2.globalDevice.getMesssage (st.slotOf deviceID) = 1 := by
  simp only [Storage.deviceAliveChange, if_neg hs]
  split
  · simp [flashAliveChange, Storage.put]
  · rename_i hsame
    simp only [ne_eq, not_or, not_not] at hsame
    exact hsame.2

/-- Hearing a sender marks its slot. -/
theorem getMesssage_heardFrom {fromID : UInt32} (hs : s.slotOf fromID ≠ 0) (rssi : Int) :
    (heardFrom rssi fromID s).globalDevice.getMesssage (s.slotOf fromID) = 1 := by
  have hrssi : OnlyDevice fromID _ s.toStorage (s.updateDeviceRssi fromID rssi).2 :=
    onlyDevice_updateDeviceRssi rssi
  rw [← hrssi.slotOf] at hs ⊢
  exact getMesssage_deviceAliveChange hs

/-- What is heard from a sender that is not found is not recorded. -/
theorem heardFrom_of_invalid {deviceID : UInt32} (hs : s.slotOf deviceID = 0) (rssi : Int) :
    heardFrom rssi deviceID s = s := by
  have hrssi : (s.updateDeviceRssi deviceID rssi).2 = s.toStorage := by
    simp [Storage.updateDeviceRssi, hs]
  have halive : (s.deviceAliveChange deviceID 1).2 = s.toStorage := by
    simp [Storage.deviceAliveChange, hs]
  unfold heardFrom State.withStorage
  simp only [hrssi, halive]

theorem idTime_deviceAliveChange (deviceID : UInt32) (value : UInt8) (st : Storage) :
    (st.deviceAliveChange deviceID value).2.globalDevice.idTime = st.globalDevice.idTime := by
  obtain ⟨_, _, _, hcolumns⟩ := deviceAliveChange_columns deviceID st value
  rw [hcolumns]

/-- Hearing a sender does not touch the times. -/
theorem idTime_heardFrom (rssi : Int) (fromID : UInt32) (s : State) :
    (heardFrom rssi fromID s).globalDevice.idTime = s.globalDevice.idTime := by
  obtain ⟨_, _, _, _, hcolumns⟩ := heardFrom_columns rssi fromID s
  rw [hcolumns]

/-- The data of a frame update the slot of the sender. -/
theorem onlyDevice_dataUpdate (buf : Message) (s : State) (st : Storage) :
    OnlyDevice buf.fromID.toUInt32 (st.slotOf buf.fromID.toUInt32) st (dataUpdate buf s st).2 := by
  unfold dataUpdate
  repeat' split
  · exact onlyDevice_updateDeviceBat _
  · exact onlyDevice_flashSetSlaveAlarmFlag 1
  · exact onlyDevice_flashSetSlaveAlarmFlag 0
  · exact .refl _ _ st

/-- The registry after a node frame outside learn mode. -/
def solvedStorage (rssi : Int) (buf : Message) (s : State) : Storage :=
  let t := heardFrom rssi buf.fromID.toUInt32 s
  ((dataUpdate buf t t.toStorage).2.clearDeviceTime buf.fromID.toUInt32).2

/-- A node command leaves of the registry what its attribute update leaves. -/
theorem noFlag_dataSolveCommand (buf : Message) (s : State) :
    (dataSolveCommand buf s).globalDevice.noFlag =
      (dataUpdate buf s s.toStorage).2.globalDevice.noFlag := by
  refine (congrArg View.device (view_dataSolveCommand buf s)).trans ?_
  split <;> rfl

private theorem noFlag_clearDeviceTime {st st' : Storage}
    (h : st'.globalDevice.noFlag = st.globalDevice.noFlag) (deviceID : UInt32) :
    (st'.clearDeviceTime deviceID).2.globalDevice.noFlag =
      (st.clearDeviceTime deviceID).2.globalDevice.noFlag := by
  have hslot := slotOf_of_noFlag h deviceID
  have hdevice : st'.globalDevice =
      { st.globalDevice with lastFlag := st'.globalDevice.lastFlag } := by
    have hflag : { st'.globalDevice.noFlag with lastFlag := st'.globalDevice.lastFlag } =
        { st.globalDevice.noFlag with lastFlag := st'.globalDevice.lastFlag } := by rw [h]
    exact hflag
  unfold Storage.clearDeviceTime
  dsimp only
  rw [hslot]
  split
  · exact h
  · rw [hdevice]
    rfl

/-- `DataSolve` writes the registry as `solvedStorage` says, beside `LastFlag`. -/
theorem noFlag_dataSolve (rssi : Int) (buf : Message) (s : State) :
    (dataSolve buf (heardFrom rssi buf.fromID.toUInt32 s)).globalDevice.noFlag =
      (solvedStorage rssi buf s).globalDevice.noFlag :=
  (congrArg View.device (view_dataSolve buf _)).trans
    (noFlag_clearDeviceTime (noFlag_dataSolveCommand buf _) _)

/-- It writes the slot of the sender and no other. -/
theorem onlyDevice_solvedStorage (rssi : Int) (buf : Message) (s : State) :
    OnlyDevice buf.fromID.toUInt32 (s.slotOf buf.fromID.toUInt32) s.toStorage
      (solvedStorage rssi buf s) := by
  have hheard := onlyDevice_heardFrom rssi buf.fromID.toUInt32 s
  generalize ht : heardFrom rssi buf.fromID.toUInt32 s = t at hheard
  have hupdate := onlyDevice_dataUpdate buf t t.toStorage
  have htime : OnlyDevice buf.fromID.toUInt32
      ((dataUpdate buf t t.toStorage).2.slotOf buf.fromID.toUInt32)
      (dataUpdate buf t t.toStorage).2 (solvedStorage rssi buf s) := by
    rw [solvedStorage, ht]
    exact onlyDevice_clearDeviceTime
  rw [hupdate.slotOf] at htime
  rw [hheard.slotOf] at hupdate htime
  exact (hheard.trans hupdate).trans htime

private theorem times_dataUpdate (buf : Message) (s : State) (st : Storage) :
    (dataUpdate buf s st).2.globalDevice.getMesssage = st.globalDevice.getMesssage ∧
      (dataUpdate buf s st).2.globalDevice.idTime = st.globalDevice.idTime := by
  have hbat : ∀ bat, _ := updateDeviceBat_columns buf.fromID.toUInt32 st
  have halarm : ∀ flag, _ := flashSetSlaveAlarmFlag_columns buf.fromID.toUInt32 st
  unfold dataUpdate
  repeat' split
  · obtain ⟨_, _, hcolumns⟩ := hbat (toU8 buf.data)
    simp [hcolumns]
  · obtain ⟨_, _, hcolumns⟩ := halarm 1
    simp [hcolumns]
  · obtain ⟨_, _, hcolumns⟩ := halarm 0
    simp [hcolumns]
  · simp

private theorem times_clearDeviceTime (deviceID : UInt32) (st : Storage) :
    (st.clearDeviceTime deviceID).2.globalDevice.getMesssage = st.globalDevice.getMesssage ∧
      ∀ j, (st.clearDeviceTime deviceID).2.globalDevice.idTime j = st.globalDevice.idTime j ∨
        (st.clearDeviceTime deviceID).2.globalDevice.idTime j = 0 := by
  unfold Storage.clearDeviceTime
  dsimp only
  split
  · exact ⟨rfl, fun _ => .inl rfl⟩
  · refine ⟨rfl, fun j => ?_⟩
    by_cases hj : j = st.slotOf deviceID
    · exact .inr (by simp [hj])
    · exact .inl (by simp [hj])

/-- **What an accepted node frame does to the registry**: its sender has been
heard, or in learn mode the frame writes the sender into `learnSlot`. -/
theorem node_outcome {rssi : Int} (hwf : s.Wf) (h : Handles rom s (.node rssi buf) s') :
    HeardOf buf.fromID.toUInt32 s.toStorage s'.toStorage ∨
      ∃ num, s.learnFlag ≠ 0 ∧ s.learnSlot buf = some num ∧
        WritesSlot num buf.fromID.toUInt32 s.toStorage s'.toStorage := by
  have honly := onlyDevice_heardFrom rssi buf.fromID.toUInt32 s
  have htime := idTime_heardFrom rssi buf.fromID.toUInt32 s
  cases h with
  | learn haccept hlearn =>
      by_cases hs : s.slotOf buf.fromID.toUInt32 = 0
      · -- an unknown sender is not recorded before it is learned
        rw [heardFrom_of_invalid hs]
        have hnone : ∀ {st : Storage}, OnlyDevice buf.fromID.toUInt32 _ s.toStorage st →
            st.globalDevice.idTime = s.globalDevice.idTime →
            HeardOf buf.fromID.toUInt32 s.toStorage st := fun ho ht =>
          ho.heardOf (fun j => .inl (congrFun ht j)) fun h0 => absurd hs h0
        obtain ⟨num, hnum, hw⟩ | hsame | halive := hwf.learned_cases (learned_deviceLearn buf s)
        · exact .inr ⟨num, hlearn, hnum, hw⟩
        · exact .inl (hnone (hsame ▸ .refl ..) (by rw [hsame]))
        · rw [halive]
          exact .inl (hnone (onlyDevice_deviceAliveChange 1) (idTime_deviceAliveChange ..))
      · have hmessage := getMesssage_heardFrom hs rssi
        have hlearned := learned_deviceLearn buf (heardFrom rssi buf.fromID.toUInt32 s)
        have hwf' := hwf.onlyDevice honly
        generalize heardFrom rssi buf.fromID.toUInt32 s = t at *
        have hvalid : t.flashGetKeyValid buf.fromID.toUInt32 = RT_EOK := by
          rw [Storage.flashGetKeyValid_eq_ok, honly.slotOf]
          exact hs
        obtain ⟨num, hnum, -⟩ | hsame | halive := hwf'.learned_cases hlearned
        · simp [Storage.learnSlot, hvalid] at hnum
        · rw [hsame]
          exact .inl (honly.heardOf (fun j => .inl (congrFun htime j)) fun _ => hmessage)
        · have hconfirm : OnlyDevice buf.fromID.toUInt32 _ t.toStorage _ :=
            onlyDevice_deviceAliveChange 1
          rw [honly.slotOf, ← halive] at hconfirm
          refine .inl ((honly.trans hconfirm).heardOf (fun j => .inl ?_) fun _ => ?_)
          · rw [halive, idTime_deviceAliveChange, htime]
          · rw [halive, ← honly.slotOf]
            exact getMesssage_deviceAliveChange (by rwa [honly.slotOf])
  | solve haccept hlearn =>
      refine .inl (((onlyDevice_solvedStorage rssi buf s).heardOf (fun j => ?_) fun h0 => ?_).congr
        (noFlag_dataSolve rssi buf s))
      · rw [solvedStorage, ← htime]
        generalize heardFrom rssi buf.fromID.toUInt32 s = t
        rw [← (times_dataUpdate buf t t.toStorage).2]
        exact (times_clearDeviceTime _ _).2 j
      · rw [solvedStorage, (times_clearDeviceTime _ _).1, (times_dataUpdate buf _ _).1]
        exact getMesssage_heardFrom h0 rssi

/-- A learn frame that writes a slot has an unknown sender. -/
theorem Storage.learnSlot_spec {st : Storage} {num : Nat} (h : st.learnSlot buf = some num) :
    0 < num ∧ st.flashGetKeyValid buf.fromID.toUInt32 ≠ RT_EOK := by
  unfold learnSlot at h
  split at h
  · rename_i hreq
    exact ⟨requestSlot_pos h, hreq.2.2⟩
  · cases h

/-- What is heard from the sender does not change whether a gateway confirms. -/
theorem gatewayConfirms_heardFrom (rssi : Int) (buf : Message) (s : State) :
    GatewayConfirms buf (heardFrom rssi buf.fromID.toUInt32 s) ↔ GatewayConfirms buf s := by
  have honly := onlyDevice_heardFrom rssi buf.fromID.toUInt32 s
  rw [GatewayConfirms, GatewayConfirms, Storage.flashGetKeyValid_eq_ok,
    Storage.flashGetKeyValid_eq_ok, honly.slotOf]

/-- In learn mode a frame changes the registry, and `Gateway_ID` when a gateway
confirms. -/
theorem registryOnly_learn (rssi : Int) (buf : Message) (s : State) :
    RegistryOnly (if GatewayConfirms buf s then rereadGatewayID s else s)
      (deviceLearn buf (heardFrom rssi buf.fromID.toUInt32 s)) := by
  have honly := onlyDevice_heardFrom rssi buf.fromID.toUInt32 s
  have hreread : rereadGatewayID (heardFrom rssi buf.fromID.toUInt32 s) =
      heardFrom rssi buf.fromID.toUInt32 (rereadGatewayID s) := by
    rw [rereadGatewayID, honly.id, honly.gatewayNum]
    rfl
  have hlearn := registryOnly_deviceLearn buf (heardFrom rssi buf.fromID.toUInt32 s)
  simp only [gatewayConfirms_heardFrom] at hlearn
  split
  · rename_i hconfirm
    rw [if_pos hconfirm, hreread] at hlearn
    exact (registryOnly_heardFrom rssi _ _).trans hlearn
  · rename_i hconfirm
    rw [if_neg hconfirm] at hlearn
    exact (registryOnly_heardFrom rssi _ s).trans hlearn

/-- The lock after a node command. -/
def nodeLocks (buf : Message) (s : State) (locked : Bool) : Bool :=
  if NodeOpens buf s then false else NodeCloses buf s || locked

/-- Outside learn mode a frame changes the registry and the lock. -/
theorem view_solve (rssi : Int) (buf : Message) (s : State) :
    ∃ d, view (dataSolve buf (heardFrom rssi buf.fromID.toUInt32 s)) = { view s with
      device := d
      locked := nodeLocks buf (heardFrom rssi buf.fromID.toUInt32 s) (view s).locked } := by
  obtain ⟨d, hheard⟩ := registryOnly_heardFrom rssi buf.fromID.toUInt32 s
  generalize heardFrom rssi buf.fromID.toUInt32 s = t at hheard ⊢
  have htime : OnlyDevice buf.fromID.toUInt32 _ (dataSolveCommand buf t).toStorage
      ((dataSolveCommand buf t).clearDeviceTime buf.fromID.toUInt32).2 := onlyDevice_clearDeviceTime
  have hupdate := onlyDevice_dataUpdate buf t t.toStorage
  rw [view_dataSolve, view_withStorage htime.lastFlag, view_dataSolveCommand,
    view_withStorage hupdate.lastFlag, hheard, nodeLocks]
  split <;> exact ⟨_, rfl⟩

/-- An accepted node frame leaves the clock and the radio id alone. -/
theorem node_clock {rssi : Int} (h : Handles rom s (.node rssi buf) s') :
    s'.rtcCounter = s.rtcCounter ∧ s'.radioID = s.radioID := by
  cases h with
  | learn haccept hlearn =>
      have hlearn := registryOnly_learn rssi buf s
      split at hlearn <;> exact ⟨hlearn.rtcCounter, hlearn.radioID⟩
  | solve haccept hlearn =>
      obtain ⟨d, hview⟩ := view_solve rssi buf s
      exact ⟨congrArg View.rtcCounter hview, congrArg View.radioID hview⟩

/-! ## what a gateway command does to the registry -/

/-- Command 6 deletes a device; the others leave the registry alone. -/
theorem gateway_outcome (hwf : s.Wf) (buf : Message) :
    (buf.command = 6 ∧ s.slotOf buf.deviceID.toUInt32 ≠ 0 ∧
      WritesSlot (s.slotOf buf.deviceID.toUInt32) 0 s.toStorage (gatewayCommand buf s).toStorage) ∨
    (gatewayCommand buf s).globalDevice.noFlag = s.globalDevice.noFlag := by
  have hdevice : (gatewayCommand buf s).globalDevice.noFlag =
      (gatewayUpdate buf s.toStorage).2.globalDevice.noFlag := by
    refine (congrArg View.device (view_gatewayCommand buf s)).trans ?_
    split
    · rename_i hopens
      rw [gatewayUpdate, if_neg (by simp [hopens.1])]
      rfl
    · rfl
  rw [hdevice]
  by_cases h6 : buf.command = 6
  · by_cases hs : s.slotOf buf.deviceID.toUInt32 = 0
    · rw [gatewayUpdate, if_pos h6, Storage.deleteDevice_of_invalid hs]
      exact .inr rfl
    · have hst : (gatewayCommand buf s).toStorage = (s.deleteDevice buf.deviceID.toUInt32).2 := by
        simp [gatewayCommand, h6, State.withStorage]
      rw [hst]
      exact .inl ⟨h6, hs, hwf.writesSlot_deleteDevice hs⟩
  · rw [gatewayUpdate, if_neg h6]
    exact .inr rfl

/-- A heartbeat writes no device. -/
theorem heartRefresh_toStorage (id : UInt32) (s : State) :
    (heartRefresh id s).toStorage = s.toStorage := by
  unfold heartRefresh
  split <;> rfl

/-- The lock after a gateway command. -/
def gatewayLocks (buf : Message) (s : State) (locked : Bool) : Bool :=
  if GatewayOpens buf s then false else GatewayCloses buf s || locked

/-- An accepted gateway frame changes the registry and the lock. -/
theorem view_gateway (buf : Message) (s : State) :
    ∃ d, view (gatewayCommand buf (heartRefresh buf.fromID.toUInt32 s)) = { view s with
      device := d
      locked := gatewayLocks buf s (view s).locked } := by
  have hrefresh := view_heartRefresh buf.fromID.toUInt32 s
  have hstatus : (heartRefresh buf.fromID.toUInt32 s).nowStatus = s.nowStatus := by
    unfold heartRefresh
    split <;> rfl
  have hlocks : ∀ locked, gatewayLocks buf (heartRefresh buf.fromID.toUInt32 s) locked =
      gatewayLocks buf s locked := by
    intro locked
    have hopens : GatewayOpens buf (heartRefresh buf.fromID.toUInt32 s) ↔ GatewayOpens buf s := by
      rw [GatewayOpens, hstatus, GatewayOpens]
    have hcloses :
        GatewayCloses buf (heartRefresh buf.fromID.toUInt32 s) ↔ GatewayCloses buf s := by
      rw [GatewayCloses, hstatus, GatewayCloses]
    simp only [gatewayLocks, hopens, hcloses]
  rw [← hlocks]
  generalize heartRefresh buf.fromID.toUInt32 s = t at hrefresh ⊢
  have hupdate :
      (gatewayUpdate buf t.toStorage).2.globalDevice.lastFlag = t.globalDevice.lastFlag := by
    unfold gatewayUpdate
    split
    · unfold Storage.deleteDevice
      dsimp only
      repeat' split
      all_goals rfl
    · rfl
  rw [view_gatewayCommand, view_withStorage hupdate, hrefresh, gatewayLocks]
  split <;> exact ⟨_, rfl⟩

end WaterValve
