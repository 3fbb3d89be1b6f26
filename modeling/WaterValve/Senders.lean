import WaterValve.Events
import WaterValve.Frames
import WaterValve.SystemRegistry

/-!
# WaterValve.Senders

Who may command the unit.  Outside learn mode a frame is acted on when the
search for its sender finds a slot.  The search compares free slots too, and a
free slot holds 0, so a frame from the sender 0 passes while some slot is free.
`NodeForged` and `GatewayForged` say which buffers get that far and change
something; every other buffer from a sender that is not registered is ignored
(`unregistered_ignored`).
-/

namespace WaterValve

open CText

variable {rom : UInt32} {s : State} {st : Storage} {deviceID : UInt32}

/-! ## the search -/

/-- A lookup succeeds on the ids in the table, free slots included. -/
theorem Storage.Wf.slotOf_ne_zero_iff (h : st.Wf) :
    st.slotOf deviceID ≠ 0 ↔
      ∃ i, 0 < i ∧ i ≤ st.globalDevice.num ∧ st.globalDevice.id i = deviceID := by
  rw [Storage.slotOf, h.searchStart_eq, ne_eq, Nat.findGreatest_eq_zero_iff]
  push Not
  rfl

/-- A device with this id is stored. -/
def Registered (deviceID : UInt32) (s : State) : Prop :=
  ∃ i, 0 < i ∧ i ≤ s.globalDevice.num ∧ s.globalDevice.id i ≠ 0 ∧ s.globalDevice.id i = deviceID

/-- Some slot below the mark is free. -/
def FreeSlot (s : State) : Prop :=
  ∃ i, 0 < i ∧ i ≤ s.globalDevice.num ∧ s.globalDevice.id i = 0

/-- An unregistered id is found exactly when it is 0 and a slot is free. -/
theorem slotOf_of_unregistered (h : s.Wf) (hreg : ¬Registered deviceID s) :
    s.slotOf deviceID ≠ 0 ↔ deviceID = 0 ∧ FreeSlot s := by
  rw [h.slotOf_ne_zero_iff]
  constructor
  · rintro ⟨i, h0, hi, rfl⟩
    have hfree : s.globalDevice.id i = 0 := by
      by_contra hne
      exact hreg ⟨i, h0, hi, hne, rfl⟩
    exact ⟨hfree, i, h0, hi, hfree⟩
  · rintro ⟨rfl, hfree⟩
    exact hfree

/-! ## frames from a sender that is not found -/

/-- Outside learn mode such a node frame does nothing. -/
theorem normalAct_of_invalid {rssi : Int} {buf : Message} (hl : s.learnFlag = 0)
    (hs : s.slotOf buf.fromID.toUInt32 = 0) : normalAct rssi buf s = s := by
  have hv : s.flashGetKeyValid buf.fromID.toUInt32 ≠ RT_EOK := by
    rw [ne_eq, Storage.flashGetKeyValid_eq_ok]
    exact not_not.mpr hs
  unfold normalAct
  rw [if_neg (not_not.mpr hl), if_neg hv, ite_self]

/-- Such a gateway frame does nothing. -/
theorem gatewayAct_of_invalid {buf : Message} (hs : s.slotOf buf.fromID.toUInt32 = 0) :
    gatewayAct buf s = s := by
  have hv : checkValid buf.fromID.toUInt32 s ≠ RT_EOK := by
    rw [checkValid, ne_eq, Storage.flashGetKeyValid_eq_ok]
    exact not_not.mpr hs
  unfold gatewayAct
  rw [if_neg fun hc => hv hc.2]

/-! ## what a handler may not touch -/

/-- The registry with its flash copy, the valve, the status, the warning state
and the transmit queue are the same. -/
structure Untouched (s s' : State) : Prop where
  registry : s'.toStorage = s.toStorage
  valveStatus : s'.valveStatus = s.valveStatus
  nowStatus : s'.nowStatus = s.nowStatus
  nowStatusEvent : s'.nowStatusEvent = s.nowStatusEvent
  warningNowStatus : s'.warningNowStatus = s.warningNowStatus
  warningPastStatus : s'.warningPastStatus = s.warningPastStatus
  warningStatus : s'.warningStatus = s.warningStatus
  rfEnMq : s'.rfEnMq = s.rfEnMq

theorem Untouched.refl (s : State) : Untouched s s := ⟨rfl, rfl, rfl, rfl, rfl, rfl, rfl, rfl⟩

/-- `HeartRefresh` touches only the heartbeat. -/
theorem untouched_heartRefresh (id : UInt32) (s s' : State) :
    Untouched (heartRefresh id s) s' ↔ Untouched s s' := by
  unfold heartRefresh
  split
  · exact ⟨fun h => ⟨h.1, h.2, h.3, h.4, h.5, h.6, h.7, h.8⟩,
      fun h => ⟨h.1, h.2, h.3, h.4, h.5, h.6, h.7, h.8⟩⟩
  · exact Iff.rfl

/-! ## a node frame that is accepted

Its signal strength is stored with the sender's slot, and nothing the command
does writes that column again. -/

theorem rssi_updateDeviceRssi (hs : st.slotOf deviceID ≠ 0) (rssi : Int) :
    (st.updateDeviceRssi deviceID rssi).2.globalDevice.rssi (st.slotOf deviceID) =
      Storage.rssiClass rssi := by
  unfold Storage.updateDeviceRssi
  dsimp only
  rw [if_neg hs]
  split
  · exact Function.update_self ..
  · rename_i hsame
    exact (not_not.mp hsame).symm

theorem rssi_heardFrom (hs : s.slotOf deviceID ≠ 0) (rssi : Int) :
    (heardFrom rssi deviceID s).globalDevice.rssi (s.slotOf deviceID) =
      Storage.rssiClass rssi := by
  obtain ⟨_, _, _, hcolumns⟩ :=
    deviceAliveChange_columns deviceID (s.updateDeviceRssi deviceID rssi).2 1
  unfold heardFrom State.withStorage
  dsimp only
  rw [hcolumns]
  exact rssi_updateDeviceRssi hs rssi

theorem rssi_dataUpdate (buf : Message) (s : State) (st : Storage) :
    (dataUpdate buf s st).2.globalDevice.rssi = st.globalDevice.rssi := by
  have halarm : ∀ flag, _ := flashSetSlaveAlarmFlag_columns buf.fromID.toUInt32 st
  unfold dataUpdate
  repeat' split
  · obtain ⟨_, _, hcolumns⟩ := updateDeviceBat_columns buf.fromID.toUInt32 st (toU8 buf.data)
    simp [hcolumns]
  · obtain ⟨_, _, hcolumns⟩ := halarm 1
    simp [hcolumns]
  · obtain ⟨_, _, hcolumns⟩ := halarm 0
    simp [hcolumns]
  · rfl

/-- An accepted node frame stores its signal strength. -/
theorem rssi_normalAct {buf : Message} (hl : s.learnFlag = 0)
    (hs : s.slotOf buf.fromID.toUInt32 ≠ 0)
    (htarget : buf.targetID.toUInt32 = s.radioID ∨ buf.targetID = 99999999) (rssi : Int) :
    (normalAct rssi buf s).globalDevice.rssi (s.slotOf buf.fromID.toUInt32) =
      Storage.rssiClass rssi := by
  have hact : normalAct rssi buf s = dataSolve buf (heardFrom rssi buf.fromID.toUInt32 s) := by
    unfold normalAct
    rw [if_pos htarget, if_neg (not_not.mpr hl), if_pos (Storage.flashGetKeyValid_eq_ok.mpr hs)]
  have hsolved : (solvedStorage rssi buf s).globalDevice.rssi =
      (heardFrom rssi buf.fromID.toUInt32 s).globalDevice.rssi := by
    unfold solvedStorage
    dsimp only
    obtain ⟨_, hcolumns⟩ := clearDeviceTime_columns buf.fromID.toUInt32
      (dataUpdate buf (heardFrom rssi buf.fromID.toUInt32 s)
        (heardFrom rssi buf.fromID.toUInt32 s).toStorage).2
    rw [hcolumns]
    exact rssi_dataUpdate buf _ _
  have hrssi := congrArg DeviceInfo.rssi (noFlag_dataSolve rssi buf s)
  rw [hact]
  exact (congrFun (hrssi.trans hsolved) _).trans (rssi_heardFrom hs rssi)

/-- Some signal strength is of another class than the stored one. -/
theorem exists_rssiClass_ne (c : UInt8) : ∃ rssi, Storage.rssiClass rssi ≠ c := by
  by_cases h0 : c = 0
  · exact ⟨0, by rw [h0]; decide⟩
  · exact ⟨-100, fun h => h0 (h.symm.trans (by decide))⟩

/-! ## what a gateway command changes -/

/-- An upload to the gateway gets into the queue. -/
def UploadQueued (s : State) : Prop :=
  s.getGatewayID ≠ 0 ∧ s.gatewayID ≠ 0 ∧ s.rfEnMq.length < rfEnMqSize

instance (s : State) : Decidable (UploadQueued s) := inferInstanceAs (Decidable (_ ∧ _))

section

variable (ack warnId value : UInt8) (deviceId : UInt32)

theorem controlUploadGW_of_not_queued (h : ¬UploadQueued s) :
    controlUploadGW ack deviceId warnId value s = s := by
  unfold controlUploadGW gatewayControlEnqueue rtMqSend
  repeat' split
  · exact absurd ⟨‹_›, ‹_›, ‹_›⟩ h
  all_goals rfl

theorem warUploadGW_of_not_queued (h : ¬UploadQueued s) :
    warUploadGW ack deviceId warnId value s = s := by
  unfold warUploadGW gatewayWarningEnqueue rtMqSend
  repeat' split
  · exact absurd ⟨‹_›, ‹_›, ‹_›⟩ h
  all_goals rfl

theorem length_controlUploadGW (h : UploadQueued s) :
    (controlUploadGW ack deviceId warnId value s).rfEnMq.length = s.rfEnMq.length + 1 := by
  unfold controlUploadGW gatewayControlEnqueue rtMqSend
  rw [if_pos h.1, if_pos h.2.1, if_pos h.2.2]
  exact List.length_append

theorem length_le_warUploadGW (s : State) :
    s.rfEnMq.length ≤ (warUploadGW ack deviceId warnId value s).rfEnMq.length := by
  unfold warUploadGW gatewayWarningEnqueue rtMqSend
  repeat' split
  · exact List.length_append.symm ▸ Nat.le_add_right ..
  all_goals exact Nat.le_refl _

end

/-- A control upload touches the state exactly when it gets into the queue. -/
theorem untouched_controlUploadGW (ack controlId value : UInt8) (deviceId : UInt32) (s : State) :
    Untouched s (controlUploadGW ack deviceId controlId value s) ↔ ¬UploadQueued s := by
  constructor
  · intro h hqueued
    have hlength := length_controlUploadGW ack controlId value deviceId hqueued
    rw [h.rfEnMq] at hlength
    omega
  · intro h
    rw [controlUploadGW_of_not_queued ack controlId value deviceId h]
    exact .refl s

theorem powerOnUpload_of_not_queued (h : ¬UploadQueued s) : powerOnUpload s = s := by
  have hwar : ∀ warnId value, warUploadGW 1 0 warnId value s = s := fun warnId value =>
    warUploadGW_of_not_queued 1 warnId value 0 h
  unfold powerOnUpload
  simp only [hwar, ite_self]
  split <;> rfl

theorem length_le_powerOnUpload (s : State) :
    s.rfEnMq.length ≤ (powerOnUpload s).rfEnMq.length := by
  have hwar : ∀ warnId value (t : State),
      t.rfEnMq.length ≤ (warUploadGW 1 0 warnId value t).rfEnMq.length := fun warnId value =>
    length_le_warUploadGW 1 warnId value 0
  unfold powerOnUpload
  dsimp only
  split
  case h_7 =>
    split <;> split
    · exact (hwar 2 2 s).trans (hwar 2 3 _)
    · exact hwar 2 2 s
    · exact hwar 2 3 s
    · exact Nat.le_refl _
  case h_8 => exact Nat.le_refl _
  all_goals exact hwar ..

/-- The list of devices touches the state exactly when its first message gets
into the queue. -/
theorem untouched_gatewaySync (s : State) : Untouched s (gatewaySync s) ↔ ¬UploadQueued s := by
  constructor
  · intro h hqueued
    have hfirst := length_controlUploadGW 1 5 s.valveStatus 0 hqueued
    have hrest := length_le_powerOnUpload (controlUploadGW 1 0 5 s.valveStatus s)
    have hsame : (powerOnUpload (controlUploadGW 1 0 5 s.valveStatus s)).rfEnMq = s.rfEnMq :=
      h.rfEnMq
    rw [hsame] at hrest
    omega
  · intro h
    unfold gatewaySync
    rw [controlUploadGW_of_not_queued 1 5 s.valveStatus 0 h, powerOnUpload_of_not_queued h]
    exact ⟨rfl, rfl, rfl, rfl, rfl, rfl, rfl, rfl⟩

/-- A remote open finds nothing to do. -/
def OpenedRemotely (s : State) : Prop :=
  s.nowStatus = .opened ∧ s.valveStatus = 1 ∧ s.globalDevice.lastFlag = otherOpen ∧
    s.env FlashKey.moto.name = some (printD otherOpen)

/-- A remote close finds nothing to do. -/
def ClosedRemotely (s : State) : Prop :=
  s.nowStatus = .close ∧ s.valveStatus = 0 ∧ s.globalDevice.lastFlag = otherOff

instance (s : State) : Decidable (OpenedRemotely s) := inferInstanceAs (Decidable (_ ∧ _))

instance (s : State) : Decidable (ClosedRemotely s) := inferInstanceAs (Decidable (_ ∧ _))

/-- What an open of the gateway does while no warning is shown. -/
theorem remoteOpen_eq (h : s.nowStatus = .close ∨ s.nowStatus = .opened) : remoteOpen s =
    delayTimerStop (writeTurns true
      (setLastFlag otherOpen { s with nowStatus := .opened, valveStatus := 1 })) := by
  have hmay : mayOpen otherOpen s := by
    unfold mayOpen
    tauto
  unfold remoteOpen motoOpen
  rw [if_pos h, if_pos hmay]
  dsimp only
  rw [if_neg (by decide : otherOpen ≠ normalOpen)]

theorem setLastFlag_env_moto (actFlag : UInt8) (s : State) :
    (setLastFlag actFlag s).env FlashKey.moto.name = some (printD actFlag) := by
  simp [setLastFlag, flashMotoChange, Storage.put, efSetEnv]

/-- Storing the flag that is stored already changes nothing. -/
theorem setLastFlag_toStorage_self {actFlag : UInt8} (hlast : s.globalDevice.lastFlag = actFlag)
    (henv : s.env FlashKey.moto.name = some (printD actFlag)) :
    (setLastFlag actFlag s).toStorage = s.toStorage := by
  have hdevice : { s.globalDevice with lastFlag := actFlag } = s.globalDevice := by rw [← hlast]
  have hupdate : Function.update s.env FlashKey.moto.name (some (printD actFlag)) = s.env := by
    rw [← henv]
    exact Function.update_eq_self ..
  show (⟨{ s.globalDevice with lastFlag := actFlag },
    Function.update s.env FlashKey.moto.name (some (printD actFlag))⟩ : Storage) = _
  rw [hdevice, hupdate]

theorem untouched_remoteOpen (h : s.nowStatus = .close ∨ s.nowStatus = .opened) :
    Untouched s (remoteOpen s) ↔ OpenedRemotely s := by
  rw [remoteOpen_eq h]
  constructor
  · intro hsame
    have hlast := congrArg (fun st : Storage => st.globalDevice.lastFlag) hsame.registry
    have henv := congrArg (fun st : Storage => st.env FlashKey.moto.name) hsame.registry
    have hstored := setLastFlag_env_moto otherOpen
      { s with nowStatus := .opened, valveStatus := 1 }
    exact ⟨hsame.nowStatus.symm, hsame.valveStatus.symm, hlast.symm, henv.symm.trans hstored⟩
  · rintro ⟨hstatus, hvalve, hlast, henv⟩
    exact ⟨setLastFlag_toStorage_self (s := s) hlast henv, hvalve.symm, hstatus.symm, rfl, rfl, rfl,
      rfl, rfl⟩

theorem untouched_remoteClose (s : State) : Untouched s (remoteClose s) ↔ ClosedRemotely s := by
  unfold remoteClose motoClose
  by_cases hlast : s.globalDevice.lastFlag = otherOff
  · rw [if_neg (not_not.mpr hlast), if_pos ⟨hlast, rfl⟩]
    exact ⟨fun h => ⟨h.nowStatus.symm, h.valveStatus.symm, hlast⟩,
      fun h => ⟨rfl, h.2.1.symm, h.1.symm, rfl, rfl, rfl, rfl, rfl⟩⟩
  · rw [if_pos hlast]
    constructor
    · intro h
      exact absurd (congrArg (fun st : Storage => st.globalDevice.lastFlag) h.registry).symm hlast
    · intro h
      exact absurd h.2.2 hlast

/-- Writing 0 over a slot that is free in RAM and in flash changes nothing. -/
theorem setID_zero_eq_self_iff (num : Nat) (st : Storage) : st.setID num 0 = st ↔
    st.globalDevice.id num = 0 ∧
      st.env (FlashKey.num (UInt32.ofNat num)).name = some (printLd 0) := by
  have hset : st.setID num 0 = ⟨{ st.globalDevice with
      id := Function.update st.globalDevice.id num 0 },
        Function.update st.env (FlashKey.num (UInt32.ofNat num)).name (some (printLd 0))⟩ := rfl
  rw [hset]
  constructor
  · intro h
    have hid := congrArg (fun t : Storage => t.globalDevice.id) h
    have henv := congrArg Storage.env h
    exact ⟨(Function.update_eq_self_iff.mp hid).symm, (Function.update_eq_self_iff.mp henv).symm⟩
  · rintro ⟨hid, henv⟩
    rw [Function.update_eq_self_iff.mpr hid.symm, Function.update_eq_self_iff.mpr henv.symm]

/-- A delete changes the storage when it finds a device, or a free slot for
which flash does not say 0. -/
theorem deleteDevice_eq_self_iff : (st.deleteDevice deviceID).2 = st ↔
    st.slotOf deviceID = 0 ∨ deviceID = 0 ∧
      st.env (FlashKey.num (UInt32.ofNat (st.slotOf deviceID))).name = some (printLd 0) := by
  by_cases hs : st.slotOf deviceID = 0
  · simp [Storage.deleteDevice_of_invalid hs, hs]
  have hslot : st.globalDevice.id (st.slotOf deviceID) = deviceID :=
    Nat.findGreatest_of_ne_zero rfl hs
  by_cases hzero : deviceID = 0
  · have hdelete : (st.deleteDevice deviceID).2 = st.setID (st.slotOf deviceID) 0 := by
      have hdoor : getDoorValid deviceID ≠ RT_EOK := by rw [hzero]; decide
      unfold Storage.deleteDevice
      dsimp only
      rw [if_neg hs, if_neg hdoor]
    rw [hdelete, setID_zero_eq_self_iff, hslot]
    simp only [hs, false_or]
  · have hid : (st.deleteDevice deviceID).2.globalDevice.id (st.slotOf deviceID) = 0 := by
      unfold Storage.deleteDevice
      dsimp only
      rw [if_neg hs]
      split <;> exact Function.update_self ..
    constructor
    · intro h
      rw [h, hslot] at hid
      exact absurd hid hzero
    · rintro (h | h)
      · exact absurd h hs
      · exact absurd h.1 hzero

/-- A command of the gateway changes the registry, the valve, the status or the
queue: it opens or closes a valve that is not yet so, its report gets into the
queue, or it deletes. -/
def GatewayTouches (buf : Message) (s : State) : Prop :=
  (buf.command = 2 ∧ (UploadQueued s ∨ (s.nowStatus = .close ∨ s.nowStatus = .opened) ∧
      (buf.data ≠ 0 → ¬OpenedRemotely s) ∧ (buf.data = 0 → ¬ClosedRemotely s))) ∨
    ((buf.command = 3 ∨ buf.command = 4) ∧ UploadQueued s) ∨
    (buf.command = 6 ∧ s.slotOf buf.deviceID.toUInt32 ≠ 0 ∧ (buf.deviceID.toUInt32 = 0 →
      s.env (FlashKey.num (UInt32.ofNat (s.slotOf buf.deviceID.toUInt32))).name ≠
        some (printLd 0)))

instance (buf : Message) (s : State) : Decidable (GatewayTouches buf s) :=
  inferInstanceAs (Decidable (_ ∨ _ ∨ _))

/-- The valve command: the report, if it is queued, or else the valve. -/
theorem untouched_gatewayValve (buf : Message) (s : State) :
    Untouched s (gatewayValve buf s) ↔ ¬UploadQueued s ∧
      ((s.nowStatus = .close ∨ s.nowStatus = .opened) →
        if buf.data ≠ 0 then OpenedRemotely s else ClosedRemotely s) := by
  unfold gatewayValve
  by_cases hstatus : s.nowStatus = .close ∨ s.nowStatus = .opened
  · rw [if_pos hstatus]
    simp only [hstatus, true_imp_iff]
    -- the valve is moved before the report, which the move does not keep out of the queue
    have hmoved : ∃ t, (if buf.data ≠ 0 then remoteOpen s else remoteClose s) = t ∧
        (UploadQueued t ↔ UploadQueued s) ∧ t.rfEnMq = s.rfEnMq ∧ (Untouched s t ↔
          if buf.data ≠ 0 then OpenedRemotely s else ClosedRemotely s) := by
      refine ⟨_, rfl, ?_⟩
      split
      · refine ⟨?_, ?_, untouched_remoteOpen hstatus⟩ <;> rw [remoteOpen_eq hstatus] <;> rfl
      · refine ⟨?_, ?_, untouched_remoteClose s⟩ <;> unfold remoteClose motoClose <;> split <;>
          first | rfl | (split <;> rfl)
    obtain ⟨t, ht, hqueued, hmq, huntouched⟩ := hmoved
    rw [ht, ← huntouched, ← hqueued]
    by_cases hq : UploadQueued t
    · have hlength := length_controlUploadGW 1 2 t.valveStatus t.radioID hq
      refine iff_of_false (fun h => ?_) fun h => h.1 hq
      rw [h.rfEnMq, hmq] at hlength
      omega
    · rw [controlUploadGW_of_not_queued 1 2 t.valveStatus t.radioID hq]
      exact (and_iff_right hq).symm
  · rw [if_neg hstatus, untouched_controlUploadGW]
    simp only [hstatus, false_imp_iff, and_true]

/-- What a command of the gateway touches. -/
theorem untouched_gatewayCommand (buf : Message) (s : State) :
    Untouched s (gatewayCommand buf s) ↔ ¬GatewayTouches buf s := by
  unfold gatewayCommand GatewayTouches
  by_cases h2 : buf.command = 2
  · rw [if_pos h2, untouched_gatewayValve, h2]
    split <;> simp_all
  by_cases h3 : buf.command = 3
  · rw [if_neg h2, if_pos h3, untouched_controlUploadGW, h3]
    simp
  by_cases h4 : buf.command = 4
  · rw [if_neg h2, if_neg h3, if_pos h4, untouched_gatewaySync, h4]
    simp
  by_cases h6 : buf.command = 6
  · have hdelete : Untouched s (s.withStorage (·.deleteDevice buf.deviceID.toUInt32)) ↔
        (s.deleteDevice buf.deviceID.toUInt32).2 = s.toStorage :=
      ⟨fun h => h.registry, fun h => ⟨h, rfl, rfl, rfl, rfl, rfl, rfl, rfl⟩⟩
    rw [if_neg h2, if_neg h3, if_neg h4, if_pos h6, hdelete, deleteDevice_eq_self_iff, h6]
    simp
    tauto
  · rw [if_neg h2, if_neg h3, if_neg h4, if_neg h6]
    simp only [h2, h3, h4, h6, false_and, or_false, not_false_eq_true, iff_true]
    split
    · exact ⟨rfl, rfl, rfl, rfl, rfl, rfl, rfl, rfl⟩
    · exact .refl s

theorem gatewayTouches_heartRefresh (buf : Message) (id : UInt32) (s : State) :
    GatewayTouches buf (heartRefresh id s) ↔ GatewayTouches buf s := by
  unfold heartRefresh
  split <;> exact Iff.rfl

/-! ## forged frames -/

/-- A free slot answers for this sender. -/
def FoundFree (fromID : Int32) (s : State) : Prop := fromID = 0 ∧ FreeSlot s

/-- A node frame that `NormalSolve` acts on though its sender is not
registered. -/
def NodeForged (rxMessage : Message) (rxBuffer : List UInt8) (rxLen : UInt8) (s : State) : Prop :=
  nodeFrameEnd rxBuffer rxLen ∧
    ((scanNode rxMessage rxBuffer).2.targetID.toUInt32 = s.radioID ∨
      (scanNode rxMessage rxBuffer).2.targetID = 99999999) ∧
    FoundFree (scanNode rxMessage rxBuffer).2.fromID s

/-- A gateway frame that `GatewayDataSolve` acts on though its sender is not
registered, with a command that changes something. -/
def GatewayForged (rxMessage : Message) (rxBuffer : List UInt8) (rxLen : UInt8) (s : State) :
    Prop :=
  gatewayFrameEnd rxBuffer rxLen ∧
    (scanGateway rxMessage rxBuffer).2.targetID.toUInt32 = s.radioID ∧
    FoundFree (scanGateway rxMessage rxBuffer).2.fromID s ∧
    GatewayTouches (scanGateway rxMessage rxBuffer).2 s

/-- The search finds an unregistered sender exactly when a free slot answers. -/
theorem slotOf_eq_zero_iff (h : s.Wf) {fromID : Int32} (hreg : ¬Registered fromID.toUInt32 s) :
    s.slotOf fromID.toUInt32 = 0 ↔ ¬FoundFree fromID s := by
  have hzero : fromID.toUInt32 = 0 ↔ fromID = 0 := by
    constructor
    · intro h0
      have hback : fromID.toUInt32.toInt32 = 0 := by rw [h0]; rfl
      rwa [Int32.toInt32_toUInt32] at hback
    · rintro rfl
      rfl
  rw [← not_iff_not, not_not, FoundFree, ← hzero]
  exact slotOf_of_unregistered h hreg

/-- Whatever its signal strength, a node frame touches nothing unless it is
forged. -/
theorem untouched_normalSolve (h : s.Wf) (hl : s.learnFlag = 0) {rxMessage : Message}
    {rxBuffer : List UInt8} {rxLen : UInt8}
    (hreg : ¬Registered (scanNode rxMessage rxBuffer).2.fromID.toUInt32 s) :
    (∀ rssi, Untouched s (normalSolve rxMessage rssi rxBuffer rxLen s)) ↔
      ¬NodeForged rxMessage rxBuffer rxLen s := by
  have hfound := slotOf_eq_zero_iff h hreg
  unfold normalSolve NodeForged
  by_cases hend : nodeFrameEnd rxBuffer rxLen
  swap
  · simp only [hend, false_and, not_false_eq_true, iff_true, if_false]
    exact fun _ => .refl s
  generalize (scanNode rxMessage rxBuffer).2 = buf at *
  simp only [hend, true_and, if_true]
  constructor
  · rintro hign ⟨htarget, hfree⟩
    have hs : s.slotOf buf.fromID.toUInt32 ≠ 0 := fun hs => hfound.mp hs hfree
    obtain ⟨rssi, hne⟩ :=
      exists_rssiClass_ne (s.globalDevice.rssi (s.slotOf buf.fromID.toUInt32))
    have hstored := rssi_normalAct hl hs htarget rssi
    rw [show (normalAct rssi buf s).globalDevice = s.globalDevice from
      congrArg Storage.globalDevice (hign rssi).registry] at hstored
    exact hne hstored.symm
  · intro hforged rssi
    by_cases htarget : buf.targetID.toUInt32 = s.radioID ∨ buf.targetID = 99999999
    · rw [normalAct_of_invalid hl (hfound.mpr fun hfree => hforged ⟨htarget, hfree⟩)]
      exact .refl s
    · unfold normalAct
      rw [if_neg htarget]
      exact .refl s

/-- A gateway frame touches nothing unless it is forged. -/
theorem untouched_gatewayDataSolve (h : s.Wf) {rxMessage : Message} {rxBuffer : List UInt8}
    {rxLen : UInt8} (hreg : ¬Registered (scanGateway rxMessage rxBuffer).2.fromID.toUInt32 s) :
    Untouched s (gatewayDataSolve rxMessage rxBuffer rxLen s) ↔
      ¬GatewayForged rxMessage rxBuffer rxLen s := by
  have hfound := slotOf_eq_zero_iff h hreg
  unfold gatewayDataSolve GatewayForged
  by_cases hend : gatewayFrameEnd rxBuffer rxLen
  swap
  · simp only [hend, false_and, not_false_eq_true, iff_true, if_false]
    exact .refl s
  generalize (scanGateway rxMessage rxBuffer).2 = buf at *
  simp only [hend, true_and, if_true]
  unfold gatewayAct
  by_cases haccept : buf.targetID.toUInt32 = s.radioID ∧ checkValid buf.fromID.toUInt32 s = RT_EOK
  · have hfree : FoundFree buf.fromID s := by
      by_contra hno
      exact Storage.flashGetKeyValid_eq_ok.mp haccept.2 (hfound.mpr hno)
    rw [if_pos haccept, ← untouched_heartRefresh buf.fromID.toUInt32, untouched_gatewayCommand,
      gatewayTouches_heartRefresh]
    simp only [haccept.1, hfree, true_and]
  · rw [if_neg haccept]
    refine iff_of_true (.refl s) fun hforged => haccept ⟨hforged.1, ?_⟩
    exact Storage.flashGetKeyValid_eq_ok.mpr fun hs => hfound.mp hs hforged.2.1

/-- **A sender that is not registered is ignored** in every reachable state
outside learn mode, by every buffer but the forged ones. -/
theorem unregistered_ignored (h : (valveMachine rom).Reachable s) (hl : s.learnFlag = 0)
    (rxMessage : Message) (rxBuffer : List UInt8) (rxLen : UInt8) :
    (¬Registered (scanNode rxMessage rxBuffer).2.fromID.toUInt32 s →
      ((∀ rssi, Untouched s (normalSolve rxMessage rssi rxBuffer rxLen s)) ↔
        ¬NodeForged rxMessage rxBuffer rxLen s)) ∧
    (¬Registered (scanGateway rxMessage rxBuffer).2.fromID.toUInt32 s →
      (Untouched s (gatewayDataSolve rxMessage rxBuffer rxLen s) ↔
        ¬GatewayForged rxMessage rxBuffer rxLen s)) :=
  ⟨untouched_normalSolve (valveMachine_wf h) hl, untouched_gatewayDataSolve (valveMachine_wf h)⟩

/-- A gateway frame to the unit, as a gateway sends it. -/
def gatewayRx (fromID deviceID : UInt32) (command data : UInt8) : Action :=
  let text := ascii "G\x7b" ++ fmtLd 8 selfDefaultId ++ ascii "," ++ fmtLd 8 fromID ++ ascii "," ++
    fmtLd 8 deviceID ++ ascii "," ++ fmtD 3 1 ++ ascii "," ++ fmtD 2 command ++ ascii "," ++
    fmtD 2 data ++ ascii "\x7dG"
  .rf433Rx ⟨0, 0, 0, 0, 0, 0⟩ (-50) (received text []) (UInt8.ofNat text.length)

/-- The text of a node frame to another unit. -/
def elsewhere : List UInt8 := received (ascii "\x7b12345678,00000000,001,05,0\x7d\r\n") []

/-- A device and a gateway are learned and the gateway deletes the device. -/
def freedSlot : List Action :=
  learnDevice 10000001 ++ learnDevice 40000001 ++ [gatewayRx 40000001 10000001 6 0]

/-- Slot 1 is free: an open command from the sender 0 to another unit is
ignored. -/
theorem unregistered_ignored_elsewhere : ∃ s, (valveMachine 0).runFrom started freedSlot = some s ∧
    FreeSlot s ∧ ∀ rssi, Untouched s (normalSolve ⟨0, 0, 0, 0, 0, 0⟩ rssi elsewhere 30 s) := by
  have hrun : ((valveMachine 0).runFrom started freedSlot).map (fun s =>
      (s.learnFlag, s.globalDevice.num, s.globalDevice.id 1, s.radioID)) =
        some (0, 2, 0, selfDefaultId) := by decide +kernel
  obtain ⟨s, hs, hobs⟩ := Option.map_eq_some_iff.mp hrun
  simp only [Prod.mk.injEq] at hobs
  obtain ⟨hl, hnum, hid, hradio⟩ := hobs
  have hscan : (scanNode ⟨0, 0, 0, 0, 0, 0⟩ elsewhere).2 = ⟨12345678, 0, 0, 1, 5, 0⟩ := by
    decide +kernel
  refine ⟨s, hs, ⟨1, by decide, by omega, hid⟩, ?_⟩
  refine ((unregistered_ignored (started_reachable.runFrom hs) hl ⟨0, 0, 0, 0, 0, 0⟩ elsewhere
    30).1 ?_).mpr ?_
  · rw [hscan]
    exact fun ⟨i, _, _, hne, h0⟩ => hne h0
  · unfold NodeForged
    rw [hscan, hradio]
    exact fun h => absurd h.2.1 (by decide)

/-- `K1` closes the valve then: an open command from the sender 0 opens it. -/
theorem not_unregistered_ignored : ¬∀ s, (valveMachine 0).Reachable s → s.learnFlag = 0 →
    ∀ rxMessage rssi rxBuffer rxLen,
      ¬Registered (scanNode rxMessage rxBuffer).2.fromID.toUInt32 s →
        Untouched s (normalSolve rxMessage rssi rxBuffer rxLen s) := by
  intro hall
  have hrun : ((valveMachine 0).runFrom started (freedSlot ++ [pressK1])).map
        (fun s => (s.learnFlag, s.valveStatus,
          (normalSolve ⟨0, 0, 0, 0, 0, 0⟩ (-50) (received (broadcast 0 5 0) [])
            (broadcastLen 0 5 0) s).valveStatus)) = some (0, 0, 1) := by decide +kernel
  obtain ⟨s, hreach, hobs⟩ := exists_of_run hrun
  simp only [Prod.mk.injEq] at hobs
  obtain ⟨hl, hclosed, hopen⟩ := hobs
  have hsender : (scanNode ⟨0, 0, 0, 0, 0, 0⟩ (received (broadcast 0 5 0) [])).2.fromID = 0 := by
    rw [scanNode_broadcast]
    rfl
  have hsame := hall s hreach hl ⟨0, 0, 0, 0, 0, 0⟩ (-50) (received (broadcast 0 5 0) [])
    (broadcastLen 0 5 0) fun ⟨i, _, _, hne, hid⟩ => by
      rw [hsender] at hid
      exact hne hid
  have hvalve := hsame.valveStatus
  rw [hopen, hclosed] at hvalve
  exact absurd hvalve (by decide)

end WaterValve
