import WaterValve.DeviceUpdates
import WaterValve.System

/-!
# WaterValve.RegistryRun

The registry as a transition system of its own: learn frames, deletions,
updates and reloads in any order, with the rest of the firmware doing what it
likes to the rest of the state.  Every reachable state has an intact registry
(`registryMachine_wf`), and `RegistryIntegrity` spells out what that means for
the operations.
-/

namespace WaterValve

/-! ## the transition system -/

/-- The operations on the registry.  `other s'` is anything else: the rest of
the state becomes that of `s'`. -/
inductive RegistryAction
  | learn (buf : Message)
  | deleteDevice (deviceID : UInt32)
  | deleteAllDevice
  | deviceAliveChange (deviceID : UInt32) (value : UInt8)
  | updateDeviceBat (deviceID : UInt32) (bat : UInt8)
  | updateDeviceRssi (deviceID : UInt32) (rssi : Int)
  | clearDeviceTime (deviceID : UInt32)
  | flashSetSlaveAlarmFlag (deviceID : UInt32) (flag : UInt8)
  | updateAllTime
  | clearAllTime
  | setLastFlag (actFlag : UInt8)
  | loadDevice2Memory
  | other (s' : State)

/-- What each action does to the registry. -/
def registryStep (s : State) : RegistryAction → Option State
  | .learn buf => some (deviceLearn buf s)
  | .deleteDevice deviceID => some (s.withStorage (·.deleteDevice deviceID))
  | .deleteAllDevice => some (deleteAllDevice s)
  | .deviceAliveChange deviceID value => some (s.withStorage (·.deviceAliveChange deviceID value))
  | .updateDeviceBat deviceID bat => some (s.withStorage (·.updateDeviceBat deviceID bat))
  | .updateDeviceRssi deviceID rssi => some (s.withStorage (·.updateDeviceRssi deviceID rssi))
  | .clearDeviceTime deviceID => some (s.withStorage (·.clearDeviceTime deviceID))
  | .flashSetSlaveAlarmFlag deviceID flag =>
    some (s.withStorage (·.flashSetSlaveAlarmFlag deviceID flag))
  | .updateAllTime => s.updateAllTime.map fun st => { s with toStorage := st }
  | .clearAllTime => s.clearAllTime.map fun st => { s with toStorage := st }
  | .setLastFlag actFlag => some (setLastFlag actFlag s)
  | .loadDevice2Memory => s.loadDevice2Memory.map fun st => { s with toStorage := st }
  | .other s' => some { s' with toStorage := s.toStorage }

/-- The registry from an erased flash on. -/
def registryMachine : Machine State RegistryAction where
  init := fun s => s.globalDevice = .zero ∧ s.env = .default
  step := registryStep

/-! ## what a learn frame does -/

/-- The registry after a learn frame, by the branch `Device_Learn` takes. -/
inductive Learned (buf : Message) (st : Storage) : Storage → Prop
  | same : Learned buf st st
  | device (hv : st.flashGetKeyValid buf.fromID.toUInt32 ≠ RT_EOK) (hreq : buf.command = 3)
      (hdata : buf.data = 1) (hclass : buf.fromID < 30000000) :
      Learned buf st (st.addDevice buf.fromID.toUInt32).2
  | door (hv : st.flashGetKeyValid buf.fromID.toUInt32 ≠ RT_EOK) (hreq : buf.command = 3)
      (hdata : buf.data = 1) (hclass : 30000000 ≤ buf.fromID ∧ buf.fromID < 40000000) :
      Learned buf st (st.addDoorDevice buf.fromID.toUInt32).2
  | gateway (hv : st.flashGetKeyValid buf.fromID.toUInt32 ≠ RT_EOK) (hreq : buf.command = 3)
      (hdata : buf.data = 1) (hclass : 40000000 ≤ buf.fromID ∧ buf.fromID < 50000000) :
      Learned buf st (st.addGatewayDevice buf.fromID.toUInt32).2
  | confirm : Learned buf st (st.deviceAliveChange buf.fromID.toUInt32 1).2

/-- Learning a new device writes the registry as the `Add` call does. -/
theorem learnNew_toStorage {add : UInt32 → State → UInt8 × State} {buf : Message}
    {s : State} : (learnNew add buf s).toStorage = (add buf.fromID.toUInt32 s).2.toStorage := by
  unfold learnNew
  dsimp only
  split <;> simp

/-- So does learning a door, beside its reports. -/
theorem addDoorDevice_toStorage (deviceID : UInt32) (s : State) :
    (addDoorDevice deviceID s).2.toStorage = (s.toStorage.addDoorDevice deviceID).2 := by
  unfold addDoorDevice
  dsimp only
  split <;> simp

/-- Every learn frame is one of the cases of `Learned`. -/
theorem learned_deviceLearn (buf : Message) (s : State) :
    Learned buf s.toStorage (deviceLearn buf s).toStorage := by
  unfold deviceLearn
  split
  · rename_i hreq
    dsimp only
    split
    · rename_i hdata
      unfold learnRequest
      split
      · rename_i hv
        split
        · rename_i hclass
          rw [learnNew_toStorage]
          exact .device hv hreq hdata hclass
        · split
          · rename_i hclass
            rw [learnNew_toStorage, addDoorDevice_toStorage]
            exact .door hv hreq hdata hclass
          · split
            · rename_i hclass
              rw [learnNew_toStorage]
              exact .gateway hv hreq hdata hclass
            · exact .same
      · rw [radioEnqueue_toStorage]
        exact .same
    · split
      · unfold learnConfirm
        split
        · exact .same
        · dsimp only
          rw [gatewaySyncEnqueue_toStorage, radioEnqueue_toStorage]
          split
          · have hreload : (gatewayReload s).toStorage = s.toStorage := by
              unfold gatewayReload heartRefresh
              dsimp only
              split <;> rfl
            simp only [State.withStorage, hreload]
            exact .confirm
          · exact .confirm
      · exact .same
  · exact .same

/-! ## what is heard from a sender -/

section

variable (rssi : Int) (fromID : UInt32) (s : State)

/-- Hearing a sender updates its signal and its `Alive` column. -/
theorem heardFrom_toStorage : (heardFrom rssi fromID s).toStorage =
    ((s.updateDeviceRssi fromID rssi).2.deviceAliveChange fromID 1).2 := rfl

/-- A frame from a sender touches its slot, before it is looked at. -/
theorem onlyDevice_heardFrom :
    OnlyDevice fromID (s.slotOf fromID) s.toStorage (heardFrom rssi fromID s).toStorage := by
  have hrssi : OnlyDevice fromID (s.slotOf fromID) s.toStorage (s.updateDeviceRssi fromID rssi).2 :=
    onlyDevice_updateDeviceRssi rssi
  have halive : OnlyDevice fromID ((s.updateDeviceRssi fromID rssi).2.slotOf fromID)
      (s.updateDeviceRssi fromID rssi).2 (heardFrom rssi fromID s).toStorage :=
    onlyDevice_deviceAliveChange 1
  rw [hrssi.slotOf] at halive
  exact hrssi.trans halive

/-- It writes three columns of the table and no other field. -/
theorem heardFrom_columns : ∃ rssi' alive getMesssage env,
    (heardFrom rssi fromID s).toStorage = ⟨{ s.globalDevice with
      rssi := rssi', alive := alive, getMesssage := getMesssage }, env⟩ := by
  obtain ⟨rssi', env, hrssi⟩ := updateDeviceRssi_columns fromID s.toStorage rssi
  obtain ⟨alive, getMesssage, env', halive⟩ :=
    deviceAliveChange_columns fromID (s.updateDeviceRssi fromID rssi).2 1
  refine ⟨rssi', alive, getMesssage, env', ?_⟩
  rw [heardFrom_toStorage, halive, hrssi]

/-- Hearing a sender keeps the registry well formed. -/
theorem wf_heardFrom (h : s.Wf) : (heardFrom rssi fromID s).Wf :=
  Storage.Wf.onlyDevice h (onlyDevice_heardFrom rssi fromID s)

end

/-! ## integrity along every run -/

/-- Learning keeps the registry well formed. -/
theorem Storage.Wf.learned {buf : Message} {st st' : Storage} (h : st.Wf)
    (hl : Learned buf st st') : st'.Wf := by
  cases hl with
  | same => exact h
  | device hv => exact h.addDevice (h.fresh_of_invalid hv)
  | door hv => exact h.addDoorDevice (h.fresh_of_invalid hv)
  | gateway hv => exact h.addGatewayDevice (h.fresh_of_invalid hv)
  | confirm => exact h.onlyDevice (onlyDevice_deviceAliveChange 1)

/-- What an operation other than learning and deleting does to the registry. -/
theorem registryStep_same {s s' : State} {a : RegistryAction} (h : s.Wf)
    (hs : registryStep s a = some s') :
    (∃ buf, a = .learn buf ∧ s' = deviceLearn buf s) ∨
    (∃ deviceID, a = .deleteDevice deviceID ∧ s'.toStorage = (s.deleteDevice deviceID).2) ∨
    (a = .deleteAllDevice ∧ s'.toStorage = s.eraseAll) ∨
    SameRegistry s.toStorage s'.toStorage := by
  cases a <;> simp only [registryStep, Option.some.injEq, Option.map_eq_some_iff] at hs
  case learn buf => exact .inl ⟨buf, rfl, hs.symm⟩
  case deleteDevice deviceID => exact .inr (.inl ⟨deviceID, rfl, hs ▸ rfl⟩)
  case deleteAllDevice => exact .inr (.inr (.inl ⟨rfl, hs ▸ rfl⟩))
  case deviceAliveChange deviceID value =>
    exact .inr (.inr (.inr (hs ▸ (onlyDevice_deviceAliveChange value).same_of_slotOf h)))
  case updateDeviceBat deviceID bat =>
    exact .inr (.inr (.inr (hs ▸ (onlyDevice_updateDeviceBat bat).same_of_slotOf h)))
  case updateDeviceRssi deviceID rssi =>
    exact .inr (.inr (.inr (hs ▸ (onlyDevice_updateDeviceRssi rssi).same_of_slotOf h)))
  case clearDeviceTime deviceID =>
    exact .inr (.inr (.inr (hs ▸ onlyDevice_clearDeviceTime.same_of_slotOf h)))
  case flashSetSlaveAlarmFlag deviceID flag =>
    exact .inr (.inr (.inr (hs ▸ (onlyDevice_flashSetSlaveAlarmFlag flag).same_of_slotOf h)))
  case updateAllTime =>
    obtain ⟨st, hst, rfl⟩ := hs
    exact .inr (.inr (.inr (onlyTimes_updateAllTime h hst).same))
  case clearAllTime =>
    obtain ⟨st, hst, rfl⟩ := hs
    exact .inr (.inr (.inr (onlyTimes_clearAllTime h hst).same))
  case setLastFlag actFlag =>
    refine .inr (.inr (.inr (hs ▸ ⟨rfl, rfl, rfl, rfl, fun _ _ => rfl, ?_, fun key => ?_⟩)))
    · exact flashGet_put_of_ne (by decide) _
    · exact flashGet_put_of_ne (by simp) _
  case loadDevice2Memory =>
    obtain ⟨st, hst, rfl⟩ := hs
    obtain ⟨st', hst', hsame⟩ := same_loadDevice2Memory h
    rw [hst] at hst'
    exact .inr (.inr (.inr (Option.some.inj hst' ▸ hsame)))
  case other s'' => exact .inr (.inr (.inr (hs ▸ .refl _)))

/-- So does every action. -/
theorem Storage.Wf.registryStep {s s' : State} {a : RegistryAction} (h : s.Wf)
    (hs : registryStep s a = some s') : s'.Wf := by
  obtain ⟨buf, -, rfl⟩ | ⟨deviceID, -, hst⟩ | ⟨-, hst⟩ | hsame := registryStep_same h hs
  · exact h.learned (learned_deviceLearn buf s)
  · rw [hst]; exact h.deleteDevice deviceID
  · rw [hst]; exact wf_eraseAll _
  · exact h.of_same hsame

/-- An erased unit is one whose registry was erased. -/
theorem erased_eq {s : State} (h : s.globalDevice = .zero ∧ s.env = .default) :
    s.toStorage = s.eraseAll := by
  obtain ⟨hd, he⟩ := h
  show Storage.mk s.globalDevice s.env = _
  rw [hd, he]
  rfl

/-- An erased registry is well formed. -/
theorem wf_of_erased {s : State} (h : s.globalDevice = .zero ∧ s.env = .default) : s.Wf := by
  rw [erased_eq h]
  exact Storage.wf_eraseAll _

/-- **The registry is intact in every reachable state.** -/
theorem registryMachine_wf {ok : State → RegistryAction → Prop} {s : State}
    (h : registryMachine.ReachableVia ok s) : s.Wf :=
  h.invariant (fun _ => wf_of_erased) fun _ _ _ hwf _ hs => hwf.registryStep hs

/-! ## registry integrity -/

/-- The operation updates the device in slot `i`: it succeeds, leaves `slot`
there, and touches nothing else. -/
structure UpdatesSlot (op : Storage → UInt8 × Storage) (i : Nat) (slot : Slot) (st : Storage) :
    Prop where
  ret : (op st).1 = RT_EOK
  slot : (op st).2.slot i = slot
  only : OnlyDevice (st.globalDevice.id i) i st (op st).2

/-- `Delete_Device` makes the id unregistered and keeps every other slot. -/
structure DeletesOnly (deviceID : UInt32) (st : Storage) : Prop where
  invalid : (st.deleteDevice deviceID).2.flashGetKeyValid deviceID = RT_ERROR
  kept : ∀ i, st.globalDevice.id i ≠ deviceID → (st.deleteDevice deviceID).2.slot i = st.slot i

/-- What the registry promises in state `s`. -/
structure RegistryIntegrity (s : State) : Prop where
  num_le : s.globalDevice.num ≤ 12
  id_zero : s.globalDevice.id 0 = 0
  id_beyond : ∀ i, s.globalDevice.num < i → s.globalDevice.id i = 0
  distinct : ∀ i j, s.globalDevice.id i = s.globalDevice.id j → s.globalDevice.id i ≠ 0 → i = j
  alive : ∀ i value, s.globalDevice.id i ≠ 0 →
    UpdatesSlot (·.deviceAliveChange (s.globalDevice.id i) value) i
      { s.slot i with alive := value.toUInt32, getMesssage := value.toUInt32 } s.toStorage
  bat : ∀ i bat, s.globalDevice.id i ≠ 0 →
    UpdatesSlot (·.updateDeviceBat (s.globalDevice.id i) bat) i { s.slot i with bat } s.toStorage
  rssi : ∀ i rssi, s.globalDevice.id i ≠ 0 →
    UpdatesSlot (·.updateDeviceRssi (s.globalDevice.id i) rssi) i
      { s.slot i with rssi := Storage.rssiClass rssi } s.toStorage
  time : ∀ i, s.globalDevice.id i ≠ 0 →
    UpdatesSlot (·.clearDeviceTime (s.globalDevice.id i)) i { s.slot i with idTime := 0 }
      s.toStorage
  slaveAlarm : ∀ i flag, s.globalDevice.id i ≠ 0 →
    UpdatesSlot (·.flashSetSlaveAlarmFlag (s.globalDevice.id i) flag) i
      { s.slot i with slaveAlarm := flag } s.toStorage
  delete : ∀ deviceID, deviceID ≠ 0 → DeletesOnly deviceID s.toStorage
  full : (∀ i, 0 < i → i < maxSupport → s.globalDevice.id i ≠ 0) → ∀ deviceID,
    addDevice deviceID s = (RT_ERROR, s) ∧
    (s.getDoorID = 0 → addDoorDevice deviceID s = (RT_ERROR, s)) ∧
    (s.getGatewayID = 0 → addGatewayDevice deviceID s = (RT_ERROR, s))

section

variable {st : Storage} {i : Nat}

/-- The search finds a used slot by the id in it. -/
theorem Storage.Wf.slotOf_id (h : st.Wf) (hi : st.globalDevice.id i ≠ 0) :
    st.slotOf (st.globalDevice.id i) = i ∧ i ≠ 0 := by
  have hfind : st.slotOf (st.globalDevice.id i) = i := by
    rw [h.slotOf_eq]; exact h.table.find_eq hi rfl
  exact ⟨hfind, (h.table.pos_of_used hi).ne'⟩

/-- A search that succeeds finds the id. -/
theorem Storage.Wf.id_slotOf (h : st.Wf) {deviceID : UInt32}
    (hs : st.slotOf deviceID ≠ 0) :
    st.globalDevice.id (st.slotOf deviceID) = deviceID := by
  rw [h.slotOf_eq] at hs ⊢
  exact SlotTable.id_find hs

/-- An operation on the device in a slot touches that slot. -/
private theorem onlyDevice_slot {op : Storage → UInt8 × Storage} (h : st.Wf)
    (hi : st.globalDevice.id i ≠ 0)
    (hop : OnlyDevice (st.globalDevice.id i) (st.slotOf (st.globalDevice.id i)) st (op st).2) :
    OnlyDevice (st.globalDevice.id i) i st (op st).2 := by
  rwa [(h.slotOf_id hi).1] at hop

/-- An `Alive` update reads back in its slot and leaves the others. -/
theorem Storage.Wf.updatesSlot_alive (h : st.Wf) (hi : st.globalDevice.id i ≠ 0) (value : UInt8) :
    UpdatesSlot (·.deviceAliveChange (st.globalDevice.id i) value) i
      { st.slot i with alive := value.toUInt32, getMesssage := value.toUInt32 } st := by
  obtain ⟨hslot, h0⟩ := h.slotOf_id hi
  refine ⟨?_, ?_, onlyDevice_slot h hi (onlyDevice_deviceAliveChange value)⟩
  · simp only [deviceAliveChange, hslot, if_neg h0]
    split <;> rfl
  · simp only [deviceAliveChange, hslot, if_neg h0]
    split
    · simp [slot, flashAliveChange, put]
    · rename_i hsame
      simp only [ne_eq, not_or, not_not] at hsame
      simp [slot, hsame.1, hsame.2]

/-- The same of the battery. -/
theorem Storage.Wf.updatesSlot_bat (h : st.Wf) (hi : st.globalDevice.id i ≠ 0) (bat : UInt8) :
    UpdatesSlot (·.updateDeviceBat (st.globalDevice.id i) bat) i { st.slot i with bat } st := by
  obtain ⟨hslot, h0⟩ := h.slotOf_id hi
  refine ⟨?_, ?_, onlyDevice_slot h hi (onlyDevice_updateDeviceBat bat)⟩
  · simp only [updateDeviceBat, hslot, if_neg h0]
    split <;> rfl
  · simp only [updateDeviceBat, hslot, if_neg h0]
    split
    · simp [slot, deviceBatChange, put]
    · rename_i hsame
      simp [slot, not_not.mp hsame]

/-- The same of the signal, in classes. -/
theorem Storage.Wf.updatesSlot_rssi (h : st.Wf) (hi : st.globalDevice.id i ≠ 0) (rssi : Int) :
    UpdatesSlot (·.updateDeviceRssi (st.globalDevice.id i) rssi) i
      { st.slot i with rssi := rssiClass rssi } st := by
  obtain ⟨hslot, h0⟩ := h.slotOf_id hi
  refine ⟨?_, ?_, onlyDevice_slot h hi (onlyDevice_updateDeviceRssi rssi)⟩
  · simp only [updateDeviceRssi, hslot, if_neg h0]
    split <;> rfl
  · simp only [updateDeviceRssi, hslot, if_neg h0]
    split
    · simp [slot, deviceRssiChange, put]
    · rename_i hsame
      simp [slot, not_not.mp hsame]

/-- The same of the time. -/
theorem Storage.Wf.updatesSlot_time (h : st.Wf) (hi : st.globalDevice.id i ≠ 0) :
    UpdatesSlot (·.clearDeviceTime (st.globalDevice.id i)) i { st.slot i with idTime := 0 } st := by
  obtain ⟨hslot, h0⟩ := h.slotOf_id hi
  refine ⟨?_, ?_, onlyDevice_slot h hi onlyDevice_clearDeviceTime⟩
  · simp only [clearDeviceTime, hslot, if_neg h0]
  · simp only [clearDeviceTime, hslot, if_neg h0]
    simp [slot]

/-- The same of the alarm. -/
theorem Storage.Wf.updatesSlot_slaveAlarm (h : st.Wf) (hi : st.globalDevice.id i ≠ 0)
    (flag : UInt8) :
    UpdatesSlot (·.flashSetSlaveAlarmFlag (st.globalDevice.id i) flag) i
      { st.slot i with slaveAlarm := flag } st := by
  obtain ⟨hslot, h0⟩ := h.slotOf_id hi
  refine ⟨?_, ?_, onlyDevice_slot h hi (onlyDevice_flashSetSlaveAlarmFlag flag)⟩
  · simp only [flashSetSlaveAlarmFlag, hslot, if_neg h0]
    split <;> rfl
  · simp only [flashSetSlaveAlarmFlag, hslot, if_neg h0]
    split
    · simp [slot, deviceSlaveAlarmChange, put]
    · rename_i hsame
      simp [slot, not_not.mp hsame]

/-- An id is invalid when no slot holds it. -/
theorem Storage.flashGetKeyValid_eq_error {deviceID : UInt32} :
    st.flashGetKeyValid deviceID = RT_ERROR ↔ st.slotOf deviceID = 0 := by
  unfold flashGetKeyValid
  split <;> simp_all [RT_EOK, RT_ERROR]

/-- What a deletion that finds the id leaves in the slots. -/
theorem Storage.Wf.deleteDevice_slot (h : st.Wf) {deviceID : UInt32}
    (hs : st.slotOf deviceID ≠ 0) (i : Nat) :
    (st.deleteDevice deviceID).2.slot i =
      if i = st.slotOf deviceID then { st.slot i with id := 0 } else st.slot i := by
  rw [h.deleteDevice_eq hs]
  by_cases hi : i = st.slotOf deviceID <;> by_cases hd : getDoorValid deviceID = RT_EOK <;>
    simp [slot, Storage.setDoorNum, flashKeyChange, put, store_globalDevice, hi, hd]

/-- A deletion frees one slot and changes no other. -/
theorem Storage.Wf.deletesOnly (h : st.Wf) {deviceID : UInt32} (h0 : deviceID ≠ 0) :
    DeletesOnly deviceID st := by
  by_cases hs : st.slotOf deviceID = 0
  · have hsame := deleteDevice_of_invalid hs
    exact ⟨by rw [hsame, flashGetKeyValid_eq_error]; exact hs, fun i _ => by rw [hsame]⟩
  · have hid := h.id_slotOf hs
    have hslot := h.deleteDevice_slot hs
    have hwf := h.deleteDevice deviceID
    constructor
    · rw [flashGetKeyValid_eq_error, hwf.slotOf_eq, hwf.table.find_eq_zero_iff h0]
      intro i hi
      have hslot_i := congrArg Slot.id (hslot i)
      rw [show ((st.deleteDevice deviceID).2.slot i).id = deviceID from hi] at hslot_i
      split at hslot_i
      · exact h0 hslot_i
      · rename_i hne
        have hsame : deviceID = st.globalDevice.id i := hslot_i
        have hused : st.globalDevice.id i ≠ 0 := by rw [← hsame]; exact h0
        exact hne (h.table.distinct _ _ (hsame.symm.trans hid.symm) hused)
    · intro i hi
      rw [hslot i, if_neg]
      rintro rfl
      exact hi hid

end

/-- **Registry integrity**, in every state reachable by learn frames,
deletions, updates and reloads in any order. -/
theorem registry_integrity {s : State} (h : registryMachine.Reachable s) :
    RegistryIntegrity s := by
  have hwf := registryMachine_wf h
  exact {
    num_le := hwf.num_le
    id_zero := hwf.table.zero
    id_beyond := hwf.table.beyond
    distinct := hwf.table.distinct
    alive := fun _ value hi => hwf.updatesSlot_alive hi value
    bat := fun _ bat hi => hwf.updatesSlot_bat hi bat
    rssi := fun _ rssi hi => hwf.updatesSlot_rssi hi rssi
    time := fun _ hi => hwf.updatesSlot_time hi
    slaveAlarm := fun _ flag hi => hwf.updatesSlot_slaveAlarm hi flag
    delete := fun _ h0 => hwf.deletesOnly h0
    full := by
      intro hall deviceID
      have hf : s.table.free maxSupport = none := SlotTable.free_eq_none_iff.mpr hall
      refine ⟨?_, fun hd => ?_, fun hg => ?_⟩
      · simp [addDevice, Storage.addDevice_of_full hf]
      · simp [addDoorDevice, hd, Storage.addDoorDevice_of_full hd hf]
      · simp [addGatewayDevice, Storage.addGatewayDevice_of_full hg hf] }

/-- A learn frame of `fromID`. -/
def learnFrame (fromID : Int32) : Message where
  targetID := 99999999
  fromID := fromID
  deviceID := 0
  counter := 1
  command := 3
  data := 1

/-- A door, a slave and a gateway are learned. -/
def threeLearned : State :=
  [30000001, 10000001, 40000001].foldl (fun s id => deviceLearn (learnFrame id) s)
    (State.reset .default)

/-- The three devices are learned one after the other. -/
theorem reachable_threeLearned : registryMachine.Reachable threeLearned := by
  have hinit : registryMachine.Reachable (State.reset .default) := .init ⟨rfl, rfl⟩
  exact ((hinit.step (a := .learn (learnFrame 30000001)) rfl).step
    (a := .learn (learnFrame 10000001)) rfl).step (a := .learn (learnFrame 40000001)) rfl

/-- The slave is deleted. -/
theorem registry_integrity_threeLearned :
    RegistryIntegrity (threeLearned.withStorage (·.deleteDevice 10000001)) :=
  registry_integrity (reachable_threeLearned.step (a := .deleteDevice 10000001) rfl)

end WaterValve
