import WaterValve.LearnSlot
import WaterValve.Senders
import WaterValve.SystemRegistry

/-!
# WaterValve.Reload

What `LoadDevice2Memory` finds.  The slots, the roles and `LastFlag` are always
the ones in RAM (`reload_identity`).  The attributes are not: flash keeps them
by id and RAM by slot, and no operation moves them when a slot changes its id.
They agree as long as a device is only learned into a slot that holds what
flash holds under its id (`attributes_reload`).
-/

namespace WaterValve

variable {st st' : Storage} {deviceID : UInt32} {i : Nat} {rom : UInt32} {s : State}

/-! ## the last action on the valve -/

/-- Flash holds `LastFlag`. -/
def MotoStored (st : Storage) : Prop := (flashGetMotoFlag st.env).toUInt8 = st.globalDevice.lastFlag

/-- Neither copy is touched. -/
theorem MotoStored.congr (h : MotoStored st)
    (hlast : st'.globalDevice.lastFlag = st.globalDevice.lastFlag)
    (hflash : flashGetMotoFlag st'.env = flashGetMotoFlag st.env) : MotoStored st' := by
  rw [MotoStored, hlast, hflash]
  exact h

/-- Learning and deleting write no `moto` key. -/
theorem MotoStored.writesSlot (h : MotoStored st) (hw : WritesSlot i deviceID st st') :
    MotoStored st' :=
  h.congr hw.lastFlag (hw.flash .moto (by simp) (by simp))

/-- Nor does an update of a device attribute. -/
theorem MotoStored.onlyDevice (h : MotoStored st) (ho : OnlyDevice deviceID i st st') :
    MotoStored st' :=
  h.congr ho.lastFlag (ho.flash .moto (by simp [FlashKey.device]))

/-- Nor does the hour. -/
theorem MotoStored.onlyTimes (h : MotoStored st) (ho : OnlyTimes st st') : MotoStored st' := by
  obtain ⟨idTime, getMesssage, rfl⟩ := ho
  exact h

/-- `Flash_Moto_Change` stores what it sets. -/
theorem motoStored_setLastFlag (actFlag : UInt8) (s : State) :
    MotoStored (setLastFlag actFlag s).toStorage := by
  have hread : flashGetMotoFlag (setLastFlag actFlag s).env = actFlag.toUInt32 :=
    flashGet_put_printD actFlag
  rw [MotoStored, hread]
  simp [setLastFlag, flashMotoChange, Storage.put]

/-- A reload reads the last action from the flash. -/
theorem motoStored_loadDevice2Memory (h : st.loadDevice2Memory = some st') : MotoStored st' := by
  unfold Storage.loadDevice2Memory at h
  obtain ⟨d, -, rfl⟩ := Option.map_eq_some_iff.mp h
  rfl

/-- A reload writes nothing. -/
theorem env_loadDevice2Memory (h : st.loadDevice2Memory = some st') : st'.env = st.env := by
  unfold Storage.loadDevice2Memory at h
  obtain ⟨d, -, rfl⟩ := Option.map_eq_some_iff.mp h
  rfl

/-- Every step keeps the last action in step with the flash. -/
theorem MotoStored.registryStep {s s' : State} {a : RegistryAction} (h : MotoStored s.toStorage)
    (hwf : s.Wf) (hs : registryStep s a = some s') : MotoStored s'.toStorage := by
  cases a <;> simp only [WaterValve.registryStep, Option.some.injEq, Option.map_eq_some_iff] at hs
  case learn buf =>
    subst hs
    obtain ⟨num, -, hw⟩ | hsame | halive := hwf.learned_cases (learned_deviceLearn buf s)
    · exact h.writesSlot hw
    · rwa [hsame]
    · rw [halive]
      exact h.onlyDevice (onlyDevice_deviceAliveChange 1)
  case deleteDevice deviceID =>
    subst hs
    show MotoStored (s.toStorage.deleteDevice deviceID).2
    by_cases hslot : s.slotOf deviceID = 0
    · rwa [Storage.deleteDevice_of_invalid hslot]
    · exact h.writesSlot (hwf.writesSlot_deleteDevice hslot)
  case deleteAllDevice => subst hs; exact congrArg UInt32.toUInt8 (flashGet_default .moto)
  case deviceAliveChange deviceID value =>
    subst hs
    exact h.onlyDevice (onlyDevice_deviceAliveChange value)
  case updateDeviceBat deviceID bat => subst hs; exact h.onlyDevice (onlyDevice_updateDeviceBat bat)
  case updateDeviceRssi deviceID rssi =>
    subst hs
    exact h.onlyDevice (onlyDevice_updateDeviceRssi rssi)
  case clearDeviceTime deviceID => subst hs; exact h.onlyDevice onlyDevice_clearDeviceTime
  case flashSetSlaveAlarmFlag deviceID flag =>
    subst hs
    exact h.onlyDevice (onlyDevice_flashSetSlaveAlarmFlag flag)
  case updateAllTime =>
    obtain ⟨st, hst, rfl⟩ := hs
    exact h.onlyTimes (onlyTimes_updateAllTime hwf hst)
  case clearAllTime =>
    obtain ⟨st, hst, rfl⟩ := hs
    exact h.onlyTimes (onlyTimes_clearAllTime hwf hst)
  case setLastFlag actFlag => subst hs; exact motoStored_setLastFlag actFlag s
  case loadDevice2Memory => obtain ⟨st, hst, rfl⟩ := hs; exact motoStored_loadDevice2Memory hst
  case other t => subst hs; exact h

/-- In every run the last action in RAM is the one in flash. -/
theorem registryMachine_motoStored {ok : State → RegistryAction → Prop}
    (h : registryMachine.ReachableVia ok s) : MotoStored s.toStorage := by
  have hinv : s.Wf ∧ MotoStored s.toStorage := by
    refine h.invariant (I := fun s => s.Wf ∧ MotoStored s.toStorage) (fun s hs => ?_)
      fun s a s' hI _ hs => ?_
    · refine ⟨wf_of_erased hs, ?_⟩
      rw [erased_eq hs]
      exact congrArg UInt32.toUInt8 (flashGet_default .moto)
    · exact ⟨hI.1.registryStep hs, hI.2.registryStep hI.1 hs⟩
  exact hinv.2

/-- Two registries with the same slots, roles and `LastFlag`. -/
structure SameIdentity (st st' : Storage) : Prop where
  num : st'.globalDevice.num = st.globalDevice.num
  id : ∀ i, 0 < i → i ≤ st.globalDevice.num → st'.globalDevice.id i = st.globalDevice.id i
  doorNum : st'.globalDevice.doorNum = st.globalDevice.doorNum
  gatewayNum : st'.globalDevice.gatewayNum = st.globalDevice.gatewayNum
  lastFlag : st'.globalDevice.lastFlag = st.globalDevice.lastFlag

/-- **A reload reproduces the registry's identity** in every reachable state. -/
theorem reload_identity (h : (valveMachine rom).Reachable s) :
    ∃ st', s.loadDevice2Memory = some st' ∧ SameIdentity s.toStorage st' := by
  have hmoto := registryMachine_motoStored (reachable_registryMachine h)
  obtain ⟨st', hload, hsame⟩ := same_loadDevice2Memory (valveMachine_wf h)
  refine ⟨st', hload, ⟨hsame.num, fun i _ _ => congrFun hsame.id i, hsame.doorNum,
    hsame.gatewayNum, ?_⟩⟩
  rw [← motoStored_loadDevice2Memory hload, env_loadDevice2Memory hload]
  exact hmoto

/-- After a door and a slave are learned and the valve is closed remotely. -/
theorem reload_identity_learned : ∃ s, (valveMachine 0).runFrom started
    (learnDevice 30000001 ++ learnDevice 10000001 ++ [nodeRx 10000001 6 0]) = some s ∧
      ∃ st', s.loadDevice2Memory = some st' ∧ SameIdentity s.toStorage st' := by
  have hsome : ((valveMachine 0).runFrom started
      (learnDevice 30000001 ++ learnDevice 10000001 ++ [nodeRx 10000001 6 0])).isSome = true := by
    decide +kernel
  obtain ⟨s, hs⟩ := Option.isSome_iff_exists.mp hsome
  exact ⟨s, hs, reload_identity (started_reachable.runFrom hs)⟩

/-! ## the attributes of a device -/

/-- The attributes that flash keeps. -/
structure Attributes where
  bat : UInt8
  rssi : UInt8
  alive : UInt32
  slaveAlarm : UInt8
  deriving DecidableEq

/-- The attributes in a slot. -/
def Storage.attributes (i : Nat) (st : Storage) : Attributes where
  bat := st.globalDevice.bat i
  rssi := st.globalDevice.rssi i
  alive := st.globalDevice.alive i
  slaveAlarm := st.globalDevice.slaveAlarm i

/-- The attributes `LoadDevice2Memory` reads under an id. -/
def storedAttributes (deviceID : UInt32) (env : Env) : Attributes where
  bat := deviceBatGet deviceID env
  rssi := deviceRssiGet deviceID env
  alive := (flashAliveGet deviceID env).toUInt32
  slaveAlarm := flashGetSlaveAlarm deviceID env

/-- Every device's attributes are the ones stored under its id. -/
def AttributesStored (st : Storage) : Prop :=
  ∀ i, st.globalDevice.id i ≠ 0 →
    st.attributes i = storedAttributes (st.globalDevice.id i) st.env

/-- The attributes are a part of the slot. -/
theorem attributes_of_slot (h : st'.slot i = st.slot i) : st'.attributes i = st.attributes i := by
  obtain ⟨-, hbat, hrssi, halarm, -, halive, -⟩ := Slot.mk.inj h
  simp only [Storage.attributes, hbat, hrssi, halarm, halive]

/-- Keys of other devices, ids, roles and the valve do not matter. -/
theorem storedAttributes_congr {env env' : Env}
    (h : ∀ k : FlashKey, k.device = some deviceID → flashGet k env' = flashGet k env) :
    storedAttributes deviceID env' = storedAttributes deviceID env := by
  simp only [storedAttributes, deviceBatGet, deviceRssiGet, flashAliveGet, flashGetSlaveAlarm,
    h (.bat deviceID) rfl, h (.rssi deviceID) rfl, h (.alive deviceID) rfl,
    h (.slaveAlarm deviceID) rfl]

/-- A slot that changes its id keeps its attributes: they are the stored ones
exactly when they were stored under the new id. -/
theorem AttributesStored.writesSlot_iff (h : AttributesStored st)
    (hw : WritesSlot i deviceID st st') : AttributesStored st' ↔
      (deviceID ≠ 0 → st.attributes i = storedAttributes deviceID st.env) := by
  have hattr : ∀ j, st'.attributes j = st.attributes j := by
    intro j
    obtain ⟨-, hbat, hrssi, halarm, -, halive, -⟩ := Slot.mk.inj (hw.slot j)
    simp only [Storage.attributes, hbat, hrssi, halarm, halive]
    rfl
  have hstored : ∀ d, storedAttributes d st'.env = storedAttributes d st.env := fun d =>
    storedAttributes_congr fun k hk => hw.flash k (by rintro rfl; cases hk)
      (by rintro key rfl; cases hk)
  simp only [AttributesStored, hattr, hstored, hw.id]
  constructor
  · intro h' hd
    simpa [hd] using h' i
  · intro hi j hj
    split at hj
    · rename_i hji
      rw [if_pos hji, hji]
      exact hi hj
    · rename_i hji
      rw [if_neg hji]
      exact h j hj

/-- An update of one device keeps the others' attributes stored. -/
theorem AttributesStored.onlyDevice (h : AttributesStored st) (hwf : st.Wf)
    (ho : OnlyDevice deviceID (st.slotOf deviceID) st st')
    (hself : st.slotOf deviceID ≠ 0 → deviceID ≠ 0 →
      st.attributes (st.slotOf deviceID) = storedAttributes deviceID st.env →
      st'.attributes (st.slotOf deviceID) = storedAttributes deviceID st'.env) :
    AttributesStored st' := by
  intro i hi
  rw [ho.id] at hi ⊢
  by_cases hid : st.globalDevice.id i = deviceID
  · have hfind := hwf.slotOf_id hi
    rw [hid] at hi hfind ⊢
    have hattr := h i (hid ▸ hi)
    rw [hid, ← hfind.1] at hattr
    rw [← hfind.1]
    exact hself (hfind.1 ▸ hfind.2) hi hattr
  · have hne : i ≠ st.slotOf deviceID := by
      rintro rfl
      exact hid (hwf.id_slotOf fun h0 => hi (h0 ▸ hwf.table.zero))
    rw [attributes_of_slot (ho.slot i hne), h i hi]
    refine (storedAttributes_congr fun k hk => ho.flash k ?_).symm
    rw [hk]
    simpa using hid

section

variable (deviceID : UInt32) (st : Storage)

/-- What each writer of the flash does to the stored attributes. -/
@[simp] theorem storedAttributes_deviceBatChange (bat : UInt8) :
    storedAttributes deviceID (deviceBatChange deviceID bat st).env =
      { storedAttributes deviceID st.env with bat } := by
  simp [storedAttributes, deviceBatGet, deviceRssiGet, flashAliveGet, flashGetSlaveAlarm,
    deviceBatChange, flashGet_put_of_ne]

@[simp] theorem storedAttributes_deviceRssiChange (rssi : UInt8) :
    storedAttributes deviceID (deviceRssiChange deviceID rssi st).env =
      { storedAttributes deviceID st.env with rssi } := by
  simp [storedAttributes, deviceBatGet, deviceRssiGet, flashAliveGet, flashGetSlaveAlarm,
    deviceRssiChange, flashGet_put_of_ne]

@[simp] theorem storedAttributes_flashAliveChange (alive : UInt8) :
    storedAttributes deviceID (flashAliveChange deviceID alive st).env =
      { storedAttributes deviceID st.env with alive := alive.toUInt32 } := by
  simp [storedAttributes, deviceBatGet, deviceRssiGet, flashAliveGet, flashGetSlaveAlarm,
    flashAliveChange, flashGet_put_of_ne]

@[simp] theorem storedAttributes_deviceSlaveAlarmChange (slaveAlarm : UInt8) :
    storedAttributes deviceID (deviceSlaveAlarmChange deviceID slaveAlarm st).env =
      { storedAttributes deviceID st.env with slaveAlarm } := by
  simp [storedAttributes, deviceBatGet, deviceRssiGet, flashAliveGet, flashGetSlaveAlarm,
    deviceSlaveAlarmChange, flashGet_put_of_ne]

end

section

variable (h : AttributesStored st) (hwf : st.Wf)

include h hwf

/-- An `Alive` update writes RAM and flash alike. -/
theorem AttributesStored.deviceAliveChange (value : UInt8) :
    AttributesStored (st.deviceAliveChange deviceID value).2 := by
  refine h.onlyDevice hwf (onlyDevice_deviceAliveChange value) fun hs _ hself => ?_
  simp only [Storage.deviceAliveChange, if_neg hs]
  split
  · rw [storedAttributes_flashAliveChange]
    simp [← hself, Storage.attributes, flashAliveChange, Storage.put]
  · exact hself

/-- So does a battery update. -/
theorem AttributesStored.updateDeviceBat (bat : UInt8) :
    AttributesStored (st.updateDeviceBat deviceID bat).2 := by
  refine h.onlyDevice hwf (onlyDevice_updateDeviceBat bat) fun hs _ hself => ?_
  simp only [Storage.updateDeviceBat, if_neg hs]
  split
  · rw [storedAttributes_deviceBatChange]
    simp [← hself, Storage.attributes, deviceBatChange, Storage.put]
  · exact hself

/-- So does a signal update. -/
theorem AttributesStored.updateDeviceRssi (rssi : Int) :
    AttributesStored (st.updateDeviceRssi deviceID rssi).2 := by
  refine h.onlyDevice hwf (onlyDevice_updateDeviceRssi rssi) fun hs _ hself => ?_
  simp only [Storage.updateDeviceRssi, if_neg hs]
  split
  · rw [storedAttributes_deviceRssiChange]
    simp [← hself, Storage.attributes, deviceRssiChange, Storage.put]
  · exact hself

/-- So does an alarm update. -/
theorem AttributesStored.flashSetSlaveAlarmFlag (flag : UInt8) :
    AttributesStored (st.flashSetSlaveAlarmFlag deviceID flag).2 := by
  refine h.onlyDevice hwf (onlyDevice_flashSetSlaveAlarmFlag flag) fun hs _ hself => ?_
  simp only [Storage.flashSetSlaveAlarmFlag, if_neg hs]
  split
  · rw [storedAttributes_deviceSlaveAlarmChange]
    simp [← hself, Storage.attributes, deviceSlaveAlarmChange, Storage.put]
  · exact hself

/-- Clearing the time writes no attribute. -/
theorem AttributesStored.clearDeviceTime :
    AttributesStored (st.clearDeviceTime deviceID).2 := by
  refine h.onlyDevice hwf onlyDevice_clearDeviceTime fun hs _ hself => ?_
  simpa [Storage.clearDeviceTime, hs, Storage.attributes] using hself

end

/-- The hour writes no attribute. -/
theorem AttributesStored.onlyTimes (h : AttributesStored st) (ho : OnlyTimes st st') :
    AttributesStored st' := by
  obtain ⟨idTime, getMesssage, rfl⟩ := ho
  exact h

/-- The last action is no attribute. -/
theorem attributesStored_setLastFlag (actFlag : UInt8) (h : AttributesStored s.toStorage) :
    AttributesStored (setLastFlag actFlag s).toStorage := by
  intro i hi
  refine (h i hi).trans (storedAttributes_congr fun k hk => ?_).symm
  exact flashGet_put_of_ne (by rintro rfl; cases hk) _

/-- What the loading loop has done before round `i`: the slots below hold
stored attributes, the others are free. -/
private def LoadedAttributes (env : Env) (i : Nat) (d : DeviceInfo) : Prop :=
  ∀ j, d.id j ≠ 0 → j < i ∧ (Storage.mk d env).attributes j = storedAttributes (d.id j) env

/-- One round of `LoadDevice2Memory`. -/
private theorem loadedAttributes_loadSlot {env : Env} {d : DeviceInfo}
    (h : LoadedAttributes env i d) : LoadedAttributes env (i + 1) (Storage.loadSlot env i d) := by
  intro j hj
  by_cases hji : j = i
  · subst hji
    refine ⟨Nat.lt_succ_self j, ?_⟩
    unfold Storage.loadSlot at hj ⊢
    dsimp only at hj ⊢
    split
    · simp [Storage.attributes, storedAttributes]
    · rename_i hz
      simp [hz] at hj
  · unfold Storage.loadSlot at hj ⊢
    dsimp only at hj ⊢
    split at hj <;> rename_i hz
    · simp only [if_pos hz, Storage.attributes, Function.update_of_ne hji] at hj ⊢
      exact ⟨Nat.lt_succ_of_lt (h j hj).1, (h j hj).2⟩
    · simp only [if_neg hz, Storage.attributes, Function.update_of_ne hji] at hj ⊢
      exact ⟨Nat.lt_succ_of_lt (h j hj).1, (h j hj).2⟩

/-- A reload finds stored attributes. -/
theorem attributesStored_loadDevice2Memory (hwf : st.Wf) (h : st.loadDevice2Memory = some st') :
    AttributesStored st' := by
  have hnum : (flashGetLearnNums st.env).toNat < 255 := by
    have := hwf.num_le
    rw [flashGetLearnNums, hwf.flash_learnNums, UInt32.toNat_ofNat']
    omega
  have h0 : LoadedAttributes st.env 1
      { DeviceInfo.zero with num := (flashGetLearnNums st.env).toNat } :=
    fun j hj => absurd rfl hj
  obtain ⟨d, hrun, hd⟩ := Loop.forUpTo_invariant hnum h0
    fun i d _ _ hd => loadedAttributes_loadSlot hd
  have hload : st.loadDevice2Memory = some { st with globalDevice := { d with
      doorNum := (flashGetKeyValue 88888888 st.env).toNat
      gatewayNum := (flashGetKeyValue 88887777 st.env).toNat
      lastFlag := (flashGetMotoFlag st.env).toUInt8 } } := by
    rw [Storage.loadDevice2Memory]
    dsimp only
    rw [hrun]
    rfl
  obtain rfl := Option.some.inj (h.symm.trans hload)
  exact fun j hj => (hd j hj).2

/-- The registration stores no device over attributes that flash does not hold
for it. -/
def KeepsAttributes (s : State) (a : RegistryAction) : Prop :=
  ∀ buf num, a = .learn buf → s.learnSlot buf = some num → buf.fromID.toUInt32 ≠ 0 →
    s.attributes num = storedAttributes buf.fromID.toUInt32 s.env

/-- A step that keeps the attributes in step with the flash. -/
theorem AttributesStored.registryStep {s s' : State} {a : RegistryAction}
    (h : AttributesStored s.toStorage) (hwf : s.Wf) (hok : KeepsAttributes s a)
    (hs : registryStep s a = some s') : AttributesStored s'.toStorage := by
  cases a <;> simp only [WaterValve.registryStep, Option.some.injEq, Option.map_eq_some_iff] at hs
  case learn buf =>
    subst hs
    obtain ⟨num, hnum, hw⟩ | hsame | halive := hwf.learned_cases (learned_deviceLearn buf s)
    · exact (h.writesSlot_iff hw).mpr (hok buf num rfl hnum)
    · rwa [hsame]
    · rw [halive]
      exact h.deviceAliveChange hwf 1
  case deleteDevice deviceID =>
    subst hs
    show AttributesStored (s.toStorage.deleteDevice deviceID).2
    by_cases hslot : s.slotOf deviceID = 0
    · rwa [Storage.deleteDevice_of_invalid hslot]
    · exact (h.writesSlot_iff (hwf.writesSlot_deleteDevice hslot)).mpr fun h0 => absurd rfl h0
  case deleteAllDevice => subst hs; exact fun i hi => absurd rfl hi
  case deviceAliveChange deviceID value => subst hs; exact h.deviceAliveChange hwf value
  case updateDeviceBat deviceID bat => subst hs; exact h.updateDeviceBat hwf bat
  case updateDeviceRssi deviceID rssi => subst hs; exact h.updateDeviceRssi hwf rssi
  case clearDeviceTime deviceID => subst hs; exact h.clearDeviceTime hwf
  case flashSetSlaveAlarmFlag deviceID flag => subst hs; exact h.flashSetSlaveAlarmFlag hwf flag
  case updateAllTime =>
    obtain ⟨st, hst, rfl⟩ := hs
    exact h.onlyTimes (onlyTimes_updateAllTime hwf hst)
  case clearAllTime =>
    obtain ⟨st, hst, rfl⟩ := hs
    exact h.onlyTimes (onlyTimes_clearAllTime hwf hst)
  case setLastFlag actFlag => subst hs; exact attributesStored_setLastFlag actFlag h
  case loadDevice2Memory =>
    obtain ⟨st, hst, rfl⟩ := hs
    exact attributesStored_loadDevice2Memory hwf hst
  case other t => subst hs; exact h

/-- Along every run of such steps RAM and flash agree. -/
theorem registryMachine_attributesStored (h : registryMachine.ReachableVia KeepsAttributes s) :
    AttributesStored s.toStorage := by
  have hinv : s.Wf ∧ AttributesStored s.toStorage := by
    refine h.invariant (I := fun s => s.Wf ∧ AttributesStored s.toStorage) (fun s hs => ?_)
      fun s a s' hI hok hs => ?_
    · rw [erased_eq hs]
      exact ⟨Storage.wf_eraseAll _, fun i hi => absurd rfl hi⟩
    · exact ⟨hI.1.registryStep hs, hI.2.registryStep hI.1 hok hs⟩
  exact hinv.2

/-- **A reload reproduces the attributes of every device**, when no device has
been learned over attributes that flash does not hold for it. -/
theorem attributes_reload (h : registryMachine.ReachableVia KeepsAttributes s) :
    ∃ st', s.loadDevice2Memory = some st' ∧
      ∀ i, i ≤ s.globalDevice.num → s.globalDevice.id i ≠ 0 →
        s.attributes i = st'.attributes i := by
  have hwf := registryMachine_wf h
  obtain ⟨st', hload, hsame⟩ := same_loadDevice2Memory hwf
  refine ⟨st', hload, fun i _ hi => ?_⟩
  have hi' : st'.globalDevice.id i ≠ 0 := by rwa [hsame.id]
  rw [registryMachine_attributesStored h i hi,
    attributesStored_loadDevice2Memory hwf hload i hi', hsame.id, env_loadDevice2Memory hload]

/-- A learn frame is such a step if the slot it takes holds what the flash has for its
sender. -/
private theorem keepsAttributes_learn {fromID : Int32}
    (h : ∀ num ∈ s.learnSlot (learnFrame fromID),
      s.attributes num = storedAttributes fromID.toUInt32 s.env) :
    KeepsAttributes s (.learn (learnFrame fromID)) := by
  rintro buf num ⟨⟩ hnum -
  exact h num hnum

/-- A door, a slave and a gateway are learned, and the slave is deleted. -/
theorem attributes_reload_threeLearned :
    ∃ st', (threeLearned.withStorage (·.deleteDevice 10000001)).loadDevice2Memory = some st' ∧
      ∀ i, i ≤ 3 → (threeLearned.withStorage (·.deleteDevice 10000001)).globalDevice.id i ≠ 0 →
        (threeLearned.withStorage (·.deleteDevice 10000001)).attributes i = st'.attributes i := by
  have hinit : registryMachine.ReachableVia KeepsAttributes (State.reset .default) :=
    .init ⟨rfl, rfl⟩
  have hdoor := hinit.step (a := .learn (learnFrame 30000001))
    (keepsAttributes_learn (by decide +kernel)) rfl
  have hslave := hdoor.step (a := .learn (learnFrame 10000001))
    (keepsAttributes_learn (by decide +kernel)) rfl
  have hgateway := hslave.step (a := .learn (learnFrame 40000001))
    (keepsAttributes_learn (by decide +kernel)) rfl
  exact attributes_reload
    (hgateway.step (a := .deleteDevice 10000001) (fun _ _ h => by cases h) rfl)

/-- A slave reports its battery, the gateway deletes it, and another slave takes
its slot: RAM shows the battery of the first, a reload finds none. -/
theorem not_attributes_reload : ∃ s, (valveMachine 0).Reachable s ∧
    ∃ st', s.loadDevice2Memory = some st' ∧ s.globalDevice.num = 2 ∧
      s.globalDevice.id 1 = 10000002 ∧ (s.attributes 1).bat = 3 ∧ (st'.attributes 1).bat = 0 := by
  have hrun : ((valveMachine 0).runFrom started
      (learnDevice 10000001 ++ learnDevice 40000001 ++
        [nodeRx 10000001 2 3, gatewayRx 40000001 10000001 6 0] ++ learnDevice 10000002)).map
      (fun s => (s.globalDevice.num, s.globalDevice.id 1, s.globalDevice.bat 1,
        s.loadDevice2Memory.map (·.globalDevice.bat 1))) = some (2, 10000002, 3, some 0) := by
    decide +kernel
  obtain ⟨s, hreach, hobs⟩ := exists_of_run hrun
  simp only [Prod.mk.injEq, Option.map_eq_some_iff] at hobs
  obtain ⟨hnum, hid, hbat, st', hload, hbat'⟩ := hobs
  exact ⟨s, hreach, st', hload, hnum, hid, hbat, hbat'⟩

end WaterValve
