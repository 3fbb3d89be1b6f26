import WaterValve.Registry

/-!
# WaterValve.DeviceUpdates

The operations that write no id.  The updates of one device touch the
attributes in its slot and the flash keys of its id (`OnlyDevice`); the hourly
ageing touches timestamps; a reload reads everything back.  All of them leave
the registry as it is (`SameRegistry`), which is what keeps `Storage.Wf`.
-/

namespace WaterValve

/-! ## slots and their flash keys -/

/-- What `Device_Info` holds about slot `i`. -/
structure Slot where
  id : UInt32
  bat : UInt8
  rssi : UInt8
  slaveAlarm : UInt8
  idTime : UInt32
  alive : UInt32
  getMesssage : UInt32
  deriving DecidableEq

def Storage.slot (st : Storage) (i : Nat) : Slot where
  id := st.globalDevice.id i
  bat := st.globalDevice.bat i
  rssi := st.globalDevice.rssi i
  slaveAlarm := st.globalDevice.slaveAlarm i
  idTime := st.globalDevice.idTime i
  alive := st.globalDevice.alive i
  getMesssage := st.globalDevice.getMesssage i

/-- The device whose attribute a flash key holds. -/
def FlashKey.device : FlashKey → Option UInt32
  | .num _ | .learnNums | .moto => none
  | .rssi id | .alive id | .slaveAlarm id | .bat id => some id

variable {st st' : Storage} {deviceID : UInt32} {i j : Nat}

/-- `st'` is `st` with the same ids in the same slots and the same roles, in
RAM and in flash. -/
structure SameRegistry (st st' : Storage) : Prop where
  num : st'.globalDevice.num = st.globalDevice.num
  doorNum : st'.globalDevice.doorNum = st.globalDevice.doorNum
  gatewayNum : st'.globalDevice.gatewayNum = st.globalDevice.gatewayNum
  id : st'.globalDevice.id = st.globalDevice.id
  alarm : ∀ i, st.globalDevice.num < i →
    st'.globalDevice.slaveAlarm i = st.globalDevice.slaveAlarm i
  flash_learnNums : flashGet .learnNums st'.env = flashGet .learnNums st.env
  flash_num : ∀ key, flashGet (.num key) st'.env = flashGet (.num key) st.env

theorem SameRegistry.refl (st : Storage) : SameRegistry st st :=
  ⟨rfl, rfl, rfl, rfl, fun _ _ => rfl, rfl, fun _ => rfl⟩

/-- Two operations that write no id write none together. -/
theorem SameRegistry.trans {st₁ st₂ st₃ : Storage} (h : SameRegistry st₁ st₂)
    (h' : SameRegistry st₂ st₃) : SameRegistry st₁ st₃ where
  num := h'.num.trans h.num
  doorNum := h'.doorNum.trans h.doorNum
  gatewayNum := h'.gatewayNum.trans h.gatewayNum
  id := h'.id.trans h.id
  alarm := fun i hi => (h'.alarm i (h.num ▸ hi)).trans (h.alarm i hi)
  flash_learnNums := h'.flash_learnNums.trans h.flash_learnNums
  flash_num := fun key => (h'.flash_num key).trans (h.flash_num key)

/-- Being well-formed speaks of ids, slots and roles only. -/
theorem Storage.Wf.of_same (h : st.Wf) (hs : SameRegistry st st') : st'.Wf where
  table := by
    have : st'.table = st.table := by simp only [Storage.table, hs.num, hs.id]
    rw [this]; exact h.table
  alarm_beyond := by
    intro i hi
    rw [hs.num] at hi
    rw [hs.alarm i hi]; exact h.alarm_beyond i hi
  doorNum_le := by rw [hs.doorNum, hs.num]; exact h.doorNum_le
  gatewayNum_le := by rw [hs.gatewayNum, hs.num]; exact h.gatewayNum_le
  flash_learnNums := by rw [hs.flash_learnNums, hs.num]; exact h.flash_learnNums
  flash_id := by
    intro i hi0 hi
    rw [hs.num] at hi
    rw [hs.flash_num, hs.id]; exact h.flash_id i hi0 hi
  flash_doorNum := by rw [hs.flash_num, hs.doorNum]; exact h.flash_doorNum
  flash_gatewayNum := by rw [hs.flash_num, hs.gatewayNum]; exact h.flash_gatewayNum

/-! ## updates of one device -/

/-- `st'` is `st` outside the attributes of slot `i` and the flash keys of
`deviceID`. -/
structure OnlyDevice (deviceID : UInt32) (i : Nat) (st st' : Storage) : Prop where
  lastFlag : st'.globalDevice.lastFlag = st.globalDevice.lastFlag
  num : st'.globalDevice.num = st.globalDevice.num
  doorNum : st'.globalDevice.doorNum = st.globalDevice.doorNum
  gatewayNum : st'.globalDevice.gatewayNum = st.globalDevice.gatewayNum
  id : st'.globalDevice.id = st.globalDevice.id
  slot : ∀ j, j ≠ i → st'.slot j = st.slot j
  flash : ∀ k : FlashKey, k.device ≠ some deviceID → flashGet k st'.env = flashGet k st.env

theorem OnlyDevice.refl (deviceID : UInt32) (i : Nat) (st : Storage) :
    OnlyDevice deviceID i st st :=
  ⟨rfl, rfl, rfl, rfl, rfl, fun _ _ => rfl, fun _ _ => rfl⟩

/-- Updates of the same device add up to one. -/
theorem OnlyDevice.trans {st'' : Storage} (h : OnlyDevice deviceID i st st')
    (h' : OnlyDevice deviceID i st' st'') : OnlyDevice deviceID i st st'' where
  lastFlag := h'.lastFlag.trans h.lastFlag
  num := h'.num.trans h.num
  doorNum := h'.doorNum.trans h.doorNum
  gatewayNum := h'.gatewayNum.trans h.gatewayNum
  id := h'.id.trans h.id
  slot := fun j hj => (h'.slot j hj).trans (h.slot j hj)
  flash := fun k hk => (h'.flash k hk).trans (h.flash k hk)

/-- The searches find what they found before. -/
theorem OnlyDevice.slotOf (h : OnlyDevice deviceID i st st') (d : UInt32) :
    st'.slotOf d = st.slotOf d := by
  rw [Storage.slotOf, Storage.slotOf, Storage.searchStart, Storage.searchStart, h.num, h.id]

/-- Who is registered stays so. -/
theorem OnlyDevice.flashGetKeyValid (h : OnlyDevice deviceID i st st') (d : UInt32) :
    st'.flashGetKeyValid d = st.flashGetKeyValid d := by
  rw [Storage.flashGetKeyValid, Storage.flashGetKeyValid, h.slotOf]

/-- The door is the device in its slot. -/
theorem OnlyDevice.getDoorID (h : OnlyDevice deviceID i st st') :
    st'.getDoorID = st.getDoorID := by
  rw [Storage.getDoorID, Storage.getDoorID, h.doorNum, h.id]

/-- The slot is one in use, so that nothing beyond them has changed. -/
theorem OnlyDevice.same (h : OnlyDevice deviceID i st st') (hi : i ≤ st.globalDevice.num) :
    SameRegistry st st' where
  num := h.num
  doorNum := h.doorNum
  gatewayNum := h.gatewayNum
  id := h.id
  alarm := fun j hj => congrArg Slot.slaveAlarm (h.slot j (by omega))
  flash_learnNums := h.flash _ (by simp [FlashKey.device])
  flash_num := fun key => h.flash _ (by simp [FlashKey.device])

/-- A key of one device is not read for another. -/
private theorem flashGet_put_device {k l : FlashKey} {value : List UInt8}
    (hl : l.device = some deviceID) (hk : k.device ≠ some deviceID) :
    flashGet k (st.put l value).env = flashGet k st.env :=
  flashGet_put_of_ne (by rintro rfl; exact hk hl) value

/-- Alive, in RAM and in flash, unless it is so already. -/
theorem onlyDevice_deviceAliveChange (value : UInt8) :
    OnlyDevice deviceID (st.slotOf deviceID) st (st.deviceAliveChange deviceID value).2 := by
  simp only [Storage.deviceAliveChange]
  split
  · exact .refl _ _ st
  · split
    · exact ⟨rfl, rfl, rfl, rfl, rfl,
        fun j hj => by simp [Storage.slot, flashAliveChange, Storage.put, hj],
        fun k hk => flashGet_put_device rfl hk⟩
    · exact .refl _ _ st

/-- The battery; the flash is written only when it has changed. -/
theorem onlyDevice_updateDeviceBat (bat : UInt8) :
    OnlyDevice deviceID (st.slotOf deviceID) st (st.updateDeviceBat deviceID bat).2 := by
  simp only [Storage.updateDeviceBat]
  split
  · exact .refl _ _ st
  · split
    · exact ⟨rfl, rfl, rfl, rfl, rfl,
        fun j hj => by simp [Storage.slot, deviceBatChange, Storage.put, hj],
        fun k hk => flashGet_put_device rfl hk⟩
    · exact .refl _ _ st

/-- The signal, likewise. -/
theorem onlyDevice_updateDeviceRssi (rssi : Int) :
    OnlyDevice deviceID (st.slotOf deviceID) st (st.updateDeviceRssi deviceID rssi).2 := by
  simp only [Storage.updateDeviceRssi]
  split
  · exact .refl _ _ st
  · split
    · exact ⟨rfl, rfl, rfl, rfl, rfl,
        fun j hj => by simp [Storage.slot, deviceRssiChange, Storage.put, hj],
        fun k hk => flashGet_put_device rfl hk⟩
    · exact .refl _ _ st

/-- The age of a device is kept in RAM only. -/
theorem onlyDevice_clearDeviceTime :
    OnlyDevice deviceID (st.slotOf deviceID) st (st.clearDeviceTime deviceID).2 := by
  simp only [Storage.clearDeviceTime]
  split
  · exact .refl _ _ st
  · exact ⟨rfl, rfl, rfl, rfl, rfl, fun j hj => by simp [Storage.slot, hj], fun _ _ => rfl⟩

/-- The alarm of a slave. -/
theorem onlyDevice_flashSetSlaveAlarmFlag (flag : UInt8) :
    OnlyDevice deviceID (st.slotOf deviceID) st (st.flashSetSlaveAlarmFlag deviceID flag).2 := by
  simp only [Storage.flashSetSlaveAlarmFlag]
  split
  · exact .refl _ _ st
  · split
    · exact ⟨rfl, rfl, rfl, rfl, rfl,
        fun j hj => by simp [Storage.slot, deviceSlaveAlarmChange, Storage.put, hj],
        fun k hk => flashGet_put_device rfl hk⟩
    · exact .refl _ _ st

/-! ## the columns an update writes

What each update may change in RAM, whatever branch it takes. -/

section

variable (deviceID : UInt32) (st : Storage)

/-- A device that is heard is alive and has sent a message. -/
theorem deviceAliveChange_columns (value : UInt8) : ∃ alive getMesssage env,
    (st.deviceAliveChange deviceID value).2 =
      ⟨{ st.globalDevice with alive := alive, getMesssage := getMesssage }, env⟩ := by
  unfold Storage.deviceAliveChange
  dsimp only
  repeat' split
  all_goals exact ⟨_, _, _, rfl⟩

theorem updateDeviceBat_columns (value : UInt8) : ∃ bat env,
    (st.updateDeviceBat deviceID value).2 = ⟨{ st.globalDevice with bat := bat }, env⟩ := by
  unfold Storage.updateDeviceBat
  dsimp only
  repeat' split
  all_goals exact ⟨_, _, rfl⟩

theorem updateDeviceRssi_columns (value : Int) : ∃ rssi env,
    (st.updateDeviceRssi deviceID value).2 = ⟨{ st.globalDevice with rssi := rssi }, env⟩ := by
  unfold Storage.updateDeviceRssi
  dsimp only
  repeat' split
  all_goals exact ⟨_, _, rfl⟩

/-- No branch of it writes flash. -/
theorem clearDeviceTime_columns : ∃ idTime,
    (st.clearDeviceTime deviceID).2 = ⟨{ st.globalDevice with idTime := idTime }, st.env⟩ := by
  unfold Storage.clearDeviceTime
  dsimp only
  split
  all_goals exact ⟨_, rfl⟩

theorem flashSetSlaveAlarmFlag_columns (flag : UInt8) : ∃ slaveAlarm env,
    (st.flashSetSlaveAlarmFlag deviceID flag).2 =
      ⟨{ st.globalDevice with slaveAlarm := slaveAlarm }, env⟩ := by
  unfold Storage.flashSetSlaveAlarmFlag
  dsimp only
  repeat' split
  all_goals exact ⟨_, _, rfl⟩

end

/-- An update of one device leaves the registry alone. -/
theorem OnlyDevice.same_of_slotOf (hwf : st.Wf)
    (h : OnlyDevice deviceID (st.slotOf deviceID) st st') : SameRegistry st st' :=
  h.same (hwf.slotOf_le deviceID)

/-- A well-formed registry stays so when a device is updated. -/
theorem Storage.Wf.onlyDevice (hwf : st.Wf)
    (h : OnlyDevice deviceID (st.slotOf deviceID) st st') : st'.Wf :=
  hwf.of_same (h.same_of_slotOf hwf)

/-! ## the hourly ageing -/

/-- `st'` is `st` with other timestamps. -/
def OnlyTimes (st st' : Storage) : Prop :=
  ∃ idTime getMesssage, st' = { st with globalDevice := { st.globalDevice with
    idTime := idTime, getMesssage := getMesssage } }

theorem OnlyTimes.refl (st : Storage) : OnlyTimes st st := ⟨_, _, rfl⟩

/-- Timestamps are no part of the registry. -/
theorem OnlyTimes.same (h : OnlyTimes st st') : SameRegistry st st' := by
  obtain ⟨idTime, getMesssage, rfl⟩ := h
  exact ⟨rfl, rfl, rfl, rfl, fun _ _ => rfl, rfl, fun _ => rfl⟩

/-- A loop whose rounds touch only timestamps. -/
private theorem onlyTimes_forUpTo {bound : Nat} {body : Nat → Storage → Storage}
    (hbody : ∀ i st, OnlyTimes st (body i st)) (h : Loop.forUpTo bound body st = some st')
    (hb : bound < 255) : OnlyTimes st st' := by
  obtain ⟨st'', hrun, hsame⟩ := Loop.forUpTo_invariant (P := fun _ t => OnlyTimes st t) hb
    (.refl st) (fun i t _ _ ht => by
      obtain ⟨_, _, rfl⟩ := ht
      obtain ⟨_, _, hbody⟩ := hbody i _
      exact ⟨_, _, hbody⟩)
  rw [h] at hrun
  exact Option.some.inj hrun ▸ hsame

/-- Every device gets an hour older, up to 25. -/
theorem onlyTimes_updateAllTime (hwf : st.Wf) (h : st.updateAllTime = some st') :
    OnlyTimes st st' := by
  have hnum := hwf.num_le
  unfold Storage.updateAllTime at h
  split at h
  · cases h; exact .refl st
  · refine onlyTimes_forUpTo (fun i t => ?_) h (by rw [hwf.searchStart_eq]; omega)
    unfold Storage.ageSlot
    dsimp only
    split
    · exact ⟨_, _, rfl⟩
    · exact .refl t

/-- At the end of the day ages and marks begin anew, but for the devices that were found
silent. -/
theorem onlyTimes_clearAllTime (hwf : st.Wf) (h : st.clearAllTime = some st') :
    OnlyTimes st st' := by
  have hnum := hwf.num_le
  unfold Storage.clearAllTime at h
  split at h
  · cases h; exact .refl st
  · refine onlyTimes_forUpTo (fun i t => ?_) h (by rw [hwf.searchStart_eq]; omega)
    unfold Storage.clearSlot
    dsimp only
    split
    · exact ⟨_, _, rfl⟩
    · exact .refl t

/-! ## loading and erasing -/

/-- What the loading loop has done before round `i`. -/
private structure Loaded (env : Env) (num i : Nat) (d : DeviceInfo) : Prop where
  num : d.num = num
  id : ∀ j, 0 < j → j < i → d.id j = flashGet (.num (UInt32.ofNat j)) env
  rest : ∀ j, j = 0 ∨ i ≤ j → d.id j = 0 ∧ d.slaveAlarm j = 0

/-- One round loads one slot, and leaves those before and behind it. -/
private theorem loaded_loadSlot {env : Env} {num i : Nat} {d : DeviceInfo} (h0 : 1 ≤ i)
    (h : Loaded env num i d) : Loaded env num (i + 1) (Storage.loadSlot env i d) := by
  have hid : (Storage.loadSlot env i d).id =
      Function.update d.id i (flashGet (.num (UInt32.ofNat i)) env) := by
    unfold Storage.loadSlot; dsimp only; split <;> rfl
  have halarm : ∀ j, j ≠ i → (Storage.loadSlot env i d).slaveAlarm j = d.slaveAlarm j := by
    intro j hj
    unfold Storage.loadSlot; dsimp only; split <;> simp [hj]
  have hnum : (Storage.loadSlot env i d).num = d.num := by
    unfold Storage.loadSlot; dsimp only; split <;> rfl
  refine ⟨hnum.trans h.num, fun j hj0 hj => ?_, fun j hj => ?_⟩
  · rw [hid]
    by_cases hji : j = i
    · subst hji; simp
    · rw [Function.update_of_ne hji]; exact h.id j hj0 (by omega)
  · have hji : j ≠ i := by omega
    obtain ⟨hz, ha⟩ := h.rest j (by omega)
    rw [hid, Function.update_of_ne hji, halarm j hji]
    exact ⟨hz, ha⟩

/-- **A reload finds the registry it left**, and it finishes. -/
theorem same_loadDevice2Memory (h : st.Wf) :
    ∃ st', st.loadDevice2Memory = some st' ∧ SameRegistry st st' := by
  have h12 := h.num_le
  have hdoor := h.doorNum_le
  have hgw := h.gatewayNum_le
  have toNat_ofNat : ∀ n, n ≤ 12 → (UInt32.ofNat n).toNat = n := fun n hn => by
    rw [UInt32.toNat_ofNat']; omega
  have hnum : (flashGetLearnNums st.env).toNat = st.globalDevice.num := by
    rw [flashGetLearnNums, h.flash_learnNums, toNat_ofNat _ h12]
  have h0 : Loaded st.env st.globalDevice.num 1
      { DeviceInfo.zero with num := st.globalDevice.num } :=
    ⟨rfl, fun j _ _ => by omega, fun _ _ => ⟨rfl, rfl⟩⟩
  have hloop : st.globalDevice.num < 255 := by omega
  obtain ⟨d, hrun, hd⟩ := Loop.forUpTo_invariant hloop h0
    (fun i d hi0 _ hd => loaded_loadSlot hi0 hd)
  refine ⟨_, by rw [Storage.loadDevice2Memory, hnum, hrun]; rfl, ?_⟩
  exact {
    num := hd.num
    doorNum := by
      show (flashGet (.num 88888888) st.env).toNat = _
      rw [h.flash_doorNum, toNat_ofNat _ (by omega)]
    gatewayNum := by
      show (flashGet (.num 88887777) st.env).toNat = _
      rw [h.flash_gatewayNum, toNat_ofNat _ (by omega)]
    id := by
      funext j
      show d.id j = _
      by_cases hj : 0 < j ∧ j ≤ st.globalDevice.num
      · rw [hd.id j hj.1 (by omega), h.flash_id j hj.1 hj.2]
      · rw [(hd.rest j (by omega)).1]
        by_cases hz : j = 0
        · rw [hz]; exact h.table.zero.symm
        · exact (h.table.beyond j (by show st.globalDevice.num < j; omega)).symm
    alarm := by
      intro j hj
      rw [h.alarm_beyond j hj]
      exact (hd.rest j (by omega)).2
    flash_learnNums := rfl
    flash_num := fun _ => rfl }

/-- Loading reads flash only. -/
theorem loadDevice2Memory_congr (h : st.env = st'.env) :
    st.loadDevice2Memory = st'.loadDevice2Memory := by
  obtain ⟨d, env⟩ := st
  obtain ⟨d', env'⟩ := st'
  cases h
  rfl

/-- An empty registry is well-formed. -/
theorem Storage.wf_eraseAll (st : Storage) : st.eraseAll.Wf where
  table := SlotTable.wf_empty (by decide)
  alarm_beyond := fun _ _ => rfl
  doorNum_le := Nat.le_refl _
  gatewayNum_le := Nat.le_refl _
  flash_learnNums := flashGet_default _
  flash_id := fun _ _ _ => flashGet_default _
  flash_doorNum := flashGet_default _
  flash_gatewayNum := flashGet_default _

end WaterValve
