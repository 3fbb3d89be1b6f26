import WaterValve.FlashKeys
import WaterValve.Lib.SlotTable
import Mathlib.Data.UInt

/-!
# WaterValve.Registry

The registry as a slot table kept in step with flash.  `Storage.Wf` is the
integrity of a `Storage`: the slots form a well-formed table, the role
pointers stay below the high-water mark, and what flash says under the slot
keys, `Learn_Nums` and the role keys is what RAM holds.

Each operation of `flashwork.c` keeps it.  The operations fall into two kinds:
those that write ids (`Storage.store`, the common end of learning, replacing
and deleting) and those that write attributes of one device (`OnlyDevice`).
-/

namespace WaterValve

/-! ## the table -/

/-- Slot numbers and ids, without the attributes. -/
def Storage.table (st : Storage) : SlotTable UInt32 := ⟨st.globalDevice.num, st.globalDevice.id⟩

/-- Registry integrity, with flash in step. -/
structure Storage.Wf (st : Storage) : Prop where
  table : st.table.Wf maxSupport
  alarm_beyond : ∀ i, st.globalDevice.num < i → st.globalDevice.slaveAlarm i = 0
  doorNum_le : st.globalDevice.doorNum ≤ st.globalDevice.num
  gatewayNum_le : st.globalDevice.gatewayNum ≤ st.globalDevice.num
  flash_learnNums : flashGet .learnNums st.env = UInt32.ofNat st.globalDevice.num
  flash_id : ∀ i, 0 < i → i ≤ st.globalDevice.num →
    flashGet (.num (UInt32.ofNat i)) st.env = st.globalDevice.id i
  flash_doorNum : flashGet (.num 88888888) st.env = UInt32.ofNat st.globalDevice.doorNum
  flash_gatewayNum : flashGet (.num 88887777) st.env = UInt32.ofNat st.globalDevice.gatewayNum

variable {st st' : Storage} {deviceID : UInt32} {num i j : Nat}

/-- A well-formed table uses at most twelve slots. -/
theorem Storage.Wf.num_le (h : st.Wf) : st.globalDevice.num ≤ 12 :=
  Nat.le_of_lt_succ h.table.num_lt

/-- The searches start at `Num`: it fits the `uint16_t`. -/
theorem Storage.Wf.searchStart_eq (h : st.Wf) : st.searchStart = st.globalDevice.num := by
  have := h.num_le
  unfold Storage.searchStart; omega

/-- The lookups of the source are searches of the table. -/
theorem Storage.Wf.slotOf_eq (h : st.Wf) (deviceID : UInt32) :
    st.slotOf deviceID = st.table.find deviceID := by
  rw [Storage.slotOf, h.searchStart_eq]; rfl

/-- An id is valid when the search finds a slot. -/
theorem Storage.flashGetKeyValid_eq_ok :
    st.flashGetKeyValid deviceID = RT_EOK ↔ st.slotOf deviceID ≠ 0 := by
  unfold flashGetKeyValid
  split <;> simp_all [RT_EOK, RT_ERROR]

/-- A nonzero id is valid exactly when some slot holds it. -/
theorem Storage.Wf.keyValid_iff (h : st.Wf) (h0 : deviceID ≠ 0) :
    st.flashGetKeyValid deviceID = RT_EOK ↔ ∃ i, st.globalDevice.id i = deviceID := by
  rw [flashGetKeyValid_eq_ok, h.slotOf_eq, Ne, h.table.find_eq_zero_iff h0]
  simp [Storage.table]

/-- Slot numbers survive the conversion to `uint32_t`. -/
theorem toNat_ofNat_slot (h : i ≤ 12) : (UInt32.ofNat i).toNat = i := by
  rw [UInt32.toNat_ofNat']; omega

/-- Different slots have different keys. -/
theorem ofNat_slot_inj (hi : i ≤ 12) (hj : j ≤ 12) :
    UInt32.ofNat i = UInt32.ofNat j ↔ i = j := by
  rw [← UInt32.toNat_inj, toNat_ofNat_slot hi, toNat_ofNat_slot hj]

/-- The slot keys are not the role keys. -/
theorem ofNat_slot_ne (h : i ≤ 12) {key : UInt32} (hkey : 12 < key.toNat) :
    UInt32.ofNat i ≠ key := by
  intro e
  rw [← e, toNat_ofNat_slot h] at hkey
  omega

/-! ## writing ids -/

/-- Raise `Num` and `Learn_Nums` to a slot that is new. -/
def Storage.raiseNum (num : Nat) (st : Storage) : Storage :=
  if num > st.globalDevice.num then
    flashLearnNumsChange (UInt32.ofNat num)
      { st with globalDevice := { st.globalDevice with num := num } }
  else st

/-- The end of every operation that writes an id: the slot in RAM and flash,
below the raised mark. -/
def Storage.store (num : Nat) (deviceID : UInt32) (st : Storage) : Storage :=
  (st.raiseNum num).setID num deviceID

/-- Below `Num` a store writes the id only. -/
theorem Storage.store_of_le (h : num ≤ st.globalDevice.num) :
    st.store num deviceID = st.setID num deviceID := by
  rw [store, raiseNum, if_neg (by omega)]

/-- In RAM, storing writes the slot and raises the mark. -/
theorem Storage.store_globalDevice (num : Nat) (deviceID : UInt32) (st : Storage) :
    (st.store num deviceID).globalDevice = { st.globalDevice with
      num := max st.globalDevice.num num
      id := Function.update st.globalDevice.id num deviceID } := by
  unfold store raiseNum
  split
  · rename_i h
    rw [max_eq_right (Nat.le_of_lt h)]; rfl
  · rename_i h
    rw [max_eq_left (Nat.le_of_not_lt h)]; rfl

/-- A store changes one entry of the table. -/
theorem Storage.store_table : (st.store num deviceID).table = st.table.set num deviceID := by
  rw [table, store_globalDevice]; rfl

/-- A numeric key holds what was written last. -/
theorem Storage.flashGet_flashKeyChange (key value : UInt32) (st : Storage) (k : FlashKey) :
    flashGet k (flashKeyChange key value st).env =
      if k = .num key then value else flashGet k st.env := by
  split
  · rename_i h
    subst h
    exact flashGet_put_printLd value
  · rename_i h
    exact flashGet_put_of_ne h _

/-- What `setID` leaves in the flash. -/
theorem Storage.flashGet_setID (num : Nat) (deviceID : UInt32) (st : Storage) (k : FlashKey) :
    flashGet k (st.setID num deviceID).env =
      if k = .num (UInt32.ofNat num) then deviceID else flashGet k st.env :=
  flashGet_flashKeyChange ..

/-- What `setDoorNum` leaves in the flash. -/
theorem Storage.flashGet_setDoorNum (num : Nat) (st : Storage) (k : FlashKey) :
    flashGet k (st.setDoorNum num).env =
      if k = .num 88888888 then UInt32.ofNat num else flashGet k st.env :=
  flashGet_flashKeyChange ..

/-- What `setGatewayNum` leaves in the flash. -/
theorem Storage.flashGet_setGatewayNum (num : Nat) (st : Storage) (k : FlashKey) :
    flashGet k (st.setGatewayNum num).env =
      if k = .num 88887777 then UInt32.ofNat num else flashGet k st.env :=
  flashGet_flashKeyChange ..

/-- A store writes the slot key, and the count if it grows. -/
theorem Storage.flashGet_store (num : Nat) (deviceID : UInt32) (st : Storage) (k : FlashKey) :
    flashGet k (st.store num deviceID).env =
      if k = .num (UInt32.ofNat num) then deviceID
      else if k = .learnNums ∧ num > st.globalDevice.num then UInt32.ofNat num
      else flashGet k st.env := by
  rw [store, raiseNum, flashGet_setID]
  split
  · rfl
  · by_cases hnew : num > st.globalDevice.num
    · by_cases hk : k = .learnNums
      · subst hk
        rw [if_pos hnew, if_pos ⟨rfl, hnew⟩]
        exact flashGet_put_printLd _
      · rw [if_pos hnew, if_neg (by simp [hk])]
        exact flashGet_put_of_ne hk _
    · rw [if_neg hnew, if_neg (by simp [hnew])]

/-- Learning, replacing and deleting keep the registry intact: the slot is in
use or the next one, and the id is new, or 0 to free the slot. -/
theorem Storage.Wf.store (h : st.Wf) (h0 : 0 < num) (h12 : num ≤ 12)
    (hnext : num ≤ st.globalDevice.num + 1)
    (hnew : deviceID = 0 ∨ ∀ i, st.globalDevice.id i ≠ deviceID) :
    (st.store num deviceID).Wf := by
  have hnum12 := h.num_le
  have hd := store_globalDevice num deviceID st
  have hflash := flashGet_store num deviceID st
  exact {
    table := by
      rw [store_table]
      exact h.table.set h0 (by simp only [maxSupport]; omega) hnew
    alarm_beyond := by
      intro i hi
      rw [hd] at hi ⊢
      exact h.alarm_beyond i (lt_of_le_of_lt (le_max_left _ _) hi)
    doorNum_le := by
      rw [hd]
      exact le_trans h.doorNum_le (le_max_left _ _)
    gatewayNum_le := by
      rw [hd]
      exact le_trans h.gatewayNum_le (le_max_left _ _)
    flash_learnNums := by
      rw [hflash, if_neg (by simp), hd]
      split
      · rename_i hc; rw [max_eq_right (by omega)]
      · rename_i hc
        rw [max_eq_left (by simpa using hc)]
        exact h.flash_learnNums
    flash_id := by
      intro i hi0 hi
      rw [hd] at hi ⊢
      replace hi : i ≤ max st.globalDevice.num num := hi
      rw [hflash]
      by_cases hin : i = num
      · subst hin; simp
      · rw [if_neg (by rw [FlashKey.num.injEq, ofNat_slot_inj (by omega) h12]; exact hin),
          if_neg (by simp)]
        exact (h.flash_id i hi0 (by omega)).trans (Function.update_of_ne hin _ _).symm
    flash_doorNum := by
      rw [hflash, hd, if_neg (by simpa using (ofNat_slot_ne h12 (by decide)).symm),
        if_neg (by simp)]
      exact h.flash_doorNum
    flash_gatewayNum := by
      rw [hflash, hd, if_neg (by simpa using (ofNat_slot_ne h12 (by decide)).symm),
        if_neg (by simp)]
      exact h.flash_gatewayNum }

/-- Pointing a role at a slot below the mark, or at none. -/
theorem Storage.Wf.setDoorNum (h : st.Wf) (hnum : num ≤ st.globalDevice.num) :
    (st.setDoorNum num).Wf := by
  have hnum12 := h.num_le
  have hflash := flashGet_setDoorNum num st
  exact {
    table := h.table
    alarm_beyond := h.alarm_beyond
    doorNum_le := hnum
    gatewayNum_le := h.gatewayNum_le
    flash_learnNums := by rw [hflash, if_neg (by simp)]; exact h.flash_learnNums
    flash_id := by
      intro i hi0 hi
      have hi12 : i ≤ 12 := le_trans hi hnum12
      rw [hflash, if_neg (by simpa using ofNat_slot_ne hi12 (by decide))]
      exact h.flash_id i hi0 hi
    flash_doorNum := by rw [hflash, if_pos rfl]; rfl
    flash_gatewayNum := by rw [hflash, if_neg (by decide)]; exact h.flash_gatewayNum }

/-- The gateway pointer may name any slot up to `Num`. -/
theorem Storage.Wf.setGatewayNum (h : st.Wf) (hnum : num ≤ st.globalDevice.num) :
    (st.setGatewayNum num).Wf := by
  have hnum12 := h.num_le
  have hflash := flashGet_setGatewayNum num st
  exact {
    table := h.table
    alarm_beyond := h.alarm_beyond
    doorNum_le := h.doorNum_le
    gatewayNum_le := hnum
    flash_learnNums := by rw [hflash, if_neg (by simp)]; exact h.flash_learnNums
    flash_id := by
      intro i hi0 hi
      have hi12 : i ≤ 12 := le_trans hi hnum12
      rw [hflash, if_neg (by simpa using ofNat_slot_ne hi12 (by decide))]
      exact h.flash_id i hi0 hi
    flash_doorNum := by rw [hflash, if_neg (by decide)]; exact h.flash_doorNum
    flash_gatewayNum := by rw [hflash, if_pos rfl]; rfl }

/-! ## learning -/

/-- An id the search rejects is new, or it is 0. -/
theorem Storage.Wf.fresh_of_invalid (h : st.Wf) (hv : st.flashGetKeyValid deviceID ≠ RT_EOK) :
    deviceID = 0 ∨ ∀ i, st.globalDevice.id i ≠ deviceID := by
  by_cases h0 : deviceID = 0
  · exact Or.inl h0
  · right
    intro i hi
    exact hv ((h.keyValid_iff h0).mpr ⟨i, hi⟩)

/-- `Get_LearnNums_Valid` finds the lowest free slot of the table. -/
theorem Storage.getLearnNumsValid_of_free (hf : st.table.free maxSupport = some num) :
    st.getLearnNumsValid = (num, st.raiseNum num) := by
  have hfind : (List.range' 1 (maxSupport - 1)).find? (fun i => st.globalDevice.id i = 0) =
      some num := hf
  unfold getLearnNumsValid raiseNum
  rw [hfind]
  dsimp only
  split <;> rfl

/-- A full table has no slot to give. -/
theorem Storage.getLearnNumsValid_of_full (hf : st.table.free maxSupport = none) :
    st.getLearnNumsValid = (0, st) := by
  have hfind : (List.range' 1 (maxSupport - 1)).find? (fun i => st.globalDevice.id i = 0) =
      none := hf
  unfold getLearnNumsValid
  rw [hfind]

/-- A new device goes to the first free slot. -/
theorem Storage.addDevice_of_free (hf : st.table.free maxSupport = some num) :
    st.addDevice deviceID = (RT_EOK, st.store num deviceID) := by
  have h0 : num ≠ 0 := (SlotTable.free_eq_some hf).1.ne'
  simp [addDevice, getLearnNumsValid_of_free hf, h0, store]

/-- A full table takes no device. -/
theorem Storage.addDevice_of_full (hf : st.table.free maxSupport = none) :
    st.addDevice deviceID = (RT_ERROR, st) := by
  simp [addDevice, getLearnNumsValid_of_full hf]

/-- A first door goes to the first free slot, which `DoorNum` then names. -/
theorem Storage.addDoorDevice_of_free (hd : st.getDoorID = 0)
    (hf : st.table.free maxSupport = some num) :
    st.addDoorDevice deviceID = (RT_EOK, (st.store num deviceID).setDoorNum num) := by
  have h0 : num ≠ 0 := (SlotTable.free_eq_some hf).1.ne'
  simp [addDoorDevice, hd, getLearnNumsValid_of_free hf, h0, store]

/-- A full table takes no first door. -/
theorem Storage.addDoorDevice_of_full (hd : st.getDoorID = 0)
    (hf : st.table.free maxSupport = none) : st.addDoorDevice deviceID = (RT_ERROR, st) := by
  simp [addDoorDevice, hd, getLearnNumsValid_of_full hf]

/-- A first gateway goes to the first free slot, which `GatewayNum` then names. -/
theorem Storage.addGatewayDevice_of_free (hg : st.getGatewayID = 0)
    (hf : st.table.free maxSupport = some num) :
    st.addGatewayDevice deviceID = (RT_EOK, (st.store num deviceID).setGatewayNum num) := by
  have h0 : num ≠ 0 := (SlotTable.free_eq_some hf).1.ne'
  simp [addGatewayDevice, hg, getLearnNumsValid_of_free hf, h0, store]

/-- A full table takes no first gateway. -/
theorem Storage.addGatewayDevice_of_full (hg : st.getGatewayID = 0)
    (hf : st.table.free maxSupport = none) : st.addGatewayDevice deviceID = (RT_ERROR, st) := by
  simp [addGatewayDevice, hg, getLearnNumsValid_of_full hf]

/-- The replace path takes its slot from flash, which agrees with RAM. -/
theorem Storage.Wf.addDoorDevice_of_door (h : st.Wf) (hd : st.getDoorID ≠ 0) :
    st.addDoorDevice deviceID =
      (RT_EOK, (st.store st.globalDevice.doorNum deviceID).setDoorNum st.globalDevice.doorNum) := by
  have hle := h.doorNum_le
  have hnum : (flashGetDoorNums st.env).toNat = st.globalDevice.doorNum := by
    rw [flashGetDoorNums, h.flash_doorNum, toNat_ofNat_slot (le_trans hle h.num_le)]
  simp [Storage.addDoorDevice, hd, hnum, Storage.store_of_le hle]

/-- Another gateway takes the slot of the old one. -/
theorem Storage.Wf.addGatewayDevice_of_gateway (h : st.Wf) (hg : st.getGatewayID ≠ 0) :
    st.addGatewayDevice deviceID =
      (RT_EOK, (st.store st.globalDevice.gatewayNum deviceID).setGatewayNum
        st.globalDevice.gatewayNum) := by
  have hle := h.gatewayNum_le
  have hnum : (flashGetGatewayNums st.env).toNat = st.globalDevice.gatewayNum := by
    rw [flashGetGatewayNums, h.flash_gatewayNum, toNat_ofNat_slot (le_trans hle h.num_le)]
  simp [Storage.addGatewayDevice, hg, hnum, Storage.store_of_le hle]

/-- A store counts its slot. -/
theorem Storage.le_num_store : num ≤ (st.store num deviceID).globalDevice.num := by
  rw [store_globalDevice]
  exact le_max_right _ _

/-- Learning a new id keeps the registry intact. -/
theorem Storage.Wf.store_free (h : st.Wf) (hf : st.table.free maxSupport = some num)
    (hnew : deviceID = 0 ∨ ∀ i, st.globalDevice.id i ≠ deviceID) :
    (st.store num deviceID).Wf := by
  obtain ⟨h0, hcap, -, -⟩ := SlotTable.free_eq_some hf
  exact h.store h0 (Nat.le_of_lt_succ hcap) (h.table.free_le hf) hnew

/-- `Add_Device` of a new id keeps the table well formed. -/
theorem Storage.Wf.addDevice (h : st.Wf)
    (hnew : deviceID = 0 ∨ ∀ i, st.globalDevice.id i ≠ deviceID) :
    (st.addDevice deviceID).2.Wf := by
  cases hf : st.table.free maxSupport with
  | none => rw [addDevice_of_full hf]; exact h
  | some num => rw [addDevice_of_free hf]; exact h.store_free hf hnew

/-- So does `Add_DoorDevice`. -/
theorem Storage.Wf.addDoorDevice (h : st.Wf)
    (hnew : deviceID = 0 ∨ ∀ i, st.globalDevice.id i ≠ deviceID) :
    (st.addDoorDevice deviceID).2.Wf := by
  by_cases hd : st.getDoorID = 0
  · cases hf : st.table.free maxSupport with
    | none => rw [addDoorDevice_of_full hd hf]; exact h
    | some num =>
        rw [addDoorDevice_of_free hd hf]
        exact (h.store_free hf hnew).setDoorNum le_num_store
  · have hpos : 0 < st.globalDevice.doorNum := by
      by_contra hz
      exact hd (by simp [getDoorID, Nat.eq_zero_of_not_pos hz])
    rw [h.addDoorDevice_of_door hd]
    exact (h.store hpos (le_trans h.doorNum_le h.num_le) (Nat.le_succ_of_le h.doorNum_le)
      hnew).setDoorNum le_num_store

/-- So does `Add_GatewayDevice`. -/
theorem Storage.Wf.addGatewayDevice (h : st.Wf)
    (hnew : deviceID = 0 ∨ ∀ i, st.globalDevice.id i ≠ deviceID) :
    (st.addGatewayDevice deviceID).2.Wf := by
  by_cases hg : st.getGatewayID = 0
  · cases hf : st.table.free maxSupport with
    | none => rw [addGatewayDevice_of_full hg hf]; exact h
    | some num =>
        rw [addGatewayDevice_of_free hg hf]
        exact (h.store_free hf hnew).setGatewayNum le_num_store
  · have hpos : 0 < st.globalDevice.gatewayNum := by
      by_contra hz
      exact hg (by simp [getGatewayID, Nat.eq_zero_of_not_pos hz])
    rw [h.addGatewayDevice_of_gateway hg]
    exact (h.store hpos (le_trans h.gatewayNum_le h.num_le) (Nat.le_succ_of_le h.gatewayNum_le)
      hnew).setGatewayNum le_num_store

/-! ## deleting -/

/-- The search finds a slot up to `Num`, or 0. -/
theorem Storage.Wf.slotOf_le (h : st.Wf) (deviceID : UInt32) :
    st.slotOf deviceID ≤ st.globalDevice.num := by
  rw [h.slotOf_eq]; exact SlotTable.find_le _ _

/-- Deleting frees the slot that is found. -/
theorem Storage.Wf.deleteDevice_eq (h : st.Wf) (hs : st.slotOf deviceID ≠ 0) :
    st.deleteDevice deviceID = (RT_EOK,
      if getDoorValid deviceID = RT_EOK then (st.store (st.slotOf deviceID) 0).setDoorNum 0
      else st.store (st.slotOf deviceID) 0) := by
  rw [Storage.store_of_le (h.slotOf_le deviceID)]
  simp only [Storage.deleteDevice, if_neg hs]
  split <;> rfl

/-- An id that is in no slot is not deleted. -/
theorem Storage.deleteDevice_of_invalid (hs : st.slotOf deviceID = 0) :
    st.deleteDevice deviceID = (RT_ERROR, st) := by
  simp [deleteDevice, hs]

/-- `Delete_Device` keeps the table well formed. -/
theorem Storage.Wf.deleteDevice (h : st.Wf) (deviceID : UInt32) :
    (st.deleteDevice deviceID).2.Wf := by
  by_cases hs : st.slotOf deviceID = 0
  · rw [deleteDevice_of_invalid hs]; exact h
  · have hle := h.slotOf_le deviceID
    have hwf : (st.store (st.slotOf deviceID) 0).Wf :=
      h.store (Nat.pos_of_ne_zero hs) (le_trans hle h.num_le) (Nat.le_succ_of_le hle) (Or.inl rfl)
    rw [h.deleteDevice_eq hs]
    dsimp only
    split
    · exact hwf.setDoorNum (Nat.zero_le _)
    · exact hwf

end WaterValve
