import WaterValve.RegistryRun

/-!
# WaterValve.LearnSlot

Learning, replacing and deleting all write one id into one slot
(`WritesSlot`).  `Storage.learnSlot` is the slot a learn frame writes, read off
the registry before the frame.
-/

namespace WaterValve

variable {st st' : Storage} {deviceID : UInt32} {num i : Nat}

/-! ## writing one slot -/

/-- `st'` is `st` with `deviceID` in slot `i`: no attribute moves, and in flash
only ids, roles and `Learn_Nums` are written. -/
structure WritesSlot (i : Nat) (deviceID : UInt32) (st st' : Storage) : Prop where
  lastFlag : st'.globalDevice.lastFlag = st.globalDevice.lastFlag
  num : st'.globalDevice.num = max st.globalDevice.num i
  slot : ∀ j, st'.slot j = { st.slot j with
    id := if j = i then deviceID else st.globalDevice.id j }
  flash : ∀ k : FlashKey, k ≠ .learnNums → (∀ key, k ≠ .num key) →
    flashGet k st'.env = flashGet k st.env
  flash_slot : ∀ j, j ≤ 12 → j ≠ i →
    flashGet (.num (UInt32.ofNat j)) st'.env = flashGet (.num (UInt32.ofNat j)) st.env

/-- Where the table differs after the write. -/
theorem WritesSlot.id (h : WritesSlot num deviceID st st') (i : Nat) :
    st'.globalDevice.id i = if i = num then deviceID else st.globalDevice.id i :=
  congrArg Slot.id (h.slot i)

/-- `store` writes its slot and no other. -/
theorem Storage.writesSlot_store (hnum : num ≤ 12) (deviceID : UInt32) (st : Storage) :
    WritesSlot num deviceID st (st.store num deviceID) where
  lastFlag := by rw [store_globalDevice]
  num := by rw [store_globalDevice]
  slot := by
    intro i
    simp [Storage.slot, store_globalDevice, Function.update_apply]
  flash := by
    intro k hk hnum
    rw [flashGet_store, if_neg (hnum _), if_neg (by simp [hk])]
  flash_slot := by
    intro j hj hne
    rw [flashGet_store, if_neg (by simp [ofNat_slot_inj hj hnum, hne]), if_neg (by simp)]

/-- The door pointer may be written as well. -/
theorem WritesSlot.setDoorNum (h : WritesSlot num deviceID st st') (i : Nat) :
    WritesSlot num deviceID st (st'.setDoorNum i) where
  lastFlag := h.lastFlag
  num := h.num
  slot := h.slot
  flash := by
    intro k hk hnum
    rw [Storage.flashGet_setDoorNum, if_neg (hnum _)]
    exact h.flash k hk hnum
  flash_slot := by
    intro j hj hne
    rw [Storage.flashGet_setDoorNum, if_neg (by simp [ofNat_slot_ne hj])]
    exact h.flash_slot j hj hne

/-- The gateway pointer may be written as well. -/
theorem WritesSlot.setGatewayNum (h : WritesSlot num deviceID st st') (i : Nat) :
    WritesSlot num deviceID st (st'.setGatewayNum i) where
  lastFlag := h.lastFlag
  num := h.num
  slot := h.slot
  flash := by
    intro k hk hnum
    rw [Storage.flashGet_setGatewayNum, if_neg (hnum _)]
    exact h.flash k hk hnum
  flash_slot := by
    intro j hj hne
    rw [Storage.flashGet_setGatewayNum, if_neg (by simp [ofNat_slot_ne hj])]
    exact h.flash_slot j hj hne

/-- Deleting writes 0 into the slot that is found. -/
theorem Storage.Wf.writesSlot_deleteDevice (h : st.Wf) (hs : st.slotOf deviceID ≠ 0) :
    WritesSlot (st.slotOf deviceID) 0 st (st.deleteDevice deviceID).2 := by
  have hle := le_trans (h.slotOf_le deviceID) h.num_le
  rw [h.deleteDevice_eq hs]
  dsimp only
  split
  · exact (writesSlot_store hle 0 st).setDoorNum 0
  · exact writesSlot_store hle 0 st

/-! ## the slot a learn frame writes -/

/-- The slot a learn request of an unknown sender writes: the one its role
replaces, else the lowest free one. -/
def Storage.requestSlot (fromID : Int32) (st : Storage) : Option Nat :=
  if fromID < 30000000 then st.table.free maxSupport
  else if 30000000 ≤ fromID ∧ fromID < 40000000 then
    if st.getDoorID ≠ 0 then some st.globalDevice.doorNum else st.table.free maxSupport
  else if 40000000 ≤ fromID ∧ fromID < 50000000 then
    if st.getGatewayID ≠ 0 then some st.globalDevice.gatewayNum else st.table.free maxSupport
  else none

/-- The slot a learn frame writes, if any. -/
def Storage.learnSlot (buf : Message) (st : Storage) : Option Nat :=
  if buf.command = 3 ∧ buf.data = 1 ∧ st.flashGetKeyValid buf.fromID.toUInt32 ≠ RT_EOK then
    st.requestSlot buf.fromID
  else none

/-- A door that is there sits in a slot. -/
theorem Storage.doorNum_pos (hd : st.getDoorID ≠ 0) : 0 < st.globalDevice.doorNum := by
  by_contra hz
  exact hd (by simp [getDoorID, Nat.eq_zero_of_not_pos hz])

/-- A gateway that is there sits in a slot. -/
theorem Storage.gatewayNum_pos (hg : st.getGatewayID ≠ 0) : 0 < st.globalDevice.gatewayNum := by
  by_contra hz
  exact hg (by simp [getGatewayID, Nat.eq_zero_of_not_pos hz])

/-- A learn request never takes slot 0. -/
theorem Storage.requestSlot_pos {fromID : Int32} (hslot : st.requestSlot fromID = some num) :
    0 < num := by
  have hfree : st.table.free maxSupport = some num → 0 < num :=
    fun hf => (SlotTable.free_eq_some hf).1
  unfold requestSlot at hslot
  split at hslot
  · exact hfree hslot
  · split at hslot
    · split at hslot
      · rename_i hd
        exact Option.some.inj hslot ▸ doorNum_pos hd
      · exact hfree hslot
    · split at hslot
      · split at hslot
        · rename_i hg
          exact Option.some.inj hslot ▸ gatewayNum_pos hg
        · exact hfree hslot
      · cases hslot

/-- **What a learn frame does to the registry**: it writes the sender into
`learnSlot`, or marks a sender that is known as alive, or does nothing. -/
theorem Storage.Wf.learned_cases {buf : Message} (h : st.Wf) (hl : Learned buf st st') :
    (∃ num, st.learnSlot buf = some num ∧ WritesSlot num buf.fromID.toUInt32 st st') ∨
      st' = st ∨ st' = (st.deviceAliveChange buf.fromID.toUInt32 1).2 := by
  have hslot : buf.command = 3 → buf.data = 1 →
      st.flashGetKeyValid buf.fromID.toUInt32 ≠ RT_EOK →
      st.learnSlot buf = st.requestSlot buf.fromID :=
    fun hreq hdata hv => if_pos ⟨hreq, hdata, hv⟩
  have hfree : ∀ {num}, st.table.free maxSupport = some num → num ≤ 12 :=
    fun hf => Nat.le_of_lt_succ (SlotTable.free_eq_some hf).2.1
  cases hl with
  | same => exact .inr (.inl rfl)
  | confirm => exact .inr (.inr rfl)
  | device hv hreq hdata hclass =>
      rw [hslot hreq hdata hv, requestSlot, if_pos hclass]
      cases hf : st.table.free maxSupport with
      | none => exact .inr (.inl (by rw [addDevice_of_full hf]))
      | some num =>
          rw [addDevice_of_free hf]
          exact .inl ⟨num, rfl, writesSlot_store (hfree hf) _ _⟩
  | door hv hreq hdata hclass =>
      have hdevice : ¬buf.fromID < 30000000 := Int32.not_lt.mpr hclass.1
      rw [hslot hreq hdata hv, requestSlot, if_neg hdevice, if_pos hclass]
      by_cases hd : st.getDoorID = 0
      · rw [if_neg (not_not.mpr hd)]
        cases hf : st.table.free maxSupport with
        | none => exact .inr (.inl (by rw [addDoorDevice_of_full hd hf]))
        | some num =>
            rw [addDoorDevice_of_free hd hf]
            exact .inl ⟨num, rfl, (writesSlot_store (hfree hf) _ _).setDoorNum num⟩
      · rw [if_pos hd, h.addDoorDevice_of_door hd]
        exact .inl ⟨_, rfl, (writesSlot_store (le_trans h.doorNum_le h.num_le) _ _).setDoorNum _⟩
  | gateway hv hreq hdata hclass =>
      have hdevice : ¬buf.fromID < 30000000 :=
        Int32.not_lt.mpr (Int32.le_trans (by decide) hclass.1)
      have hdoor : ¬(30000000 ≤ buf.fromID ∧ buf.fromID < 40000000) := fun hd =>
        absurd hd.2 (Int32.not_lt.mpr hclass.1)
      rw [hslot hreq hdata hv, requestSlot, if_neg hdevice, if_neg hdoor, if_pos hclass]
      by_cases hg : st.getGatewayID = 0
      · rw [if_neg (not_not.mpr hg)]
        cases hf : st.table.free maxSupport with
        | none => exact .inr (.inl (by rw [addGatewayDevice_of_full hg hf]))
        | some num =>
            rw [addGatewayDevice_of_free hg hf]
            exact .inl ⟨num, rfl, (writesSlot_store (hfree hf) _ _).setGatewayNum num⟩
      · rw [if_pos hg, h.addGatewayDevice_of_gateway hg]
        exact .inl ⟨_, rfl,
          (writesSlot_store (le_trans h.gatewayNum_le h.num_le) _ _).setGatewayNum _⟩

end WaterValve
