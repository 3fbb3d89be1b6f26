import WaterValve.RegistryRun

/-!
# WaterValve.Roles

The role pointers `DoorNum` and `GatewayNum`: which devices they name.

`RolesAgree` is the agreement between the role getters and the registered ids.
`Delete_Device` resets the door pointer and not the gateway pointer, so it
holds along the runs in which no other device is learned into the slot the
gateway left, and fails on the others.
-/

namespace WaterValve

/-! ## agreement -/

/-- Ids of the door class. -/
def IsDoor (deviceID : UInt32) : Prop := 30000000 ≤ deviceID ∧ deviceID < 40000000

/-- Ids of the gateway class. -/
def IsGateway (deviceID : UInt32) : Prop := 40000000 ≤ deviceID ∧ deviceID < 50000000

/-- The role pointers name a device of their class, and the only one. -/
structure RolesAgree (st : Storage) : Prop where
  door : st.getDoorID = 0 ∨ IsDoor st.getDoorID
  gateway : st.getGatewayID = 0 ∨ IsGateway st.getGatewayID
  onlyDoor : ∀ i, IsDoor (st.globalDevice.id i) → st.globalDevice.id i = st.getDoorID
  onlyGateway : ∀ i, IsGateway (st.globalDevice.id i) → st.globalDevice.id i = st.getGatewayID

/-- A learn frame that puts a device which is no gateway into the slot
`GatewayNum` still names after its gateway was deleted: the lowest free slot is
that one, and the sender is no gateway and does not replace a door. -/
def TakesGatewaySlot (buf : Message) (st : Storage) : Prop :=
  buf.command = 3 ∧ buf.data = 1 ∧ st.flashGetKeyValid buf.fromID.toUInt32 ≠ RT_EOK ∧
    (buf.fromID < 30000000 ∨
      (30000000 ≤ buf.fromID ∧ buf.fromID < 40000000) ∧ st.getDoorID = 0) ∧
    st.globalDevice.gatewayNum ≠ 0 ∧ st.table.free maxSupport = some st.globalDevice.gatewayNum

/-- The role pointers slot by slot: the door pointer names the one door, and
the gateway pointer names the one gateway or the slot it left. -/
structure RoleSlots (st : Storage) : Prop where
  door : ∀ i, IsDoor (st.globalDevice.id i) ↔ i ≠ 0 ∧ i = st.globalDevice.doorNum
  gateway : ∀ i, IsGateway (st.globalDevice.id i) → i = st.globalDevice.gatewayNum
  gatewaySlot : st.globalDevice.gatewayNum ≠ 0 →
    st.globalDevice.id st.globalDevice.gatewayNum = 0 ∨
      IsGateway (st.globalDevice.id st.globalDevice.gatewayNum)

/-- A range of ids is the same range of `int`s. -/
private theorem toUInt32_mem_range (n : Int32) {a b : Nat} (hb : b ≤ 2 ^ 31) :
    a ≤ n.toUInt32.toNat ∧ n.toUInt32.toNat < b ↔ (a : Int) ≤ n.toInt ∧ n.toInt < b := by
  have hlt := n.toUInt32.toNat_lt
  have hint : n.toInt = if 2 * n.toUInt32.toNat < 2 ^ 32 then (n.toUInt32.toNat : Int)
      else n.toUInt32.toNat - 2 ^ 32 := BitVec.toInt_eq_toNat_cond n.toBitVec
  rw [hint]
  split <;> omega

/-- `Device_Learn` and the registry agree on what a door is. -/
theorem isDoor_toUInt32 (n : Int32) : IsDoor n.toUInt32 ↔ 30000000 ≤ n ∧ n < 40000000 := by
  rw [IsDoor, UInt32.le_iff_toNat_le, UInt32.lt_iff_toNat_lt, Int32.le_iff_toInt_le,
    Int32.lt_iff_toInt_lt]
  exact toUInt32_mem_range n (by decide)

/-- They agree on what a gateway is. -/
theorem isGateway_toUInt32 (n : Int32) : IsGateway n.toUInt32 ↔ 40000000 ≤ n ∧ n < 50000000 := by
  rw [IsGateway, UInt32.le_iff_toNat_le, UInt32.lt_iff_toNat_lt, Int32.le_iff_toInt_le,
    Int32.lt_iff_toInt_lt]
  exact toUInt32_mem_range n (by decide)

/-- A free slot holds no door. -/
theorem not_isDoor_zero : ¬IsDoor 0 := by unfold IsDoor; decide

/-- A free slot holds no gateway. -/
theorem not_isGateway_zero : ¬IsGateway 0 := by unfold IsGateway; decide

/-- No id is of both classes. -/
private theorem not_isDoor_of_isGateway {deviceID : UInt32} (h : IsGateway deviceID) :
    ¬IsDoor deviceID :=
  fun hd => absurd hd.2 (UInt32.not_lt.mpr h.1)

section

variable {st st' : Storage} {deviceID : UInt32} {num : Nat}

/-- The role slots are what the role getters read. -/
theorem RoleSlots.rolesAgree (h : RoleSlots st) (hwf : st.Wf) : RolesAgree st where
  door := by
    unfold Storage.getDoorID
    split
    · exact Or.inl rfl
    · rename_i h0; exact Or.inr ((h.door _).mpr ⟨h0, rfl⟩)
  gateway := by
    unfold Storage.getGatewayID
    split
    · exact Or.inl rfl
    · rename_i h0; exact h.gatewaySlot h0
  onlyDoor := by
    intro i hi
    obtain ⟨h0, rfl⟩ := (h.door i).mp hi
    rw [Storage.getDoorID, if_neg h0]
  onlyGateway := by
    intro i hi
    have hslot := h.gateway i hi
    have h0 : i ≠ 0 := by
      rintro rfl
      exact not_isGateway_zero (hwf.table.zero ▸ hi)
    rw [Storage.getGatewayID, ← hslot, if_neg h0]

/-- The roles depend on the ids and the two pointers only. -/
theorem RoleSlots.of_same (h : RoleSlots st) (hs : SameRegistry st st') : RoleSlots st' := by
  obtain ⟨-, hdoor, hgw, hid, -, -, -⟩ := hs
  exact ⟨by rw [hdoor, hid]; exact h.door, by rw [hgw, hid]; exact h.gateway,
    by rw [hgw, hid]; exact h.gatewaySlot⟩

/-- Without a door no slot holds one. -/
theorem RoleSlots.no_door (h : RoleSlots st) (hwf : st.Wf) (hd : st.getDoorID = 0) (i : Nat) :
    ¬IsDoor (st.globalDevice.id i) := by
  intro hi
  have hdoor := (h.rolesAgree hwf).onlyDoor i hi
  rw [hd] at hdoor
  exact not_isDoor_zero (hdoor ▸ hi)

/-- Without a gateway no slot holds one. -/
theorem RoleSlots.no_gateway (h : RoleSlots st) (hwf : st.Wf) (hg : st.getGatewayID = 0) (i : Nat) :
    ¬IsGateway (st.globalDevice.id i) := by
  intro hi
  have hgw := (h.rolesAgree hwf).onlyGateway i hi
  rw [hg] at hgw
  exact not_isGateway_zero (hgw ▸ hi)

/-- Writing one slot and moving the pointers: what has to hold of the slot
written and of the others. -/
private theorem RoleSlots.write (h : RoleSlots st) (h0 : num ≠ 0)
    (hid : st'.globalDevice.id = Function.update st.globalDevice.id num deviceID)
    (hdoor : IsDoor deviceID ↔ num = st'.globalDevice.doorNum)
    (hdoors : ∀ i, i ≠ num → i ≠ 0 →
      (i = st'.globalDevice.doorNum ↔ i = st.globalDevice.doorNum))
    (hgw : IsGateway deviceID → num = st'.globalDevice.gatewayNum)
    (hgws : ∀ i, i ≠ num → IsGateway (st.globalDevice.id i) → i = st'.globalDevice.gatewayNum)
    (hslot : num = st'.globalDevice.gatewayNum → deviceID = 0 ∨ IsGateway deviceID)
    (hslots : num ≠ st'.globalDevice.gatewayNum →
      st'.globalDevice.gatewayNum = st.globalDevice.gatewayNum) : RoleSlots st' where
  door := by
    intro i
    by_cases hi : i = num
    · subst hi
      rw [hid, Function.update_self, hdoor]
      exact ⟨fun e => ⟨h0, e⟩, fun e => e.2⟩
    · rw [hid, Function.update_of_ne hi, h.door]
      exact and_congr_right fun hne => (hdoors i hi hne).symm
  gateway := by
    intro i
    by_cases hi : i = num
    · subst hi
      rw [hid, Function.update_self]
      exact hgw
    · rw [hid, Function.update_of_ne hi]
      exact hgws i hi
  gatewaySlot := by
    intro hne
    rw [hid]
    by_cases hn : num = st'.globalDevice.gatewayNum
    · rw [← hn, Function.update_self]
      exact hslot hn
    · rw [Function.update_of_ne (Ne.symm hn), hslots hn]
      rw [hslots hn] at hne
      exact h.gatewaySlot hne

/-- A store writes its slot. -/
theorem store_id : (st.store num deviceID).globalDevice.id =
    Function.update st.globalDevice.id num deviceID := by rw [Storage.store_globalDevice]

/-- A store leaves the door pointer. -/
theorem store_doorNum (num : Nat) (deviceID : UInt32) (st : Storage) :
    (st.store num deviceID).globalDevice.doorNum = st.globalDevice.doorNum := by
  rw [Storage.store_globalDevice]

/-- A store leaves the gateway pointer. -/
theorem store_gatewayNum (num : Nat) (deviceID : UInt32) (st : Storage) :
    (st.store num deviceID).globalDevice.gatewayNum = st.globalDevice.gatewayNum := by
  rw [Storage.store_globalDevice]

/-- The door pointer names no free slot. -/
private theorem RoleSlots.free_ne_doorNum (h : RoleSlots st) (h0 : num ≠ 0)
    (hfree : st.globalDevice.id num = 0) : num ≠ st.globalDevice.doorNum := by
  intro e
  have := (h.door num).mpr ⟨h0, e⟩
  exact not_isDoor_zero (hfree ▸ this)

/-- Learning a device without a role, unless it takes the slot the gateway
left. -/
theorem RoleSlots.store (h : RoleSlots st) (h0 : num ≠ 0) (hfree : st.globalDevice.id num = 0)
    (hdoor : ¬IsDoor deviceID) (hgw : ¬IsGateway deviceID)
    (hslot : num ≠ st.globalDevice.gatewayNum) : RoleSlots (st.store num deviceID) := by
  have hne := h.free_ne_doorNum h0 hfree
  refine h.write h0 store_id ?_ ?_ (fun hg => absurd hg hgw) ?_ ?_
    (fun _ => store_gatewayNum _ _ st)
  · rw [store_doorNum]
    exact ⟨fun hd => absurd hd hdoor, fun e => absurd e hne⟩
  · intro i _ _; rw [store_doorNum]
  · intro i _ hi; rw [store_gatewayNum]; exact h.gateway i hi
  · rw [store_gatewayNum]; exact fun e => absurd e hslot

/-- Learning the door, in a new slot or in place of the old one. -/
theorem RoleSlots.store_door (h : RoleSlots st) (h0 : num ≠ 0) (hdoor : IsDoor deviceID)
    (hnum : num = st.globalDevice.doorNum ∨ ∀ i, ¬IsDoor (st.globalDevice.id i))
    (hslot : num ≠ st.globalDevice.gatewayNum) :
    RoleSlots ((st.store num deviceID).setDoorNum num) := by
  have hgw : ¬IsGateway deviceID := fun hg => not_isDoor_of_isGateway hg hdoor
  refine h.write h0 store_id ⟨fun _ => rfl, fun _ => hdoor⟩ ?_ (fun hg => absurd hg hgw) ?_ ?_
    (fun _ => store_gatewayNum num deviceID st)
  · intro i hi hi0
    refine ⟨fun e => absurd e hi, fun e => ?_⟩
    cases hnum with
    | inl hnum => exact e.trans hnum.symm
    | inr hnone => exact absurd ((h.door i).mpr ⟨hi0, e⟩) (hnone i)
  · intro i _ hi
    show i = (st.store num deviceID).globalDevice.gatewayNum
    rw [store_gatewayNum]; exact h.gateway i hi
  · intro e
    have e' : num = (st.store num deviceID).globalDevice.gatewayNum := e
    rw [store_gatewayNum] at e'
    exact absurd e' hslot

/-- Learning the gateway, in a new slot or in place of the old one. -/
theorem RoleSlots.store_gateway (h : RoleSlots st) (h0 : num ≠ 0) (hgw : IsGateway deviceID)
    (hnum : num = st.globalDevice.gatewayNum ∨ ∀ i, ¬IsGateway (st.globalDevice.id i))
    (hslot : num ≠ st.globalDevice.doorNum) :
    RoleSlots ((st.store num deviceID).setGatewayNum num) := by
  have hdoor : ¬IsDoor deviceID := not_isDoor_of_isGateway hgw
  refine h.write h0 store_id ?_ ?_ (fun _ => rfl) ?_ (fun _ => Or.inr hgw)
    (fun hne => absurd rfl hne)
  · show IsDoor deviceID ↔ num = (st.store num deviceID).globalDevice.doorNum
    rw [store_doorNum]
    exact ⟨fun hd => absurd hd hdoor, fun e => absurd e hslot⟩
  · intro i _ _
    show i = (st.store num deviceID).globalDevice.doorNum ↔ _
    rw [store_doorNum]
  · intro i hi hg
    cases hnum with
    | inl hnum => exact (h.gateway i hg).trans hnum.symm
    | inr hnone => exact absurd hg (hnone i)

/-- Deleting resets the door pointer with the door. -/
theorem RoleSlots.deleteDevice (h : RoleSlots st) (hwf : st.Wf) :
    RoleSlots (st.deleteDevice deviceID).2 := by
  by_cases hs : st.slotOf deviceID = 0
  · rw [Storage.deleteDevice_of_invalid hs]; exact h
  · have hid : st.globalDevice.id (st.slotOf deviceID) = deviceID := by
      rw [hwf.slotOf_eq] at hs ⊢
      exact SlotTable.id_find hs
    have hvalid :
        getDoorValid deviceID = RT_EOK ↔ st.slotOf deviceID = st.globalDevice.doorNum := by
      have hdoor := h.door (st.slotOf deviceID)
      rw [hid] at hdoor
      rw [← and_iff_right (b := st.slotOf deviceID = _) hs, ← hdoor]
      unfold getDoorValid IsDoor
      split <;> simp_all [RT_EOK, RT_ERROR]
    have hnot : ¬IsGateway 0 := not_isGateway_zero
    rw [hwf.deleteDevice_eq hs]
    dsimp only
    split
    · rename_i hd
      have hslot := hvalid.mp hd
      refine h.write hs store_id ?_ ?_ (fun hg => absurd hg hnot) ?_ (fun _ => Or.inl rfl)
        (fun _ => store_gatewayNum _ 0 st)
      · exact ⟨fun hz => absurd hz not_isDoor_zero, fun e => absurd e hs⟩
      · intro i hi hi0
        exact ⟨fun e => absurd e hi0, fun e => absurd (e.trans hslot.symm) hi⟩
      · intro i _ hi
        show i = (st.store _ 0).globalDevice.gatewayNum
        rw [store_gatewayNum]; exact h.gateway i hi
    · rename_i hd
      refine h.write hs store_id ?_ ?_ (fun hg => absurd hg hnot) ?_ (fun _ => Or.inl rfl)
        (fun _ => store_gatewayNum _ _ st)
      · rw [store_doorNum]
        exact ⟨fun hz => absurd hz not_isDoor_zero, fun e => absurd (hvalid.mpr e) hd⟩
      · intro i _ _; rw [store_doorNum]
      · intro i _ hi; rw [store_gatewayNum]; exact h.gateway i hi

/-- A learn frame keeps the roles unless it takes the slot the gateway left. -/
theorem RoleSlots.learned {buf : Message} (h : RoleSlots st) (hwf : st.Wf)
    (hl : Learned buf st st') (hok : ¬TakesGatewaySlot buf st) : RoleSlots st' := by
  have hfree : ∀ {num}, st.table.free maxSupport = some num →
      num ≠ 0 ∧ st.globalDevice.id num = 0 :=
    fun hf => ⟨(SlotTable.free_eq_some hf).1.ne', (SlotTable.free_eq_some hf).2.2.1⟩
  cases hl with
  | same => exact h
  | device hv hreq hdata hclass =>
      have hdoor : ¬IsDoor buf.fromID.toUInt32 := fun hd =>
        absurd hclass (Int32.not_lt.mpr ((isDoor_toUInt32 _).mp hd).1)
      have hgw : ¬IsGateway buf.fromID.toUInt32 := fun hg =>
        absurd hclass
          (Int32.not_lt.mpr (Int32.le_trans (by decide) ((isGateway_toUInt32 _).mp hg).1))
      cases hf : st.table.free maxSupport with
      | none => rw [Storage.addDevice_of_full hf]; exact h
      | some num =>
          rw [Storage.addDevice_of_free hf]
          refine h.store (hfree hf).1 (hfree hf).2 hdoor hgw fun e => hok ?_
          exact ⟨hreq, hdata, hv, Or.inl hclass, e ▸ (hfree hf).1, e ▸ hf⟩
  | door hv hreq hdata hclass =>
      have hdoor := (isDoor_toUInt32 buf.fromID).mpr hclass
      by_cases hd : st.getDoorID = 0
      · cases hf : st.table.free maxSupport with
        | none => rw [Storage.addDoorDevice_of_full hd hf]; exact h
        | some num =>
            rw [Storage.addDoorDevice_of_free hd hf]
            refine h.store_door (hfree hf).1 hdoor (Or.inr (h.no_door hwf hd)) fun e => hok ?_
            exact ⟨hreq, hdata, hv, Or.inr ⟨hclass, hd⟩, e ▸ (hfree hf).1, e ▸ hf⟩
      · have h0 : st.globalDevice.doorNum ≠ 0 := fun e => hd (by simp [Storage.getDoorID, e])
        rw [hwf.addDoorDevice_of_door hd]
        refine h.store_door h0 hdoor (Or.inl rfl) fun e => ?_
        have hold := (h.door _).mpr ⟨h0, rfl⟩
        rw [e] at hold
        cases h.gatewaySlot (e ▸ h0) with
        | inl hz => exact not_isDoor_zero (hz ▸ hold)
        | inr hg => exact not_isDoor_of_isGateway hg hold
  | gateway hv hreq hdata hclass =>
      have hgw := (isGateway_toUInt32 buf.fromID).mpr hclass
      by_cases hg : st.getGatewayID = 0
      · cases hf : st.table.free maxSupport with
        | none => rw [Storage.addGatewayDevice_of_full hg hf]; exact h
        | some num =>
            rw [Storage.addGatewayDevice_of_free hg hf]
            exact h.store_gateway (hfree hf).1 hgw (Or.inr (h.no_gateway hwf hg))
              (h.free_ne_doorNum (hfree hf).1 (hfree hf).2)
      · have h0 : st.globalDevice.gatewayNum ≠ 0 := fun e => hg (by simp [Storage.getGatewayID, e])
        rw [hwf.addGatewayDevice_of_gateway hg]
        refine h.store_gateway h0 hgw (Or.inl rfl) fun e => ?_
        have hold := (h.door _).mpr ⟨h0, e⟩
        rw [Storage.getGatewayID, if_neg h0] at hg
        exact not_isDoor_of_isGateway ((h.gatewaySlot h0).resolve_left hg) hold
  | confirm =>
      exact h.of_same ((onlyDevice_deviceAliveChange 1).same_of_slotOf hwf)

/-- An erased registry has no roles. -/
theorem roleSlots_eraseAll (st : Storage) : RoleSlots st.eraseAll where
  door := fun _ => ⟨fun hd => absurd hd not_isDoor_zero, fun e => absurd e.2 e.1⟩
  gateway := fun _ hg => absurd hg not_isGateway_zero
  gatewaySlot := fun h0 => absurd rfl h0

end

/-! ## what holds along every run -/

/-- Every id stored can be learned, and the door pointer names the door. -/
structure SlotClasses (st : Storage) : Prop where
  learnable : ∀ i, (st.globalDevice.id i).toInt32 < 50000000
  door : ∀ i, IsDoor (st.globalDevice.id i) → i = st.globalDevice.doorNum

section

variable {st st' : Storage} {deviceID : UInt32} {num : Nat}

/-- The classes depend on the ids and the door pointer only. -/
theorem SlotClasses.of_same (h : SlotClasses st) (hs : SameRegistry st st') : SlotClasses st' :=
  ⟨by rw [hs.id]; exact h.learnable, by rw [hs.id, hs.doorNum]; exact h.door⟩

/-- The door is the one `GetDoorID` names. -/
theorem SlotClasses.getDoorID (h : SlotClasses st) (hwf : st.Wf) {i : Nat}
    (hi : IsDoor (st.globalDevice.id i)) : st.getDoorID = st.globalDevice.id i := by
  have hslot := h.door i hi
  have h0 : st.globalDevice.doorNum ≠ 0 := by
    intro h0
    have hz : st.globalDevice.id 0 = 0 := hwf.table.zero
    rw [hslot, h0, hz] at hi
    exact not_isDoor_zero hi
  rw [Storage.getDoorID, if_neg h0, ← hslot]

/-- One slot is written: what is in it and what is left must fit. -/
private theorem SlotClasses.write (h : SlotClasses st)
    (hid : st'.globalDevice.id = Function.update st.globalDevice.id num deviceID)
    (hlearn : deviceID.toInt32 < 50000000)
    (hdoor : IsDoor deviceID → num = st'.globalDevice.doorNum)
    (hdoors : ∀ i, i ≠ num → IsDoor (st.globalDevice.id i) → i = st'.globalDevice.doorNum) :
    SlotClasses st' := by
  refine ⟨fun i => ?_, fun i => ?_⟩ <;> rw [hid] <;> by_cases hi : i = num
  · rw [hi, Function.update_self]; exact hlearn
  · rw [Function.update_of_ne hi]; exact h.learnable i
  · rw [hi, Function.update_self]; exact hdoor
  · rw [Function.update_of_ne hi]; exact hdoors i hi

/-- Writing an id that is no door. -/
private theorem SlotClasses.store (h : SlotClasses st) (hlearn : deviceID.toInt32 < 50000000)
    (hdoor : ¬IsDoor deviceID) : SlotClasses (st.store num deviceID) := by
  refine h.write store_id hlearn (fun hd => absurd hd hdoor) fun i _ hi => ?_
  rw [store_doorNum]
  exact h.door i hi

/-- A door is written where the only door was. -/
private theorem SlotClasses.store_door (h : SlotClasses st) (hlearn : deviceID.toInt32 < 50000000)
    (hnum : ∀ i, IsDoor (st.globalDevice.id i) → i = num) :
    SlotClasses ((st.store num deviceID).setDoorNum num) :=
  h.write store_id hlearn (fun _ => rfl) fun i _ hi => hnum i hi

/-- Learning keeps the classes. -/
theorem SlotClasses.learned {buf : Message} (h : SlotClasses st) (hwf : st.Wf)
    (hl : Learned buf st st') : SlotClasses st' := by
  have hid : buf.fromID.toUInt32.toInt32 = buf.fromID := Int32.toInt32_toUInt32 _
  cases hl with
  | same => exact h
  | device hv hreq hdata hclass =>
      have hdoor : ¬IsDoor buf.fromID.toUInt32 := fun hd =>
        absurd hclass (Int32.not_lt.mpr ((isDoor_toUInt32 _).mp hd).1)
      have hlearn : buf.fromID.toUInt32.toInt32 < 50000000 :=
        hid.symm ▸ Int32.lt_trans hclass (by decide)
      cases hf : st.table.free maxSupport with
      | none => rw [Storage.addDevice_of_full hf]; exact h
      | some num => rw [Storage.addDevice_of_free hf]; exact h.store hlearn hdoor
  | door hv hreq hdata hclass =>
      have hlearn : buf.fromID.toUInt32.toInt32 < 50000000 :=
        hid.symm ▸ Int32.lt_trans hclass.2 (by decide)
      by_cases hd : st.getDoorID = 0
      · have hnone : ∀ i, ¬IsDoor (st.globalDevice.id i) := fun i hi =>
          not_isDoor_zero (hd ▸ (h.getDoorID hwf hi).symm ▸ hi)
        cases hf : st.table.free maxSupport with
        | none => rw [Storage.addDoorDevice_of_full hd hf]; exact h
        | some num =>
            rw [Storage.addDoorDevice_of_free hd hf]
            exact h.store_door hlearn fun i hi => absurd hi (hnone i)
      · rw [hwf.addDoorDevice_of_door hd]
        exact h.store_door hlearn h.door
  | gateway hv hreq hdata hclass =>
      have hlearn : buf.fromID.toUInt32.toInt32 < 50000000 := hid.symm ▸ hclass.2
      have hdoor : ¬IsDoor buf.fromID.toUInt32 :=
        not_isDoor_of_isGateway ((isGateway_toUInt32 _).mpr hclass)
      have hset : ∀ num, SlotClasses ((st.store num buf.fromID.toUInt32).setGatewayNum num) :=
        fun num => ⟨(h.store hlearn hdoor).learnable, (h.store hlearn hdoor).door⟩
      by_cases hg : st.getGatewayID = 0
      · cases hf : st.table.free maxSupport with
        | none => rw [Storage.addGatewayDevice_of_full hg hf]; exact h
        | some num => rw [Storage.addGatewayDevice_of_free hg hf]; exact hset num
      · rw [hwf.addGatewayDevice_of_gateway hg]
        exact hset _
  | confirm => exact h.of_same ((onlyDevice_deviceAliveChange 1).same_of_slotOf hwf)

/-- So does deleting. -/
theorem SlotClasses.deleteDevice (h : SlotClasses st) (hwf : st.Wf) :
    SlotClasses (st.deleteDevice deviceID).2 := by
  by_cases hs : st.slotOf deviceID = 0
  · rw [Storage.deleteDevice_of_invalid hs]; exact h
  · have hid : st.globalDevice.id (st.slotOf deviceID) = deviceID := by
      rw [hwf.slotOf_eq] at hs ⊢
      exact SlotTable.id_find hs
    have hlearn : (0 : UInt32).toInt32 < 50000000 := by decide
    rw [hwf.deleteDevice_eq hs]
    dsimp only
    split
    · rename_i hvalid
      have hdoor : IsDoor (st.globalDevice.id (st.slotOf deviceID)) := by
        rw [hid]
        unfold getDoorValid at hvalid
        split at hvalid
        · assumption
        · exact absurd hvalid (by decide)
      refine h.write store_id hlearn (fun hz => absurd hz not_isDoor_zero) fun i hi hdi => ?_
      exact absurd ((h.door i hdi).trans (h.door _ hdoor).symm) hi
    · exact h.store hlearn not_isDoor_zero

/-- An erased registry has no classes. -/
theorem slotClasses_eraseAll (st : Storage) : SlotClasses st.eraseAll :=
  ⟨fun _ => (by decide : (0 : UInt32).toInt32 < 50000000), fun _ hd => absurd hd not_isDoor_zero⟩

end

/-- Along every run a door is where `DoorNum` points. -/
theorem registryMachine_slotClasses {ok : State → RegistryAction → Prop} {s : State}
    (h : registryMachine.ReachableVia ok s) : SlotClasses s.toStorage := by
  have hinv : s.Wf ∧ SlotClasses s.toStorage := by
    refine h.invariant (I := fun s => s.Wf ∧ SlotClasses s.toStorage) (fun s hs => ?_)
      fun s a s' ⟨hwf, hslots⟩ _ hs => ⟨hwf.registryStep hs, ?_⟩
    · exact ⟨wf_of_erased hs, erased_eq hs ▸ slotClasses_eraseAll _⟩
    · obtain ⟨buf, rfl, rfl⟩ | ⟨deviceID, -, hst⟩ | ⟨-, hst⟩ | hsame := registryStep_same hwf hs
      · exact hslots.learned hwf (learned_deviceLearn buf s)
      · rw [hst]; exact hslots.deleteDevice hwf
      · rw [hst]; exact slotClasses_eraseAll _
      · exact hslots.of_same hsame
  exact hinv.2

section

variable {st st' : Storage} {deviceID : UInt32} {num : Nat}

/-- A gateway is in the slot `GatewayNum` names. -/
def GatewaySlot (st : Storage) : Prop :=
  ∀ i, IsGateway (st.globalDevice.id i) → i = st.globalDevice.gatewayNum

/-- The place of the gateway depends on the ids and its pointer only. -/
theorem GatewaySlot.of_same (h : GatewaySlot st) (hs : SameRegistry st st') : GatewaySlot st' := by
  unfold GatewaySlot
  rw [hs.id, hs.gatewayNum]
  exact h

/-- Writing an id that is no gateway. -/
private theorem GatewaySlot.store (h : GatewaySlot st)
    (hid : ¬IsGateway deviceID) : GatewaySlot (st.store num deviceID) := by
  intro i hi
  rw [Storage.store_globalDevice] at hi ⊢
  by_cases hin : i = num
  · simp only [hin, Function.update_self] at hi
    exact absurd hi hid
  · simp only [Function.update_of_ne hin] at hi
    exact h i hi

/-- Learning keeps the gateway where its pointer is. -/
theorem GatewaySlot.learned {buf : Message} (h : GatewaySlot st) (hwf : st.Wf)
    (hl : Learned buf st st') : GatewaySlot st' := by
  cases hl with
  | same => exact h
  | device hv hreq hdata hclass =>
      have hnot : ¬IsGateway buf.fromID.toUInt32 := fun hg =>
        absurd hclass (Int32.not_lt.mpr
          (Int32.le_trans (by decide) ((isGateway_toUInt32 _).mp hg).1))
      cases hf : st.table.free maxSupport with
      | none => rw [Storage.addDevice_of_full hf]; exact h
      | some num => rw [Storage.addDevice_of_free hf]; exact h.store hnot
  | door hv hreq hdata hclass =>
      have hnot : ¬IsGateway buf.fromID.toUInt32 := fun hg =>
        absurd hclass.2 (Int32.not_lt.mpr ((isGateway_toUInt32 _).mp hg).1)
      by_cases hd : st.getDoorID = 0
      · cases hf : st.table.free maxSupport with
        | none => rw [Storage.addDoorDevice_of_full hd hf]; exact h
        | some num => rw [Storage.addDoorDevice_of_free hd hf]; exact h.store hnot
      · rw [hwf.addDoorDevice_of_door hd]
        exact h.store hnot
  | gateway hv hreq hdata hclass =>
      -- the slot of the last gateway is free or written again
      have hset : ∀ num, (∀ i, i ≠ num → ¬IsGateway (st.globalDevice.id i)) →
          GatewaySlot ((st.store num buf.fromID.toUInt32).setGatewayNum num) := by
        intro num hothers i hi
        by_contra hin
        replace hin : i ≠ num := hin
        replace hi : IsGateway ((st.store num buf.fromID.toUInt32).globalDevice.id i) := hi
        rw [Storage.store_globalDevice] at hi
        simp only [Function.update_of_ne hin] at hi
        exact hothers i hin hi
      by_cases hg : st.getGatewayID = 0
      · have hnone : ∀ i, ¬IsGateway (st.globalDevice.id i) := by
          intro i hi
          have hslot := h i hi
          have h0 : i ≠ 0 := by
            rintro rfl
            exact not_isGateway_zero (hwf.table.zero ▸ hi)
          rw [Storage.getGatewayID, ← hslot, if_neg h0] at hg
          exact not_isGateway_zero (hg ▸ hi)
        cases hf : st.table.free maxSupport with
        | none => rw [Storage.addGatewayDevice_of_full hg hf]; exact h
        | some num => rw [Storage.addGatewayDevice_of_free hg hf]; exact hset num fun i _ => hnone i
      · rw [hwf.addGatewayDevice_of_gateway hg]
        exact hset _ fun i hin hi => hin (h i hi)
  | confirm => exact h.of_same ((onlyDevice_deviceAliveChange 1).same_of_slotOf hwf)

/-- So does deleting. -/
theorem GatewaySlot.deleteDevice (h : GatewaySlot st) (hwf : st.Wf) :
    GatewaySlot (st.deleteDevice deviceID).2 := by
  by_cases hs : st.slotOf deviceID = 0
  · rw [Storage.deleteDevice_of_invalid hs]
    exact h
  · rw [hwf.deleteDevice_eq hs]
    dsimp only
    split <;> exact h.store not_isGateway_zero

end

/-- Along every run a gateway is where `GatewayNum` points. -/
theorem registryMachine_gatewaySlot {ok : State → RegistryAction → Prop} {s : State}
    (h : registryMachine.ReachableVia ok s) : GatewaySlot s.toStorage := by
  have hinv : s.Wf ∧ GatewaySlot s.toStorage := by
    refine h.invariant (I := fun s => s.Wf ∧ GatewaySlot s.toStorage) (fun s hs => ?_)
      fun s a s' hI _ hs => ⟨hI.1.registryStep hs, ?_⟩
    · refine ⟨wf_of_erased hs, ?_⟩
      rw [erased_eq hs]
      exact fun i hi => absurd hi not_isGateway_zero
    · obtain ⟨hwf, hslot⟩ := hI
      obtain ⟨buf, rfl, rfl⟩ | ⟨deviceID, -, hst⟩ | ⟨-, hst⟩ | hsame := registryStep_same hwf hs
      · exact hslot.learned hwf (learned_deviceLearn buf s)
      · rw [hst]
        exact hslot.deleteDevice hwf
      · rw [hst]
        exact fun i hi => absurd hi not_isGateway_zero
      · exact hslot.of_same hsame
  exact hinv.2

/-! ## the runs on which the roles agree -/

/-- Condition on a step: no device is learned into the slot the gateway
left. -/
def KeepsGatewaySlot (s : State) (a : RegistryAction) : Prop :=
  ∀ buf, a = .learn buf → ¬TakesGatewaySlot buf s.toStorage

/-- Along the runs of this section both roles are what the table says. -/
theorem registryMachine_roleSlots {s : State}
    (h : registryMachine.ReachableVia KeepsGatewaySlot s) :
    RoleSlots s.toStorage := by
  have hinv : s.Wf ∧ RoleSlots s.toStorage := by
    refine h.invariant (I := fun s => s.Wf ∧ RoleSlots s.toStorage) (fun s hs => ?_)
      fun s a s' ⟨hwf, hroles⟩ hok hs => ⟨hwf.registryStep hs, ?_⟩
    · exact ⟨wf_of_erased hs, erased_eq hs ▸ roleSlots_eraseAll _⟩
    · obtain ⟨buf, rfl, rfl⟩ | ⟨deviceID, -, hst⟩ | ⟨-, hst⟩ | hsame := registryStep_same hwf hs
      · exact hroles.learned hwf (learned_deviceLearn buf s) (hok buf rfl)
      · rw [hst]; exact hroles.deleteDevice hwf
      · rw [hst]; exact roleSlots_eraseAll _
      · exact hroles.of_same hsame
  exact hinv.2

/-- **The role pointers agree with the registry** along the runs in which no
device is learned into the slot the gateway left. -/
theorem roles_agree {s : State} (h : registryMachine.ReachableVia KeepsGatewaySlot s) :
    RolesAgree s.toStorage :=
  (registryMachine_roleSlots h).rolesAgree (registryMachine_wf h)

/-- A gateway is learned and deleted, then the device with this id is
learned. -/
def learnedAfterGateway (fromID : Int32) : State :=
  deviceLearn (learnFrame fromID)
    ((deviceLearn (learnFrame 40000001) (State.reset .default)).withStorage
      (·.deleteDevice 40000001))

/-- Learned again, the gateway gets its slot back. -/
theorem roles_agree_relearned : RolesAgree (learnedAfterGateway 40000001).toStorage := by
  have hlearn : ∀ s, KeepsGatewaySlot s (.learn (learnFrame 40000001)) := by
    intro s buf hbuf
    cases hbuf
    rintro ⟨-, -, -, hclass, -⟩
    obtain hslave | ⟨⟨-, hdoor⟩, -⟩ := hclass
    · exact absurd hslave (by decide)
    · exact absurd hdoor (by decide)
  have h0 : registryMachine.ReachableVia KeepsGatewaySlot (State.reset .default) := .init ⟨rfl, rfl⟩
  have h1 := h0.step (a := .learn (learnFrame 40000001)) (hlearn _) rfl
  have h2 := h1.step (a := .deleteDevice 40000001) nofun rfl
  have h3 := h2.step (a := .learn (learnFrame 40000001)) (hlearn _) rfl
  exact roles_agree h3

/-- A slave that is learned next gets the slot, and the gateway pointer names
it. -/
theorem not_roles_agree : ¬∀ s, registryMachine.Reachable s → RolesAgree s.toStorage := by
  intro hall
  have h0 : registryMachine.Reachable (State.reset .default) := .init ⟨rfl, rfl⟩
  have h1 := h0.step (a := .learn (learnFrame 40000001)) rfl
  have h2 := h1.step (a := .deleteDevice 40000001) rfl
  have h3 := h2.step (a := .learn (learnFrame 10000001)) rfl
  have hid : (learnedAfterGateway 10000001).getGatewayID = 10000001 := by decide
  have hagree : RolesAgree (learnedAfterGateway 10000001).toStorage := hall _ h3
  cases hagree.gateway with
  | inl hz => rw [hid] at hz; exact absurd hz (by decide)
  | inr hg => rw [hid] at hg; exact absurd hg.1 (by decide)

end WaterValve
