import WaterValve.LearnSlot
import WaterValve.SystemRegistry

/-!
# WaterValve.LoadBounds

`LoadDevice2Memory` takes three numbers from flash as they are: `Learn_Nums`
bounds a loop whose counter is a `uint8_t`, and the two role indices are read
through later.  The arrays of `Device_Info` have 20 elements.

* `loadDevice2Memory_isSome_iff`: the loop ends exactly when `Learn_Nums < 255`;
* `loadWrites_lt_iff`: it stays in the arrays exactly when `Learn_Nums < 20`;
* `load_inRange_iff`: everything is in range exactly when the three numbers are;
* `loadInRange_reachable`: they are, in what the firmware itself stores.
-/

namespace WaterValve

open Loop

/-- The length of the arrays of `Device_Info`. -/
def deviceSlots : Nat := 20

/-! ## what loading writes -/

/-- The index of each array element that one round of the loading loop assigns:
`ID[i]`, and for a stored device `Bat[i]`, `Rssi[i]`, `Alive[i]`,
`SlaveAlarm[i]`. -/
def loadSlotWrites (env : Env) (i : Nat) : List Nat :=
  if flashGetKeyValue (UInt32.ofNat i) env ≠ 0 then [i, i, i, i, i] else [i]

/-- The indices assigned in the first `fuel` rounds. -/
def loadWrites (env : Env) (fuel : Nat) : List Nat :=
  (roundsU8 (flashGetLearnNums env).toNat fuel 1).flatMap (loadSlotWrites env)

/-- A round assigns its own index and no other. -/
theorem mem_loadSlotWrites {env : Env} {i j : Nat} : j ∈ loadSlotWrites env i ↔ j = i := by
  unfold loadSlotWrites
  split <;> simp

theorem mem_loadWrites {env : Env} {fuel j : Nat} :
    j ∈ loadWrites env fuel ↔ j ∈ roundsU8 (flashGetLearnNums env).toNat fuel 1 := by
  simp [loadWrites, mem_loadSlotWrites]

/-- The array elements at index `j`. -/
def DeviceInfo.elements (d : DeviceInfo) (j : Nat) :
    UInt8 × UInt8 × UInt8 × UInt32 × UInt32 × UInt32 × UInt32 :=
  (d.bat j, d.rssi j, d.slaveAlarm j, d.idTime j, d.alive j, d.getMesssage j, d.id j)

theorem elements_loadSlot {env : Env} {i j : Nat} (d : DeviceInfo)
    (h : j ∉ loadSlotWrites env i) : (Storage.loadSlot env i d).elements j = d.elements j := by
  have hne : j ≠ i := mt mem_loadSlotWrites.mpr h
  unfold Storage.loadSlot
  dsimp only
  split <;> simp [DeviceInfo.elements, hne]

/-- Any loop of the loading rounds leaves alone what its rounds do not assign. -/
theorem elements_forU8 {env : Env} {bound fuel j : Nat} {i : UInt8} {d d' : DeviceInfo}
    (h : forU8 bound (Storage.loadSlot env) fuel i d = some d')
    (hj : j ∉ roundsU8 bound fuel i) : d'.elements j = d.elements j := by
  induction fuel generalizing i d with
  | zero => cases h
  | succ fuel ih =>
      by_cases hi : i.toNat ≤ bound
      · simp only [forU8, roundsU8, hi, if_true, List.mem_cons, not_or] at h hj
        rw [ih h hj.2, elements_loadSlot d (mt mem_loadSlotWrites.mp hj.1)]
      · simp only [forU8, hi, if_false, Option.some.injEq] at h
        rw [h]

variable {st st' : Storage}

/-- **Nothing else is written**: what no round assigns is zero after loading. -/
theorem elements_loadDevice2Memory {j : Nat} (h : st.loadDevice2Memory = some st')
    (hj : j ∉ loadWrites st.env 256) :
    st'.globalDevice.elements j = DeviceInfo.zero.elements j := by
  unfold Storage.loadDevice2Memory at h
  obtain ⟨d, hd, rfl⟩ := Option.map_eq_some_iff.mp h
  have helements := elements_forU8 hd (mt mem_loadWrites.mpr hj)
  exact helements

/-! ## when loading ends and stays in the arrays -/

theorem loadDevice2Memory_isSome_iff (st : Storage) :
    st.loadDevice2Memory.isSome ↔ (flashGetLearnNums st.env).toNat < 255 := by
  rw [Storage.loadDevice2Memory, Option.isSome_map, forUpTo_isSome_iff]

theorem loadWrites_lt_iff (env : Env) :
    (∀ fuel, ∀ i ∈ loadWrites env fuel, i < deviceSlots) ↔
      (flashGetLearnNums env).toNat < deviceSlots := by
  simp only [mem_loadWrites]
  constructor
  · intro hall
    by_contra hnum
    -- the round after the last element
    have hmem : deviceSlots ∈ roundsU8 (flashGetLearnNums env).toNat deviceSlots 1 :=
      mem_roundsU8 (by decide) (Nat.le_of_not_lt hnum) (by decide) (by decide)
    exact absurd (hall deviceSlots deviceSlots hmem) (Nat.lt_irrefl _)
  · intro hnum fuel i hi
    exact Nat.lt_of_le_of_lt (le_of_mem_roundsU8 hi) hnum

/-- The three numbers end up as they are stored. -/
theorem numbers_loadDevice2Memory (h : st.loadDevice2Memory = some st') :
    st'.globalDevice.num = (flashGetLearnNums st.env).toNat ∧
      st'.globalDevice.doorNum = (flashGetDoorNums st.env).toNat ∧
      st'.globalDevice.gatewayNum = (flashGetGatewayNums st.env).toNat := by
  unfold Storage.loadDevice2Memory at h
  obtain ⟨d, hd, rfl⟩ := Option.map_eq_some_iff.mp h
  refine ⟨?_, rfl, rfl⟩
  have hkeep : ∀ i (d : DeviceInfo), (Storage.loadSlot st.env i d).num = d.num := by
    intro i d
    unfold Storage.loadSlot
    dsimp only
    split <;> rfl
  exact of_forUpTo (P := fun _ d => d.num = (flashGetLearnNums st.env).toNat) hd rfl
    fun i d _ _ hd => (hkeep i d).trans hd

/-! ## the lookups that follow -/

/-- The indices that later lookups read: the role of the door, the role of the
gateway, and a search from `Num` downwards. -/
def Storage.lookups (st : Storage) : List Nat :=
  (if st.globalDevice.doorNum = 0 then [] else [st.globalDevice.doorNum]) ++
    (if st.globalDevice.gatewayNum = 0 then [] else [st.globalDevice.gatewayNum]) ++
    List.range' 1 st.searchStart

theorem lookups_lt (hnum : st.globalDevice.num < deviceSlots)
    (hdoor : st.globalDevice.doorNum < deviceSlots)
    (hgateway : st.globalDevice.gatewayNum < deviceSlots) : ∀ i ∈ st.lookups, i < deviceSlots := by
  intro i hi
  have hstart : st.searchStart ≤ st.globalDevice.num := Nat.mod_le ..
  simp only [Storage.lookups, List.mem_append, List.mem_range'_1] at hi
  obtain (hi | hi) | hi := hi
  · split at hi
    · simp at hi
    · exact List.mem_singleton.mp hi ▸ hdoor
  · split at hi
    · simp at hi
    · exact List.mem_singleton.mp hi ▸ hgateway
  · omega

/-- Loading ends, writes only elements the arrays have, and leaves `Num` and
the two roles so that no lookup reads another. -/
structure LoadInRange (st : Storage) : Prop where
  terminates : st.loadDevice2Memory.isSome
  writes : ∀ fuel, ∀ i ∈ loadWrites st.env fuel, i < deviceSlots
  numbers : ∀ st', st.loadDevice2Memory = some st' →
    st'.globalDevice.num < deviceSlots ∧ st'.globalDevice.doorNum < deviceSlots ∧
      st'.globalDevice.gatewayNum < deviceSlots
  lookups : ∀ st', st.loadDevice2Memory = some st' → ∀ i ∈ st'.lookups, i < deviceSlots

/-- The numbers that flash holds fit the arrays. -/
def NumbersFit (env : Env) : Prop :=
  (flashGetLearnNums env).toNat < deviceSlots ∧ (flashGetDoorNums env).toNat < deviceSlots ∧
    (flashGetGatewayNums env).toNat < deviceSlots

theorem NumbersFit.loadInRange (h : NumbersFit st.env) : LoadInRange st := by
  obtain ⟨hnum, hdoor, hgateway⟩ := h
  have hnumbers : ∀ st', st.loadDevice2Memory = some st' →
      st'.globalDevice.num < deviceSlots ∧ st'.globalDevice.doorNum < deviceSlots ∧
        st'.globalDevice.gatewayNum < deviceSlots := by
    intro st' hst'
    obtain ⟨hn, hd, hg⟩ := numbers_loadDevice2Memory hst'
    rw [hn, hd, hg]
    exact ⟨hnum, hdoor, hgateway⟩
  exact {
    terminates := (loadDevice2Memory_isSome_iff st).mpr (Nat.lt_trans hnum (by decide))
    writes := (loadWrites_lt_iff st.env).mpr hnum
    numbers := hnumbers
    lookups := fun st' hst' => by
      obtain ⟨hn, hd, hg⟩ := hnumbers st' hst'
      exact lookups_lt hn hd hg }

/-- **When loading is in range**: the three stored numbers are. -/
theorem load_inRange_iff (st : Storage) : LoadInRange st ↔ NumbersFit st.env := by
  refine ⟨fun h => ?_, NumbersFit.loadInRange⟩
  obtain ⟨st', hst'⟩ := Option.isSome_iff_exists.mp h.terminates
  obtain ⟨hn, hd, hg⟩ := numbers_loadDevice2Memory hst'
  have hnumbers := h.numbers st' hst'
  rw [hn, hd, hg] at hnumbers
  exact hnumbers

/-- Flash that says 20 devices. -/
theorem not_load_inRange : ¬∀ st : Storage, LoadInRange st := by
  intro hall
  let env := efSetEnv FlashKey.learnNums.name (CText.ascii "20") .default
  have hstored : ¬(flashGetLearnNums env).toNat < deviceSlots := by decide +kernel
  exact hstored ((loadWrites_lt_iff env).mp (hall ⟨.zero, env⟩).writes)

/-- What the firmware stores is in range. -/
theorem Storage.Wf.loadInRange (h : st.Wf) : LoadInRange st := by
  have h12 := h.num_le
  have hfit : ∀ {n}, n ≤ st.globalDevice.num → (UInt32.ofNat n).toNat < deviceSlots := by
    intro n hn
    rw [UInt32.toNat_ofNat_of_lt' (by simp only [UInt32.size]; omega), deviceSlots]
    omega
  apply NumbersFit.loadInRange
  rw [NumbersFit, flashGetLearnNums, h.flash_learnNums, flashGetDoorNums, h.flash_doorNum,
    flashGetGatewayNums, h.flash_gatewayNum]
  exact ⟨hfit le_rfl, hfit h.doorNum_le, hfit h.gatewayNum_le⟩

/-- In every state reached from an erased flash the next start loads in range. -/
theorem loadInRange_reachable {rom : UInt32} {s : State} (h : (valveMachine rom).Reachable s) :
    LoadInRange s.toStorage :=
  (valveMachine_wf h).loadInRange

end WaterValve
