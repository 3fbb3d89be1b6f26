import WaterValve.Reload
import WaterValve.Roles

/-!
# WaterValve.PowerLoss

Registration and deletion interrupted by a loss of power.  A call writes up to
three keys one after the other: `Learn_Nums`, the slot, and the role pointer.
`RegistryCall.writes` lists them in the order of the source, and
`env_write_writes` says that the whole list is what the call leaves in flash.

Every prefix of the list reloads to an intact registry with the table of before
or after the call (`power_loss`).  The writes of a call are not one
transaction: a door or gateway that is registered anew is in the table before
the role pointer names it.  And a deletion may leave a role pointer at the slot
it frees (`FreesPointer`), where the next device that is learned takes the role
over.  `not_power_loss` has a run for each.
-/

namespace WaterValve

variable {st st' : Storage} {deviceID : UInt32} {num : Nat}

/-! ## the writes of a call -/

/-- One `ef_set_env`. -/
structure EnvWrite where
  key : FlashKey
  value : List UInt8
  deriving DecidableEq

/-- The environment after some writes, in order. -/
def Env.write (env : Env) (ws : List EnvWrite) : Env :=
  ws.foldl (fun env w => efSetEnv w.key.name w.value env) env

theorem Env.write_append (env : Env) (ws ws' : List EnvWrite) :
    env.write (ws ++ ws') = (env.write ws).write ws' :=
  List.foldl_append

/-- The registry when power is lost after some writes; RAM is about to go. -/
def Storage.cutAfter (ws : List EnvWrite) (st : Storage) : Storage :=
  { st with env := st.env.write ws }

/-- The write of `Flash_Key_Change`. -/
def keyWrite (key value : UInt32) : EnvWrite := ⟨.num key, printLd value⟩

/-- The write of `Get_LearnNums_Valid`, when the slot it finds is new. -/
def Storage.learnNumsWrites (st : Storage) : List EnvWrite :=
  match (List.range' 1 (maxSupport - 1)).find? fun num => st.globalDevice.id num = 0 with
  | some num =>
    if num > st.globalDevice.num then [⟨.learnNums, printLd (UInt32.ofNat num)⟩] else []
  | none => []

/-- The calls that change the registration. -/
inductive RegistryCall
  | addDevice (deviceID : UInt32)
  | addDoorDevice (deviceID : UInt32)
  | addGatewayDevice (deviceID : UInt32)
  | deleteDevice (deviceID : UInt32)

namespace RegistryCall

def run : RegistryCall → Storage → UInt8 × Storage
  | .addDevice deviceID, st => st.addDevice deviceID
  | .addDoorDevice deviceID, st => st.addDoorDevice deviceID
  | .addGatewayDevice deviceID, st => st.addGatewayDevice deviceID
  | .deleteDevice deviceID, st => st.deleteDevice deviceID

/-- The `ef_set_env` calls of a call, in order. -/
def writes : RegistryCall → Storage → List EnvWrite
  | .addDevice deviceID, st =>
    let num := st.getLearnNumsValid.1
    if num = 0 then st.learnNumsWrites
    else st.learnNumsWrites ++ [keyWrite (UInt32.ofNat num) deviceID]
  | .addDoorDevice deviceID, st =>
    if st.getDoorID ≠ 0 then
      let num := (flashGetDoorNums st.env).toNat
      [keyWrite (UInt32.ofNat num) deviceID, keyWrite 88888888 (UInt32.ofNat num)]
    else
      let num := st.getLearnNumsValid.1
      if num = 0 then st.learnNumsWrites
      else st.learnNumsWrites ++
        [keyWrite (UInt32.ofNat num) deviceID, keyWrite 88888888 (UInt32.ofNat num)]
  | .addGatewayDevice deviceID, st =>
    if st.getGatewayID ≠ 0 then
      let num := (flashGetGatewayNums st.env).toNat
      [keyWrite (UInt32.ofNat num) deviceID, keyWrite 88887777 (UInt32.ofNat num)]
    else
      let num := st.getLearnNumsValid.1
      if num = 0 then st.learnNumsWrites
      else st.learnNumsWrites ++
        [keyWrite (UInt32.ofNat num) deviceID, keyWrite 88887777 (UInt32.ofNat num)]
  | .deleteDevice deviceID, st =>
    let num := st.slotOf deviceID
    if num = 0 then []
    else if getDoorValid deviceID = RT_EOK then
      [keyWrite (UInt32.ofNat num) 0, keyWrite 88888888 0]
    else [keyWrite (UInt32.ofNat num) 0]

/-- What the callers check: a device is added when `Flash_Get_Key_Valid` does
not find it, as a door or a gateway by the class of its id. -/
def Allowed : RegistryCall → Storage → Prop
  | .addDevice deviceID, st => st.flashGetKeyValid deviceID ≠ RT_EOK
  | .addDoorDevice deviceID, st => st.flashGetKeyValid deviceID ≠ RT_EOK ∧ IsDoor deviceID
  | .addGatewayDevice deviceID, st => st.flashGetKeyValid deviceID ≠ RT_EOK ∧ IsGateway deviceID
  | .deleteDevice _, _ => True

/-- A door or gateway is registered where there was none. -/
def NewRole : RegistryCall → Storage → Prop
  | .addDoorDevice _, st => st.getDoorID = 0
  | .addGatewayDevice _, st => st.getGatewayID = 0
  | .addDevice _, _ | .deleteDevice _, _ => False

/-- A deletion that got as far as `ws` frees a slot that a role pointer goes on
naming: `GatewayNum` is never reset, and `DoorNum` only by the second write. -/
def FreesPointer : RegistryCall → List EnvWrite → Storage → Prop
  | .deleteDevice deviceID, ws, st =>
    st.slotOf deviceID ≠ 0 ∧
      (st.slotOf deviceID = st.globalDevice.gatewayNum ∧ ws ≠ [] ∨
        st.slotOf deviceID = st.globalDevice.doorNum ∧
          ws = [keyWrite (UInt32.ofNat (st.slotOf deviceID)) 0])
  | .addDevice _, _, _ | .addDoorDevice _, _, _ | .addGatewayDevice _, _, _ => False

end RegistryCall

theorem Storage.env_getLearnNumsValid (st : Storage) :
    st.getLearnNumsValid.2.env = st.env.write st.learnNumsWrites := by
  unfold getLearnNumsValid learnNumsWrites
  cases (List.range' 1 (maxSupport - 1)).find? fun num => st.globalDevice.id num = 0 with
  | none => rfl
  | some num => dsimp only; split <;> rfl

/-- **The writes of a call are all it does to flash.** -/
theorem env_write_writes (call : RegistryCall) (st : Storage) :
    st.env.write (call.writes st) = (call.run st).2.env := by
  have hlearn := st.env_getLearnNumsValid
  cases call with
  | addDevice deviceID =>
      simp only [RegistryCall.writes, RegistryCall.run, Storage.addDevice]
      split
      · exact hlearn.symm
      · rw [Env.write_append, ← hlearn]; rfl
  | addDoorDevice deviceID =>
      simp only [RegistryCall.writes, RegistryCall.run, Storage.addDoorDevice]
      split
      · rfl
      · split
        · exact hlearn.symm
        · rw [Env.write_append, ← hlearn]; rfl
  | addGatewayDevice deviceID =>
      simp only [RegistryCall.writes, RegistryCall.run, Storage.addGatewayDevice]
      split
      · rfl
      · split
        · exact hlearn.symm
        · rw [Env.write_append, ← hlearn]; rfl
  | deleteDevice deviceID =>
      simp only [RegistryCall.writes, RegistryCall.run, Storage.deleteDevice]
      repeat' split
      all_goals rfl

/-! ## slots that were never used -/

/-- Flash holds nothing under the slots above `Num`. -/
def SlotsBlank (st : Storage) : Prop :=
  ∀ i, st.globalDevice.num < i → i ≤ 12 → flashGet (.num (UInt32.ofNat i)) st.env = 0

theorem SlotsBlank.of_same (h : SlotsBlank st) (hs : SameRegistry st st') : SlotsBlank st' := by
  intro i hi h12
  rw [hs.flash_num]
  exact h i (hs.num ▸ hi) h12

theorem SlotsBlank.writesSlot (h : SlotsBlank st) (hw : WritesSlot num deviceID st st') :
    SlotsBlank st' := by
  intro i hi h12
  rw [hw.num] at hi
  rw [hw.flash_slot i h12 (by omega)]
  exact h i (by omega) h12

theorem slotsBlank_eraseAll (st : Storage) : SlotsBlank st.eraseAll :=
  fun _ _ _ => flashGet_default _

theorem registryMachine_slotsBlank {ok : State → RegistryAction → Prop} {s : State}
    (h : registryMachine.ReachableVia ok s) : SlotsBlank s.toStorage := by
  have hinv : s.Wf ∧ SlotsBlank s.toStorage := by
    refine h.invariant (I := fun s => s.Wf ∧ SlotsBlank s.toStorage) (fun s hs => ?_)
      fun s a s' hI _ hs => ?_
    · exact ⟨wf_of_erased hs, erased_eq hs ▸ slotsBlank_eraseAll _⟩
    · obtain ⟨hwf, hblank⟩ := hI
      refine ⟨hwf.registryStep hs, ?_⟩
      obtain ⟨buf, -, rfl⟩ | ⟨deviceID, -, hst⟩ | ⟨-, hst⟩ | hsame := registryStep_same hwf hs
      · obtain ⟨num, -, hw⟩ | heq | halive := hwf.learned_cases (learned_deviceLearn buf s)
        · exact hblank.writesSlot hw
        · rwa [heq]
        · rw [halive]
          exact hblank.of_same ((onlyDevice_deviceAliveChange 1).same_of_slotOf hwf)
      · rw [hst]
        by_cases hslot : s.slotOf deviceID = 0
        · rwa [Storage.deleteDevice_of_invalid hslot]
        · exact hblank.writesSlot (hwf.writesSlot_deleteDevice hslot)
      · rw [hst]
        exact slotsBlank_eraseAll _
      · exact hblank.of_same hsame
  exact hinv.2

/-- Raising `Num` alone leaves the new slot free. -/
theorem Storage.Wf.raiseNum (h : st.Wf) (hblank : SlotsBlank st)
    (hf : st.table.free maxSupport = some num) : (st.raiseNum num).Wf := by
  obtain ⟨hpos, hcap, hfree, -⟩ := SlotTable.free_eq_some hf
  have hid : st.globalDevice.id num = 0 := hfree
  have h12 : num ≤ 12 := Nat.le_of_lt_succ hcap
  have hzero : flashGet (.num (UInt32.ofNat num)) st.env = 0 := by
    by_cases hle : num ≤ st.globalDevice.num
    · exact (h.flash_id num hpos hle).trans hid
    · exact hblank num (by omega) h12
  have hkey : ∀ k : FlashKey, flashGet k (st.raiseNum num).env =
      if k = .num (UInt32.ofNat num) then 0 else flashGet k (st.raiseNum num).env := by
    intro k
    split
    · rename_i hk
      subst hk
      rw [← hzero]
      unfold Storage.raiseNum
      split
      · exact flashGet_put_of_ne (by simp) _
      · rfl
    · rfl
  have hram : (st.store num 0).globalDevice = (st.raiseNum num).globalDevice := by
    have hset : (st.raiseNum num).globalDevice.id = st.globalDevice.id := by
      unfold Storage.raiseNum
      split <;> rfl
    have hids : Function.update (st.raiseNum num).globalDevice.id num 0 =
        (st.raiseNum num).globalDevice.id := by
      rw [Function.update_eq_self_iff, hset, hid]
    exact congrArg (fun id => { (st.raiseNum num).globalDevice with id := id }) hids
  have hflash : ∀ k : FlashKey,
      flashGet k (st.raiseNum num).env = flashGet k (st.store num 0).env :=
    fun k => (hkey k).trans (Storage.flashGet_setID num 0 (st.raiseNum num) k).symm
  exact (h.store_free hf (Or.inl rfl)).of_same
    ⟨by rw [hram], by rw [hram], by rw [hram], by rw [hram], fun _ _ => by rw [hram],
      hflash _, fun _ => hflash _⟩

/-! ## pointers to free slots -/

/-- A pointer is 0 or names a slot in use. -/
def Storage.NamesUsed (pointer : Nat) (st : Storage) : Prop :=
  pointer ≠ 0 → st.globalDevice.id pointer ≠ 0

/-- Neither role pointer names a free slot. -/
structure PointersUsed (st : Storage) : Prop where
  door : st.NamesUsed st.globalDevice.doorNum
  gateway : st.NamesUsed st.globalDevice.gatewayNum

theorem SameRegistry.pointersUsed (hs : SameRegistry st st') :
    PointersUsed st' ↔ PointersUsed st := by
  have hnames : ∀ pointer, st'.NamesUsed pointer ↔ st.NamesUsed pointer := by
    intro pointer
    unfold Storage.NamesUsed
    rw [hs.id]
  constructor
  · rintro ⟨hdoor, hgateway⟩
    exact ⟨(hnames _).mp (hs.doorNum ▸ hdoor), (hnames _).mp (hs.gatewayNum ▸ hgateway)⟩
  · rintro ⟨hdoor, hgateway⟩
    exact ⟨hs.doorNum ▸ (hnames _).mpr hdoor, hs.gatewayNum ▸ (hnames _).mpr hgateway⟩

theorem pointersUsed_eraseAll (st : Storage) : PointersUsed st.eraseAll :=
  ⟨fun h => absurd rfl h, fun h => absurd rfl h⟩

/-- Writing a device, or anything into a free slot, frees no slot that is
named. -/
theorem Storage.NamesUsed.store {pointer : Nat} (h : st.NamesUsed pointer)
    (hdevice : deviceID ≠ 0 ∨ st.globalDevice.id num = 0) :
    (st.store num deviceID).NamesUsed pointer := by
  intro h0
  rw [store_id]
  by_cases hnum : pointer = num
  · rw [hnum, Function.update_self]
    exact hdevice.resolve_right fun hfree => h h0 (hnum ▸ hfree)
  · rw [Function.update_of_ne hnum]
    exact h h0

/-- Freeing a slot leaves the pointers to other slots. -/
theorem Storage.NamesUsed.store_zero_iff {pointer : Nat} (h : st.NamesUsed pointer)
    (hnum : num ≠ 0) : (st.store num 0).NamesUsed pointer ↔ num ≠ pointer := by
  unfold NamesUsed
  rw [store_id]
  constructor
  · rintro hused rfl
    exact hused hnum (Function.update_self ..)
  · intro hne h0
    rw [Function.update_of_ne (Ne.symm hne)]
    exact h h0

theorem PointersUsed.store (h : PointersUsed st)
    (hdevice : deviceID ≠ 0 ∨ st.globalDevice.id num = 0) :
    PointersUsed (st.store num deviceID) where
  door := by rw [store_doorNum]; exact h.door.store hdevice
  gateway := by rw [store_gatewayNum]; exact h.gateway.store hdevice

/-- A door that is stored is in use. -/
theorem PointersUsed.store_door (h : PointersUsed st) (hid : deviceID ≠ 0) :
    PointersUsed ((st.store num deviceID).setDoorNum num) := by
  refine ⟨fun _ => ?_, (h.store (.inl hid)).gateway⟩
  show (st.store num deviceID).globalDevice.id num ≠ 0
  rwa [store_id, Function.update_self]

theorem PointersUsed.store_gateway (h : PointersUsed st) (hid : deviceID ≠ 0) :
    PointersUsed ((st.store num deviceID).setGatewayNum num) := by
  refine ⟨(h.store (.inl hid)).door, fun _ => ?_⟩
  show (st.store num deviceID).globalDevice.id num ≠ 0
  rwa [store_id, Function.update_self]

/-- The first write of a deletion. -/
theorem PointersUsed.store_zero_iff (h : PointersUsed st) (hnum : num ≠ 0) :
    PointersUsed (st.store num 0) ↔
      num ≠ st.globalDevice.gatewayNum ∧ num ≠ st.globalDevice.doorNum := by
  rw [← h.gateway.store_zero_iff hnum, ← h.door.store_zero_iff hnum]
  constructor
  · rintro ⟨hdoor, hgateway⟩
    rw [store_doorNum] at hdoor
    rw [store_gatewayNum] at hgateway
    exact ⟨hgateway, hdoor⟩
  · rintro ⟨hgateway, hdoor⟩
    exact ⟨by rwa [store_doorNum], by rwa [store_gatewayNum]⟩

/-- The second write resets `DoorNum`. -/
theorem PointersUsed.reset_door_iff (h : PointersUsed st) (hnum : num ≠ 0) :
    PointersUsed ((st.store num 0).setDoorNum 0) ↔ num ≠ st.globalDevice.gatewayNum := by
  rw [← h.gateway.store_zero_iff hnum, ← store_gatewayNum num 0 st]
  exact ⟨fun hused => hused.gateway, fun hgateway => ⟨fun h0 => absurd rfl h0, hgateway⟩⟩

/-- What a deletion leaves of the pointers. -/
theorem PointersUsed.deleteDevice_iff (h : PointersUsed st) (hwf : st.Wf) :
    PointersUsed (st.deleteDevice deviceID).2 ↔
      ¬(RegistryCall.deleteDevice deviceID).FreesPointer
        ((RegistryCall.deleteDevice deviceID).writes st) st := by
  by_cases hs : st.slotOf deviceID = 0
  · rw [Storage.deleteDevice_of_invalid hs]
    exact iff_of_true h fun hfrees => hfrees.1 hs
  · rw [hwf.deleteDevice_eq hs]
    unfold RegistryCall.FreesPointer RegistryCall.writes
    dsimp only
    rw [if_neg hs]
    split
    · rw [h.reset_door_iff hs]
      simp [hs]
    · rw [h.store_zero_iff hs]
      simp [hs, not_or]

/-! ## the outcome of a cut -/

/-- What a reload is compared on: the table and the roles. -/
structure Contents where
  id : Nat → UInt32
  doorID : UInt32
  gatewayID : UInt32

def Storage.contents (st : Storage) : Contents where
  id := st.globalDevice.id
  doorID := st.getDoorID
  gatewayID := st.getGatewayID

theorem SameRegistry.contents (h : SameRegistry st st') : st'.contents = st.contents := by
  simp [Storage.contents, Storage.getDoorID, Storage.getGatewayID, h.id, h.doorNum, h.gatewayNum]

/-- The contents after some of the writes of a call: those before it, those
after it, or, for a door or gateway that is registered anew, the table after it
with a role that still reads as before. -/
inductive CutOutcome (call : RegistryCall) (st : Storage) : Contents → Prop
  | before : CutOutcome call st st.contents
  | after : CutOutcome call st (call.run st).2.contents
  | unassigned {c : Contents} (hrole : call.NewRole st) (hid : c.id = (call.run st).2.contents.id)
      (hdoor : c.doorID = st.getDoorID ∨ c.doorID = (call.run st).2.getDoorID)
      (hgateway : c.gatewayID = st.getGatewayID ∨ c.gatewayID = (call.run st).2.getGatewayID) :
      CutOutcome call st c

/-- Of a sound pair of pointers the registry `u` keeps what the writes `ws` of
the call leave. -/
def KeepsPointersIn (call : RegistryCall) (ws : List EnvWrite) (st u : Storage) : Prop :=
  PointersUsed st → (PointersUsed u ↔ ¬call.FreesPointer ws st)

/-- An intact registry with the flash of `st` after the writes `ws` of a call,
and the contents `c`. -/
def CutTo (call : RegistryCall) (st : Storage) (ws : List EnvWrite) (c : Contents) : Prop :=
  ∃ u : Storage, u.Wf ∧ u.env = st.env.write ws ∧ u.contents = c ∧ KeepsPointersIn call ws st u

variable {call : RegistryCall}

/-- A call that adds a device frees no slot. -/
theorem KeepsPointersIn.of_add {ws : List EnvWrite} (hadd : ∀ ws, ¬call.FreesPointer ws st)
    (hused : PointersUsed st → PointersUsed st') : KeepsPointersIn call ws st st' :=
  fun h => iff_of_true (hused h) (hadd ws)

theorem Storage.Wf.cutTo_nil (h : st.Wf) : CutTo call st [] st.contents := by
  have hnil : ¬call.FreesPointer [] st := by
    intro hfrees
    cases call with
    | addDevice | addDoorDevice | addGatewayDevice => exact hfrees
    | deleteDevice deviceID =>
        obtain ⟨-, ⟨-, hne⟩ | ⟨-, hcons⟩⟩ := hfrees
        · exact hne rfl
        · cases hcons
  exact ⟨st, h, rfl, rfl, fun hused => iff_of_true hused hnil⟩

/-- The writes of a call as a whole. -/
theorem cutTo_writes (h : (call.run st).2.Wf)
    (hused : KeepsPointersIn call (call.writes st) st (call.run st).2) :
    CutTo call st (call.writes st) (call.run st).2.contents :=
  ⟨_, h, (env_write_writes call st).symm, rfl, hused⟩

/-- The slot a registration takes is raised to before it is written. -/
theorem Storage.Wf.cutTo_learnNumsWrites (h : st.Wf) (hblank : SlotsBlank st)
    (hadd : ∀ ws, ¬call.FreesPointer ws st) {ws : List EnvWrite}
    (hws : ws <+: st.learnNumsWrites) : CutTo call st ws st.contents := by
  have hnil : ws = [] → CutTo call st ws st.contents := fun e => e ▸ h.cutTo_nil
  cases hf : st.table.free maxSupport with
  | none =>
      have hfind : (List.range' 1 (maxSupport - 1)).find? (fun i => st.globalDevice.id i = 0) =
          none := hf
      rw [Storage.learnNumsWrites, hfind] at hws
      exact hnil (List.prefix_nil.mp hws)
  | some num =>
      have hall : st.env.write st.learnNumsWrites = (st.raiseNum num).env := by
        rw [← st.env_getLearnNumsValid, Storage.getLearnNumsValid_of_free hf]
      have hsame : (st.raiseNum num).contents = st.contents := by
        unfold Storage.raiseNum
        split <;> rfl
      have hcases : ws = [] ∨ ws = st.learnNumsWrites := by
        have hfind : (List.range' 1 (maxSupport - 1)).find? (fun i => st.globalDevice.id i = 0) =
            some num := hf
        rw [Storage.learnNumsWrites, hfind] at hws ⊢
        dsimp only at hws ⊢
        split at hws
        · rename_i hnew
          rw [if_pos hnew]
          simpa [List.prefix_cons_iff] using hws
        · exact Or.inl (List.prefix_nil.mp hws)
      obtain hw | hw := hcases
      · exact hnil hw
      · refine ⟨st.raiseNum num, h.raiseNum hblank hf, by rw [hw, hall], hsame, .of_add hadd ?_⟩
        intro hused
        unfold Storage.raiseNum
        split
        · exact ⟨hused.door, hused.gateway⟩
        · exact hused

/-- A role read after one slot is written: as before, or the id written. -/
private theorem role_update (ids : Nat → UInt32) (role num : Nat) (deviceID : UInt32) :
    (if role = 0 then 0 else Function.update ids num deviceID role) =
        (if role = 0 then 0 else ids role) ∨
      (if role = 0 then 0 else Function.update ids num deviceID role) = deviceID := by
  split
  · exact Or.inl rfl
  · by_cases hrole : role = num
    · rw [hrole, Function.update_self]
      exact Or.inr rfl
    · rw [Function.update_of_ne hrole]
      exact Or.inl rfl

theorem Storage.getDoorID_store (num : Nat) (deviceID : UInt32) (st : Storage) :
    (st.store num deviceID).getDoorID = st.getDoorID ∨
      (st.store num deviceID).getDoorID = deviceID := by
  simpa only [getDoorID, store_globalDevice] using role_update _ _ num deviceID

theorem Storage.getGatewayID_store (num : Nat) (deviceID : UInt32) (st : Storage) :
    (st.store num deviceID).getGatewayID = st.getGatewayID ∨
      (st.store num deviceID).getGatewayID = deviceID := by
  simpa only [getGatewayID, store_globalDevice] using role_update _ _ num deviceID

theorem Storage.getDoorID_setDoorNum (hnum : num ≠ 0) (st : Storage) :
    (st.setDoorNum num).getDoorID = st.globalDevice.id num :=
  if_neg hnum

theorem Storage.getGatewayID_setGatewayNum (hnum : num ≠ 0) (st : Storage) :
    (st.setGatewayNum num).getGatewayID = st.globalDevice.id num :=
  if_neg hnum

theorem Storage.store_id_self : (st.store num deviceID).globalDevice.id num = deviceID := by
  simp [store_globalDevice]

/-- The writes up to the slot of a new device. -/
theorem Storage.env_store_free (hf : st.table.free maxSupport = some num) :
    (st.store num deviceID).env =
      st.env.write (st.learnNumsWrites ++ [keyWrite (UInt32.ofNat num) deviceID]) := by
  have hraise : (st.raiseNum num).env = st.env.write st.learnNumsWrites := by
    rw [← st.env_getLearnNumsValid, getLearnNumsValid_of_free hf]
  rw [Env.write_append, ← hraise]
  rfl

private theorem prefix_append_pair {α : Type} {l l' : List α} {a b : α} :
    l <+: l' ++ [a, b] ↔ l = l' ++ [a, b] ∨ l = l' ++ [a] ∨ l <+: l' := by
  have hpair : l' ++ [a, b] = l' ++ [a] ++ [b] := by simp
  rw [hpair, List.prefix_concat_iff, List.prefix_concat_iff]

/-- A call that writes a slot and then a role: the cut between the two leaves
the stored slot. -/
private theorem cut_slotRole {ws ws₀ : List EnvWrite} {role : EnvWrite}
    (hwrites : call.writes st = ws₀ ++ [keyWrite (UInt32.ofNat num) deviceID, role])
    (hstart : ∀ ws, ws <+: ws₀ → CutTo call st ws st.contents)
    (hstored : (st.store num deviceID).Wf)
    (henv : (st.store num deviceID).env =
      st.env.write (ws₀ ++ [keyWrite (UInt32.ofNat num) deviceID]))
    (hslot : KeepsPointersIn call (ws₀ ++ [keyWrite (UInt32.ofNat num) deviceID]) st
      (st.store num deviceID))
    (hout : CutOutcome call st (st.store num deviceID).contents)
    (hafter : CutTo call st (call.writes st) (call.run st).2.contents)
    (hws : ws <+: call.writes st) : ∃ c, CutOutcome call st c ∧ CutTo call st ws c := by
  rw [hwrites, prefix_append_pair] at hws
  obtain hw | hw | hw := hws
  · rw [hw, ← hwrites]
    exact ⟨_, .after, hafter⟩
  · rw [hw]
    exact ⟨_, hout, _, hstored, henv, rfl, hslot⟩
  · exact ⟨_, .before, hstart ws hw⟩

/-- A slot in use is written without raising `Num`. -/
private theorem env_store_used (hnum : num ≤ st.globalDevice.num) :
    (st.store num deviceID).env = st.env.write ([] ++ [keyWrite (UInt32.ofNat num) deviceID]) := by
  rw [Storage.store_of_le hnum]
  rfl

theorem Storage.Wf.cutTo_start (h : st.Wf) (ws : List EnvWrite) (hws : ws <+: []) :
    CutTo call st ws st.contents :=
  List.prefix_nil.mp hws ▸ h.cutTo_nil

section

variable {ws : List EnvWrite} (h : st.Wf) (hblank : SlotsBlank st)

include h hblank

theorem Storage.Wf.cut_addDevice (hnew : deviceID = 0 ∨ ∀ i, st.globalDevice.id i ≠ deviceID)
    (hws : ws <+: (RegistryCall.addDevice deviceID).writes st) :
    ∃ c, CutOutcome (.addDevice deviceID) st c ∧ CutTo (.addDevice deviceID) st ws c := by
  have hadd : ∀ ws, ¬(RegistryCall.addDevice deviceID).FreesPointer ws st := fun _ => id
  cases hf : st.table.free maxSupport with
  | none =>
      simp only [RegistryCall.writes, getLearnNumsValid_of_full hf, if_true] at hws
      exact ⟨_, .before, h.cutTo_learnNumsWrites hblank hadd hws⟩
  | some num =>
      obtain ⟨hpos, -, hfree, -⟩ := SlotTable.free_eq_some hf
      have h0 : num ≠ 0 := hpos.ne'
      have hrun : ((RegistryCall.addDevice deviceID).run st).2 = st.store num deviceID :=
        congrArg Prod.snd (addDevice_of_free hf)
      have hafter : CutTo (.addDevice deviceID) st
          ((RegistryCall.addDevice deviceID).writes st) _ :=
        cutTo_writes (h.addDevice hnew)
          (.of_add hadd fun hused => hrun.symm ▸ hused.store (.inr hfree))
      simp only [RegistryCall.writes, getLearnNumsValid_of_free hf, if_neg h0] at hws hafter
      obtain rfl | hws := List.prefix_concat_iff.mp hws
      · exact ⟨_, .after, hafter⟩
      · exact ⟨_, .before, h.cutTo_learnNumsWrites hblank hadd hws⟩

theorem Storage.Wf.cut_addDoorDevice (hnew : deviceID = 0 ∨ ∀ i, st.globalDevice.id i ≠ deviceID)
    (hclass : IsDoor deviceID) (hws : ws <+: (RegistryCall.addDoorDevice deviceID).writes st) :
    ∃ c, CutOutcome (.addDoorDevice deviceID) st c ∧ CutTo (.addDoorDevice deviceID) st ws c := by
  have hid : deviceID ≠ 0 := fun h0 => not_isDoor_zero (h0 ▸ hclass)
  have hadd : ∀ ws, ¬(RegistryCall.addDoorDevice deviceID).FreesPointer ws st := fun _ => id
  have hslot : ∀ ws num, KeepsPointersIn (.addDoorDevice deviceID) ws st (st.store num deviceID) :=
    fun _ _ => .of_add hadd fun hused => hused.store (.inl hid)
  have hafter : ∀ num, ((RegistryCall.addDoorDevice deviceID).run st).2 =
      (st.store num deviceID).setDoorNum num → CutTo (.addDoorDevice deviceID) st
        ((RegistryCall.addDoorDevice deviceID).writes st) _ := fun num hrun =>
    cutTo_writes (h.addDoorDevice hnew)
      (.of_add hadd fun hused => hrun.symm ▸ hused.store_door hid)
  by_cases hd : st.getDoorID = 0
  · have hd' : ¬st.getDoorID ≠ 0 := not_not.mpr hd
    cases hf : st.table.free maxSupport with
    | none =>
        simp only [RegistryCall.writes, if_neg hd', getLearnNumsValid_of_full hf, if_true] at hws
        exact ⟨_, .before, h.cutTo_learnNumsWrites hblank hadd hws⟩
    | some num =>
        have h0 : num ≠ 0 := (SlotTable.free_eq_some hf).1.ne'
        have hrun : ((RegistryCall.addDoorDevice deviceID).run st).2 =
            (st.store num deviceID).setDoorNum num :=
          congrArg Prod.snd (addDoorDevice_of_free hd hf)
        have hwrites : (RegistryCall.addDoorDevice deviceID).writes st = st.learnNumsWrites ++
            [keyWrite (UInt32.ofNat num) deviceID, keyWrite 88888888 (UInt32.ofNat num)] := by
          simp [RegistryCall.writes, hd, getLearnNumsValid_of_free hf, h0]
        refine cut_slotRole hwrites (fun ws => h.cutTo_learnNumsWrites hblank hadd)
          (h.store_free hf hnew) (env_store_free hf) (hslot _ _) (.unassigned hd ?_ ?_ ?_)
          (hafter num hrun) hws
        · rw [hrun]; rfl
        · rw [hrun, getDoorID_setDoorNum h0, store_id_self]
          exact getDoorID_store num deviceID st
        · rw [hrun]; exact Or.inr rfl
  · have hrun : ((RegistryCall.addDoorDevice deviceID).run st).2 =
        (st.store st.globalDevice.doorNum deviceID).setDoorNum st.globalDevice.doorNum :=
      congrArg Prod.snd (h.addDoorDevice_of_door hd)
    have hnum : (flashGetDoorNums st.env).toNat = st.globalDevice.doorNum := by
      rw [flashGetDoorNums, h.flash_doorNum, toNat_ofNat_slot (le_trans h.doorNum_le h.num_le)]
    have hsame : (st.store st.globalDevice.doorNum deviceID).contents =
        ((RegistryCall.addDoorDevice deviceID).run st).2.contents := by
      rw [hrun]
      simp [Storage.contents, Storage.getDoorID, Storage.getGatewayID, store_globalDevice,
        Storage.setDoorNum, flashKeyChange, put]
    have hwrites : (RegistryCall.addDoorDevice deviceID).writes st =
        [] ++ [keyWrite (UInt32.ofNat st.globalDevice.doorNum) deviceID,
          keyWrite 88888888 (UInt32.ofNat st.globalDevice.doorNum)] := by
      simp only [RegistryCall.writes, ne_eq, hd, not_false_eq_true, if_true, hnum, List.nil_append]
    have hstore := h.store (doorNum_pos hd) (le_trans h.doorNum_le h.num_le)
      (Nat.le_succ_of_le h.doorNum_le) hnew
    exact cut_slotRole hwrites h.cutTo_start hstore (env_store_used h.doorNum_le) (hslot _ _)
      (hsame ▸ .after) (hafter _ hrun) hws

theorem Storage.Wf.cut_addGatewayDevice
    (hnew : deviceID = 0 ∨ ∀ i, st.globalDevice.id i ≠ deviceID)
    (hclass : IsGateway deviceID)
    (hws : ws <+: (RegistryCall.addGatewayDevice deviceID).writes st) :
    ∃ c, CutOutcome (.addGatewayDevice deviceID) st c ∧
      CutTo (.addGatewayDevice deviceID) st ws c := by
  have hid : deviceID ≠ 0 := fun h0 => not_isGateway_zero (h0 ▸ hclass)
  have hadd : ∀ ws, ¬(RegistryCall.addGatewayDevice deviceID).FreesPointer ws st := fun _ => id
  have hslot : ∀ ws num,
      KeepsPointersIn (.addGatewayDevice deviceID) ws st (st.store num deviceID) :=
    fun _ _ => .of_add hadd fun hused => hused.store (.inl hid)
  have hafter : ∀ num, ((RegistryCall.addGatewayDevice deviceID).run st).2 =
      (st.store num deviceID).setGatewayNum num → CutTo (.addGatewayDevice deviceID) st
        ((RegistryCall.addGatewayDevice deviceID).writes st) _ := fun num hrun =>
    cutTo_writes (h.addGatewayDevice hnew)
      (.of_add hadd fun hused => hrun.symm ▸ hused.store_gateway hid)
  by_cases hg : st.getGatewayID = 0
  · have hg' : ¬st.getGatewayID ≠ 0 := not_not.mpr hg
    cases hf : st.table.free maxSupport with
    | none =>
        simp only [RegistryCall.writes, if_neg hg', getLearnNumsValid_of_full hf, if_true] at hws
        exact ⟨_, .before, h.cutTo_learnNumsWrites hblank hadd hws⟩
    | some num =>
        have h0 : num ≠ 0 := (SlotTable.free_eq_some hf).1.ne'
        have hrun : ((RegistryCall.addGatewayDevice deviceID).run st).2 =
            (st.store num deviceID).setGatewayNum num :=
          congrArg Prod.snd (addGatewayDevice_of_free hg hf)
        have hwrites : (RegistryCall.addGatewayDevice deviceID).writes st = st.learnNumsWrites ++
            [keyWrite (UInt32.ofNat num) deviceID, keyWrite 88887777 (UInt32.ofNat num)] := by
          simp [RegistryCall.writes, hg, getLearnNumsValid_of_free hf, h0]
        refine cut_slotRole hwrites (fun ws => h.cutTo_learnNumsWrites hblank hadd)
          (h.store_free hf hnew) (env_store_free hf) (hslot _ _) (.unassigned hg ?_ ?_ ?_)
          (hafter num hrun) hws
        · rw [hrun]; rfl
        · rw [hrun]; exact Or.inr rfl
        · rw [hrun, getGatewayID_setGatewayNum h0, store_id_self]
          exact getGatewayID_store num deviceID st
  · have hrun : ((RegistryCall.addGatewayDevice deviceID).run st).2 =
        (st.store st.globalDevice.gatewayNum deviceID).setGatewayNum st.globalDevice.gatewayNum :=
      congrArg Prod.snd (h.addGatewayDevice_of_gateway hg)
    have hnum : (flashGetGatewayNums st.env).toNat = st.globalDevice.gatewayNum := by
      rw [flashGetGatewayNums, h.flash_gatewayNum,
        toNat_ofNat_slot (le_trans h.gatewayNum_le h.num_le)]
    have hsame : (st.store st.globalDevice.gatewayNum deviceID).contents =
        ((RegistryCall.addGatewayDevice deviceID).run st).2.contents := by
      rw [hrun]
      simp [Storage.contents, Storage.getDoorID, Storage.getGatewayID, store_globalDevice,
        Storage.setGatewayNum, flashKeyChange, put]
    have hwrites : (RegistryCall.addGatewayDevice deviceID).writes st =
        [] ++ [keyWrite (UInt32.ofNat st.globalDevice.gatewayNum) deviceID,
          keyWrite 88887777 (UInt32.ofNat st.globalDevice.gatewayNum)] := by
      simp only [RegistryCall.writes, ne_eq, hg, not_false_eq_true, if_true, hnum, List.nil_append]
    refine cut_slotRole hwrites h.cutTo_start (h.store (gatewayNum_pos hg)
      (le_trans h.gatewayNum_le h.num_le) (Nat.le_succ_of_le h.gatewayNum_le) hnew)
      (env_store_used h.gatewayNum_le) (hslot _ _) (hsame ▸ .after) (hafter _ hrun) hws

omit hblank in
/-- Once the slot of the door is free no door is named, whatever `DoorNum`
says. -/
theorem Storage.Wf.cut_deleteDevice (hclasses : SlotClasses st)
    (hws : ws <+: (RegistryCall.deleteDevice deviceID).writes st) :
    ∃ c, CutOutcome (.deleteDevice deviceID) st c ∧ CutTo (.deleteDevice deviceID) st ws c := by
  have hafter : CutTo (.deleteDevice deviceID) st
      ((RegistryCall.deleteDevice deviceID).writes st) _ :=
    cutTo_writes (h.deleteDevice deviceID) fun hused => hused.deleteDevice_iff h
  by_cases hs : st.slotOf deviceID = 0
  · simp only [RegistryCall.writes, hs, if_true] at hws
    exact ⟨_, .before, h.cutTo_start ws hws⟩
  · have hrun := congrArg Prod.snd (h.deleteDevice_eq hs)
    have hle := h.slotOf_le deviceID
    by_cases hdoor : getDoorValid deviceID = RT_EOK
    · have hwrites : (RegistryCall.deleteDevice deviceID).writes st =
          [] ++ [keyWrite (UInt32.ofNat (st.slotOf deviceID)) 0, keyWrite 88888888 0] := by
        simp [RegistryCall.writes, hs, hdoor]
      have hslot : st.slotOf deviceID = st.globalDevice.doorNum := by
        refine hclasses.door _ ?_
        rw [h.id_slotOf hs]
        unfold getDoorValid at hdoor
        split at hdoor
        · assumption
        · cases hdoor
      have hsame : (st.store (st.slotOf deviceID) 0).contents =
          ((RegistryCall.deleteDevice deviceID).run st).2.contents := by
        rw [show ((RegistryCall.deleteDevice deviceID).run st).2 = _ from hrun, if_pos hdoor, hslot]
        simp [Storage.contents, Storage.getDoorID, Storage.getGatewayID, store_globalDevice,
          Storage.setDoorNum, flashKeyChange, put]
      refine cut_slotRole hwrites h.cutTo_start (h.store (Nat.pos_of_ne_zero hs)
        (le_trans hle h.num_le) (Nat.le_succ_of_le hle) (Or.inl rfl)) (env_store_used hle)
        (fun hused => ?_) (hsame ▸ .after) hafter hws
      rw [hused.store_zero_iff hs]
      simp [RegistryCall.FreesPointer, hs, not_or]
    · have hwrites : (RegistryCall.deleteDevice deviceID).writes st =
          [] ++ [keyWrite (UInt32.ofNat (st.slotOf deviceID)) 0] := by
        simp [RegistryCall.writes, hs, hdoor]
      rw [hwrites] at hws hafter
      obtain rfl | hws := List.prefix_concat_iff.mp hws
      · exact ⟨_, .after, hafter⟩
      · exact ⟨_, .before, h.cutTo_start ws hws⟩

end

/-- Every cut of a call leaves an intact registry. -/
theorem Storage.Wf.cut {call : RegistryCall} {ws : List EnvWrite} (h : st.Wf)
    (hblank : SlotsBlank st) (hclasses : SlotClasses st) (hcall : call.Allowed st)
    (hws : ws <+: call.writes st) : ∃ c, CutOutcome call st c ∧ CutTo call st ws c := by
  cases call with
  | addDevice deviceID => exact h.cut_addDevice hblank (h.fresh_of_invalid hcall) hws
  | addDoorDevice deviceID =>
      exact h.cut_addDoorDevice hblank (h.fresh_of_invalid hcall.1) hcall.2 hws
  | addGatewayDevice deviceID =>
      exact h.cut_addGatewayDevice hblank (h.fresh_of_invalid hcall.1) hcall.2 hws
  | deleteDevice deviceID => exact h.cut_deleteDevice hclasses hws

/-! ## later learns -/

/-- A learn frame moves no role unless it learns a device of that role or takes
the slot the role pointer names. -/
structure KeepsRoles (buf : Message) (st st' : Storage) : Prop where
  door : ¬(30000000 ≤ buf.fromID ∧ buf.fromID < 40000000) →
    st.learnSlot buf ≠ some st.globalDevice.doorNum → st'.getDoorID = st.getDoorID
  gateway : ¬(40000000 ≤ buf.fromID ∧ buf.fromID < 50000000) →
    st.learnSlot buf ≠ some st.globalDevice.gatewayNum → st'.getGatewayID = st.getGatewayID

theorem Storage.Wf.keepsRoles {buf : Message} (h : st.Wf) (hl : Learned buf st st') :
    KeepsRoles buf st st' := by
  have hid : ∀ role, st.learnSlot buf ≠ some role →
      st'.globalDevice.id role = st.globalDevice.id role := by
    intro role hrole
    obtain ⟨num, hnum, hw⟩ | rfl | rfl := h.learned_cases hl
    · rw [hw.id, if_neg]
      rintro rfl
      exact hrole hnum
    · rfl
    · rw [(onlyDevice_deviceAliveChange 1).id]
  have hroles : (¬(30000000 ≤ buf.fromID ∧ buf.fromID < 40000000) →
      st'.globalDevice.doorNum = st.globalDevice.doorNum) ∧
      (¬(40000000 ≤ buf.fromID ∧ buf.fromID < 50000000) →
        st'.globalDevice.gatewayNum = st.globalDevice.gatewayNum) := by
    cases hl with
    | same => exact ⟨fun _ => rfl, fun _ => rfl⟩
    | device hv hreq hdata hclass =>
        cases hf : st.table.free maxSupport with
        | none => simp [addDevice_of_full hf]
        | some num => simp [addDevice_of_free hf, store_globalDevice]
    | door hv hreq hdata hclass =>
        refine ⟨fun hno => absurd hclass hno, fun _ => ?_⟩
        by_cases hd : st.getDoorID = 0
        · cases hf : st.table.free maxSupport with
          | none => simp [addDoorDevice_of_full hd hf]
          | some num =>
              simp [addDoorDevice_of_free hd hf, store_globalDevice, Storage.setDoorNum,
                flashKeyChange, put]
        · simp [h.addDoorDevice_of_door hd, store_globalDevice, Storage.setDoorNum, flashKeyChange,
            put]
    | gateway hv hreq hdata hclass =>
        refine ⟨fun _ => ?_, fun hno => absurd hclass hno⟩
        by_cases hg : st.getGatewayID = 0
        · cases hf : st.table.free maxSupport with
          | none => simp [addGatewayDevice_of_full hg hf]
          | some num =>
              simp [addGatewayDevice_of_free hg hf, store_globalDevice, Storage.setGatewayNum,
                flashKeyChange, put]
        · simp [h.addGatewayDevice_of_gateway hg, store_globalDevice, Storage.setGatewayNum,
            flashKeyChange, put]
    | confirm =>
        have honly : OnlyDevice buf.fromID.toUInt32 _ st _ := onlyDevice_deviceAliveChange 1
        exact ⟨fun _ => honly.doorNum, fun _ => honly.gatewayNum⟩
  constructor
  · intro hclass hslot
    rw [getDoorID, getDoorID, hroles.1 hclass, hid _ hslot]
  · intro hclass hslot
    rw [getGatewayID, getGatewayID, hroles.2 hclass, hid _ hslot]

/-- Both roles are kept, except one that is learned. -/
structure RolesKept (buf : Message) (st st' : Storage) : Prop where
  door : ¬(30000000 ≤ buf.fromID ∧ buf.fromID < 40000000) → st'.getDoorID = st.getDoorID
  gateway : ¬(40000000 ≤ buf.fromID ∧ buf.fromID < 50000000) →
    st'.getGatewayID = st.getGatewayID

/-- While no pointer names a free slot, a device that is learned into one takes
no role but its own. -/
theorem KeepsRoles.rolesKept {buf : Message} (h : KeepsRoles buf st st') (hused : PointersUsed st)
    (hslot : st.learnSlot buf = some num) (hfree : st.globalDevice.id num = 0) :
    RolesKept buf st st' := by
  have hpos : num ≠ 0 := by
    unfold Storage.learnSlot at hslot
    split at hslot
    · exact (Storage.requestSlot_pos hslot).ne'
    · cases hslot
  have hother : ∀ pointer, st.NamesUsed pointer → st.learnSlot buf ≠ some pointer := by
    intro pointer hnames hsame
    obtain rfl : num = pointer := Option.some.inj (hslot.symm.trans hsame)
    exact hnames hpos hfree
  exact ⟨fun hclass => h.door hclass (hother _ hused.door),
    fun hclass => h.gateway hclass (hother _ hused.gateway)⟩

/-- Learning frees no slot. -/
theorem PointersUsed.learned {buf : Message} (h : PointersUsed st) (hwf : st.Wf)
    (hl : Learned buf st st') : PointersUsed st' := by
  cases hl with
  | same => exact h
  | device hv hreq hdata hclass =>
      cases hf : st.table.free maxSupport with
      | none => rwa [Storage.addDevice_of_full hf]
      | some num =>
          rw [Storage.addDevice_of_free hf]
          exact h.store (.inr (SlotTable.free_eq_some hf).2.2.1)
  | door hv hreq hdata hclass =>
      have hid : buf.fromID.toUInt32 ≠ 0 := fun h0 =>
        not_isDoor_zero (h0 ▸ (isDoor_toUInt32 _).mpr hclass)
      by_cases hd : st.getDoorID = 0
      · cases hf : st.table.free maxSupport with
        | none => rwa [Storage.addDoorDevice_of_full hd hf]
        | some num =>
            rw [Storage.addDoorDevice_of_free hd hf]
            exact h.store_door hid
      · rw [hwf.addDoorDevice_of_door hd]
        exact h.store_door hid
  | gateway hv hreq hdata hclass =>
      have hid : buf.fromID.toUInt32 ≠ 0 := fun h0 =>
        not_isGateway_zero (h0 ▸ (isGateway_toUInt32 _).mpr hclass)
      by_cases hg : st.getGatewayID = 0
      · cases hf : st.table.free maxSupport with
        | none => rwa [Storage.addGatewayDevice_of_full hg hf]
        | some num =>
            rw [Storage.addGatewayDevice_of_free hg hf]
            exact h.store_gateway hid
      · rw [hwf.addGatewayDevice_of_gateway hg]
        exact h.store_gateway hid
  | confirm => exact ((onlyDevice_deviceAliveChange 1).same_of_slotOf hwf).pointersUsed.mpr h

/-- Condition on a step: a deletion leaves no pointer to the slot it frees, so it
is not of the device in the slot of `GatewayNum`, and in the slot of `DoorNum`
only of a door. -/
def KeepsPointers (s : State) (a : RegistryAction) : Prop :=
  ∀ deviceID, a = .deleteDevice deviceID → ¬(RegistryCall.deleteDevice deviceID).FreesPointer
    ((RegistryCall.deleteDevice deviceID).writes s.toStorage) s.toStorage

theorem PointersUsed.registryStep {s s' : State} {a : RegistryAction}
    (h : PointersUsed s.toStorage) (hwf : s.Wf) (hok : KeepsPointers s a)
    (hs : registryStep s a = some s') : PointersUsed s'.toStorage := by
  obtain ⟨buf, -, rfl⟩ | ⟨deviceID, rfl, hst⟩ | ⟨-, hst⟩ | hsame := registryStep_same hwf hs
  · exact h.learned hwf (learned_deviceLearn buf s)
  · rw [hst]
    exact (h.deleteDevice_iff hwf).mpr (hok deviceID rfl)
  · rw [hst]
    exact pointersUsed_eraseAll _
  · exact hsame.pointersUsed.mpr h

/-- **Registration survives a loss of power**: after any prefix of the writes of
a call a reload finds the table and the roles of before or after it; where a
door or gateway is registered anew, the table may be that of after the call with
the role still unassigned.  The reload has a pointer to a free slot exactly when
the call freed it.  From then on a learn frame moves a role only if it learns a
device of that role or writes the slot its pointer names, and that is no free
slot until a deletion leaves a pointer to one. -/
theorem power_loss {s : State} (h : registryMachine.Reachable s) {call : RegistryCall}
    (hcall : call.Allowed s.toStorage) {ws : List EnvWrite} (hws : ws <+: call.writes s.toStorage) :
    ∃ st', (s.cutAfter ws).loadDevice2Memory = some st' ∧
      CutOutcome call s.toStorage st'.contents ∧
      (PointersUsed s.toStorage → (PointersUsed st' ↔ ¬call.FreesPointer ws s.toStorage)) ∧
      (∀ t, (registryMachine.startedIn { s with toStorage := st' }).Reachable t → ∀ buf,
        KeepsRoles buf t.toStorage (deviceLearn buf t).toStorage) ∧
      (PointersUsed st' → ∀ t,
        (registryMachine.startedIn { s with toStorage := st' }).ReachableVia KeepsPointers t →
          ∀ buf num, t.learnSlot buf = some num → t.globalDevice.id num = 0 →
            RolesKept buf t.toStorage (deviceLearn buf t).toStorage) := by
  obtain ⟨c, hc, u, hu, henv, rfl, hpointers⟩ := (registryMachine_wf h).cut
    (registryMachine_slotsBlank h) (registryMachine_slotClasses h) hcall hws
  obtain ⟨st', hload, hsame⟩ := same_loadDevice2Memory hu
  have hwf' : st'.Wf := hu.of_same hsame
  refine ⟨st', ?_, hsame.contents ▸ hc, fun hused => ?_, fun t ht buf => ?_,
    fun hused t ht buf num hslot hfree => ?_⟩
  · rw [← hload]
    exact loadDevice2Memory_congr henv.symm
  · rw [← hpointers hused]
    exact hsame.pointersUsed
  · have hwf : t.Wf := Machine.ReachableVia.invariant (I := fun t => t.Wf) ht
      (fun _ h0 => h0 ▸ hwf') fun _ _ _ hwf _ hs => hwf.registryStep hs
    exact hwf.keepsRoles (learned_deviceLearn buf t)
  · have hinv : t.Wf ∧ PointersUsed t.toStorage :=
      Machine.ReachableVia.invariant (I := fun t => t.Wf ∧ PointersUsed t.toStorage) ht
        (fun _ h0 => h0 ▸ ⟨hwf', hused⟩)
        fun _ _ _ hI hok hs => ⟨hI.1.registryStep hs, hI.2.registryStep hI.1 hok hs⟩
    exact (hinv.1.keepsRoles (learned_deviceLearn buf t)).rolesKept hinv.2 hslot hfree

/-- A door, a slave and a gateway are registered, and power is lost between the
two writes that delete the door: `DoorNum` names a free slot. -/
theorem power_loss_threeLearned : ∃ st',
    (threeLearned.cutAfter [keyWrite 1 0]).loadDevice2Memory = some st' ∧
    CutOutcome (.deleteDevice 30000001) threeLearned.toStorage st'.contents ∧
    ¬PointersUsed st' ∧
    ∀ t, (registryMachine.startedIn { threeLearned with toStorage := st' }).Reachable t → ∀ buf,
      KeepsRoles buf t.toStorage (deviceLearn buf t).toStorage := by
  have hslot : threeLearned.slotOf 30000001 = 1 := by decide +kernel
  have hwrites : (RegistryCall.deleteDevice 30000001).writes threeLearned.toStorage =
      [keyWrite 1 0] ++ [keyWrite 88888888 0] := by
    simp [RegistryCall.writes, hslot, getDoorValid]
  have hallowed : (RegistryCall.deleteDevice 30000001).Allowed threeLearned.toStorage := trivial
  have hpointers : PointersUsed threeLearned.toStorage :=
    ⟨fun _ => by decide +kernel, fun _ => by decide +kernel⟩
  have hfrees : (RegistryCall.deleteDevice 30000001).FreesPointer [keyWrite 1 0]
      threeLearned.toStorage := by
    have hdoor : threeLearned.globalDevice.doorNum = 1 := by decide +kernel
    refine ⟨?_, .inr ⟨?_, ?_⟩⟩ <;> rw [hslot]
    · decide
    · exact hdoor.symm
    · rfl
  obtain ⟨st', hload, hout, hused, hlater, -⟩ := power_loss reachable_threeLearned hallowed
    (hwrites ▸ List.prefix_append _ _)
  exact ⟨st', hload, hout, fun h => (hused hpointers).mp h hfrees, hlater⟩

/-- Three runs in which the registry is neither of before nor of after the call,
or a slave takes a role.  On an erased unit power is lost before the role
pointer of the first door is written: the door is in the table and is no door.
Power is lost between the two writes that delete a door, and the slave that is
learned next is the door.  And a gateway is deleted without any loss of power,
and the slave that is learned next is the gateway. -/
theorem not_power_loss :
    (∃ ws st', ws <+: (RegistryCall.addDoorDevice 30000001).writes
        (State.reset .default).toStorage ∧
      ((State.reset .default).cutAfter ws).loadDevice2Memory = some st' ∧
      st'.contents ≠ (State.reset .default).contents ∧
      st'.contents ≠
        ((RegistryCall.addDoorDevice 30000001).run (State.reset .default).toStorage).2.contents) ∧
    (∃ ws st', ws <+: (RegistryCall.deleteDevice 30000001).writes threeLearned.toStorage ∧
      (threeLearned.cutAfter ws).loadDevice2Memory = some st' ∧ st'.getDoorID = 0 ∧
      (deviceLearn (learnFrame 10000002) { threeLearned with toStorage := st' }).getDoorID =
        10000002) ∧
    ∃ st', (threeLearned.cutAfter ((RegistryCall.deleteDevice 40000001).writes
        threeLearned.toStorage)).loadDevice2Memory = some st' ∧ st'.getGatewayID = 0 ∧
      (deviceLearn (learnFrame 10000002) { threeLearned with toStorage := st' }).getGatewayID =
        10000002 := by
  refine ⟨?_, ?_, ?_⟩
  · have hwrites : (RegistryCall.addDoorDevice 30000001).writes (State.reset .default).toStorage =
        [⟨.learnNums, printLd 1⟩, keyWrite 1 30000001] ++ [keyWrite 88888888 1] := by
      decide +kernel
    have hrun : (((State.reset .default).cutAfter
        [⟨.learnNums, printLd 1⟩, keyWrite 1 30000001]).loadDevice2Memory).map
        (fun st : Storage => (st.contents.id 1, st.contents.doorID)) = some (30000001, 0) := by
      decide +kernel
    have hafter : (((RegistryCall.addDoorDevice 30000001).run
        (State.reset .default).toStorage).2.contents).doorID = 30000001 := by decide +kernel
    obtain ⟨st', hload, hobs⟩ := Option.map_eq_some_iff.mp hrun
    obtain ⟨hid, hdoor⟩ := Prod.mk.inj hobs
    refine ⟨_, st', hwrites ▸ List.prefix_append _ _, hload, fun hsame => ?_, fun hsame => ?_⟩
    · rw [hsame] at hid
      exact absurd hid (by decide)
    · rw [hsame, hafter] at hdoor
      exact absurd hdoor (by decide)
  · have hwrites : (RegistryCall.deleteDevice 30000001).writes threeLearned.toStorage =
        [keyWrite 1 0] ++ [keyWrite 88888888 0] := by decide +kernel
    have hrun : ((threeLearned.cutAfter [keyWrite 1 0]).loadDevice2Memory).map
        (fun st' : Storage => (st'.getDoorID, (deviceLearn (learnFrame 10000002)
          { threeLearned with toStorage := st' }).getDoorID)) = some (0, 10000002) := by
      decide +kernel
    obtain ⟨st', hload, hobs⟩ := Option.map_eq_some_iff.mp hrun
    obtain ⟨hnone, hslave⟩ := Prod.mk.inj hobs
    exact ⟨_, st', hwrites ▸ List.prefix_append _ _, hload, hnone, hslave⟩
  · have hrun : ((threeLearned.cutAfter ((RegistryCall.deleteDevice 40000001).writes
        threeLearned.toStorage)).loadDevice2Memory).map
        (fun st' : Storage => (st'.getGatewayID, (deviceLearn (learnFrame 10000002)
          { threeLearned with toStorage := st' }).getGatewayID)) = some (0, 10000002) := by
      decide +kernel
    obtain ⟨st', hload, hobs⟩ := Option.map_eq_some_iff.mp hrun
    obtain ⟨hnone, hslave⟩ := Prod.mk.inj hobs
    exact ⟨st', hload, hnone, hslave⟩

end WaterValve
