import WaterValve.Hour
import WaterValve.Roles
import WaterValve.Senders

/-!
# WaterValve.OfflineDetection

Whom `Detect_All_Time` treats as offline.  A cycle runs from one
`Detect_All_Time`, or from the start of the unit, to the next; `Cycle` is its
history.  The code reads silence off a slot, and a slot keeps its timestamps
when its device changes, so the verdict is about the devices of the whole cycle
except for those learned into a silent slot (`offline_detection`).
-/

namespace WaterValve

/-! ## the history of a cycle -/

/-- The device is registered. -/
def Enrolled (deviceID : UInt32) (st : Storage) : Prop :=
  deviceID ≠ 0 ∧ st.slotOf deviceID ≠ 0

instance (deviceID : UInt32) (st : Storage) : Decidable (Enrolled deviceID st) :=
  inferInstanceAs (Decidable (_ ∧ _))

/-- By its timestamps, nothing was heard of this slot in the cycle. -/
def SlotSilent (i : Nat) (s : State) : Prop :=
  s.rtcCounter.toNat ≤ (s.globalDevice.idTime i).toNat ∧ s.globalDevice.getMesssage i = 0

instance (i : Nat) (s : State) : Decidable (SlotSilent i s) := inferInstanceAs (Decidable (_ ∧ _))

/-- A step registers the device in a slot that is silent. -/
def LearnedSilent (deviceID : UInt32) (s s' : State) : Prop :=
  Enrolled deviceID s'.toStorage ∧
    s.globalDevice.id (s'.slotOf deviceID) ≠ deviceID ∧ SlotSilent (s'.slotOf deviceID) s

instance (deviceID : UInt32) (s s' : State) : Decidable (LearnedSilent deviceID s s') :=
  inferInstanceAs (Decidable (_ ∧ _))

/-- The history of the cycle: the devices registered all the time, the ones a
frame was accepted from, and the ones learned into a silent slot with no frame
accepted since. -/
structure Cycle where
  kept : UInt32 → Bool
  heard : UInt32 → Bool
  late : UInt32 → Bool

def Cycle.start (s : State) : Cycle where
  kept := fun deviceID => Enrolled deviceID s.toStorage
  heard := fun _ => false
  late := fun _ => false

/-- A step within the cycle, with the sender of the frame it accepts. -/
def Cycle.next (sender : Option UInt32) (s s' : State) (g : Cycle) : Cycle where
  kept := fun deviceID => g.kept deviceID ∧ Enrolled deviceID s'.toStorage
  heard := fun deviceID => g.heard deviceID ∨ sender = some deviceID
  late := fun deviceID =>
    (g.late deviceID ∧ sender ≠ some deviceID ∧ Enrolled deviceID s'.toStorage) ∨
      LearnedSilent deviceID s s'

/-- The sender of the frame `NormalSolve` accepts. -/
def Event.sender : Event → Option UInt32
  | .node _ buf => some buf.fromID.toUInt32
  | _ => none

/-- The steps that start a cycle: a start of the unit, and the hour in which
`Detect_All_Time` runs. -/
def Event.startsCycle (s : State) : Event → Bool
  | .restart .. => true
  | .hour _ => ¬s.rtcCounter < 24
  | _ => false

def observeCycle (s : State) (g : Cycle) (a : Action) (s' : State) : Cycle :=
  if (event s a).startsCycle s then .start s' else g.next (event s a).sender s s'

/-- The firmware under the observer of the cycle. -/
def cycleMachine (rom : UInt32) : Machine (State × Cycle) Action :=
  (valveMachine rom).observed .start observeCycle

/-! ## the invariant -/

section

variable {st st' : Storage} {deviceID : UInt32} {i : Nat}

theorem Storage.Wf.enrolled_iff (h : st.Wf) :
    Enrolled deviceID st ↔ deviceID ≠ 0 ∧ ∃ i, st.globalDevice.id i = deviceID := by
  refine and_congr_right fun h0 => ?_
  rw [h.slotOf_eq, Ne, h.table.find_eq_zero_iff h0]
  simp [Storage.table]

theorem enrolled_congr (hnum : st'.globalDevice.num = st.globalDevice.num)
    (hid : st'.globalDevice.id = st.globalDevice.id) :
    st'.slotOf deviceID = st.slotOf deviceID ∧
      (Enrolled deviceID st' ↔ Enrolled deviceID st) := by
  have hslot : st'.slotOf deviceID = st.slotOf deviceID := by
    rw [Storage.slotOf, Storage.slotOf, Storage.searchStart, Storage.searchStart, hnum, hid]
  exact ⟨hslot, by rw [Enrolled, Enrolled, hslot]⟩

end

variable {s s' : State} {g : Cycle} {deviceID : UInt32} {i num : Nat}

/-- What the timestamps say about the cycle. -/
structure CycleInv (s : State) (g : Cycle) : Prop where
  counter : s.rtcCounter.toNat ≤ 24
  time : ∀ i, (s.globalDevice.idTime i).toNat ≤ 25
  message : ∀ i, 0 < i → s.globalDevice.getMesssage i = 0 ∨ s.globalDevice.getMesssage i = 1
  kept : ∀ d, g.kept d → Enrolled d s.toStorage
  late : ∀ d, g.late d → Enrolled d s.toStorage ∧ g.kept d = false
  silent : ∀ i, s.globalDevice.id i ≠ 0 →
    (SlotSilent i s ↔ g.kept (s.globalDevice.id i) ∧ g.heard (s.globalDevice.id i) = false ∨
      g.late (s.globalDevice.id i))

/-- A cycle starts with every message flag of a device down. -/
theorem CycleInv.start (hrtc : s.rtcCounter = 0)
    (htime : ∀ i, (s.globalDevice.idTime i).toNat ≤ 25)
    (hmessage : ∀ i, 0 < i → s.globalDevice.getMesssage i = 0 ∨ s.globalDevice.getMesssage i = 1)
    (hwf : s.Wf) (hdown : ∀ i, s.globalDevice.id i ≠ 0 → s.globalDevice.getMesssage i = 0) :
    CycleInv s (.start s) where
  counter := by simp [hrtc]
  time := htime
  message := hmessage
  kept := fun d hd => of_decide_eq_true hd
  late := fun d hd => by cases hd
  silent := by
    intro i hi
    have henrolled : Enrolled (s.globalDevice.id i) s.toStorage :=
      hwf.enrolled_iff.mpr ⟨hi, i, rfl⟩
    simp [SlotSilent, Cycle.start, hrtc, hdown i hi, henrolled]

/-- A step that registers and forgets nobody: the sender's message flag is up
and the other slots of devices are as before. -/
private theorem CycleInv.next (h : CycleInv s g) (hwf : s.Wf) {sender : Option UInt32}
    (hnum : s'.globalDevice.num = s.globalDevice.num)
    (hid : s'.globalDevice.id = s.globalDevice.id)
    (hcounter : s'.rtcCounter.toNat ≤ 24)
    (htime : ∀ i, (s'.globalDevice.idTime i).toNat ≤ 25)
    (hmessage : ∀ i, 0 < i →
      s'.globalDevice.getMesssage i = 0 ∨ s'.globalDevice.getMesssage i = 1)
    (hsender : ∀ i, s.globalDevice.id i ≠ 0 → sender = some (s.globalDevice.id i) →
      s'.globalDevice.getMesssage i = 1)
    (hothers : ∀ i, s.globalDevice.id i ≠ 0 → sender ≠ some (s.globalDevice.id i) →
      (SlotSilent i s' ↔ SlotSilent i s)) : CycleInv s' (g.next sender s s') := by
  have henrolled : ∀ d, Enrolled d s'.toStorage ↔ Enrolled d s.toStorage :=
    fun d => (enrolled_congr hnum hid).2
  have hlearned : ∀ d, ¬LearnedSilent d s s' := by
    rintro d ⟨hd, hne, -⟩
    rw [(enrolled_congr hnum hid).1] at hne
    exact hne (hwf.id_slotOf ((henrolled d).mp hd).2)
  have hkeep : ∀ i, s.globalDevice.id i ≠ 0 → Enrolled (s.globalDevice.id i) s.toStorage :=
    fun i hi => hwf.enrolled_iff.mpr ⟨hi, i, rfl⟩
  exact {
    counter := hcounter
    time := htime
    message := hmessage
    kept := fun d hd => (of_decide_eq_true hd).2
    late := by
      intro d hd
      obtain ⟨hlate, -, hd⟩ := (of_decide_eq_true hd).resolve_right (hlearned d)
      exact ⟨hd, by simp [Cycle.next, (h.late d hlate).2]⟩
    silent := by
      intro i hi
      rw [hid] at hi ⊢
      by_cases hs : sender = some (s.globalDevice.id i)
      · have hup := hsender i hi hs
        have hnot : ¬SlotSilent i s' := by
          rintro ⟨-, hdown⟩
          rw [hup] at hdown
          exact absurd hdown (by decide)
        simp [Cycle.next, hs, hlearned, hnot]
      · rw [hothers i hi hs, h.silent i hi]
        simp [Cycle.next, hs, hlearned, henrolled, hkeep i hi] }

theorem CycleInv.of_noFlag (h : CycleInv s g) (hwf : s.Wf)
    (hdevice : s'.globalDevice.noFlag = s.globalDevice.noFlag)
    (hrtc : s'.rtcCounter = s.rtcCounter) : CycleInv s' (g.next none s s') := by
  have hfield : ∀ {β : Type} (f : DeviceInfo → β),
      f s'.globalDevice.noFlag = f s.globalDevice.noFlag := fun f => congrArg f hdevice
  have htime : s'.globalDevice.idTime = s.globalDevice.idTime := hfield DeviceInfo.idTime
  have hmessage : s'.globalDevice.getMesssage = s.globalDevice.getMesssage :=
    hfield DeviceInfo.getMesssage
  refine h.next hwf (hfield DeviceInfo.num) (hfield DeviceInfo.id) (by rw [hrtc]; exact h.counter)
    (by rw [htime]; exact h.time) (by rw [hmessage]; exact h.message) (fun i _ hs => by cases hs)
    fun i _ _ => ?_
  rw [SlotSilent, SlotSilent, hrtc, htime, hmessage]

theorem CycleInv.heardOf (h : CycleInv s g) (hwf : s.Wf)
    (hheard : HeardOf deviceID s.toStorage s'.toStorage) (hrtc : s'.rtcCounter = s.rtcCounter) :
    CycleInv s' (g.next (some deviceID) s s') := by
  have hslot : ∀ j, j ≠ s.slotOf deviceID →
      s'.globalDevice.idTime j = s.globalDevice.idTime j ∧
        s'.globalDevice.getMesssage j = s.globalDevice.getMesssage j := fun j hj =>
    ⟨congrArg Slot.idTime (hheard.slot j hj), congrArg Slot.getMesssage (hheard.slot j hj)⟩
  refine h.next hwf hheard.num hheard.id (by rw [hrtc]; exact h.counter) (fun i => ?_)
    (fun i h0 => ?_) (fun i hi hs => ?_) fun i hi hs => ?_
  · obtain ht | ht := hheard.time i
    · rw [ht]
      exact h.time i
    · rw [ht]
      decide
  · by_cases hi : i = s.slotOf deviceID
    · exact .inr (hi ▸ hheard.message (hi ▸ h0.ne'))
    · rw [(hslot i hi).2]
      exact h.message i h0
  · obtain ⟨hfind, h0⟩ := hwf.slotOf_id hi
    rw [← Option.some.inj hs] at hfind
    rw [← hfind] at h0
    exact hfind ▸ hheard.message h0
  · have hne : i ≠ s.slotOf deviceID := by
      rintro rfl
      refine hs (congrArg some (hwf.id_slotOf fun h0 => hi ?_).symm)
      exact h0 ▸ hwf.table.zero
    rw [SlotSilent, SlotSilent, hrtc, (hslot i hne).1, (hslot i hne).2]

/-- A step that changes the device of one slot: the slot keeps its timestamps,
so the new device is late exactly when the slot is silent. -/
theorem CycleInv.writesSlot (h : CycleInv s g) (hwf : s.Wf) (hwf' : s'.Wf) (h0 : 0 < num)
    (hw : WritesSlot num deviceID s.toStorage s'.toStorage) (hrtc : s'.rtcCounter = s.rtcCounter)
    (hnew : deviceID = 0 ∨ ∀ i, s.globalDevice.id i ≠ deviceID) {sender : Option UInt32}
    (hsender : ∀ d, sender = some d → d = deviceID) : CycleInv s' (g.next sender s s') := by
  have htime : ∀ j, s'.globalDevice.idTime j = s.globalDevice.idTime j :=
    fun j => congrArg Slot.idTime (hw.slot j)
  have hmessage : ∀ j, s'.globalDevice.getMesssage j = s.globalDevice.getMesssage j :=
    fun j => congrArg Slot.getMesssage (hw.slot j)
  have hsilent : ∀ j, SlotSilent j s' ↔ SlotSilent j s := by
    intro j
    rw [SlotSilent, SlotSilent, hrtc, htime, hmessage]
  have hunknown : deviceID ≠ 0 → ¬Enrolled deviceID s.toStorage := by
    intro hd hr
    obtain ⟨i, hi⟩ := (hwf.enrolled_iff.mp hr).2
    exact hnew.elim hd fun hnew => hnew i hi
  have hlearned : ∀ d, LearnedSilent d s s' →
      d = deviceID ∧ s'.slotOf d = num ∧ SlotSilent num s := by
    rintro d ⟨hr, hne, hquiet⟩
    have hid := hwf'.id_slotOf hr.2
    rw [hw.id] at hid
    split at hid
    · rename_i hslot
      rw [hslot] at hquiet
      exact ⟨hid.symm, hslot, hquiet⟩
    · exact absurd hid hne
  exact {
    counter := by rw [hrtc]; exact h.counter
    time := fun i => htime i ▸ h.time i
    message := fun i hi => hmessage i ▸ h.message i hi
    kept := fun d hd => (of_decide_eq_true hd).2
    late := by
      intro d hd
      obtain ⟨hlate, -, hr⟩ | hlearn := of_decide_eq_true hd
      · exact ⟨hr, by simp [Cycle.next, (h.late d hlate).2]⟩
      · refine ⟨hlearn.1, ?_⟩
        obtain ⟨rfl, -, -⟩ := hlearned d hlearn
        have hkept : g.kept d ≠ true := fun hk => hunknown hlearn.1.1 (h.kept d hk)
        simp [Cycle.next, hkept]
    silent := by
      intro i hi
      have hr : Enrolled (s'.globalDevice.id i) s'.toStorage :=
        hwf'.enrolled_iff.mpr ⟨hi, i, rfl⟩
      rw [hsilent]
      rw [hw.id] at hi hr ⊢
      split at hi
      · rename_i hin
        subst hin
        rw [if_pos rfl] at hr ⊢
        -- the new device of the slot
        have hslot : s'.slotOf deviceID = i := by
          have hfind := (hwf'.slotOf_id (i := i) (by rw [hw.id, if_pos rfl]; exact hi)).1
          rwa [hw.id, if_pos rfl] at hfind
        have hkept : g.kept deviceID = false :=
          Bool.eq_false_iff.mpr fun hk => hunknown hi (h.kept _ hk)
        have hlate : g.late deviceID = false :=
          Bool.eq_false_iff.mpr fun hl => hunknown hi (h.late _ hl).1
        have hne : s.globalDevice.id i ≠ deviceID := hnew.elim (fun h => absurd h hi) fun h => h i
        simp [Cycle.next, LearnedSilent, hkept, hlate, hr, hslot, hne]
      · rename_i hin
        rw [if_neg hin] at hr ⊢
        have hs : sender ≠ some (s.globalDevice.id i) := by
          intro hs
          have hid := hsender _ hs
          exact hnew.elim (fun h => hi (hid.trans h)) fun h => h i hid
        have hnot : ¬LearnedSilent (s.globalDevice.id i) s s' := by
          intro hl
          obtain ⟨hid, -, -⟩ := hlearned _ hl
          exact hnew.elim (fun h => hi (hid.trans h)) fun h => h i hid
        rw [h.silent i hi]
        simp [Cycle.next, hs, hnot, hr] }

/-! ## hours and starts -/

private theorem toNat_age {c : Slot} (h : c.idTime.toNat ≤ 25) :
    c.age.idTime.toNat = min 25 (c.idTime.toNat + 1) ∧ c.age.getMesssage = c.getMesssage := by
  have h25 : (25 : UInt32).toNat = 25 := rfl
  have h1 : (1 : UInt32).toNat = 1 := rfl
  unfold Slot.age
  split
  · rename_i hlt
    rw [UInt32.lt_iff_toNat_lt] at hlt
    refine ⟨?_, rfl⟩
    show (c.idTime + 1).toNat = _
    rw [UInt32.toNat_add]
    omega
  · rename_i hge
    rw [UInt32.lt_iff_toNat_lt] at hge
    exact ⟨by omega, rfl⟩

/-- The timestamps after `Update_All_Time`. -/
private theorem times_aged (h : CycleInv s g) (hwf : s.Wf) {pins : Pins} {t : State}
    (ht : aged pins s = some t) (i : Nat) :
    (t.globalDevice.idTime i).toNat ≤ 25 ∧
      t.globalDevice.getMesssage i = s.globalDevice.getMesssage i ∧
      (s.globalDevice.id i ≠ 0 → (t.globalDevice.idTime i).toNat =
        min 25 ((s.globalDevice.idTime i).toNat + 1)) := by
  have htime := h.time i
  have hage := toNat_age (c := s.slot i) htime
  have hslot := slot_aged hwf ht i
  have hidTime : t.globalDevice.idTime i = (t.slot i).idTime := rfl
  have hmessage : t.globalDevice.getMesssage i = (t.slot i).getMesssage := rfl
  rw [hidTime, hmessage, hslot]
  split
  · rw [hage.1, hage.2]
    exact ⟨min_le_left _ _, rfl, fun _ => rfl⟩
  · rename_i hi
    refine ⟨htime, rfl, fun hid => absurd ⟨hwf.table.pos_of_used hid, ?_⟩ hi⟩
    by_contra hbeyond
    exact hid (hwf.table.beyond i (Nat.lt_of_not_le hbeyond))

/-- An hour within the cycle. -/
theorem CycleInv.aged (h : CycleInv s g) (hwf : s.Wf) {pins : Pins} {t : State}
    (ht : aged pins s = some t) (hlt : t.rtcCounter < 24) :
    CycleInv { t with rtcCounter := t.rtcCounter + 1 }
      (g.next none s { t with rtcCounter := t.rtcCounter + 1 }) := by
  have hsame := (onlyTimes_updateAllTime hwf (updateAllTime_of_aged ht)).same
  have hrtc : t.rtcCounter = s.rtcCounter := (registryOnly_aged hwf ht).rtcCounter
  have htimes := times_aged h hwf ht
  have hsucc : (t.rtcCounter + 1).toNat = s.rtcCounter.toNat + 1 ∧ s.rtcCounter.toNat < 24 := by
    have h24 : (24 : UInt8).toNat = 24 := rfl
    have h1 : (1 : UInt8).toNat = 1 := rfl
    rw [hrtc, UInt8.lt_iff_toNat_lt] at hlt
    rw [hrtc, UInt8.toNat_add]
    omega
  refine h.next hwf hsame.num hsame.id (by rw [hsucc.1]; exact hsucc.2) (fun i => (htimes i).1)
    (fun i hi => ?_) (fun _ _ hs => by cases hs) fun i hi _ => ?_
  · show t.globalDevice.getMesssage i = 0 ∨ t.globalDevice.getMesssage i = 1
    rw [(htimes i).2.1]
    exact h.message i hi
  · show (t.rtcCounter + 1).toNat ≤ (t.globalDevice.idTime i).toNat ∧
      t.globalDevice.getMesssage i = 0 ↔ _
    rw [(htimes i).2.1, (htimes i).2.2 hi, hsucc.1]
    have h25 := h.time i
    exact and_congr_left fun _ => by omega

/-- `Clear_All_Time` takes every message flag of a device down. -/
theorem CycleInv.detected (h : CycleInv s g) (hr : registryMachine.Reachable s) {pins : Pins}
    {t u : State} (ht : WaterValve.aged pins s = some t) (hu : detectAllTime t = some u) :
    CycleInv { u with rtcCounter := 0 } (.start { u with rtcCounter := 0 }) := by
  have hwf := registryMachine_wf hr
  have htimes := times_aged h hwf ht
  obtain ⟨-, st, honly, hst, hclear⟩ := detectAllTime_spec (reach_aged hr ht) hu
  have hsame := (onlyTimes_clearAllTime hst hclear).same
  have hbefore : ∀ i, (st.slot i).idTime = t.globalDevice.idTime i ∧
      (st.slot i).getMesssage = s.globalDevice.getMesssage i := by
    intro i
    obtain ⟨alive, hi⟩ := honly.slot i
    rw [hi]
    exact ⟨rfl, (htimes i).2.1⟩
  have hafter : ∀ i, u.slot i = if 0 < i ∧ i ≤ st.globalDevice.num then (st.slot i).clear
      else st.slot i := slot_clearAllTime hst hclear
  have hcleared : ∀ i, (u.slot i).idTime.toNat ≤ 25 ∧
      (0 < i → (u.slot i).getMesssage = 0 ∨ (u.slot i).getMesssage = 1) ∧
      (u.globalDevice.id i ≠ 0 → (u.slot i).getMesssage = 0) := by
    intro i
    have h25 : (st.slot i).idTime.toNat ≤ 25 := (hbefore i).1 ▸ (htimes i).1
    have hmessage : 0 < i → (st.slot i).getMesssage = 0 ∨ (st.slot i).getMesssage = 1 :=
      fun hi => (hbefore i).2 ▸ h.message i hi
    rw [hafter]
    split
    · rename_i hi
      unfold Slot.clear
      split
      · exact ⟨Nat.zero_le 25, fun _ => .inl rfl, fun _ => rfl⟩
      · rename_i hkeep
        have hdown := (hmessage hi.1).resolve_right fun h1 => hkeep (.inr h1)
        exact ⟨h25, fun _ => .inl hdown, fun _ => hdown⟩
    · rename_i hi
      refine ⟨h25, hmessage, fun hid => absurd ⟨?_, ?_⟩ hi⟩
      · exact Nat.pos_of_ne_zero fun h0 => hid (by rw [hsame.id, h0]; exact hst.table.zero)
      · by_contra hbeyond
        exact hid (by rw [hsame.id]; exact hst.table.beyond i (Nat.lt_of_not_le hbeyond))
  exact .start rfl (fun i => (hcleared i).1) (fun i => (hcleared i).2.1) (hst.of_same hsame)
    fun i => (hcleared i).2.2

/-- A load starts every timestamp at 0. -/
theorem times_loadDevice2Memory {st st' : Storage} (h : st.loadDevice2Memory = some st') (i : Nat) :
    st'.globalDevice.idTime i = 0 ∧ st'.globalDevice.getMesssage i = 0 := by
  unfold Storage.loadDevice2Memory at h
  obtain ⟨d, hd, rfl⟩ := Option.map_eq_some_iff.mp h
  have hrun := Loop.of_forUpTo (P := fun _ (d : DeviceInfo) => d.idTime i = 0 ∧ d.getMesssage i = 0)
    hd ⟨rfl, rfl⟩
  refine hrun fun j d _ _ hd => ?_
  unfold Storage.loadSlot
  dsimp only
  split <;> exact hd

theorem CycleInv.boot {rom : UInt32} {pins : Pins} {env : Env} (hwf : s.Wf)
    (hs : boot rom pins env = some s) : CycleInv s (.start s) := by
  obtain ⟨st, hst, hview⟩ := view_boot hs
  have htimes := times_loadDevice2Memory hst
  have hidTime : s.globalDevice.idTime = st.globalDevice.idTime :=
    congrArg (fun v : View => v.device.idTime) hview
  have hmessage : s.globalDevice.getMesssage = st.globalDevice.getMesssage :=
    congrArg (fun v : View => v.device.getMesssage) hview
  refine .start (congrArg View.rtcCounter hview) (fun i => ?_) (fun i _ => ?_) hwf fun i _ => ?_
  · rw [hidTime, (htimes i).1]
    decide
  · rw [hmessage, (htimes i).2]
    exact .inl rfl
  · rw [hmessage, (htimes i).2]

/-! ## runs -/

variable {rom : UInt32} {pins : Pins} {t : State}

theorem CycleInv.node (h : CycleInv s g) (hwf : s.Wf) (hwf' : s'.Wf) {rssi : Int} {buf : Message}
    (hh : Handles rom s (.node rssi buf) s') :
    CycleInv s' (g.next (some buf.fromID.toUInt32) s s') := by
  have hrtc := (node_clock hh).1
  obtain hheard | ⟨num, -, hnum, hw⟩ := node_outcome hwf hh
  · exact h.heardOf hwf hheard hrtc
  · obtain ⟨h0, hv⟩ := Storage.learnSlot_spec hnum
    exact h.writesSlot hwf hwf' h0 hw hrtc (hwf.fresh_of_invalid hv) fun d hd =>
      (Option.some.inj hd).symm

theorem CycleInv.gateway (h : CycleInv s g) (hwf : s.Wf) {buf : Message}
    (hwf' : (gatewayCommand buf (heartRefresh buf.fromID.toUInt32 s)).Wf) :
    CycleInv (gatewayCommand buf (heartRefresh buf.fromID.toUInt32 s))
      (g.next none s (gatewayCommand buf (heartRefresh buf.fromID.toUInt32 s))) := by
  have hst := heartRefresh_toStorage buf.fromID.toUInt32 s
  obtain ⟨d, hview⟩ := view_gateway buf s
  have hrtc : _ = s.rtcCounter := congrArg View.rtcCounter hview
  have hout := gateway_outcome (s := heartRefresh buf.fromID.toUInt32 s) (by rwa [hst]) buf
  rw [hst] at hout
  obtain ⟨-, hs, hw⟩ | hsame := hout
  · exact h.writesSlot hwf hwf' (Nat.pos_of_ne_zero hs) hw hrtc (.inl rfl) fun d hd => by cases hd
  · exact h.of_noFlag hwf hsame hrtc

theorem CycleInv.step (h : CycleInv s g) (hr : registryMachine.Reachable s) {a : Action}
    (hs : step rom s a = some s') : CycleInv s' (observeCycle s g a s') := by
  have hwf := registryMachine_wf hr
  have hwf' := registryMachine_wf (reach_step hr hs)
  have hevent := handles_event hs
  unfold observeCycle
  generalize event s a = e at hevent
  cases hevent with
  | quiet hview =>
    exact h.of_noFlag hwf (congrArg View.device hview) (congrArg View.rtcCounter hview)
  | @learn rssi buf haccept hlearn =>
      have hh : Handles rom s (.node rssi buf) _ := .learn haccept hlearn
      exact h.node hwf hwf' hh
  | @solve rssi buf haccept hlearn =>
      have hh : Handles rom s (.node rssi buf) _ := .solve haccept hlearn
      exact h.node hwf hwf' hh
  | gateway haccept => exact h.gateway hwf hwf'
  | hour hs =>
      rw [rtcTimerEntry_eq] at hs
      obtain ⟨t, ht, hs⟩ := Option.bind_eq_some_iff.mp hs
      have hrtc : t.rtcCounter = s.rtcCounter := (registryOnly_aged hwf ht).rtcCounter
      split at hs
      · rename_i hlt
        cases hs
        rw [if_neg (by simpa [Event.startsCycle, ← hrtc] using hlt)]
        exact h.aged hwf ht hlt
      · rename_i hge
        obtain ⟨u, hu, rfl⟩ := Option.map_eq_some_iff.mp hs
        rw [if_pos (by simpa [Event.startsCycle, ← hrtc] using hge)]
        exact h.detected hr ht hu
  | restart hs => exact .boot hwf' hs
  | delayEnds hview =>
      exact h.of_noFlag hwf (congrArg View.device hview) (congrArg View.rtcCounter hview)
  | sent => exact h.of_noFlag hwf rfl rfl

/-- **The timestamps of every reachable state are the history of its cycle.** -/
theorem cycleInv (h : (cycleMachine rom).Reachable (s, g)) : CycleInv s g := by
  have hinv : registryMachine.Reachable s ∧ CycleInv s g := by
    refine Machine.ReachableVia.invariant
      (I := fun p : State × Cycle => registryMachine.Reachable p.1 ∧ CycleInv p.1 p.2) h
      (fun p hp => ?_) fun p a p' hI _ hs => ?_
    · obtain ⟨⟨pins, hboot⟩, hg⟩ := hp
      have hr := reachable_registryMachine (.init ⟨pins, hboot⟩ : (valveMachine rom).Reachable p.1)
      refine ⟨hr, ?_⟩
      rw [hg]
      exact .boot (registryMachine_wf hr) hboot
    · obtain ⟨hs, hg⟩ := Machine.observed_step_eq_some.mp hs
      rw [hg]
      exact ⟨reach_step hI.1 hs, hI.2.step hI.1 hs⟩
  exact hinv.2

/-! ## the verdict -/

/-- A device the detection is about: registered, and no gateway. -/
def NodeSlot (i : Nat) (s : State) : Prop :=
  s.globalDevice.id i ≠ 0 ∧ ¬IsGateway (s.globalDevice.id i)

/-- The device was registered during the whole cycle and no frame from it was
accepted. -/
def Cycle.Unheard (deviceID : UInt32) (g : Cycle) : Prop :=
  g.kept deviceID ∧ g.heard deviceID = false

/-- The device is reported although it is new: it was learned into a silent slot
outside `GatewayNum`, and no frame has been accepted from it since. -/
def ReportedLate (i : Nat) (s : State) (g : Cycle) : Prop :=
  g.late (s.globalDevice.id i) ∧ (i = s.globalDevice.doorNum ∨ i ≠ s.globalDevice.gatewayNum)

/-- The device is not reported although it was silent: it is in the slot
`GatewayNum` names. -/
def Overlooked (i : Nat) (s : State) (g : Cycle) : Prop :=
  g.Unheard (s.globalDevice.id i) ∧ i ≠ s.globalDevice.doorNum ∧ i = s.globalDevice.gatewayNum

/-- The unit of `started` at the start of its first cycle. -/
def cycleStarted : State × Cycle := (started, .start started)

theorem cycleStarted_reachable : (cycleMachine 0).Reachable cycleStarted :=
  .init ⟨⟨dryPins, boot_started⟩, rfl⟩

/-- A cycle of 24 hours, of which the last is still to come. -/
def longDay : List Action := List.replicate 24 (.rtcAlarm dryPins)

end WaterValve
