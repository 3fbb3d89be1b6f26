import WaterValve.Events
import WaterValve.SystemRegistry

/-!
# WaterValve.Hour

The hourly round of the clock, slot by slot: `Update_All_Time` ages every slot,
and every twenty-fifth round `Detect_All_Time` treats the silent ones as
offline and `Clear_All_Time` starts the next cycle.
-/

namespace WaterValve

/-! ## ageing and clearing -/

/-- An hour passes for a slot. -/
def Slot.age (c : Slot) : Slot := if c.idTime < 25 then { c with idTime := c.idTime + 1 } else c

/-- A slot starts a new cycle, unless it was silent in the last one. -/
def Slot.clear (c : Slot) : Slot :=
  if c.idTime < 25 ∨ c.getMesssage = 1 then { c with getMesssage := 0, idTime := 0 } else c

section

variable {st st' : Storage}

/-- Ageing one slot. -/
theorem slot_ageSlot (i : Nat) (st : Storage) (j : Nat) :
    (Storage.ageSlot i st).slot j = if j = i then (st.slot j).age else st.slot j := by
  by_cases hj : j = i
  · subst hj
    rw [if_pos rfl]
    unfold Storage.ageSlot Slot.age
    by_cases hlt : st.globalDevice.idTime j < 25 <;> simp [Storage.slot, hlt]
  · rw [if_neg hj]
    unfold Storage.ageSlot
    dsimp only
    split <;> simp [Storage.slot, hj]

/-- Clearing one slot. -/
theorem slot_clearSlot (i : Nat) (st : Storage) (j : Nat) :
    (Storage.clearSlot i st).slot j = if j = i then (st.slot j).clear else st.slot j := by
  by_cases hj : j = i
  · subst hj
    rw [if_pos rfl]
    unfold Storage.clearSlot Slot.clear
    by_cases hlt : st.globalDevice.idTime j < 25 ∨ st.globalDevice.getMesssage j = 1 <;>
      simp [Storage.slot, hlt]
  · rw [if_neg hj]
    unfold Storage.clearSlot
    dsimp only
    split <;> simp [Storage.slot, hj]

/-- A loop whose rounds each change their own slot changes the slots up to its
bound. -/
private theorem slot_forUpTo {bound : Nat} {body : Nat → Storage → Storage} {f : Slot → Slot}
    (hbody : ∀ i st j, (body i st).slot j = if j = i then f (st.slot j) else st.slot j)
    (hb : bound < 255) (h : Loop.forUpTo bound body st = some st') (j : Nat) :
    st'.slot j = if 0 < j ∧ j ≤ bound then f (st.slot j) else st.slot j := by
  have hinv : ∀ i t, 1 ≤ i → i ≤ bound →
      (∀ j, t.slot j = if 0 < j ∧ j < i then f (st.slot j) else st.slot j) →
      ∀ j, (body i t).slot j = if 0 < j ∧ j < i + 1 then f (st.slot j) else st.slot j := by
    intro i t h1 _ ht j
    rw [hbody, ht]
    by_cases hji : j = i
    · subst hji
      rw [if_pos rfl, if_neg (by omega), if_pos (by omega)]
    · rw [if_neg hji]
      exact if_congr (by omega) rfl rfl
  obtain ⟨st'', hrun, hslot⟩ := Loop.forUpTo_invariant
    (P := fun i (t : Storage) =>
      ∀ j, t.slot j = if 0 < j ∧ j < i then f (st.slot j) else st.slot j)
    hb (fun j => by rw [if_neg (by omega)]) hinv
  obtain rfl := Option.some.inj (hrun.symm.trans h)
  rw [hslot]
  exact if_congr (by omega) rfl rfl

/-- `Update_All_Time` ages every slot up to `Num` once. -/
theorem slot_updateAllTime (hwf : st.Wf) (h : st.updateAllTime = some st') (j : Nat) :
    st'.slot j = if 0 < j ∧ j ≤ st.globalDevice.num then (st.slot j).age else st.slot j := by
  have hnum := hwf.num_le
  unfold Storage.updateAllTime at h
  rw [hwf.searchStart_eq] at h
  split at h
  · cases h
    rw [if_neg (by omega)]
  · exact slot_forUpTo slot_ageSlot (by omega) h j

/-- `Clear_All_Time` clears every slot up to `Num` once. -/
theorem slot_clearAllTime (hwf : st.Wf) (h : st.clearAllTime = some st') (j : Nat) :
    st'.slot j = if 0 < j ∧ j ≤ st.globalDevice.num then (st.slot j).clear else st.slot j := by
  have hnum := hwf.num_le
  unfold Storage.clearAllTime at h
  rw [hwf.searchStart_eq] at h
  split at h
  · cases h
    rw [if_neg (by omega)]
  · exact slot_forUpTo slot_clearSlot (by omega) h j

end

/-! ## detection -/

variable {s s' : State} {num i : Nat}

/-- `Detect_All_Time` treats the device in this slot as offline. -/
def TreatsOffline (num : Nat) (s : State) : Prop :=
  s.globalDevice.idTime num = 25 ∧ s.globalDevice.getMesssage num = 0 ∧
    s.globalDevice.id num ≠ 0 ∧
    (num = s.globalDevice.doorNum ∨ num ≠ s.globalDevice.gatewayNum)

instance (num : Nat) (s : State) : Decidable (TreatsOffline num s) :=
  inferInstanceAs (Decidable (_ ∧ _))

/-- A device is treated as offline: the gateway is told, and `Alive` is
cleared. -/
def reportOffline (num : Nat) (s : State) : State :=
  (warUploadGW 1 (s.globalDevice.id num) 4 1 s).withStorage
    (·.deviceAliveChange (s.globalDevice.id num) 0)

/-- One round of the loop of `Detect_All_Time`. -/
theorem detectSlot_eq (num : Nat) (warnFlag : Bool) (s : State) :
    detectSlot num (warnFlag, s) =
      if TreatsOffline num s then
        (warnFlag || num ≠ s.globalDevice.doorNum, reportOffline num s)
      else (warnFlag, s) := by
  unfold detectSlot
  dsimp only
  by_cases hsilent : s.globalDevice.idTime num = 25 ∧ s.globalDevice.getMesssage num = 0 ∧
      s.globalDevice.id num ≠ 0
  · rw [if_pos hsilent]
    by_cases hdoor : num = s.globalDevice.doorNum
    · have htreats : TreatsOffline num s :=
        ⟨hsilent.1, hsilent.2.1, hsilent.2.2, Or.inl hdoor⟩
      rw [if_pos hdoor, if_pos htreats, decide_eq_false (not_not.mpr hdoor), Bool.or_false]
      rfl
    · by_cases hgateway : num = s.globalDevice.gatewayNum
      · have htreats : ¬TreatsOffline num s := fun h => h.2.2.2.elim hdoor fun h => h hgateway
        rw [if_neg hdoor, if_pos hgateway, if_neg htreats]
      · have htreats : TreatsOffline num s :=
          ⟨hsilent.1, hsilent.2.1, hsilent.2.2, Or.inr hgateway⟩
        rw [if_neg hdoor, if_neg hgateway, if_pos htreats, decide_eq_true hdoor, Bool.or_true]
        rfl
  · have htreats : ¬TreatsOffline num s := fun h => hsilent ⟨h.1, h.2.1, h.2.2.1⟩
    rw [if_neg hsilent, if_neg htreats]

/-- The slots the loop of `Detect_All_Time` treats as offline. -/
def offlineSlots : Nat → Bool × State → List Nat
  | 0, _ => []
  | num + 1, p =>
    let rest := offlineSlots num (detectSlot (num + 1) p)
    if TreatsOffline (num + 1) p.2 then (num + 1) :: rest else rest

/-- Registries that differ in `Alive` only. -/
structure OnlyAlive (st st' : Storage) : Prop where
  num : st'.globalDevice.num = st.globalDevice.num
  doorNum : st'.globalDevice.doorNum = st.globalDevice.doorNum
  gatewayNum : st'.globalDevice.gatewayNum = st.globalDevice.gatewayNum
  slot : ∀ j, ∃ alive, st'.slot j = { st.slot j with alive }

theorem OnlyAlive.refl (st : Storage) : OnlyAlive st st :=
  ⟨rfl, rfl, rfl, fun _ => ⟨_, rfl⟩⟩

theorem OnlyAlive.trans {st₁ st₂ st₃ : Storage} (h : OnlyAlive st₁ st₂) (h' : OnlyAlive st₂ st₃) :
    OnlyAlive st₁ st₃ where
  num := h'.num.trans h.num
  doorNum := h'.doorNum.trans h.doorNum
  gatewayNum := h'.gatewayNum.trans h.gatewayNum
  slot := by
    intro j
    obtain ⟨alive, hj⟩ := h.slot j
    obtain ⟨alive', hj'⟩ := h'.slot j
    exact ⟨alive', by rw [hj', hj]⟩

/-- Reporting a slot does not change which slots are offline. -/
theorem OnlyAlive.treatsOffline (h : OnlyAlive s.toStorage s'.toStorage) (num : Nat) :
    TreatsOffline num s' ↔ TreatsOffline num s := by
  obtain ⟨alive, hslot⟩ := h.slot num
  obtain ⟨hid, -, -, -, htime, -, hmessage⟩ := Slot.mk.inj hslot
  unfold TreatsOffline
  rw [htime, hmessage, hid, h.doorNum, h.gatewayNum]
  rfl

/-- The message flag of a silent device is 0 already. -/
theorem onlyAlive_reportOffline (hwf : s.Wf) (h : TreatsOffline num s) :
    OnlyAlive s.toStorage (reportOffline num s).toStorage := by
  have hupdate := hwf.updatesSlot_alive h.2.2.1 0
  have hst : (reportOffline num s).toStorage =
      (s.deviceAliveChange (s.globalDevice.id num) 0).2 := by
    rw [reportOffline, State.withStorage, warUploadGW_toStorage]
  rw [hst]
  have honly := hupdate.only
  refine ⟨honly.num, honly.doorNum, honly.gatewayNum, fun j => ?_⟩
  by_cases hj : j = num
  · subst hj
    refine ⟨0, hupdate.slot.trans ?_⟩
    rw [Slot.mk.injEq]
    exact ⟨rfl, rfl, rfl, rfl, rfl, rfl, h.2.1.symm⟩
  · exact ⟨_, honly.slot j hj⟩

/-- A report touches the registry and the queue only. -/
theorem view_reportOffline (num : Nat) (s : State) : view (reportOffline num s) =
    { view s with device := (reportOffline num s).globalDevice.noFlag } := by
  have honly : OnlyDevice (s.globalDevice.id num) _ s.toStorage
      (s.deviceAliveChange (s.globalDevice.id num) 0).2 := onlyDevice_deviceAliveChange 0
  have hst : (warUploadGW 1 (s.globalDevice.id num) 4 1 s).toStorage = s.toStorage := by simp
  unfold reportOffline
  rw [view_withStorage (by rw [hst]; exact honly.lastFlag), view_warUploadGW]
  rfl

/-- What a round of the detection, or several, may change. -/
structure Detected (s s' : State) : Prop where
  wf : s'.Wf
  only : OnlyAlive s.toStorage s'.toStorage
  other : RegistryOnly s s'

theorem Detected.refl (h : s.Wf) : Detected s s := ⟨h, .refl _, .of_view rfl⟩

theorem Detected.trans {s₁ s₂ s₃ : State} (h : Detected s₁ s₂) (h' : Detected s₂ s₃) :
    Detected s₁ s₃ :=
  ⟨h'.wf, h.only.trans h'.only, h.other.trans h'.other⟩

/-- One round of the loop only clears `Alive` columns and reports. -/
theorem detected_detectSlot (hwf : s.Wf) (num : Nat) (warnFlag : Bool) :
    Detected s (detectSlot num (warnFlag, s)).2 := by
  rw [detectSlot_eq]
  split
  · rename_i htreats
    refine ⟨?_, onlyAlive_reportOffline hwf htreats, ⟨_, view_reportOffline num s⟩⟩
    show Storage.Wf (reportOffline num s).toStorage
    rw [reportOffline, State.withStorage, warUploadGW_toStorage]
    exact hwf.onlyDevice (onlyDevice_deviceAliveChange 0)
  · exact .refl hwf

/-- So does the whole loop. -/
theorem detected_detectLoop (n : Nat) (p : Bool × State) (hwf : p.2.Wf) :
    Detected p.2 (detectLoop n p).2 := by
  induction n generalizing p with
  | zero => exact .refl hwf
  | succ n ih =>
      have hround := detected_detectSlot hwf (n + 1) p.1
      exact hround.trans (ih _ hround.wf)

/-- **The loop treats as offline the devices that are silent when it starts.** -/
theorem mem_offlineSlots (n : Nat) (p : Bool × State) (hwf : p.2.Wf) (i : Nat) :
    i ∈ offlineSlots n p ↔ 0 < i ∧ i ≤ n ∧ TreatsOffline i p.2 := by
  induction n generalizing p with
  | zero =>
      simp only [offlineSlots, List.not_mem_nil, false_iff]
      omega
  | succ n ih =>
      have hround := detected_detectSlot hwf (n + 1) p.1
      have hrest : i ∈ offlineSlots n (detectSlot (n + 1) p) ↔
          0 < i ∧ i ≤ n ∧ TreatsOffline i p.2 := by
        rw [ih _ hround.wf, hround.only.treatsOffline i]
      unfold offlineSlots
      dsimp only
      split
      · rename_i htreats
        rw [List.mem_cons, hrest]
        constructor
        · rintro (rfl | h)
          · exact ⟨Nat.succ_pos n, le_refl _, htreats⟩
          · exact ⟨h.1, Nat.le_succ_of_le h.2.1, h.2.2⟩
        · rintro ⟨h0, hle, h⟩
          exact (Nat.le_succ_iff.mp hle).elim (fun hle => .inr ⟨h0, hle, h⟩) .inl
      · rename_i htreats
        rw [hrest]
        constructor
        · exact fun h => ⟨h.1, Nat.le_succ_of_le h.2.1, h.2.2⟩
        · rintro ⟨h0, hle, h⟩
          obtain hle | rfl := Nat.le_succ_iff.mp hle
          · exact ⟨h0, hle, h⟩
          · exact absurd h htreats

/-- **The loop raises its flag** for a device other than the door. -/
theorem detectLoop_fst (n : Nat) (p : Bool × State) (hwf : p.2.Wf) :
    (detectLoop n p).1 = true ↔ p.1 = true ∨
      ∃ i, 0 < i ∧ i ≤ n ∧ TreatsOffline i p.2 ∧ i ≠ p.2.globalDevice.doorNum := by
  induction n generalizing p with
  | zero =>
      refine ⟨.inl, ?_⟩
      rintro (h | ⟨i, h0, hle, -⟩)
      · exact h
      · omega
  | succ n ih =>
      have hround := detected_detectSlot hwf (n + 1) p.1
      have hfst : (detectSlot (n + 1) p).1 = true ↔ p.1 = true ∨
          TreatsOffline (n + 1) p.2 ∧ n + 1 ≠ p.2.globalDevice.doorNum := by
        rw [detectSlot_eq]
        split
        · rename_i htreats
          simp [htreats]
        · rename_i htreats
          simp [htreats]
      have hdoor : (detectSlot (n + 1) p).2.globalDevice.doorNum = p.2.globalDevice.doorNum :=
        hround.only.doorNum
      rw [detectLoop, ih _ hround.wf, hfst, hdoor, or_assoc]
      refine or_congr_right ⟨?_, ?_⟩
      · rintro (⟨htreats, hne⟩ | ⟨i, h0, hle, htreats, hne⟩)
        · exact ⟨n + 1, Nat.succ_pos n, le_refl _, htreats, hne⟩
        · exact ⟨i, h0, Nat.le_succ_of_le hle, (hround.only.treatsOffline i).mp htreats, hne⟩
      · rintro ⟨i, h0, hle, htreats, hne⟩
        obtain hle | rfl := Nat.le_succ_iff.mp hle
        · exact .inr ⟨i, h0, hle, (hround.only.treatsOffline i).mpr htreats, hne⟩
        · exact .inl ⟨htreats, hne⟩

/-! ## the round -/

/-- The beginning of `RTC_Timer_Entry`: the hour is counted and, every 120
hours, the valve is exercised. -/
def hourBegins (pins : Pins) (s : State) : State :=
  let s := { s with rtcHours := s.rtcHours + 1 }
  if s.rtcHours % 120 = 0 then motoDetect pins s else s

/-- The state after `Update_All_Time`. -/
def aged (pins : Pins) (s : State) : Option State :=
  (hourBegins pins s).updateAllTime.map fun st => { hourBegins pins s with toStorage := st }

/-- The hour as ageing and what follows it. -/
theorem rtcTimerEntry_eq (pins : Pins) (s : State) :
    rtcTimerEntry pins s = (aged pins s).bind fun t =>
      if t.rtcCounter < 24 then some { t with rtcCounter := t.rtcCounter + 1 }
      else (detectAllTime t).map fun u => { u with rtcCounter := 0 } := by
  show (hourBegins pins s).updateAllTime.bind _ = _
  unfold aged
  cases (hourBegins pins s).updateAllTime <;> rfl

/-- What an hour begins with leaves the registry alone. -/
theorem hourBegins_toStorage (pins : Pins) (s : State) :
    (hourBegins pins s).toStorage = s.toStorage := by
  unfold hourBegins
  dsimp only
  split
  · exact motoDetect_toStorage _ _
  · rfl

/-- Nor does it touch the valve or the warnings. -/
theorem view_hourBegins (pins : Pins) (s : State) : view (hourBegins pins s) = view s := by
  unfold hourBegins
  dsimp only
  split
  · exact view_motoDetect _ _
  · rfl

variable {pins : Pins} {t : State}

/-- What an aged state holds is the aged registry. -/
theorem updateAllTime_of_aged (h : aged pins s = some t) :
    s.updateAllTime = some t.toStorage := by
  unfold aged at h
  rw [hourBegins_toStorage] at h
  obtain ⟨st, hst, rfl⟩ := Option.map_eq_some_iff.mp h
  exact hst

/-- Ageing touches the registry only. -/
private theorem registryOnly_onlyTimes {st : Storage} (h : OnlyTimes s.toStorage st) :
    RegistryOnly s { s with toStorage := st } := by
  obtain ⟨idTime, getMesssage, rfl⟩ := h
  exact ⟨_, rfl⟩

/-- Ageing shows in the registry only. -/
theorem registryOnly_aged (hwf : s.Wf) (h : aged pins s = some t) : RegistryOnly s t := by
  have hst := updateAllTime_of_aged h
  unfold aged at h
  obtain ⟨st, hst', rfl⟩ := Option.map_eq_some_iff.mp h
  rw [hourBegins_toStorage] at hst'
  have htimes : OnlyTimes (hourBegins pins s).toStorage st := by
    rw [hourBegins_toStorage]
    exact onlyTimes_updateAllTime hwf hst'
  exact (RegistryOnly.of_view (view_hourBegins pins s)).trans (registryOnly_onlyTimes htimes)

/-- Ageing is a step of the registry. -/
theorem reach_aged (hr : registryMachine.Reachable s) (h : aged pins s = some t) :
    registryMachine.Reachable t := by
  have hbegins := reach_other hr (hourBegins_toStorage pins s)
  exact hbegins.step (a := .updateAllTime) h

/-- Outside `Alive` the two registries are the same. -/
theorem OnlyAlive.congr {st st' st'' : Storage} (h : OnlyAlive st st')
    (hsame : st''.globalDevice.noFlag = st'.globalDevice.noFlag) : OnlyAlive st st'' where
  num := (congrArg DeviceInfo.num hsame).trans h.num
  doorNum := (congrArg DeviceInfo.doorNum hsame).trans h.doorNum
  gatewayNum := (congrArg DeviceInfo.gatewayNum hsame).trans h.gatewayNum
  slot := by
    intro j
    rw [slot_of_noFlag hsame j]
    exact h.slot j

/-- **`Detect_All_Time`** changes `Alive` and then clears the slots. -/
theorem detectAllTime_spec (hr : registryMachine.Reachable s) (h : detectAllTime s = some s') :
    RegistryOnly s s' ∧ ∃ st : Storage, OnlyAlive s.toStorage st ∧ st.Wf ∧
      st.clearAllTime = some s'.toStorage := by
  have hwf := registryMachine_wf hr
  unfold detectAllTime at h
  split at h
  · rename_i hnum
    cases h
    refine ⟨.of_view rfl, s.toStorage, .refl _, hwf, ?_⟩
    rw [Storage.clearAllTime, if_pos hnum]
  · have hloop := detected_detectLoop s.searchStart (false, s) hwf
    have hreach := reach_detectLoop s.searchStart (false, s) hr
    dsimp only at h
    generalize detectLoop s.searchStart (false, s) = p at h hloop hreach
    obtain ⟨warnFlag, u⟩ := p
    -- the offline warning may close the valve, which shows in neither
    have hwarn : view (if warnFlag then warningEnableNum 5 u else u) = view u ∧
        registryMachine.Reachable (if warnFlag then warningEnableNum 5 u else u) := by
      split
      · exact ⟨view_warningEnableNum (by decide) (by decide) u, reach_warningEnableNum hreach 5⟩
      · exact ⟨rfl, hreach⟩
    dsimp only at h
    generalize (if warnFlag then warningEnableNum 5 u else u) = v at h hwarn
    obtain ⟨st, hst, rfl⟩ := Option.map_eq_some_iff.mp h
    obtain ⟨hview, hv⟩ := hwarn
    have hwf' := registryMachine_wf hv
    refine ⟨hloop.other.trans ((RegistryOnly.of_view hview).trans
      (registryOnly_onlyTimes (onlyTimes_clearAllTime hwf' hst))), v.toStorage, ?_, hwf', hst⟩
    exact hloop.only.congr (congrArg View.device hview)

/-- What an hour does outside the slots' timestamps and `Alive`. -/
structure HourPassed (s s' : State) : Prop where
  num : s'.globalDevice.num = s.globalDevice.num
  doorNum : s'.globalDevice.doorNum = s.globalDevice.doorNum
  gatewayNum : s'.globalDevice.gatewayNum = s.globalDevice.gatewayNum
  slot : ∀ j, ∃ idTime alive getMesssage,
    s'.slot j = { s.slot j with idTime, alive, getMesssage }
  gatewayID : s'.gatewayID = s.gatewayID
  radioID : s'.radioID = s.radioID
  locked : (view s').locked = (view s).locked
  stray : (view s').stray = (view s).stray

private theorem Slot.age_eq (c : Slot) : ∃ idTime, c.age = { c with idTime } := by
  unfold Slot.age
  split <;> exact ⟨_, rfl⟩

private theorem Slot.clear_eq (c : Slot) :
    ∃ idTime getMesssage, c.clear = { c with idTime, getMesssage } := by
  unfold Slot.clear
  split <;> exact ⟨_, _, rfl⟩

/-- The timestamp of a slot that has aged says a day. -/
theorem Slot.age_idTime_eq (c : Slot) : c.age.idTime = 25 ↔ c.idTime = 24 ∨ c.idTime = 25 := by
  have h24 : (24 : UInt32).toNat = 24 := rfl
  have h25 : (25 : UInt32).toNat = 25 := rfl
  have h1 : (1 : UInt32).toNat = 1 := rfl
  unfold Slot.age
  simp only [← UInt32.toNat_inj, UInt32.lt_iff_toNat_lt]
  split
  · rw [UInt32.toNat_add]
    omega
  · omega

/-- The slots after ageing. -/
theorem slot_aged (hwf : s.Wf) (h : aged pins s = some t) (j : Nat) :
    t.slot j = if 0 < j ∧ j ≤ s.globalDevice.num then (s.slot j).age else s.slot j :=
  slot_updateAllTime hwf (updateAllTime_of_aged h) j

/-- **An hour** registers nothing, forgets nothing and opens no lock. -/
theorem hourPassed (hr : registryMachine.Reachable s) (hs : rtcTimerEntry pins s = some s') :
    HourPassed s s' := by
  have hwf := registryMachine_wf hr
  rw [rtcTimerEntry_eq] at hs
  obtain ⟨t, ht, hs⟩ := Option.bind_eq_some_iff.mp hs
  have hother := registryOnly_aged hwf ht
  have hsame := (onlyTimes_updateAllTime hwf (updateAllTime_of_aged ht)).same
  have hage : ∀ j, ∃ idTime, t.slot j = { s.slot j with idTime } := by
    intro j
    rw [slot_aged hwf ht]
    split
    · exact (s.slot j).age_eq
    · exact ⟨_, rfl⟩
  split at hs
  · cases hs
    exact {
      num := hsame.num
      doorNum := hsame.doorNum
      gatewayNum := hsame.gatewayNum
      slot := by
        intro j
        obtain ⟨idTime, hj⟩ := hage j
        exact ⟨idTime, _, _, hj⟩
      gatewayID := hother.gatewayID
      radioID := hother.radioID
      locked := hother.locked
      stray := hother.stray }
  · obtain ⟨u, hu, rfl⟩ := Option.map_eq_some_iff.mp hs
    obtain ⟨hdetect, st, honly, hwf', hclear⟩ := detectAllTime_spec (reach_aged hr ht) hu
    have htimes := (onlyTimes_clearAllTime hwf' hclear).same
    have hall := hother.trans hdetect
    exact {
      num := htimes.num.trans (honly.num.trans hsame.num)
      doorNum := htimes.doorNum.trans (honly.doorNum.trans hsame.doorNum)
      gatewayNum := htimes.gatewayNum.trans (honly.gatewayNum.trans hsame.gatewayNum)
      slot := by
        intro j
        obtain ⟨idTime, hj⟩ := hage j
        obtain ⟨alive, hj'⟩ := honly.slot j
        have hlast : ∃ idTime getMesssage, u.slot j = { st.slot j with idTime, getMesssage } := by
          rw [slot_clearAllTime hwf' hclear]
          split
          · exact (st.slot j).clear_eq
          · exact ⟨_, _, rfl⟩
        obtain ⟨idTime', getMesssage, hj''⟩ := hlast
        exact ⟨idTime', alive, getMesssage, hj''.trans (by rw [hj', hj])⟩
      gatewayID := hall.gatewayID
      radioID := hall.radioID
      locked := hall.locked
      stray := hall.stray }

end WaterValve
