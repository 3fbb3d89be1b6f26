import WaterValve.Hour
import WaterValve.WaterSafety
import WaterValve.Senders

/-!
# WaterValve.AlarmOwner

The slave water alarm has an owner: while it is shown some registered device
has its alarm set, and the closes of those devices end it
(`slave_alarm_owner`).  Two things can take the owner away: the gateway deletes
it, or a water report comes from the sender 0, which finds a deleted slot.
-/

namespace WaterValve

/-! ## the alarm in the control core -/

namespace Ctl

/-- The alarm is shown only while one is stored, and not in learn mode. -/
def AlarmHeld (c : Ctl) : Prop :=
  c.status = .slaverWaterAlarmActive → c.alarm = true ∧ c.learnFlag = 0

variable {c c' : Ctl}

theorem AlarmHeld.leave (h : c'.status ≠ .slaverWaterAlarmActive) : c'.AlarmHeld :=
  fun hs => absurd hs h

/-- What shows the alarm only if it was shown, and moves neither alarm nor
learn mode. -/
theorem AlarmHeld.keep (h : c.AlarmHeld)
    (hs : c'.status = c.status ∨ c'.status ≠ .slaverWaterAlarmActive)
    (ha : c'.alarm = c.alarm) (hl : c'.learnFlag = c.learnFlag) : c'.AlarmHeld := by
  intro hshow
  rw [ha, hl]
  exact h (hs.elim (fun hs => hs ▸ hshow) fun hs => absurd hshow hs)

theorem AlarmHeld.openAs (h : c.AlarmHeld) (actFlag : UInt8) : (c.openAs actFlag).AlarmHeld :=
  h.keep ((openAs_status actFlag c).imp_right fun hs => by simp [hs]) (by simp) (by simp)

theorem AlarmHeld.closeAs (h : c.AlarmHeld) (actFlag : UInt8) : (c.closeAs actFlag).AlarmHeld :=
  h.keep ((closeAs_status actFlag c).imp_right fun hs => by simp [hs]) (by simp) (by simp)

theorem alarmHeld_disable (c : Ctl) : c.disable.AlarmHeld := by
  refine .leave ?_
  obtain hs | hs := { c with priority := 0 }.backToNormal_status <;> rw [disable, hs] <;> simp

theorem AlarmHeld.warn (h : c.AlarmHeld) {event : WariningEvent} {callback : WarningCallback}
    (hcall : event.callback = some callback)
    (hshow : shows callback ≠ some .slaverWaterAlarmActive) :
    (c.warn event).AlarmHeld := by
  refine h.keep ((warn_status hcall c).imp_right fun hs => ?_) (by simp) (c.warn_learn event).1
  exact fun hactive => hshow (hactive ▸ hs)

theorem AlarmHeld.scan (h : c.AlarmHeld) (reading : UInt8) : (c.scan reading).AlarmHeld := by
  have hscan := c.scanned_scan reading
  generalize c.scan reading = c' at hscan ⊢
  cases hscan with
  | idle => exact h
  | dries => exact .leave nofun
  | driesLearning | wetLost => exact h
  | lost =>
      show (c.peak 1).AlarmHeld
      rw [peak_one]
      split
      · exact h
      · exact h.warn rfl nofun
  | wet =>
      show (c.peak 2).AlarmHeld
      rw [peak_two]
      split
      · exact h
      · exact h.warn rfl nofun
  | back =>
      show (c.peak 0).AlarmHeld
      rw [peak_zero]
      split
      · exact h
      · split
        · refine .leave ?_
          obtain hs | hs := c.backToNormal_status <;> simp [hs]
        · exact h

theorem alarmHeld_boot (lastFlag : UInt8) (alarm : Bool) : (boot lastFlag alarm).AlarmHeld := by
  unfold boot
  dsimp only
  split
  · rename_i halarm
    intro _
    exact ⟨(warn_alarm ..).trans halarm, (warn_learn ..).1⟩
  · split
    · exact AlarmHeld.openAs (c := reset lastFlag alarm) (.leave nofun) normalOpen
    · exact .leave nofun

/-- Every transition keeps the alarm held. -/
theorem AlarmHeld.step {ok : Special → Ctl → Prop} (h : c.AlarmHeld) (hs : CtlStep ok c c') :
    c'.AlarmHeld := by
  cases hs with
  | remoteOpen | nodeOpen | keyOpen => exact h.openAs _
  | remoteClose => exact h.closeAs _
  | keyClose => exact AlarmHeld.closeAs (c := { c with lastClose := 0 }) h _
  | delayExpires => exact AlarmHeld.closeAs (c := { c with delay := false }) h _
  | nodeClose =>
      exact AlarmHeld.closeAs (c := { c.disable with lastClose := 1 }) (alarmHeld_disable c) _
  | lostPeakOpens => exact AlarmHeld.openAs (c := { c with status := .opened }) (.leave nofun) _
  | lostPeakCloses => exact .leave nofun
  | dismiss | factoryKey | stopLearn | slaveDry | online => exact alarmHeld_disable _
  | startLearn => exact .leave nofun
  | learning | delayStart | delayStop => exact h
  | scan reading => exact h.scan reading
  | freeze cold =>
      unfold Ctl.freeze
      split
      · exact AlarmHeld.warn (c := { c with ntcState := c.valve }) h rfl nofun
      · exact h
  | thaw warm =>
      unfold Ctl.thaw
      repeat' split
      · exact (alarmHeld_disable c).openAs _
      · exact (alarmHeld_disable c).closeAs _
      · exact h
  | warnOffline | warnMoto1 | warnMoto2 | ultraLow | lowBattery => exact h.warn rfl nofun
  | slaveWater hl =>
      split
      · intro _
        exact ⟨warn_alarm .., ((warn_learn ..).1).trans hl⟩
      · exact fun hshow => ⟨rfl, hl⟩
  | boot lastFlag alarm => exact alarmHeld_boot lastFlag alarm

end Ctl

/-! ## the alarms in the registry -/

/-- Only a slot with a device has an alarm. -/
def AlarmsOwned (st : Storage) : Prop :=
  ∀ i, st.globalDevice.slaveAlarm i ≠ 0 → st.globalDevice.id i ≠ 0

section

variable {st st' : Storage} {deviceID : UInt32} {i : Nat}

theorem AlarmsOwned.congr (h : AlarmsOwned st) (hid : st'.globalDevice.id = st.globalDevice.id)
    (ha : st'.globalDevice.slaveAlarm = st.globalDevice.slaveAlarm) : AlarmsOwned st' := by
  intro i hi
  rw [hid]
  rw [ha] at hi
  exact h i hi

/-- A slot that loses its device must have no alarm. -/
theorem AlarmsOwned.writesSlot (h : AlarmsOwned st) (hw : WritesSlot i deviceID st st')
    (hi : deviceID ≠ 0 ∨ st.globalDevice.slaveAlarm i = 0) : AlarmsOwned st' := by
  intro j hj
  have ha : st'.globalDevice.slaveAlarm j = st.globalDevice.slaveAlarm j :=
    congrArg Slot.slaveAlarm (hw.slot j)
  rw [ha] at hj
  rw [hw.id]
  split
  · rename_i hji
    subst hji
    exact hi.resolve_right hj
  · exact h j hj

/-- `Flash_Set_SlaveAlarmFlag` in RAM. -/
theorem slaveAlarm_set (hs : st.slotOf deviceID ≠ 0) (flag : UInt8) :
    (st.flashSetSlaveAlarmFlag deviceID flag).2.globalDevice.slaveAlarm =
      Function.update st.globalDevice.slaveAlarm (st.slotOf deviceID) flag := by
  unfold Storage.flashSetSlaveAlarmFlag
  dsimp only
  rw [if_neg hs]
  split
  · rfl
  · rename_i hsame
    rw [← not_not.mp hsame, Function.update_eq_self]

theorem AlarmsOwned.set (h : AlarmsOwned st) (hwf : st.Wf) (hs : st.slotOf deviceID ≠ 0)
    {flag : UInt8}
    (hflag : deviceID ≠ 0 ∨ flag = 0) :
    AlarmsOwned (st.flashSetSlaveAlarmFlag deviceID flag).2 := by
  have honly : OnlyDevice deviceID _ st (st.flashSetSlaveAlarmFlag deviceID flag).2 :=
    onlyDevice_flashSetSlaveAlarmFlag flag
  intro j hj
  rw [slaveAlarm_set hs] at hj
  rw [honly.id]
  by_cases hji : j = st.slotOf deviceID
  · subst hji
    rw [Function.update_self] at hj
    rw [hwf.id_slotOf hs]
    exact hflag.resolve_right hj
  · rw [Function.update_of_ne hji] at hj
    exact h j hj

/-- A reload reads the alarm of a slot with its device. -/
theorem alarmsOwned_loadDevice2Memory (h : st.loadDevice2Memory = some st') : AlarmsOwned st' := by
  obtain ⟨d, hrun, rfl⟩ := Option.map_eq_some_iff.mp h
  have hloop := Loop.of_forUpTo (P := fun i d => ∀ j, d.slaveAlarm j ≠ 0 → d.id j ≠ 0 ∧ j < i)
    hrun (fun j hj => absurd rfl hj) fun i d _ _ hd => ?_
  · exact fun j hj => (hloop j hj).1
  · -- round `i` reads the alarm of slot `i` only when it has a device
    intro j hj
    unfold Storage.loadSlot at hj ⊢
    dsimp only at hj ⊢
    split at hj
    · rename_i hid
      rw [if_pos hid]
      by_cases hji : j = i
      · subst hji
        exact ⟨by simpa using hid, Nat.lt_succ_self j⟩
      · simp only [Function.update_of_ne hji] at hj ⊢
        exact ⟨(hd j hj).1, Nat.lt_succ_of_lt (hd j hj).2⟩
    · rename_i hid
      rw [if_neg hid]
      have hji : j ≠ i := Nat.ne_of_lt (hd j hj).2
      simp only [Function.update_of_ne hji]
      exact ⟨(hd j hj).1, Nat.lt_succ_of_lt (hd j hj).2⟩

/-- A learn request of the sender 0 writes a slot without a device. -/
theorem Storage.learnSlot_free {buf : Message} (h : st.learnSlot buf = some i)
    (h0 : buf.fromID.toUInt32 = 0) : st.globalDevice.id i = 0 := by
  have hdevice : buf.fromID < 30000000 := by
    have hzero : buf.fromID = 0 := congrArg UInt32.toInt32 h0
    rw [hzero]
    decide
  unfold learnSlot requestSlot at h
  rw [if_pos hdevice] at h
  split at h
  · exact (SlotTable.free_eq_some h).2.2.1
  · cases h

end

/-! ## the steps that take an owner away -/

/-- Condition on a step: the sender 0 reports no water while a door is there
(without one it is taken for the door), and the gateway deletes no device whose
alarm is set. -/
structure KeepsOwners (s : State) (a : Action) : Prop where
  node : ∀ rssi buf, event s a = .node rssi buf →
    ¬(s.learnFlag = 0 ∧ buf.command = 4 ∧ buf.data = 1 ∧ buf.fromID.toUInt32 = 0 ∧ s.getDoorID ≠ 0)
  gateway : ∀ buf, event s a = .gateway buf → buf.command = 6 →
    s.globalDevice.slaveAlarm (s.slotOf buf.deviceID.toUInt32) = 0

variable {rom : UInt32} {s s' : State} {a : Action}

theorem slaveAlarm_deviceAliveChange (deviceID : UInt32) (value : UInt8) (st : Storage) :
    (st.deviceAliveChange deviceID value).2.globalDevice.slaveAlarm =
      st.globalDevice.slaveAlarm := by
  obtain ⟨_, _, _, hcolumns⟩ := deviceAliveChange_columns deviceID st value
  rw [hcolumns]

theorem slaveAlarm_heardFrom (rssi : Int) (fromID : UInt32) (s : State) :
    (heardFrom rssi fromID s).globalDevice.slaveAlarm = s.globalDevice.slaveAlarm := by
  obtain ⟨_, _, _, _, hcolumns⟩ := heardFrom_columns rssi fromID s
  rw [hcolumns]

/-- The alarms after a node frame are those after its attribute update. -/
theorem slaveAlarm_dataSolve (rssi : Int) (buf : Message) (s : State) :
    (dataSolve buf (heardFrom rssi buf.fromID.toUInt32 s)).globalDevice.slaveAlarm =
      (dataUpdate buf (heardFrom rssi buf.fromID.toUInt32 s)
        (heardFrom rssi buf.fromID.toUInt32 s).toStorage).2.globalDevice.slaveAlarm := by
  refine (congrArg DeviceInfo.slaveAlarm (noFlag_dataSolve rssi buf s)).trans ?_
  unfold solvedStorage
  extract_lets t
  obtain ⟨_, hcolumns⟩ := clearDeviceTime_columns buf.fromID.toUInt32
    (dataUpdate buf t t.toStorage).2
  rw [hcolumns]
  rfl

theorem id_dataSolve (rssi : Int) (buf : Message) (s : State) :
    (dataSolve buf (heardFrom rssi buf.fromID.toUInt32 s)).globalDevice.id = s.globalDevice.id :=
  (congrArg DeviceInfo.id (noFlag_dataSolve rssi buf s)).trans
    (onlyDevice_solvedStorage rssi buf s).id

/-- A node frame outside learn mode. -/
theorem AlarmsOwned.dataSolve {rssi : Int} {buf : Message} (h : AlarmsOwned s.toStorage)
    (hwf : s.Wf) (hs : s.slotOf buf.fromID.toUInt32 ≠ 0)
    (hok : ¬(buf.command = 4 ∧ buf.data = 1 ∧ buf.fromID.toUInt32 = 0 ∧ s.getDoorID ≠ 0)) :
    AlarmsOwned (dataSolve buf (heardFrom rssi buf.fromID.toUInt32 s)).toStorage := by
  have honly := onlyDevice_heardFrom rssi buf.fromID.toUInt32 s
  have hslot := honly.slotOf buf.fromID.toUInt32
  have hwf' := hwf.onlyDevice honly
  have hdoor := honly.getDoorID
  have hheard : AlarmsOwned (heardFrom rssi buf.fromID.toUInt32 s).toStorage :=
    h.congr honly.id (slaveAlarm_heardFrom rssi _ s)
  have hsolve := slaveAlarm_dataSolve rssi buf s
  have hid := id_dataSolve rssi buf s
  rw [← honly.id] at hid
  generalize heardFrom rssi buf.fromID.toUInt32 s = t at *
  have hupdate : AlarmsOwned (dataUpdate buf t t.toStorage).2 := by
    unfold dataUpdate
    split
    · have hbat : OnlyDevice buf.fromID.toUInt32 _ t.toStorage
          (t.updateDeviceBat buf.fromID.toUInt32 (toU8 buf.data)).2 := onlyDevice_updateDeviceBat _
      obtain ⟨_, _, hcolumns⟩ :=
        updateDeviceBat_columns buf.fromID.toUInt32 t.toStorage (toU8 buf.data)
      exact hheard.congr hbat.id (by rw [hcolumns])
    · split
      · rename_i hwater
        refine hheard.set hwf' (hslot ▸ hs) (.inl fun h0 => hok ⟨hwater.1, hwater.2.1, h0, ?_⟩)
        rw [← hdoor, ← h0]
        exact hwater.2.2
      · split
        · exact hheard.set hwf' (hslot ▸ hs) (.inr rfl)
        · exact hheard
  have hsame := onlyDevice_dataUpdate buf t t.toStorage
  exact hupdate.congr (hid.trans hsame.id.symm) hsolve

/-- A learn frame. -/
theorem AlarmsOwned.deviceLearn (h : AlarmsOwned s.toStorage) (hwf : s.Wf) (buf : Message) :
    AlarmsOwned (deviceLearn buf s).toStorage := by
  obtain ⟨num, hnum, hw⟩ | hsame | halive := hwf.learned_cases (learned_deviceLearn buf s)
  · refine h.writesSlot hw (or_iff_not_imp_left.mpr fun h0 => ?_)
    by_contra halarm
    exact h num halarm (Storage.learnSlot_free hnum (not_not.mp h0))
  · rwa [hsame]
  · have honly : OnlyDevice buf.fromID.toUInt32 _ s.toStorage
        (s.deviceAliveChange buf.fromID.toUInt32 1).2 := onlyDevice_deviceAliveChange 1
    rw [halive]
    exact h.congr honly.id (slaveAlarm_deviceAliveChange ..)

/-- **A step keeps the alarms owned.** -/
theorem AlarmsOwned.step (h : AlarmsOwned s.toStorage) (hr : registryMachine.Reachable s)
    (hok : KeepsOwners s a) (hs : step rom s a = some s') : AlarmsOwned s'.toStorage := by
  have hwf := registryMachine_wf hr
  have hevent := handles_event hs
  have hview : ∀ {s' : State}, view s' = view s → AlarmsOwned s'.toStorage := fun hview =>
    h.congr (congrArg (fun v : View => v.device.id) hview)
      (congrArg (fun v : View => v.device.slaveAlarm) hview)
  have hnode := hok.node
  have hgateway := hok.gateway
  generalize event s a = e at hevent hnode hgateway
  cases hevent with
  | quiet hquiet => exact hview hquiet
  | @learn rssi buf haccept hlearn =>
      have honly := onlyDevice_heardFrom rssi buf.fromID.toUInt32 s
      have hheard := h.congr honly.id (slaveAlarm_heardFrom rssi _ s)
      exact hheard.deviceLearn (hwf.onlyDevice honly) buf
  | @solve rssi buf haccept hlearn =>
      have hs0 : s.slotOf buf.fromID.toUInt32 ≠ 0 :=
        Storage.flashGetKeyValid_eq_ok.mp (haccept.2.resolve_left (not_not.mpr hlearn))
      exact h.dataSolve hwf hs0 fun hbad => hnode rssi buf rfl ⟨hlearn, hbad⟩
  | @gateway buf haccept =>
      have hst := heartRefresh_toStorage buf.fromID.toUInt32 s
      have hout := gateway_outcome (hst.symm ▸ hwf) buf
      rw [hst] at hout
      obtain ⟨h6, -, hw⟩ | hsame := hout
      · exact h.writesSlot hw (.inr (hgateway buf rfl h6))
      · have hid := congrArg DeviceInfo.id hsame
        have halarm := congrArg DeviceInfo.slaveAlarm hsame
        exact h.congr hid halarm
  | hour hs =>
      have hpassed := hourPassed hr hs
      refine h.congr (funext fun j => ?_) (funext fun j => ?_)
      · obtain ⟨idTime, alive, getMesssage, hj⟩ := hpassed.slot j
        exact congrArg Slot.id hj
      · obtain ⟨idTime, alive, getMesssage, hj⟩ := hpassed.slot j
        exact congrArg Slot.slaveAlarm hj
  | restart hs =>
      obtain ⟨st, hst, hboot⟩ := view_boot hs
      exact (alarmsOwned_loadDevice2Memory hst).congr
        (congrArg (fun v : View => v.device.id) hboot)
        (congrArg (fun v : View => v.device.slaveAlarm) hboot)
  | delayEnds hdelay =>
      exact h.congr (congrArg (fun v : View => v.device.id) hdelay)
        (congrArg (fun v : View => v.device.slaveAlarm) hdelay)
  | sent => exact h

/-! ## the closes of the owners -/

/-- A registered device whose alarm is set. -/
def AlarmOwner (s : State) (i : Nat) : Prop :=
  i ≤ s.globalDevice.num ∧ s.globalDevice.id i ≠ 0 ∧ s.globalDevice.slaveAlarm i ≠ 0

/-- The event is an accepted command 6 from a node. -/
def Event.ClosesFrom (deviceID : UInt32) : Event → Prop
  | .node _ buf => buf.command = 6 ∧ buf.fromID.toUInt32 = deviceID
  | _ => False

instance (deviceID : UInt32) : (e : Event) → Decidable (e.ClosesFrom deviceID)
  | .node .. => inferInstanceAs (Decidable (_ ∧ _))
  | .quiet | .gateway _ | .hour _ | .restart .. | .delayEnds | .sent =>
    inferInstanceAs (Decidable False)

theorem Event.ClosesFrom.unique {e : Event} {d d' : UInt32} (h : e.ClosesFrom d)
    (h' : e.ClosesFrom d') : d = d' := by
  cases e with
  | node rssi buf => exact h.2.symm.trans h'.2
  | quiet | gateway | hour | restart | delayEnds | sent => exact h.elim

theorem keepsOwners_of_closesFrom {deviceID : UInt32} (h : (event s a).ClosesFrom deviceID) :
    KeepsOwners s a where
  node := by
    intro rssi buf hnode hwater
    rw [hnode] at h
    exact absurd (h.1.symm.trans hwater.2.1) (by decide)
  gateway := by
    intro buf hgateway
    rw [hgateway] at h
    exact h.elim

/-- What a close from a device leaves: its alarm is off, the others are as they
were, and the status is kept or normal. -/
structure ClosedBy (deviceID : UInt32) (s s' : State) : Prop where
  learnFlag : s'.learnFlag = 0
  status : s'.nowStatus = s.nowStatus ∨ s'.nowStatus = .opened ∨ s'.nowStatus = .close
  radioID : s'.radioID = s.radioID
  num : s'.globalDevice.num = s.globalDevice.num
  id : s'.globalDevice.id = s.globalDevice.id
  slaveAlarm : ∀ i, s'.globalDevice.slaveAlarm i ≠ 0 →
    s.globalDevice.slaveAlarm i ≠ 0 ∧ i ≠ s.slotOf deviceID

/-- Learn mode is as it was, and the status too or it is normal. -/
private def KeepsOrNormal (c c' : Ctl) : Prop :=
  c'.learnFlag = c.learnFlag ∧ (c'.status = c.status ∨ c'.status = .opened ∨ c'.status = .close)

private theorem KeepsOrNormal.trans {c c' c'' : Ctl} (h : KeepsOrNormal c c')
    (h' : KeepsOrNormal c' c'') : KeepsOrNormal c c'' := by
  refine ⟨h'.1.trans h.1, ?_⟩
  obtain hs | hs := h'.2
  · rw [hs]
    exact h.2
  · exact .inr hs

private theorem keepsOrNormal_disable (c : Ctl) : KeepsOrNormal c c.disable :=
  ⟨rfl, .inr { c with priority := 0 }.backToNormal_status⟩

private theorem keepsOrNormal_nodeClose (buf : Message) (s : State) :
    KeepsOrNormal (ctl s) (ctl (nodeClose buf s)) := by
  obtain ⟨c, hclear, hclose⟩ := ctl_nodeClose buf s
  have hc : KeepsOrNormal (ctl s) c := by
    obtain rfl | ⟨-, rfl⟩ := hclear
    · exact ⟨rfl, .inl rfl⟩
    · exact keepsOrNormal_disable { ctl s with alarm := false }
  refine hc.trans ?_
  obtain hsame | ⟨-, hclose⟩ := hclose
  · rw [hsame]
    exact ⟨rfl, .inl rfl⟩
  · rw [hclose]
    refine (keepsOrNormal_disable c).trans ⟨Ctl.closeAs_learnFlag .., ?_⟩
    exact (Ctl.closeAs_status otherOff { c.disable with lastClose := 1 }).imp_right .inr

private theorem keepsOrNormal_dataSolve {buf : Message} (h6 : buf.command = 6) (s : State) :
    KeepsOrNormal (ctl s) (ctl (dataSolve buf s)) := by
  have hcommand : dataSolveCommand buf s = nodeClose buf s := by simp [dataSolveCommand, h6]
  obtain ⟨t, ht, hsolve⟩ := ctl_dataSolve buf s
  rw [hcommand] at ht
  have hclose := keepsOrNormal_nodeClose buf s
  rw [← ht] at hclose
  rw [hsolve]
  refine hclose.trans ?_
  obtain hsame | ⟨-, honline⟩ := ctl_offlineReact t
  · rw [hsame]
    exact ⟨rfl, .inl rfl⟩
  · rw [honline]
    exact keepsOrNormal_disable (ctl t)

/-- A close turns off the alarm of its sender. -/
private theorem slaveAlarm_closed {rssi : Int} {buf : Message} (hwf : s.Wf) (h6 : buf.command = 6)
    (hs : s.slotOf buf.fromID.toUInt32 ≠ 0) {i : Nat}
    (hi : (dataSolve buf (heardFrom rssi buf.fromID.toUInt32 s)).globalDevice.slaveAlarm i ≠ 0) :
    s.globalDevice.slaveAlarm i ≠ 0 ∧ i ≠ s.slotOf buf.fromID.toUInt32 := by
  have honly := onlyDevice_heardFrom rssi buf.fromID.toUInt32 s
  have hslot := honly.slotOf buf.fromID.toUInt32
  have hwf' := hwf.onlyDevice honly
  rw [slaveAlarm_dataSolve] at hi
  rw [← slaveAlarm_heardFrom rssi buf.fromID.toUInt32, ← hslot]
  rw [← hslot] at hs
  generalize heardFrom rssi buf.fromID.toUInt32 s = t at *
  by_cases hflag : t.flashGetSlaveAlarmFlag = 0
  · -- no alarm is set
    have hnone : ∀ j, 0 < j → t.globalDevice.slaveAlarm j = 0 := by
      intro j hj
      by_contra halarm
      exact hwf'.alarmFlag_iff.mpr ⟨j, hj, halarm⟩ hflag
    rw [dataUpdate, if_neg (by simp [h6]), if_neg (by simp [h6]), if_neg (by simp [hflag])] at hi
    refine ⟨hi, ?_⟩
    rintro rfl
    exact hi (hnone _ (Nat.pos_of_ne_zero hs))
  · rw [dataUpdate, if_neg (by simp [h6]), if_neg (by simp [h6]), if_pos ⟨h6, hflag⟩,
      slaveAlarm_set hs] at hi
    by_cases his : i = t.slotOf buf.fromID.toUInt32
    · exact absurd (by rw [his, Function.update_self]) hi
    · rw [Function.update_of_ne his] at hi
      exact ⟨hi, his⟩

/-- **A close from a device.** -/
theorem closedBy {deviceID : UInt32} (hwf : s.Wf) (hc : (event s a).ClosesFrom deviceID)
    (hl : s.learnFlag = 0) (hs : step rom s a = some s') : ClosedBy deviceID s s' := by
  have hevent := handles_event hs
  generalize event s a = e at hevent hc
  cases hevent with
  | quiet | hour | restart | delayEnds | sent | gateway => exact hc.elim
  | learn haccept hlearn => exact absurd hl hlearn
  | @solve rssi buf haccept hlearn =>
      obtain ⟨h6, rfl⟩ := hc
      have hs0 : s.slotOf buf.fromID.toUInt32 ≠ 0 :=
        Storage.flashGetKeyValid_eq_ok.mp (haccept.2.resolve_left (not_not.mpr hl))
      have hkeep := keepsOrNormal_dataSolve h6 (heardFrom rssi buf.fromID.toUInt32 s)
      rw [ctl_heardFrom] at hkeep
      obtain ⟨d, hview⟩ := view_solve rssi buf s
      have hsolved := onlyDevice_solvedStorage rssi buf s
      have hdevice := noFlag_dataSolve rssi buf s
      exact {
        learnFlag := hkeep.1.trans hl
        status := hkeep.2
        radioID := congrArg View.radioID hview
        num := (congrArg DeviceInfo.num hdevice).trans hsolved.num
        id := id_dataSolve rssi buf s
        slaveAlarm := fun i hi => slaveAlarm_closed hwf h6 hs0 hi }

theorem ClosedBy.slotOf {deviceID : UInt32} (h : ClosedBy deviceID s s') (d : UInt32) :
    s'.slotOf d = s.slotOf d := by
  rw [Storage.slotOf, Storage.slotOf, Storage.searchStart, Storage.searchStart, h.num, h.id]

/-- A frame is the same event after a close. -/
theorem ClosedBy.event {deviceID d : UInt32} (h : ClosedBy deviceID s s') (hl : s.learnFlag = 0)
    (hc : (event s a).ClosesFrom d) : WaterValve.event s' a = WaterValve.event s a := by
  have haccept : ∀ buf, Accepts buf s' ↔ Accepts buf s := fun buf => by
    rw [Accepts, Accepts, h.radioID, h.learnFlag, hl, Storage.flashGetKeyValid_eq_ok,
      Storage.flashGetKeyValid_eq_ok, h.slotOf]
  have hgateway : ∀ buf, GatewayAccepts buf s' ↔ GatewayAccepts buf s := fun buf => by
    rw [GatewayAccepts, GatewayAccepts, h.radioID, Storage.flashGetKeyValid_eq_ok,
      Storage.flashGetKeyValid_eq_ok, h.slotOf]
  cases a with
  | rf433Rx rxMessage rssi buffer len =>
      simp only [WaterValve.event, frameEvent, haccept, hgateway]
  | keyReponse sem pins =>
      simp only [WaterValve.event] at hc
      split at hc <;> exact hc.elim
  | rfEncode | waterscanTimer | ntcScanTimer | delayTimer | learnTimer | turn1Edge | turn2Edge
  | moto1TimerAct | moto2TimerAct | moto1TimerDetect | moto2TimerDetect | motoDetectTimer
  | rtcAlarm | gatewaySyncT | heartCheckT | heartTestT | factoryCycle | reboot => exact hc.elim

/-- A close is executed: a frame is received in every state. -/
theorem exists_step_of_closesFrom {deviceID : UInt32} (hc : (event s a).ClosesFrom deviceID) :
    ∃ s', step rom s a = some s' := by
  cases a with
  | rf433Rx rxMessage rssi buffer len => exact ⟨_, rfl⟩
  | keyReponse sem pins =>
      simp only [event] at hc
      split at hc <;> exact hc.elim
  | rfEncode | waterscanTimer | ntcScanTimer | delayTimer | learnTimer | turn1Edge | turn2Edge
  | moto1TimerAct | moto2TimerAct | moto1TimerDetect | moto2TimerDetect | motoDetectTimer
  | rtcAlarm | gatewaySyncT | heartCheckT | heartTestT | factoryCycle | reboot => exact hc.elim

/-- The alarm is shown with an owner and outside learn mode, or it is over. -/
structure OwnerInv (s : State) : Prop where
  reach : registryMachine.Reachable s
  held : (ctl s).AlarmHeld
  owned : AlarmsOwned s.toStorage

theorem OwnerInv.step (h : OwnerInv s) (hok : KeepsOwners s a) (hs : step rom s a = some s') :
    OwnerInv s' where
  reach := reach_step h.reach hs
  held := by
    have hrun : CtlRun (fun _ _ => True) (ctl s) (ctl s') := ctl_step h.reach hs fun _ _ => trivial
    exact hrun.invariant h.held fun _ _ hc hs => hc.step hs
  owned := h.owned.step h.reach hok hs

theorem ownerInv (h : (valveMachine rom).ReachableVia KeepsOwners s) : OwnerInv s := by
  refine h.invariant (I := OwnerInv) (fun s hinit => ?_) fun s a s' hI hok hs => hI.step hok hs
  obtain ⟨pins, hs⟩ := hinit
  obtain ⟨lastFlag, alarm, hc⟩ := ctl_boot hs
  obtain ⟨st, hst, hboot⟩ := view_boot hs
  exact {
    reach := reachable_registryMachine (Machine.Reachable.init ⟨pins, hs⟩)
    held := hc ▸ Ctl.alarmHeld_boot lastFlag alarm
    owned := (alarmsOwned_loadDevice2Memory hst).congr
      (congrArg (fun v : View => v.device.id) hboot)
      (congrArg (fun v : View => v.device.slaveAlarm) hboot) }

/-- While the alarm is shown, some registered device has its alarm set. -/
theorem OwnerInv.exists_owner (h : OwnerInv s) (halarm : s.nowStatus = .slaverWaterAlarmActive) :
    ∃ i, AlarmOwner s i := by
  have hwf := registryMachine_wf h.reach
  have hflag : s.flashGetSlaveAlarmFlag ≠ 0 := by simpa [ctl] using (h.held halarm).1
  obtain ⟨i, -, hi⟩ := hwf.alarmFlag_iff.mp hflag
  refine ⟨i, ?_, h.owned i hi, hi⟩
  by_contra hbeyond
  exact hi (hwf.alarm_beyond i (by omega))

/-- Closes from all owners, in any order and among other closes, end the alarm. -/
theorem OwnerInv.closes (h : OwnerInv s) (hl : s.learnFlag = 0)
    (hstatus : s.nowStatus = .slaverWaterAlarmActive ∨ s.nowStatus = .opened ∨
      s.nowStatus = .close) {as : List Action} (hclose : ∀ a ∈ as, ∃ d, (event s a).ClosesFrom d)
    (hall : ∀ i, AlarmOwner s i → ∃ a ∈ as, (event s a).ClosesFrom (s.globalDevice.id i)) :
    ∃ s', (valveMachine rom).runFrom s as = some s' ∧
      (s'.nowStatus = .opened ∨ s'.nowStatus = .close) := by
  induction as generalizing s with
  | nil =>
      refine ⟨s, rfl, hstatus.resolve_left fun halarm => ?_⟩
      obtain ⟨i, hi⟩ := h.exists_owner halarm
      obtain ⟨a, ha, -⟩ := hall i hi
      exact absurd ha List.not_mem_nil
  | cons a as ih =>
      obtain ⟨d, hd⟩ := hclose a List.mem_cons_self
      obtain ⟨s₁, hs₁⟩ : ∃ s₁, WaterValve.step rom s a = some s₁ := exists_step_of_closesFrom hd
      have hwf := registryMachine_wf h.reach
      have hby := closedBy hwf hd hl hs₁
      have hevent : ∀ b ∈ as, event s₁ b = event s b := fun b hb => by
        obtain ⟨e, he⟩ := hclose b (List.mem_cons_of_mem a hb)
        exact hby.event hl he
      have hstatus₁ : s₁.nowStatus = .slaverWaterAlarmActive ∨ s₁.nowStatus = .opened ∨
          s₁.nowStatus = .close := by
        obtain hs | hs := hby.status
        · rwa [hs]
        · exact .inr hs
      obtain ⟨s', hs', hnormal⟩ :=
        ih (h.step (keepsOwners_of_closesFrom hd) hs₁) hby.learnFlag hstatus₁
        (fun b hb => by
          rw [hevent b hb]
          exact hclose b (List.mem_cons_of_mem a hb))
        (fun i howner => by
          -- an owner that is left is not the one that has just closed
          obtain ⟨hi, hid, halarm⟩ := howner
          obtain ⟨halarm, hne⟩ := hby.slaveAlarm i halarm
          rw [hby.num] at hi
          rw [hby.id] at hid ⊢
          obtain ⟨b, hb, hcloses⟩ := hall i ⟨hi, hid, halarm⟩
          obtain rfl | hb := List.mem_cons.mp hb
          · rw [hd.unique hcloses] at hne
            exact absurd (hwf.slotOf_id hid).1.symm hne
          · exact ⟨b, hb, by rwa [hevent b hb]⟩)
      have hrun : (valveMachine rom).runFrom s (a :: as) = (valveMachine rom).runFrom s₁ as :=
        congrArg (Option.bind · _) hs₁
      exact ⟨s', hrun.trans hs', hnormal⟩

/-- **The slave water alarm has a living owner**: in every run whose steps meet
`KeepsOwners`, while the alarm is shown a registered device has its alarm set,
and when each of these devices closes the valve the unit is back to normal. -/
theorem slave_alarm_owner (h : (valveMachine rom).ReachableVia KeepsOwners s)
    (halarm : s.nowStatus = .slaverWaterAlarmActive) :
    (∃ i, AlarmOwner s i) ∧ ∀ as : List Action, (∀ a ∈ as, ∃ d, (event s a).ClosesFrom d) →
      (∀ i, AlarmOwner s i → ∃ a ∈ as, (event s a).ClosesFrom (s.globalDevice.id i)) →
        ∃ s', (valveMachine rom).runFrom s as = some s' ∧
          (s'.nowStatus = .opened ∨ s'.nowStatus = .close) := by
  have hinv := ownerInv h
  exact ⟨hinv.exists_owner halarm, fun as hclose hall =>
    hinv.closes (hinv.held halarm).2 (.inl halarm) hclose hall⟩

/-- A key takes no owner away. -/
theorem keepsOwners_keyReponse (sem : KeySem) (pins : Pins) (s : State) :
    KeepsOwners s (.keyReponse sem pins) where
  node := by
    intro rssi buf h
    simp only [event] at h
    split at h <;> cases h
  gateway := by
    intro buf h
    simp only [event] at h
    split at h <;> cases h

/-- A node frame from another sender than 0 takes no owner away. -/
theorem keepsOwners_rf433Rx {rxMessage : Message} {rssi : Int} {buffer : List UInt8} {len : UInt8}
    (hnode : byteAt buffer 1 = 123) (hfrom : (scanNode rxMessage buffer).2.fromID.toUInt32 ≠ 0) :
    KeepsOwners s (.rf433Rx rxMessage rssi buffer len) := by
  have hevent : ∀ e, event s (.rf433Rx rxMessage rssi buffer len) = e →
      e = .node rssi (scanNode rxMessage buffer).2 ∨ e = .quiet := by
    rintro e rfl
    simp only [event, frameEvent, if_pos hnode]
    split <;> simp
  constructor
  · intro rssi' buf h hwater
    obtain ⟨⟨⟩⟩ | ⟨⟨⟩⟩ := hevent _ h
    exact hfrom hwater.2.2.2.1
  · intro buf h
    obtain ⟨⟨⟩⟩ | ⟨⟨⟩⟩ := hevent _ h

/-- The alarm of a slave, and its end. -/
theorem slave_alarm_owner_learned : ∃ s s',
    (valveMachine 0).runFrom started (learnDevice 10000001 ++ [nodeRx 10000001 4 1]) = some s ∧
      (∃ i, AlarmOwner s i) ∧ (valveMachine 0).runFrom s [nodeRx 10000001 6 0] = some s' ∧
        (s'.nowStatus = .opened ∨ s'.nowStatus = .close) := by
  have hkeep : ∀ a ∈ learnDevice 10000001 ++ [nodeRx 10000001 4 1], ∀ s, KeepsOwners s a := by
    intro a ha s
    simp only [learnDevice, List.cons_append, List.nil_append, List.mem_cons, List.not_mem_nil,
      or_false] at ha
    obtain rfl | rfl | rfl | rfl := ha
    · exact keepsOwners_keyReponse ..
    · exact keepsOwners_rf433Rx (by decide +kernel) (by decide +kernel)
    · exact keepsOwners_keyReponse ..
    · exact keepsOwners_rf433Rx (by decide +kernel) (by decide +kernel)
  have hrun : ((valveMachine 0).runFrom started (learnDevice 10000001 ++ [nodeRx 10000001 4 1])).map
      (fun s => (s.nowStatus, s.globalDevice.num, s.globalDevice.id 1,
        decide ((event s (nodeRx 10000001 6 0)).ClosesFrom 10000001))) =
      some (.slaverWaterAlarmActive, 1, 10000001, true) := by decide +kernel
  obtain ⟨s, hs, hobs⟩ := Option.map_eq_some_iff.mp hrun
  generalize nodeRx 10000001 6 0 = a at hobs ⊢
  simp only [Prod.mk.injEq, decide_eq_true_eq] at hobs
  obtain ⟨halarm, hnum, hid, hcloses⟩ := hobs
  have hinit : (valveMachine 0).ReachableVia KeepsOwners started := .init ⟨dryPins, boot_started⟩
  have howner := slave_alarm_owner (hinit.runFrom hkeep hs) halarm
  have hwf : s.Wf := valveMachine_wf (started_reachable.runFrom hs)
  obtain ⟨s', hs', hnormal⟩ := howner.2 [a]
    (fun b hb => ⟨10000001, (List.mem_singleton.mp hb) ▸ hcloses⟩) fun i howner => by
      obtain ⟨hi, hne, -⟩ := howner
      have hpos := hwf.table.pos_of_used hne
      obtain rfl : i = 1 := by omega
      exact ⟨a, List.mem_singleton_self a, hid ▸ hcloses⟩
  exact ⟨s, s', hs, howner.1, hs', hnormal⟩

/-- The gateway deletes a slave while its alarm is shown. -/
theorem not_slave_alarm_owner : ∃ s, (valveMachine 0).Reachable s ∧
    s.nowStatus = .slaverWaterAlarmActive ∧ ¬∃ i, AlarmOwner s i := by
  have hrun : ((valveMachine 0).runFrom started
      (learnDevice 10000001 ++ learnDevice 40000001 ++
        [nodeRx 10000001 4 1, gatewayRx 40000001 10000001 6 0])).map
      (fun s => (s.nowStatus, (List.range 3).all fun i =>
        s.globalDevice.id i = 0 || s.globalDevice.slaveAlarm i = 0, s.globalDevice.num)) =
      some (.slaverWaterAlarmActive, true, 2) := by decide +kernel
  obtain ⟨s, hreach, hobs⟩ := exists_of_run hrun
  simp only [Prod.mk.injEq] at hobs
  obtain ⟨hstatus, hnone, hnum⟩ := hobs
  refine ⟨s, hreach, hstatus, ?_⟩
  rintro ⟨i, hi, hid, halarm⟩
  have hmem : i ∈ List.range 3 := List.mem_range.mpr (by omega)
  simpa [hid, halarm] using List.all_eq_true.mp hnone i hmem

end WaterValve
