import WaterValve.ControlRun
import WaterValve.Effects
import WaterValve.LearnSlot

/-!
# WaterValve.FrameEffects

What the frames of nodes and of the gateway do to the view of a state, and the
inversion of `step` built on it: a step handles a node frame or a gateway
frame, is an alarm of the clock or a start of the unit, closes the valve because
the delay ran out, takes a message off the queue, or leaves the view alone
(`step_cases`).
-/

namespace WaterValve

variable {s s' : State} {buf : Message}

/-! ## storage operations -/

/-- An operation that keeps `LastFlag` shows in the registry only. -/
theorem view_withStorage {op : Storage → UInt8 × Storage}
    (hlast : (op s.toStorage).2.globalDevice.lastFlag = s.globalDevice.lastFlag) :
    view (s.withStorage op) =
      { view s with device := (op s.toStorage).2.globalDevice.noFlag } := by
  refine View.ext rfl rfl rfl rfl (decide_eq_decide.mpr ?_) rfl
  exact Iff.of_eq (congrArg (fun flag => flag = otherOff ∧ s.valveStatus = 0) hlast)

/-- The same operation on equal registries. -/
theorem view_withStorage_congr {op : Storage → UInt8 × Storage} (hst : s'.toStorage = s.toStorage)
    (hlast : (op s.toStorage).2.globalDevice.lastFlag = s.globalDevice.lastFlag)
    (hview : view s' = view s) : view (s'.withStorage op) = view (s.withStorage op) := by
  rw [view_withStorage hlast, view_withStorage (by rw [hst]; exact hlast), hst, hview]

/-! ## the commands of a node -/

/-- A node command that executes `Moto_Open(OtherOpen)`. -/
def NodeOpens (buf : Message) (s : State) : Prop :=
  buf.command = 5 ∧ (s.nowStatus = .opened ∨ s.nowStatus = .close)

/-- A node command that executes `Moto_Close(OtherOff)`: an ultra-low battery
or water report that is accepted as a warning, or a close in the normal
status. -/
def NodeCloses (buf : Message) (s : State) : Prop :=
  (buf.command = 2 ∧ buf.data = 2 ∧ buf.fromID.toUInt32 ≠ s.getDoorID ∧
      s.nowStatusEvent.priority ≤ 6) ∨
    (buf.command = 4 ∧ buf.data = 1 ∧ s.getDoorID ≠ buf.fromID.toUInt32 ∧
      s.nowStatus ≠ .slaverWaterAlarmActive ∧ s.nowStatusEvent.priority ≤ 8) ∨
    (buf.command = 6 ∧ ((clearSlaveAlarm buf s).nowStatus = .opened ∨
      (clearSlaveAlarm buf s).nowStatus = .close))

instance (buf : Message) (s : State) : Decidable (NodeOpens buf s) :=
  inferInstanceAs (Decidable (_ ∧ _))

instance (buf : Message) (s : State) : Decidable (NodeCloses buf s) :=
  inferInstanceAs (Decidable (_ ∨ _))

/-- The attribute a node command updates. -/
def dataUpdate (buf : Message) (s : State) (st : Storage) : UInt8 × Storage :=
  if buf.command = 2 then st.updateDeviceBat buf.fromID.toUInt32 (toU8 buf.data)
  else if buf.command = 4 ∧ buf.data = 1 ∧ s.getDoorID ≠ buf.fromID.toUInt32 then
    st.flashSetSlaveAlarmFlag buf.fromID.toUInt32 1
  else if buf.command = 6 ∧ s.flashGetSlaveAlarmFlag ≠ 0 then
    st.flashSetSlaveAlarmFlag buf.fromID.toUInt32 0
  else (RT_EOK, st)

/-- The answers to a handshake are messages. -/
private theorem handshakeReply_toStorage (level : UInt8) :
    (handshakeReply buf level s).toStorage = s.toStorage := by
  simp [handshakeReply]

/-- The battery is noted; an ultra-low one closes the valve when its warning is
accepted. -/
private theorem view_handshake (buf : Message) (s : State) : view (handshake buf s) =
    (view (s.withStorage (·.updateDeviceBat buf.fromID.toUInt32 (toU8 buf.data)))).lockIf
      (buf.data = 2 ∧ buf.fromID.toUInt32 ≠ s.getDoorID ∧ s.nowStatusEvent.priority ≤ 6) := by
  have honly : OnlyDevice buf.fromID.toUInt32 _ s.toStorage
      (s.updateDeviceBat buf.fromID.toUInt32 (toU8 buf.data)).2 := onlyDevice_updateDeviceBat _
  unfold handshake
  dsimp only
  generalize ht : s.withStorage (·.updateDeviceBat buf.fromID.toUInt32 (toU8 buf.data)) = t
  have hdoor : ∀ level, (handshakeReply buf level t).getDoorID = s.getDoorID := by
    intro level
    rw [handshakeReply_toStorage, ← ht]
    exact honly.getDoorID
  have hpriority : ∀ level,
      (handshakeReply buf level t).nowStatusEvent.priority = s.nowStatusEvent.priority := by
    intro level
    have hctl : ctl (handshakeReply buf level t) = ctl s := by
      rw [← ht]
      simp [handshakeReply]
    exact congrArg Ctl.priority hctl
  split
  · rename_i hdata
    simp [hdata]
  · split
    · rename_i hdata
      split <;> simp [hdata]
    · split
      · rename_i hdata
        rw [hdoor]
        split
        · rename_i hne
          simp [hdata, hne, hpriority]
        · rename_i hne
          simp [hdata, hne]
      · rename_i hdata
        repeat' split
        all_goals simp [hdata]

/-- The alarm is noted, unless the sender is the door; the first one closes the valve
when it is accepted. -/
private theorem view_slaveWater (buf : Message) (s : State) : view (slaveWater buf s) =
    if buf.data = 1 ∧ s.getDoorID ≠ buf.fromID.toUInt32 then
      (view (s.withStorage (·.flashSetSlaveAlarmFlag buf.fromID.toUInt32 1))).lockIf
        (s.nowStatus ≠ .slaverWaterAlarmActive ∧ s.nowStatusEvent.priority ≤ 8)
    else view s := by
  have honly : OnlyDevice buf.fromID.toUInt32 _ s.toStorage
      (s.flashSetSlaveAlarmFlag buf.fromID.toUInt32 1).2 := onlyDevice_flashSetSlaveAlarmFlag 1
  unfold slaveWater
  split
  · rename_i hdata
    split <;> simp [hdata]
  · split
    · rename_i hdata
      split
      · rename_i hdoor
        simp [hdoor]
      · rename_i hdoor
        extract_lets t u
        have hst : t.toStorage = s.toStorage := by simp [t]
        have hu : view u = view (s.withStorage (·.flashSetSlaveAlarmFlag buf.fromID.toUInt32 1)) :=
          view_withStorage_congr hst honly.lastFlag (by simp [t])
        have hctl : ctl t = ctl s := by simp [t]
        have hstatus : u.nowStatus = s.nowStatus := congrArg Ctl.status hctl
        have hpriority : u.nowStatusEvent.priority = s.nowStatusEvent.priority :=
          congrArg Ctl.priority hctl
        have hcond : buf.data = 1 ∧ s.getDoorID ≠ buf.fromID.toUInt32 := ⟨hdata, hdoor⟩
        rw [if_pos hcond, ← hu, hstatus]
        split
        · rename_i hne
          simp [hne, hpriority]
        · rename_i heq
          simp [not_not.mp heq]
    · rename_i hdata
      simp [hdata]

/-- In normal operation the valve is unlocked. -/
private theorem view_nodeOpen (buf : Message) (s : State) : view (nodeOpen buf s) =
    if s.nowStatus = .opened ∨ s.nowStatus = .close then { view s with locked := false }
    else view s := by
  have hlast : ∀ t : State, view { t with lastCloseFlag := 0 } = view t := fun _ => rfl
  unfold nodeOpen
  rw [view_reportValve]
  split
  · rw [hlast, view_motoOpen_otherOpen, view_radioEnqueue]
  · exact view_radioEnqueue ..

/-- The alarm of the sender is taken back, if there is any. -/
private theorem view_clearSlaveAlarm (buf : Message) (s : State) : view (clearSlaveAlarm buf s) =
    if s.flashGetSlaveAlarmFlag ≠ 0 then
      view (s.withStorage (·.flashSetSlaveAlarmFlag buf.fromID.toUInt32 0))
    else view s := by
  unfold clearSlaveAlarm
  split
  · dsimp only
    split <;> simp
  · rfl

/-- A message queued before changes nothing for it. -/
theorem nowStatus_clearSlaveAlarm (h : QueueOnly s s') :
    (clearSlaveAlarm buf s').nowStatus = (clearSlaveAlarm buf s).nowStatus := by
  obtain ⟨mq, rfl⟩ := h
  unfold clearSlaveAlarm
  dsimp only
  repeat' split
  all_goals first
    | rfl
    | contradiction

/-- The valve is locked if no warning is left. -/
private theorem view_nodeClose (buf : Message) (s : State) : view (nodeClose buf s) =
    (view (clearSlaveAlarm buf s)).lockIf ((clearSlaveAlarm buf s).nowStatus = .opened ∨
      (clearSlaveAlarm buf s).nowStatus = .close) := by
  have honly : OnlyDevice buf.fromID.toUInt32 _ s.toStorage
      (s.flashSetSlaveAlarmFlag buf.fromID.toUInt32 0).2 := onlyDevice_flashSetSlaveAlarmFlag 0
  have hlast : ∀ t : State, view { t with lastCloseFlag := 1 } = view t := fun _ => rfl
  have hview :
      view (clearSlaveAlarm buf (radioEnqueue buf.fromID.toUInt32 (toU8 buf.counter) 6 0 s))
        = view (clearSlaveAlarm buf s) := by
    rw [view_clearSlaveAlarm, view_clearSlaveAlarm, radioEnqueue_toStorage, view_radioEnqueue,
      view_withStorage_congr (radioEnqueue_toStorage ..) honly.lastFlag (view_radioEnqueue ..)]
  unfold nodeClose
  rw [view_reportValve, ← hview]
  have hstatus :
      (clearSlaveAlarm buf (radioEnqueue buf.fromID.toUInt32 (toU8 buf.counter) 6 0 s)).nowStatus
      = (clearSlaveAlarm buf s).nowStatus := nowStatus_clearSlaveAlarm (queueOnly_radioEnqueue ..)
  rw [← hstatus]
  dsimp only
  split
  · rename_i hnormal
    rw [view_motoClose_otherOff, hlast, view_warningDisable, decide_eq_true hnormal]
  · rename_i hwarned
    rw [decide_eq_false hwarned, View.lockIf_false]

/-- What a node command makes of the view. -/
private def commandView (buf : Message) (s : State) : View :=
  if NodeOpens buf s then { view (s.withStorage (dataUpdate buf s)) with locked := false }
  else (view (s.withStorage (dataUpdate buf s))).lockIf (NodeCloses buf s)

/-- A command that updates nothing and moves nothing. -/
private theorem commandView_quiet (hupdate : dataUpdate buf s = fun st => (RT_EOK, st))
    (hopens : ¬NodeOpens buf s) (hcloses : ¬NodeCloses buf s) :
    commandView buf s = view s := by
  rw [commandView, if_neg hopens, decide_eq_false hcloses, hupdate]
  rfl

/-- Command 2 updates the battery. -/
private theorem commandView_handshake (h : buf.command = 2) :
    view (handshake buf s) = commandView buf s := by
  have hupdate : dataUpdate buf s = (·.updateDeviceBat buf.fromID.toUInt32 (toU8 buf.data)) := by
    funext st
    simp [dataUpdate, h]
  rw [commandView, if_neg (by simp [NodeOpens, h]), hupdate, view_handshake]
  congr 1
  simp [NodeCloses, h]

/-- Command 4 updates the alarm, when it is wet and the sender is not the door. -/
private theorem commandView_slaveWater (h : buf.command = 4) :
    view (slaveWater buf s) = commandView buf s := by
  rw [view_slaveWater]
  split
  · rename_i hwet
    have hupdate : dataUpdate buf s = (·.flashSetSlaveAlarmFlag buf.fromID.toUInt32 1) := by
      funext st
      simp [dataUpdate, h, hwet]
    rw [commandView, if_neg (by simp [NodeOpens, h]), hupdate]
    congr 1
    simp [NodeCloses, h, hwet]
  · rename_i hdry
    have hdry' : ¬(buf.data = 1 ∧ ¬s.getDoorID = buf.fromID.toUInt32) := hdry
    refine (commandView_quiet ?_ (by simp [NodeOpens, h]) ?_).symm
    · funext st
      simp [dataUpdate, h, hdry']
    · simp only [NodeCloses, h]
      tauto

/-- Command 5 updates nothing. -/
private theorem commandView_nodeOpen (h : buf.command = 5) :
    view (nodeOpen buf s) = commandView buf s := by
  have hupdate : dataUpdate buf s = fun st => (RT_EOK, st) := by
    funext st
    simp [dataUpdate, h]
  have hcloses : ¬NodeCloses buf s := by simp [NodeCloses, h]
  rw [commandView, view_nodeOpen, hupdate, decide_eq_false hcloses, View.lockIf_false]
  simp only [NodeOpens, h, true_and]
  rfl

/-- Command 6 updates the alarm, when there is one. -/
private theorem commandView_nodeClose (h : buf.command = 6) :
    view (nodeClose buf s) = commandView buf s := by
  have hcloses : NodeCloses buf s ↔ (clearSlaveAlarm buf s).nowStatus = .opened ∨
      (clearSlaveAlarm buf s).nowStatus = .close := by
    simp [NodeCloses, h]
  rw [commandView, if_neg (by simp [NodeOpens, h]), view_nodeClose, decide_eq_decide.mpr hcloses,
    view_clearSlaveAlarm]
  congr 1
  split
  · rename_i halarm
    congr 2
    funext st
    simp [dataUpdate, h, halarm]
  · rename_i halarm
    have hupdate : dataUpdate buf s = fun st => (RT_EOK, st) := by
      funext st
      simp [dataUpdate, h, not_not.mp halarm]
    rw [hupdate]
    rfl

/-- Every other command. -/
private theorem commandView_other (h2 : buf.command ≠ 2) (h4 : buf.command ≠ 4)
    (h5 : buf.command ≠ 5) (h6 : buf.command ≠ 6) : commandView buf s = view s := by
  refine commandView_quiet ?_ (fun h => h5 h.1) ?_
  · funext st
    simp [dataUpdate, h2, h4, h6]
  · simp [NodeCloses, h2, h4, h6]

/-- **The effect of a node command on the view**: it updates one attribute and
may open or close as a remote command does. -/
theorem view_dataSolveCommand (buf : Message) (s : State) : view (dataSolveCommand buf s) =
    if NodeOpens buf s then { view (s.withStorage (dataUpdate buf s)) with locked := false }
    else (view (s.withStorage (dataUpdate buf s))).lockIf (NodeCloses buf s) := by
  change _ = commandView buf s
  by_cases h2 : buf.command = 2
  · rw [← commandView_handshake h2]
    simp [dataSolveCommand, h2]
  by_cases h4 : buf.command = 4
  · rw [← commandView_slaveWater h4]
    simp [dataSolveCommand, h4]
  by_cases h5 : buf.command = 5
  · rw [← commandView_nodeOpen h5]
    simp [dataSolveCommand, h5]
  by_cases h6 : buf.command = 6
  · rw [← commandView_nodeClose h6]
    simp [dataSolveCommand, h6]
  rw [commandView_other h2 h4 h5 h6, dataSolveCommand]
  simp only [h2, h4, h5, h6, if_false]
  repeat' split
  all_goals simp

/-- After a node command: the attribute, the power of the radio, the age of the
sender, and the offline alarm. -/
theorem view_dataSolve (buf : Message) (s : State) : view (dataSolve buf s) =
    view ((dataSolveCommand buf s).withStorage (·.clearDeviceTime buf.fromID.toUInt32)) := by
  have hpower : ∀ t : State,
      (if buf.counter = 0 then changeMaxPower t else backNormalPower t).toStorage
      = t.toStorage ∧
      view (if buf.counter = 0 then changeMaxPower t else backNormalPower t) = view t := by
    intro t
    unfold changeMaxPower backNormalPower
    constructor <;> repeat' split
    all_goals rfl
  have honly : OnlyDevice buf.fromID.toUInt32 _ (dataSolveCommand buf s).toStorage
      ((dataSolveCommand buf s).clearDeviceTime buf.fromID.toUInt32).2 := onlyDevice_clearDeviceTime
  unfold dataSolve
  dsimp only
  rw [view_offlineReact]
  exact view_withStorage_congr (hpower _).1 honly.lastFlag (hpower _).2

/-! ## changes of the registry -/

/-- Outside the registry the view is the same. -/
def RegistryOnly (s s' : State) : Prop := ∃ d, view s' = { view s with device := d }

/-- What leaves the view alone leaves the rest of it alone. -/
theorem RegistryOnly.of_view (h : view s' = view s) : RegistryOnly s s' := ⟨(view s).device, h⟩

/-- Two changes of the registry are one. -/
theorem RegistryOnly.trans {s₁ s₂ s₃ : State} (h : RegistryOnly s₁ s₂) (h' : RegistryOnly s₂ s₃) :
    RegistryOnly s₁ s₃ := by
  obtain ⟨d, hd⟩ := h
  obtain ⟨d', hd'⟩ := h'
  exact ⟨d', by rw [hd', hd]⟩

theorem RegistryOnly.rtcCounter (h : RegistryOnly s s') : s'.rtcCounter = s.rtcCounter := by
  obtain ⟨d, hd⟩ := h
  exact congrArg View.rtcCounter hd

theorem RegistryOnly.gatewayID (h : RegistryOnly s s') : s'.gatewayID = s.gatewayID := by
  obtain ⟨d, hd⟩ := h
  exact congrArg View.gatewayID hd

theorem RegistryOnly.radioID (h : RegistryOnly s s') : s'.radioID = s.radioID := by
  obtain ⟨d, hd⟩ := h
  exact congrArg View.radioID hd

/-- Whether the valve is locked is not up to the registry. -/
theorem RegistryOnly.locked (h : RegistryOnly s s') : (view s').locked = (view s).locked := by
  obtain ⟨d, hd⟩ := h
  rw [hd]

/-- Nor is what waits in the queue of a unit without a gateway. -/
theorem RegistryOnly.stray (h : RegistryOnly s s') : (view s').stray = (view s).stray := by
  obtain ⟨d, hd⟩ := h
  rw [hd]

/-- The operations on one device are such changes. -/
theorem registryOnly_withStorage {op : Storage → UInt8 × Storage}
    (hlast : (op s.toStorage).2.globalDevice.lastFlag = s.globalDevice.lastFlag) :
    RegistryOnly s (s.withStorage op) :=
  ⟨_, view_withStorage hlast⟩

/-- So is what a frame tells of its sender. -/
theorem registryOnly_heardFrom (rssi : Int) (fromID : UInt32) (s : State) :
    RegistryOnly s (heardFrom rssi fromID s) := by
  have hrssi : OnlyDevice fromID _ s.toStorage (s.updateDeviceRssi fromID rssi).2 :=
    onlyDevice_updateDeviceRssi rssi
  exact (registryOnly_withStorage hrssi.lastFlag).trans
    (registryOnly_withStorage (onlyDevice_deviceAliveChange 1).lastFlag)

/-! ## learn frames -/

/-- A gateway that is registered confirms its registration. -/
def GatewayConfirms (buf : Message) (s : State) : Prop :=
  buf.command = 3 ∧ buf.data = 2 ∧ s.flashGetKeyValid buf.fromID.toUInt32 = RT_EOK ∧
    40000000 ≤ buf.fromID ∧ buf.fromID < 50000000

instance (buf : Message) (s : State) : Decidable (GatewayConfirms buf s) :=
  inferInstanceAs (Decidable (_ ∧ _))

/-- To look for a free slot may raise `Num`, and does no more. -/
private theorem lastFlag_getLearnNumsValid (st : Storage) :
    st.getLearnNumsValid.2.globalDevice.lastFlag = st.globalDevice.lastFlag := by
  unfold Storage.getLearnNumsValid
  split
  · split <;> rfl
  · rfl

/-- What is learned is a change of the registry and an answer. -/
private theorem registryOnly_learnNew {add : UInt32 → State → UInt8 × State}
    (h : RegistryOnly s (add buf.fromID.toUInt32 s).2) : RegistryOnly s (learnNew add buf s) := by
  unfold learnNew
  dsimp only
  split
  · exact h.trans (.of_view (view_radioEnqueue ..))
  · exact h

private theorem registryOnly_setStorage {st : Storage}
    (hlast : st.globalDevice.lastFlag = s.globalDevice.lastFlag) :
    RegistryOnly s { s with toStorage := st } := by
  have hop : RegistryOnly s (s.withStorage fun _ => (RT_EOK, st)) := registryOnly_withStorage hlast
  exact hop

/-- To learn a device is no command for the valve. -/
private theorem lastFlag_addDevice (deviceID : UInt32) (st : Storage) :
    (st.addDevice deviceID).2.globalDevice.lastFlag = st.globalDevice.lastFlag := by
  rw [← lastFlag_getLearnNumsValid st]
  unfold Storage.addDevice
  dsimp only
  split <;> rfl

/-- Nor is it to learn a door. -/
private theorem lastFlag_addDoorDevice (deviceID : UInt32) (st : Storage) :
    (st.addDoorDevice deviceID).2.globalDevice.lastFlag = st.globalDevice.lastFlag := by
  unfold Storage.addDoorDevice
  dsimp only
  split
  · rfl
  · rw [← lastFlag_getLearnNumsValid st]
    split <;> rfl

/-- Nor a gateway. -/
private theorem lastFlag_addGatewayDevice (deviceID : UInt32) (st : Storage) :
    (st.addGatewayDevice deviceID).2.globalDevice.lastFlag = st.globalDevice.lastFlag := by
  unfold Storage.addGatewayDevice
  dsimp only
  split
  · rfl
  · rw [← lastFlag_getLearnNumsValid st]
    split <;> rfl

/-- A request changes the registry, whatever the class of its sender. -/
private theorem registryOnly_learnRequest (buf : Message) (s : State) :
    RegistryOnly s (learnRequest buf s) := by
  unfold learnRequest
  repeat' split
  · exact registryOnly_learnNew (registryOnly_setStorage (lastFlag_addDevice ..))
  · refine registryOnly_learnNew ?_
    unfold addDoorDevice
    extract_lets t
    have ht : RegistryOnly s t := by
      unfold t
      split
      · exact .of_view (view_replaceDoor ..)
      · exact .of_view rfl
    exact ht.trans (registryOnly_setStorage (lastFlag_addDoorDevice ..))
  · exact registryOnly_learnNew (registryOnly_setStorage (lastFlag_addGatewayDevice ..))
  · exact .of_view rfl
  · exact .of_view (view_radioEnqueue ..)

/-- `Gateway_ID` is read from the registry again. -/
def rereadGatewayID (s : State) : State :=
  { s with gatewayID := s.globalDevice.id s.globalDevice.gatewayNum }

/-- `Gateway_Reload` also starts the watch over the heartbeat. -/
private theorem view_gatewayReload (s : State) :
    view (gatewayReload s) = view (rereadGatewayID s) := by
  unfold gatewayReload heartRefresh
  dsimp only
  split <;> rfl

/-- A confirmation of a registered sender; that of a gateway reads its id again. -/
private theorem registryOnly_learnConfirm (buf : Message) (s : State)
    (hv : s.flashGetKeyValid buf.fromID.toUInt32 = RT_EOK) :
    RegistryOnly (if 40000000 ≤ buf.fromID ∧ buf.fromID < 50000000 then rereadGatewayID s else s)
      (learnConfirm buf s) := by
  unfold learnConfirm checkValid
  rw [if_neg (not_not.mpr hv)]
  dsimp only
  refine RegistryOnly.trans ?_
    (.of_view ((view_gatewaySyncEnqueue ..).trans (view_radioEnqueue ..)))
  refine RegistryOnly.trans ?_ (registryOnly_withStorage (onlyDevice_deviceAliveChange 1).lastFlag)
  split
  · exact .of_view (view_gatewayReload s)
  · exact .of_view rfl

/-- **The effect of a learn frame outside the registry**: the gateway id is read
again when a gateway confirms. -/
theorem registryOnly_deviceLearn (buf : Message) (s : State) :
    RegistryOnly (if GatewayConfirms buf s then rereadGatewayID s else s) (deviceLearn buf s) := by
  have htimer : ∀ t : State, RegistryOnly t { t with learnTimer := true } := fun _ => .of_view rfl
  by_cases hreq : buf.command = 3
  · unfold deviceLearn
    rw [if_pos hreq]
    refine RegistryOnly.trans ?_ (htimer _)
    by_cases hrequest : buf.data = 1
    · rw [if_neg (by simp [GatewayConfirms, hrequest]), if_pos hrequest]
      exact registryOnly_learnRequest buf s
    · by_cases hconfirm : buf.data = 2
      · rw [if_neg hrequest, if_pos hconfirm]
        by_cases hv : s.flashGetKeyValid buf.fromID.toUInt32 = RT_EOK
        · simpa [GatewayConfirms, hreq, hconfirm, hv] using registryOnly_learnConfirm buf s hv
        · rw [if_neg (fun h : GatewayConfirms buf s => hv h.2.2.1), learnConfirm, checkValid,
            if_pos hv]
          exact .of_view rfl
      · rw [if_neg (fun h : GatewayConfirms buf s => hconfirm h.2.1), if_neg hrequest,
          if_neg hconfirm]
        exact .of_view rfl
  · rw [if_neg (fun h : GatewayConfirms buf s => hreq h.1), deviceLearn, if_neg hreq]
    exact .of_view rfl

end WaterValve
