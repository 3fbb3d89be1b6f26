import WaterValve.ControlRun
import WaterValve.KernelCalls
import WaterValve.Uplink

/-!
# WaterValve.Leftovers

The parse of a short frame leaves fields of `Rx_message` unset, and
`NormalSolve` and `GatewayDataSolve` act on what the stack holds there.

`NodeInert` and `GatewayInert` are the frames on which they do not: the frame
end is missing, every field is filled, or a field that is filled makes the
others irrelevant.  `leftovers_inert` says that these are the frames with the
same effect for every content of the stack, in every reachable state.

The effect is the next state together with the kernel calls.  A timer that runs
and is started again runs on in the state, but from a new instant, and only the
calls show that.
-/

namespace WaterValve

variable {rom : UInt32} {s : State}

/-! ## frames that depend on their fields only -/

/-- `NormalSolve`: the next state, and the timers and the queue it calls for. -/
def nodeEffect (rxMessage : Message) (rssi : Int) (rxBuffer : List UInt8) (rxLen : UInt8)
    (s : State) : State × List KernelObject :=
  (normalSolve rxMessage rssi rxBuffer rxLen s,
    if nodeFrameEnd rxBuffer rxLen then normalActCalls rssi (scanNode rxMessage rxBuffer).2 s
    else [])

/-- `GatewayDataSolve`, likewise. -/
def gatewayEffect (rxMessage : Message) (rxBuffer : List UInt8) (rxLen : UInt8) (s : State) :
    State × List KernelObject :=
  (gatewayDataSolve rxMessage rxBuffer rxLen s,
    if gatewayFrameEnd rxBuffer rxLen then gatewayActCalls (scanGateway rxMessage rxBuffer).2 s
    else [])

/-- The first field addresses another unit. -/
def OtherTarget (accepted : Int32 → Prop) (fields : List Int32) : Prop :=
  ∃ target ∈ fields[0]?, ¬accepted target

/-- The second field is an id that is never learned. -/
def NeverLearned (fields : List Int32) : Prop := ∃ fromID ∈ fields[1]?, 50000000 ≤ fromID

/-- A node command that does not look at its data: none of 2, 3, 4, 8 and 9, or
4 from a door. -/
def NoData (fields : List Int32) : Prop :=
  ∃ command ∈ fields[3]?, command ∉ [2, 3, 4, 8, 9] ∨
    command = 4 ∧ ∃ fromID ∈ fields[1]?, 30000000 ≤ fromID ∧ fromID < 40000000

/-- The node frames without an effect of leftover fields.  In learn mode command
3 starts `Learn_Timer` again for any sender, so for one that is never learned
the command has to be filled. -/
def NodeInert (radioID : UInt32) (rxBuffer : List UInt8) (rxLen : UInt8) : Prop :=
  ¬nodeFrameEnd rxBuffer rxLen ∨ (nodeFields rxBuffer).length = 5 ∨
    OtherTarget (fun target => target.toUInt32 = radioID ∨ target = 99999999)
      (nodeFields rxBuffer) ∨
    (NeverLearned (nodeFields rxBuffer) ∧ (nodeFields rxBuffer).length = 4) ∨
    NoData (nodeFields rxBuffer)

/-- The gateway frames without one: of the gateway's commands only 2 looks at
its data. -/
def GatewayInert (radioID : UInt32) (rxBuffer : List UInt8) (rxLen : UInt8) : Prop :=
  ¬gatewayFrameEnd rxBuffer rxLen ∨ (gatewayFields rxBuffer).length = 6 ∨
    OtherTarget (fun target => target.toUInt32 = radioID) (gatewayFields rxBuffer) ∨
    NeverLearned (gatewayFields rxBuffer) ∨
    ∃ command ∈ (gatewayFields rxBuffer)[4]?, command ≠ 2

/-! ## reachable states -/

/-- In learn mode the timer that ends it runs. -/
theorem learnTimer_runs (h : (valveMachine rom).Reachable s) (hl : s.learnFlag ≠ 0) :
    s.learnTimer = true := by
  have hboot : ∀ lastFlag alarm, (Ctl.boot lastFlag alarm).learnFlag ≠ 0 →
      (Ctl.boot lastFlag alarm).learnTimer = true := by
    intro lastFlag alarm
    have hstep : CtlStep (fun _ _ => True) (Ctl.reset 0 false) (Ctl.boot lastFlag alarm) :=
      .boot lastFlag alarm
    exact hstep.learnTimer fun hl => absurd rfl hl
  exact ctl_invariant (fun _ _ => True) h (fun _ _ _ _ _ => trivial)
    (I := fun c => c.learnFlag ≠ 0 → c.learnTimer = true) hboot
    (fun _ _ hc hs => hs.learnTimer hc) hl

/-- An id beyond the classes is never found. -/
theorem slotOf_neverLearned (h : (valveMachine rom).Reachable s) {fromID : Int32}
    (hf : 50000000 ≤ fromID) : s.slotOf fromID.toUInt32 = 0 := by
  have hslots := registryMachine_slotClasses (reachable_registryMachine h)
  by_contra hs
  obtain ⟨i, -, -, hid⟩ := (valveMachine_wf h).slotOf_ne_zero_iff.mp hs
  have hlt := hslots.learnable i
  rw [hid, Int32.toInt32_toUInt32] at hlt
  exact absurd hlt (Int32.not_lt.mpr hf)

/-! ## inert node frames -/

/-- `NormalSolve` reads five fields. -/
theorem normalAct_congr {rssi : Int} {buf buf' : Message} (ht : buf'.targetID = buf.targetID)
    (hf : buf'.fromID = buf.fromID) (hn : buf'.counter = buf.counter)
    (hc : buf'.command = buf.command) (hd : buf'.data = buf.data) (s : State) :
    normalAct rssi buf' s = normalAct rssi buf s := by
  obtain ⟨target, fromID, device, counter, command, data⟩ := buf
  obtain ⟨target', fromID', device', counter', command', data'⟩ := buf'
  dsimp only at ht hf hn hc hd
  subst ht hf hn hc hd
  let m : Message := ⟨target', fromID', device, counter', command', data'⟩
  let m' : Message := ⟨target', fromID', device', counter', command', data'⟩
  have hrequest : ∀ s, learnRequest m' s = learnRequest m s := fun _ => rfl
  have hconfirm : ∀ s, learnConfirm m' s = learnConfirm m s := fun _ => rfl
  have hlearn : ∀ s, deviceLearn m' s = deviceLearn m s := by
    intro s
    rw [deviceLearn, hrequest, hconfirm, deviceLearn]
  have hhandshake : ∀ s, handshake m' s = handshake m s := fun _ => rfl
  have hstart : ∀ s, learnStart m' s = learnStart m s := fun _ => rfl
  have hwater : ∀ s, slaveWater m' s = slaveWater m s := fun _ => rfl
  have hopen : ∀ s, nodeOpen m' s = nodeOpen m s := fun _ => rfl
  have hclose : ∀ s, nodeClose m' s = nodeClose m s := fun _ => rfl
  have hdelay : ∀ s, nodeDelay m' s = nodeDelay m s := fun _ => rfl
  have hlost : ∀ s, slaveLost m' s = slaveLost m s := fun _ => rfl
  have hcommand : ∀ s, dataSolveCommand m' s = dataSolveCommand m s := by
    intro s
    rw [dataSolveCommand, hhandshake, hstart, hwater, hopen, hclose, hdelay, hlost,
      dataSolveCommand]
  have hsolve : ∀ s, dataSolve m' s = dataSolve m s := by
    intro s
    rw [dataSolve, hcommand, dataSolve]
  show normalAct rssi m' s = normalAct rssi m s
  rw [normalAct, hlearn, hsolve, normalAct]

/-- Neither do the kernel calls depend on a sixth one. -/
theorem normalActCalls_congr {rssi : Int} {buf buf' : Message}
    (ht : buf'.targetID = buf.targetID) (hf : buf'.fromID = buf.fromID)
    (hn : buf'.counter = buf.counter) (hc : buf'.command = buf.command)
    (hd : buf'.data = buf.data) (s : State) :
    normalActCalls rssi buf' s = normalActCalls rssi buf s := by
  obtain ⟨target, fromID, device, counter, command, data⟩ := buf
  obtain ⟨target', fromID', device', counter', command', data'⟩ := buf'
  dsimp only at ht hf hn hc hd
  subst ht hf hn hc hd
  let m : Message := ⟨target', fromID', device, counter', command', data'⟩
  let m' : Message := ⟨target', fromID', device', counter', command', data'⟩
  have hlearn : ∀ s, deviceLearnCalls m' s = deviceLearnCalls m s := fun _ => rfl
  have hhandshake : ∀ s, handshakeCalls m' s = handshakeCalls m s := fun _ => rfl
  have hstart : ∀ s, learnStartCalls m' s = learnStartCalls m s := fun _ => rfl
  have hwater : ∀ s, slaveWaterCalls m' s = slaveWaterCalls m s := fun _ => rfl
  have hopen : ∀ s, nodeOpenCalls m' s = nodeOpenCalls m s := fun _ => rfl
  have hclose : ∀ s, nodeCloseCalls m' s = nodeCloseCalls m s := fun _ => rfl
  have hdelay : ∀ s, nodeDelayCalls m' s = nodeDelayCalls m s := fun _ => rfl
  have hsolve : ∀ s, dataSolveCalls m' s = dataSolveCalls m s := by
    intro s
    rw [dataSolveCalls, hhandshake, hstart, hwater, hopen, hclose, hdelay, dataSolveCalls]
  show normalActCalls rssi m' s = normalActCalls rssi m s
  rw [normalActCalls, hlearn, hsolve, normalActCalls]

/-- Such an id is of no class that is learned. -/
theorem not_class_of_neverLearned {fromID : Int32} (hf : 50000000 ≤ fromID) :
    ¬fromID < 30000000 ∧ ¬(30000000 ≤ fromID ∧ fromID < 40000000) ∧
      ¬(40000000 ≤ fromID ∧ fromID < 50000000) := by
  have h3 : (30000000 : Int32) ≤ 50000000 := by decide
  have h4 : (40000000 : Int32) ≤ 50000000 := by decide
  refine ⟨Int32.not_lt.mpr (Int32.le_trans h3 hf), fun hc => ?_, fun hc => ?_⟩
  · exact absurd hc.2 (Int32.not_lt.mpr (Int32.le_trans h4 hf))
  · exact absurd hc.2 (Int32.not_lt.mpr hf)

/-- A sender that can never be learned has no effect in learn mode either. -/
theorem normalAct_neverLearned (h : (valveMachine rom).Reachable s) {rssi : Int} {buf : Message}
    (hf : 50000000 ≤ buf.fromID) : normalAct rssi buf s = s := by
  have hs := slotOf_neverLearned h hf
  by_cases hl : s.learnFlag = 0
  · exact normalAct_of_invalid hl hs
  · have hv : s.flashGetKeyValid buf.fromID.toUInt32 ≠ RT_EOK := by
      rw [ne_eq, Storage.flashGetKeyValid_eq_ok]
      exact not_not.mpr hs
    have hheard := heardFrom_of_invalid hs rssi
    have hclass := not_class_of_neverLearned hf
    have hrequest : learnRequest buf s = s := by
      unfold learnRequest checkValid
      rw [if_pos hv, if_neg hclass.1, if_neg hclass.2.1, if_neg hclass.2.2]
    have hconfirm : learnConfirm buf s = s := by
      unfold learnConfirm checkValid
      rw [if_pos hv]
    have htimer : { s with learnTimer := true } = s := by
      rw [← learnTimer_runs h hl]
    have hlearn : deviceLearn buf s = s := by
      unfold deviceLearn
      rw [hrequest, hconfirm, ite_self, ite_self]
      dsimp only
      rw [htimer, ite_self]
    unfold normalAct
    rw [if_pos hl, hheard, hlearn, ite_self]

/-- Of such a sender only command 3 is noticed, in learn mode, by `Learn_Timer`. -/
theorem normalActCalls_neverLearned (h : (valveMachine rom).Reachable s) {rssi : Int}
    {buf : Message} (hf : 50000000 ≤ buf.fromID) : normalActCalls rssi buf s =
      if (buf.targetID.toUInt32 = s.radioID ∨ buf.targetID = 99999999) ∧ s.learnFlag ≠ 0 ∧
        buf.command = 3 then [.learnTimer] else [] := by
  have hs := slotOf_neverLearned h hf
  have hv : s.flashGetKeyValid buf.fromID.toUInt32 ≠ RT_EOK := by
    rw [ne_eq, Storage.flashGetKeyValid_eq_ok]
    exact not_not.mpr hs
  have hheard := heardFrom_of_invalid hs rssi
  have hclass := not_class_of_neverLearned hf
  have hrequest : learnRequestCalls buf s = [] := by
    unfold learnRequestCalls checkValid
    rw [if_pos hv, if_neg hclass.1, if_neg hclass.2.1, if_neg hclass.2.2]
  have hconfirm : learnConfirmCalls buf s = [] := by
    unfold learnConfirmCalls checkValid
    rw [if_pos hv]
  unfold normalActCalls deviceLearnCalls
  rw [hheard, hrequest, hconfirm, ite_self, ite_self, List.nil_append, if_neg hv]
  by_cases ht : buf.targetID.toUInt32 = s.radioID ∨ buf.targetID = 99999999
  · by_cases hl : s.learnFlag = 0
    · simp [hl]
    · simp [ht, hl]
  · simp [ht]

/-- The registered door is the door. -/
theorem getDoorID_of_valid (h : (valveMachine rom).Reachable s) {fromID : Int32}
    (hs : s.slotOf fromID.toUInt32 ≠ 0) (hf : 30000000 ≤ fromID ∧ fromID < 40000000) :
    s.getDoorID = fromID.toUInt32 := by
  have hwf : s.Wf := valveMachine_wf h
  have hslots := registryMachine_slotClasses (reachable_registryMachine h)
  obtain ⟨i, -, -, hid⟩ := hwf.slotOf_ne_zero_iff.mp hs
  have hdoor : IsDoor (s.globalDevice.id i) := hid ▸ (isDoor_toUInt32 fromID).mpr hf
  exact (hslots.getDoorID hwf hdoor).trans hid

/-- The door's own reports of water are dropped. -/
theorem slaveWater_door {buf : Message} (hd : s.getDoorID = buf.fromID.toUInt32) :
    slaveWater buf s = s := by
  unfold slaveWater
  simp only [if_pos hd, ite_self]

/-- The commands that do not look at their data. -/
theorem dataSolveCommand_noData {buf : Message} (hc : buf.command ∉ [2, 3, 4, 8, 9]) (data : Int32)
    (s : State) : dataSolveCommand { buf with data := data } s = dataSolveCommand buf s := by
  simp only [List.mem_cons, List.not_mem_nil, or_false, not_or] at hc
  obtain ⟨h2, h3, h4, h8, h9⟩ := hc
  have hopen : nodeOpen { buf with data := data } s = nodeOpen buf s := rfl
  have hclose : nodeClose { buf with data := data } s = nodeClose buf s := rfl
  unfold dataSolveCommand
  simp only [if_neg h2, if_neg h3, if_neg h4, if_neg h8, if_neg h9, hopen, hclose]

/-- Command 4 is `slaveWater`. -/
theorem dataSolveCommand_four {buf : Message} (h4 : buf.command = 4) (s : State) :
    dataSolveCommand buf s = slaveWater buf s := by
  have h1 : buf.command ≠ 1 := by rw [h4]; decide
  have h2 : buf.command ≠ 2 := by rw [h4]; decide
  have h3 : buf.command ≠ 3 := by rw [h4]; decide
  unfold dataSolveCommand
  rw [if_neg h1, if_neg h2, if_neg h3, if_pos h4]

theorem dataSolve_congr {buf buf' : Message} (hf : buf'.fromID = buf.fromID)
    (hn : buf'.counter = buf.counter) (hc : dataSolveCommand buf' s = dataSolveCommand buf s) :
    dataSolve buf' s = dataSolve buf s := by
  unfold dataSolve
  rw [hc, hf, hn]

private theorem normalAct_data (h : (valveMachine rom).Reachable s) {rssi : Int} {buf : Message}
    (hc : buf.command ∉ [2, 3, 4, 8, 9] ∨
      buf.command = 4 ∧ 30000000 ≤ buf.fromID ∧ buf.fromID < 40000000) (data : Int32) :
    normalAct rssi { buf with data := data } s = normalAct rssi buf s := by
  have h3 : buf.command ≠ 3 := by
    obtain hc | ⟨hc, -⟩ := hc
    · rintro h3; rw [h3] at hc; simp at hc
    · rw [hc]; decide
  have hlearn : ∀ (buf : Message) (s : State), buf.command ≠ 3 → deviceLearn buf s = s :=
    fun buf s h3 => if_neg h3
  have hcommand : s.slotOf buf.fromID.toUInt32 ≠ 0 →
      dataSolveCommand { buf with data := data } (heardFrom rssi buf.fromID.toUInt32 s) =
        dataSolveCommand buf (heardFrom rssi buf.fromID.toUInt32 s) := by
    intro hs
    obtain hc | ⟨h4, hdoor⟩ := hc
    · exact dataSolveCommand_noData hc data _
    · have hd : (heardFrom rssi buf.fromID.toUInt32 s).getDoorID = buf.fromID.toUInt32 :=
        (onlyDevice_heardFrom ..).getDoorID.trans (getDoorID_of_valid h hs hdoor)
      rw [dataSolveCommand_four h4, slaveWater_door hd,
        dataSolveCommand_four (by exact h4), slaveWater_door (by exact hd)]
  unfold normalAct
  rw [hlearn _ _ h3, hlearn _ _ (by exact h3)]
  by_cases hs : s.slotOf buf.fromID.toUInt32 = 0
  · have hv : s.flashGetKeyValid buf.fromID.toUInt32 ≠ RT_EOK := by
      rw [ne_eq, Storage.flashGetKeyValid_eq_ok]
      exact not_not.mpr hs
    simp only [if_neg hv]
  · rw [dataSolve_congr (by rfl) (by rfl) (hcommand hs)]

/-- A command that does not look at its data: four fields are read. -/
theorem normalAct_noData (h : (valveMachine rom).Reachable s) {rssi : Int} {buf buf' : Message}
    (hc : buf.command ∉ [2, 3, 4, 8, 9] ∨
      buf.command = 4 ∧ 30000000 ≤ buf.fromID ∧ buf.fromID < 40000000)
    (ht : buf'.targetID = buf.targetID) (hf : buf'.fromID = buf.fromID)
    (hn : buf'.counter = buf.counter) (hcommand : buf'.command = buf.command) :
    normalAct rssi buf' s = normalAct rssi buf s := by
  rw [← normalAct_data h hc buf'.data]
  refine normalAct_congr ?_ ?_ ?_ ?_ ?_ s
  exacts [ht, hf, hn, hcommand, rfl]

/-- The door's own reports of water make no call. -/
theorem slaveWaterCalls_door {buf : Message} (hd : s.getDoorID = buf.fromID.toUInt32) :
    slaveWaterCalls buf s = [] := by
  unfold slaveWaterCalls
  simp only [if_pos hd, ite_self]

/-- The calls of such a command are read off four fields as well. -/
theorem normalActCalls_noData (h : (valveMachine rom).Reachable s) {rssi : Int}
    {buf buf' : Message}
    (hc : buf.command ∉ [2, 3, 4, 8, 9] ∨
      buf.command = 4 ∧ 30000000 ≤ buf.fromID ∧ buf.fromID < 40000000)
    (ht : buf'.targetID = buf.targetID) (hf : buf'.fromID = buf.fromID)
    (hn : buf'.counter = buf.counter) (hcommand : buf'.command = buf.command) :
    normalActCalls rssi buf' s = normalActCalls rssi buf s := by
  have h3 : buf.command ≠ 3 := by
    obtain hc | ⟨hc, -⟩ := hc
    · rintro h3; rw [h3] at hc; simp at hc
    · rw [hc]; decide
  have hsolve : s.slotOf buf.fromID.toUInt32 ≠ 0 →
      dataSolveCalls buf' (heardFrom rssi buf.fromID.toUInt32 s) =
        dataSolveCalls buf (heardFrom rssi buf.fromID.toUInt32 s) := by
    intro hs
    generalize ht : heardFrom rssi buf.fromID.toUInt32 s = t
    obtain hc | ⟨h4, hdoor⟩ := hc
    · simp only [List.mem_cons, List.not_mem_nil, or_false, not_or] at hc
      obtain ⟨h2, h3, h4, h8, h9⟩ := hc
      have hopen : nodeOpenCalls buf' t = nodeOpenCalls buf t := by
        unfold nodeOpenCalls
        rw [hf, hn]
      have hclose : nodeCloseCalls buf' t = nodeCloseCalls buf t := by
        unfold nodeCloseCalls clearSlaveAlarm
        rw [hf, hn]
      unfold dataSolveCalls
      simp only [hcommand, if_neg h2, if_neg h3, if_neg h4, if_neg h8, if_neg h9, hopen, hclose]
    · have hd : t.getDoorID = buf.fromID.toUInt32 := by
        rw [← ht, ← getDoorID_of_valid h hs hdoor]
        exact (onlyDevice_heardFrom ..).getDoorID
      unfold dataSolveCalls
      rw [slaveWaterCalls_door hd, slaveWaterCalls_door (hd.trans (congrArg _ hf.symm)), hcommand,
        h4]
      rfl
  unfold normalActCalls deviceLearnCalls
  rw [ht, hf, hcommand, if_neg h3, if_neg h3]
  by_cases hs : s.slotOf buf.fromID.toUInt32 = 0
  · have hv : s.flashGetKeyValid buf.fromID.toUInt32 ≠ RT_EOK := by
      rw [ne_eq, Storage.flashGetKeyValid_eq_ok]
      exact not_not.mpr hs
    rw [if_neg hv, if_neg hv]
  · rw [hsolve hs]

/-- A filled field does not depend on what the output held. -/
theorem getD_of_lt {fields : List Int32} {i : Nat} (h : i < fields.length) (v v' : Int32) :
    fields.getD i v = fields.getD i v' := by
  rw [List.getD_eq_getElem?_getD, List.getD_eq_getElem?_getD, List.getElem?_eq_getElem h,
    Option.getD_some, Option.getD_some]

theorem getD_of_mem {fields : List Int32} {i : Nat} {field : Int32} (h : field ∈ fields[i]?)
    (v : Int32) : fields.getD i v = field := by
  rw [List.getD_eq_getElem?_getD, Option.mem_def.mp h, Option.getD_some]

/-- **An inert node frame has one effect**, whatever `Rx_message` held. -/
theorem NodeInert.sound (h : (valveMachine rom).Reachable s) {rxBuffer : List UInt8}
    {rxLen : UInt8} (hi : NodeInert s.radioID rxBuffer rxLen) (rxMessage rxMessage' : Message)
    (rssi : Int) :
    nodeEffect rxMessage' rssi rxBuffer rxLen s = nodeEffect rxMessage rssi rxBuffer rxLen s := by
  unfold NodeInert at hi
  unfold nodeEffect normalSolve
  by_cases hend : nodeFrameEnd rxBuffer rxLen
  · simp only [if_pos hend, scanNode_eq]
    generalize nodeFields rxBuffer = fields at hi ⊢
    obtain hnot | hlen | ⟨target, htarget, hother⟩ | ⟨⟨fromID, hfrom, hnever⟩, hlen⟩ |
      ⟨command, hcommand, hnodata⟩ := hi
    · exact absurd hend hnot
    · have hfull : ∀ i, i < 5 → ∀ v v', fields.getD i v' = fields.getD i v :=
        fun i hi v v' => getD_of_lt (by omega) v' v
      rw [hfull 0 (by decide) rxMessage.targetID, hfull 1 (by decide) rxMessage.fromID,
        hfull 2 (by decide) rxMessage.counter, hfull 3 (by decide) rxMessage.command,
        hfull 4 (by decide) rxMessage.data]
      refine Prod.ext (normalAct_congr ?_ ?_ ?_ ?_ ?_ s) (normalActCalls_congr ?_ ?_ ?_ ?_ ?_ s) <;>
        rfl
    · have hskip : ∀ buf : Message, buf.targetID = target →
          (normalAct rssi buf s, normalActCalls rssi buf s) = (s, []) := by
        rintro buf rfl
        exact Prod.ext (if_neg hother) (if_neg hother)
      exact (hskip _ (getD_of_mem htarget _)).trans (hskip _ (getD_of_mem htarget _)).symm
    · have hfilled : ∀ i, i < 4 → ∀ v v', fields.getD i v' = fields.getD i v :=
        fun i hi v v' => getD_of_lt (by omega) v' v
      rw [hfilled 0 (by decide) rxMessage.targetID, hfilled 1 (by decide) rxMessage.fromID,
        hfilled 2 (by decide) rxMessage.counter, hfilled 3 (by decide) rxMessage.command]
      have hskip : ∀ target command, ∀ buf : Message, buf.targetID = target →
          buf.fromID = fromID → buf.command = command →
            (normalAct rssi buf s, normalActCalls rssi buf s) =
              (s, if (target.toUInt32 = s.radioID ∨ target = 99999999) ∧ s.learnFlag ≠ 0 ∧
                command = 3 then [.learnTimer] else []) := by
        rintro _ _ buf rfl rfl rfl
        exact Prod.ext (normalAct_neverLearned h hnever) (normalActCalls_neverLearned h hnever)
      have hsame := hskip (fields.getD 0 rxMessage.targetID) (fields.getD 3 rxMessage.command)
      exact (hsame _ rfl (getD_of_mem hfrom _) rfl).trans
        (hsame _ rfl (getD_of_mem hfrom _) rfl).symm
    · obtain ⟨hlt, -⟩ := List.getElem?_eq_some_iff.mp (Option.mem_def.mp hcommand)
      have hfilled : ∀ i, i < 4 → ∀ v v', fields.getD i v' = fields.getD i v :=
        fun i hi v v' => getD_of_lt (by omega) v' v
      rw [hfilled 0 (by decide) rxMessage.targetID, hfilled 1 (by decide) rxMessage.fromID,
        hfilled 2 (by decide) rxMessage.counter, hfilled 3 (by decide) rxMessage.command]
      have hblind : fields.getD 3 rxMessage.command ∉ ([2, 3, 4, 8, 9] : List Int32) ∨
          fields.getD 3 rxMessage.command = 4 ∧
            30000000 ≤ fields.getD 1 rxMessage.fromID ∧
              fields.getD 1 rxMessage.fromID < 40000000 := by
        rw [getD_of_mem hcommand]
        exact hnodata.imp id fun ⟨h4, fromID, hfrom, hdoor⟩ =>
          ⟨h4, by rw [getD_of_mem hfrom]; exact hdoor⟩
      refine Prod.ext (normalAct_noData h ?_ rfl rfl rfl rfl)
        (normalActCalls_noData h ?_ rfl rfl rfl rfl) <;> exact hblind
  · rw [if_neg hend, if_neg hend, if_neg hend, if_neg hend]

/-! ## inert gateway frames -/

/-- Apart from command 2 the gateway's data is not looked at. -/
theorem gatewayAct_noData {target fromID device counter command : Int32} (h2 : command ≠ 2)
    (data data' : Int32) :
    gatewayAct ⟨target, fromID, device, counter, command, data'⟩ s =
      gatewayAct ⟨target, fromID, device, counter, command, data⟩ s := by
  unfold gatewayAct gatewayCommand
  simp only [if_neg h2]

/-- Nor do the kernel calls depend on it. -/
theorem gatewayActCalls_noData {target fromID device counter command : Int32} (h2 : command ≠ 2)
    (data data' : Int32) :
    gatewayActCalls ⟨target, fromID, device, counter, command, data'⟩ s =
      gatewayActCalls ⟨target, fromID, device, counter, command, data⟩ s := by
  unfold gatewayActCalls gatewayCommandCalls
  simp only [if_neg h2]

/-- **An inert gateway frame has one effect**, whatever `Rx_message` held. -/
theorem GatewayInert.sound (h : (valveMachine rom).Reachable s) {rxBuffer : List UInt8}
    {rxLen : UInt8} (hi : GatewayInert s.radioID rxBuffer rxLen) (rxMessage rxMessage' : Message) :
    gatewayEffect rxMessage' rxBuffer rxLen s = gatewayEffect rxMessage rxBuffer rxLen s := by
  unfold GatewayInert at hi
  unfold gatewayEffect gatewayDataSolve
  by_cases hend : gatewayFrameEnd rxBuffer rxLen
  · simp only [if_pos hend, scanGateway_eq]
    generalize gatewayFields rxBuffer = fields at hi ⊢
    obtain hnot | hlen | ⟨target, htarget, hother⟩ | ⟨fromID, hfrom, hnever⟩ |
      ⟨command, hcommand, hnodata⟩ := hi
    · exact absurd hend hnot
    · have hfull : ∀ i, i < 6 → ∀ v v', fields.getD i v' = fields.getD i v :=
        fun i hi v v' => getD_of_lt (by omega) v' v
      rw [hfull 0 (by decide) rxMessage.targetID, hfull 1 (by decide) rxMessage.fromID,
        hfull 2 (by decide) rxMessage.deviceID, hfull 3 (by decide) rxMessage.counter,
        hfull 4 (by decide) rxMessage.command, hfull 5 (by decide) rxMessage.data]
    · have hskip : ∀ buf : Message, buf.targetID = target →
          (gatewayAct buf s, gatewayActCalls buf s) = (s, []) := by
        rintro buf rfl
        exact Prod.ext (if_neg fun hc => hother hc.1) (if_neg fun hc => hother hc.1)
      exact (hskip _ (getD_of_mem htarget _)).trans (hskip _ (getD_of_mem htarget _)).symm
    · have hskip : ∀ buf : Message, buf.fromID = fromID →
          (gatewayAct buf s, gatewayActCalls buf s) = (s, []) := by
        rintro buf rfl
        have hs := slotOf_neverLearned h hnever
        have hv : checkValid buf.fromID.toUInt32 s ≠ RT_EOK := by
          rw [checkValid, ne_eq, Storage.flashGetKeyValid_eq_ok]
          exact not_not.mpr hs
        exact Prod.ext (gatewayAct_of_invalid hs) (if_neg fun hc => hv hc.2)
      exact (hskip _ (getD_of_mem hfrom _)).trans (hskip _ (getD_of_mem hfrom _)).symm
    · obtain ⟨hlt, -⟩ := List.getElem?_eq_some_iff.mp (Option.mem_def.mp hcommand)
      have hfilled : ∀ i, i < 5 → ∀ v v', fields.getD i v' = fields.getD i v :=
        fun i hi v v' => getD_of_lt (by omega) v' v
      rw [hfilled 0 (by decide) rxMessage.targetID, hfilled 1 (by decide) rxMessage.fromID,
        hfilled 2 (by decide) rxMessage.deviceID, hfilled 3 (by decide) rxMessage.counter,
        hfilled 4 (by decide) rxMessage.command]
      have h2 : fields.getD 4 rxMessage.command ≠ 2 := by
        rw [getD_of_mem hcommand]
        exact hnodata
      exact Prod.ext (gatewayAct_noData h2 _ _) (gatewayActCalls_noData h2 _ _)
  · rw [if_neg hend, if_neg hend, if_neg hend, if_neg hend]

/-! ## a run that learns a device -/

/-- The valve is shown, outside learn mode, and nothing is left to send. -/
structure Idle (s : State) : Prop where
  shown : s.nowStatus = .close ∨ s.nowStatus = .opened
  learnFlag : s.learnFlag = 0
  sent : s.rfEnMq = []

/-- The transmit thread empties the queue. -/
theorem exists_sent (h : (valveMachine rom).Reachable s) :
    ∃ ack, (valveMachine rom).Reachable { s with rfEnMq := [], rfAckSem := ack } := by
  obtain ⟨mq, hmq⟩ : ∃ mq, s.rfEnMq = mq := ⟨_, rfl⟩
  induction mq generalizing s with
  | nil => exact ⟨s.rfAckSem, by simpa [← hmq] using h⟩
  | cons msg mq ih =>
      have hsend : (valveMachine rom).step s .rfEncode =
          some { s with rfEnMq := mq, rfAckSem := false } := by
        simp [valveMachine, step, hmq]
      obtain ⟨ack, hack⟩ := ih (h.step hsend) rfl
      exact ⟨ack, hack⟩

/-- The registry `LoadDevice2Memory` finds in an erased flash. -/
private theorem loadDevice2Memory_default :
    (State.reset .default).loadDevice2Memory = some ⟨.zero, .default⟩ := by
  have hnum : flashGetLearnNums .default = 0 := flashGet_default _
  have hdoor : flashGetKeyValue 88888888 .default = 0 := flashGet_default _
  have hgateway : flashGetKeyValue 88887777 .default = 0 := flashGet_default _
  have hmoto : flashGetMotoFlag .default = 0 := flashGet_default _
  show (State.reset .default).toStorage.loadDevice2Memory = _
  unfold Storage.loadDevice2Memory
  simp only [State.reset, hnum, hdoor, hgateway, hmoto]
  rfl

/-- The unit comes up idle, with an empty registry. -/
theorem exists_idle (rom : UInt32) : ∃ s, (valveMachine rom).Reachable s ∧ Idle s ∧
    s.globalDevice.id = (fun _ => 0) ∧ s.globalDevice.doorNum = 0 ∧
      s.globalDevice.gatewayNum = 0 := by
  let s₀ : State := radioQueueInit rom (State.reset .default)
  let s₁ : State := detectFactory dryPins (waterScanIOInit (motoInitOpen normalOpen s₀))
  have hinit : motoInit s₀ = motoInitOpen normalOpen s₀ := by
    have hflag : s₀.flashGetSlaveAlarmFlag = 0 := rfl
    have hlast : s₀.globalDevice.lastFlag = 0 := rfl
    rw [motoInit, hflag, hlast, if_neg (by decide), if_pos (by decide)]
  have hboot : boot rom dryPins .default = some (gatewayInit s₁) := by
    unfold boot
    dsimp only
    rw [loadDevice2Memory_default]
    show some (gatewayInit (detectFactory dryPins (waterScanIOInit (motoInit s₀)))) = _
    rw [hinit]
  obtain ⟨ack, hack⟩ := exists_sent (.init ⟨dryPins, hboot⟩ : (valveMachine rom).Reachable _)
  have hstorage : (gatewayInit s₁).toStorage = s₁.toStorage := gatewayInit_toStorage _
  have hctl : ctl (gatewayInit s₁) = ctl s₁ := ctl_gatewayInit _
  refine ⟨_, hack, ⟨Or.inr ?_, ?_, rfl⟩, ?_, ?_, ?_⟩
  · exact congrArg Ctl.status hctl
  · exact congrArg Ctl.learnFlag hctl
  · exact congrArg (fun st : Storage => st.globalDevice.id) hstorage
  · exact congrArg (fun st : Storage => st.globalDevice.doorNum) hstorage
  · exact congrArg (fun st : Storage => st.globalDevice.gatewayNum) hstorage

/-- The registry after a learn request. -/
def requestLearn (fromID : Int32) (st : Storage) : Storage :=
  if fromID < 30000000 then (st.addDevice fromID.toUInt32).2
  else if 30000000 ≤ fromID ∧ fromID < 40000000 then (st.addDoorDevice fromID.toUInt32).2
  else (st.addGatewayDevice fromID.toUInt32).2

theorem learnRequest_toStorage {buf : Message} (hs : s.slotOf buf.fromID.toUInt32 = 0)
    (hf : buf.fromID < 50000000) :
    (learnRequest buf s).toStorage = requestLearn buf.fromID s.toStorage := by
  have hv : checkValid buf.fromID.toUInt32 s ≠ RT_EOK := by
    rw [checkValid, ne_eq, Storage.flashGetKeyValid_eq_ok]
    exact not_not.mpr hs
  unfold learnRequest requestLearn
  rw [if_pos hv]
  split
  · rw [learnNew_toStorage]
    rfl
  · split
    · rw [learnNew_toStorage, addDoorDevice_toStorage]
    · rename_i hdevice hdoor
      have hgateway : 40000000 ≤ buf.fromID ∧ buf.fromID < 50000000 :=
        ⟨Int32.not_lt.mp fun hlt => hdoor ⟨Int32.not_lt.mp hdevice, hlt⟩, hf⟩
      rw [if_pos hgateway, learnNew_toStorage]
      rfl

theorem stopLearn_idle (s : State) :
    ((stopLearn s).nowStatus = .close ∨ (stopLearn s).nowStatus = .opened) ∧
      (stopLearn s).learnFlag = 0 ∧ (stopLearn s).toStorage = s.toStorage := by
  let t : State := warningDisable { s with learnFlag := 0 }
  have hshown : t.nowStatus = .close ∨ t.nowStatus = .opened := by
    show (if s.valveStatus ≠ 0 then DeviceStatus.opened else .close) = .close ∨
      (if s.valveStatus ≠ 0 then DeviceStatus.opened else .close) = .opened
    split <;> simp
  have hstop : stopLearn s = if t.gwFlag ≠ 0 then gatewaySync { t with gwFlag := 0 } else t := rfl
  rw [hstop]
  split
  · have hctl := ctl_gatewaySync { t with gwFlag := 0 }
    have hstatus : (gatewaySync { t with gwFlag := 0 }).nowStatus = t.nowStatus :=
      congrArg Ctl.status hctl
    exact ⟨by rwa [hstatus], congrArg Ctl.learnFlag hctl, gatewaySync_toStorage _⟩
  · exact ⟨hshown, rfl, rfl⟩

/-- Learn mode is started, a learn request comes in, learn mode is stopped, and
the answers are sent. -/
theorem exists_learned (h : (valveMachine rom).Reachable s) (hi : Idle s) {fromID : Int32}
    (hs : s.slotOf fromID.toUInt32 = 0) (hf : fromID < 50000000) :
    ∃ s', (valveMachine rom).Reachable s' ∧ Idle s' ∧
      s'.toStorage = requestLearn fromID s.toStorage := by
  let s₁ : State := { s with nowStatus := .learn, learnFlag := 1, learnTimer := true }
  let s₂ : State := learnRequest (broadcastMessage 0 fromID 3 1) s₁
  have hstart : (valveMachine rom).step s holdK1 = some s₁ := by
    show some (keyLong s) = some s₁
    rw [keyLong, if_pos hi.shown]
    rfl
  have hlearn : (valveMachine rom).step s₁ (.rf433Rx ⟨0, 0, 0, 0, 0, 0⟩ 0
      (received (broadcast fromID 3 1) []) (broadcastLen fromID 3 1)) =
        some { s₂ with learnTimer := true } := by
    show some (rf433RxCallback _ _ _ _ _) = _
    have hs₁ : s₁.slotOf fromID.toUInt32 = 0 := hs
    rw [rf433RxCallback, if_pos (byteAt_broadcast ..), normalSolve,
      if_pos (nodeFrameEnd_broadcast ..), scanNode_broadcast]
    show some (normalAct 0 (broadcastMessage 0 fromID 3 1) s₁) = _
    have haccept : (broadcastMessage 0 fromID 3 1).targetID.toUInt32 = s₁.radioID ∨
        (broadcastMessage 0 fromID 3 1).targetID = 99999999 := Or.inr rfl
    have hmode : s₁.learnFlag ≠ 0 := (by decide : (1 : UInt8) ≠ 0)
    rw [normalAct, if_pos haccept, if_pos hmode]
    have hheard : heardFrom 0 (broadcastMessage 0 fromID 3 1).fromID.toUInt32 s₁ = s₁ :=
      heardFrom_of_invalid hs₁ 0
    rw [hheard]
    rfl
  have hstorage : s₂.toStorage = requestLearn fromID s.toStorage := learnRequest_toStorage hs hf
  have hctl : ctl s₂ = ctl s₁ := by
    have hwf₁ : s₁.Wf := valveMachine_wf (h.step hstart)
    exact ctl_learnRequest hwf₁
  have hstop : (valveMachine rom).step { s₂ with learnTimer := true } holdK1 =
      some (stopLearn { s₂ with learnTimer := false }) := by
    have hshown : s₂.nowStatus = .learn := congrArg Ctl.status hctl
    show some (keyLong { s₂ with learnTimer := true }) = _
    simp [keyLong, hshown]
  obtain ⟨ack, hack⟩ := exists_sent (((h.step hstart).step hlearn).step hstop)
  have hstopped := stopLearn_idle { s₂ with learnTimer := false }
  exact ⟨_, hack, ⟨hstopped.1, hstopped.2.1, rfl⟩, hstopped.2.2.trans hstorage⟩

/-- **Every id below the classes' end is learned in some run**, which leaves the
unit idle, and the id is the door's only when it is of the door class. -/
theorem exists_ready (rom : UInt32) {fromID : Int32} (hf : fromID < 50000000) :
    ∃ s, (valveMachine rom).Reachable s ∧ Idle s ∧ s.slotOf fromID.toUInt32 ≠ 0 ∧
      (s.getDoorID = fromID.toUInt32 → 30000000 ≤ fromID ∧ fromID < 40000000) := by
  obtain ⟨s₀, h₀, hidle₀, hid₀, hdoor₀, hgateway₀⟩ := exists_idle rom
  have hfree₀ : s₀.table.free maxSupport = some 1 := by
    unfold Storage.table
    rw [hid₀]
    rfl
  have hslot₀ : s₀.slotOf (30000001 : Int32).toUInt32 = 0 := by
    by_contra hs
    obtain ⟨i, -, -, hi⟩ := (valveMachine_wf h₀).slotOf_ne_zero_iff.mp hs
    rw [hid₀] at hi
    exact absurd hi (by decide : (0 : UInt32) ≠ (30000001 : Int32).toUInt32)
  -- a door first, so that an id of 0 is not taken for a missing door
  obtain ⟨s₁, h₁, hidle₁, hst₁⟩ := exists_learned h₀ hidle₀ hslot₀ (by decide)
  have hdoorID₀ : s₀.getDoorID = 0 := if_pos hdoor₀
  have hgd₁ : s₁.globalDevice = { s₀.globalDevice with
      num := max s₀.globalDevice.num 1
      id := Function.update (fun _ => 0) 1 30000001
      doorNum := 1 } := by
    rw [hst₁, requestLearn, if_neg (by decide), if_pos (by decide),
      Storage.addDoorDevice_of_free hdoorID₀ hfree₀]
    show { (s₀.toStorage.store 1 _).globalDevice with doorNum := 1 } = _
    rw [Storage.store_globalDevice, hid₀]
    rfl
  have hdoorID₁ : s₁.getDoorID = 30000001 := by
    rw [Storage.getDoorID, hgd₁]
    rfl
  have hne₁ : s₁.getDoorID = fromID.toUInt32 → 30000000 ≤ fromID ∧ fromID < 40000000 := by
    intro hid
    rw [← isDoor_toUInt32, ← hid, hdoorID₁]
    exact ⟨by decide, by decide⟩
  by_cases hslot₁ : s₁.slotOf fromID.toUInt32 = 0
  · obtain ⟨s₂, h₂, hidle₂, hst₂⟩ := exists_learned h₁ hidle₁ hslot₁ hf
    have hfree₁ : s₁.table.free maxSupport = some 2 := by
      unfold Storage.table
      rw [hgd₁]
      rfl
    have hfound : ∀ i, 0 < i → i ≤ s₂.globalDevice.num → s₂.globalDevice.id i = fromID.toUInt32 →
        s₂.slotOf fromID.toUInt32 ≠ 0 :=
      fun i h0 hi hid => (valveMachine_wf h₂).slotOf_ne_zero_iff.mpr ⟨i, h0, hi, hid⟩
    have hother : s₂.globalDevice.id 1 = s₁.globalDevice.id 1 → s₂.globalDevice.doorNum = 1 →
        s₂.getDoorID = fromID.toUInt32 → 30000000 ≤ fromID ∧ fromID < 40000000 := by
      intro hid hnum hdoor
      refine hne₁ (Eq.trans ?_ hdoor)
      rw [Storage.getDoorID, Storage.getDoorID, hnum, hid, hgd₁]
    refine ⟨s₂, h₂, hidle₂, ?_⟩
    rw [requestLearn] at hst₂
    split at hst₂
    · rw [Storage.addDevice_of_free hfree₁] at hst₂
      have hgd₂ : s₂.globalDevice = _ := (congrArg Storage.globalDevice hst₂).trans
        (Storage.store_globalDevice ..)
      refine ⟨hfound 2 (by decide) ?_ ?_, hother ?_ ?_⟩ <;> simp [hgd₂, hgd₁]
    · split at hst₂
      · rename_i hdoor
        have hd₁ : s₁.getDoorID ≠ 0 := by rw [hdoorID₁]; decide
        rw [(valveMachine_wf h₁ : s₁.Wf).addDoorDevice_of_door hd₁] at hst₂
        have hgd₂ : s₂.globalDevice =
            { (s₁.toStorage.store s₁.globalDevice.doorNum fromID.toUInt32).globalDevice with
              doorNum := s₁.globalDevice.doorNum } := congrArg Storage.globalDevice hst₂
        refine ⟨hfound 1 (by decide) ?_ ?_, fun _ => hdoor⟩ <;>
          simp [hgd₂, Storage.store_globalDevice, hgd₁]
      · have hg₁ : s₁.getGatewayID = 0 := by
          rw [Storage.getGatewayID, hgd₁]
          exact if_pos hgateway₀
        rw [Storage.addGatewayDevice_of_free hg₁ hfree₁] at hst₂
        have hgd₂ : s₂.globalDevice = { (s₁.toStorage.store 2 fromID.toUInt32).globalDevice with
            gatewayNum := 2 } := congrArg Storage.globalDevice hst₂
        refine ⟨hfound 2 (by decide) ?_ ?_, hother ?_ ?_⟩ <;>
          simp [hgd₂, Storage.store_globalDevice, hgd₁]
  · exact ⟨s₁, h₁, hidle₁, hslot₁, hne₁⟩

/-! ## node frames with an effect of their data -/

/-- The data of the message that is sent next. -/
def nextData (s : State) : Option UInt8 := s.rfEnMq.head?.map (·.data)

theorem rfEnMq_dataSolve (buf : Message) (s : State) :
    (dataSolve buf s).rfEnMq = (dataSolveCommand buf s).rfEnMq := by
  have hreact : ∀ t, (offlineReact t).rfEnMq = t.rfEnMq := by
    intro t
    unfold offlineReact offlineDisableWarning
    dsimp only
    repeat' split
    all_goals rfl
  unfold dataSolve changeMaxPower backNormalPower
  dsimp only
  rw [hreact]
  repeat' split
  all_goals rfl

theorem nextData_radioEnqueue (h : s.rfEnMq = []) (tagetId : UInt32)
    (counter command data : UInt8) :
    nextData (radioEnqueue tagetId counter command data s) = some data := by
  simp [radioEnqueue, rtMqUrgent, nextData, h, rfEnMqSize]

section

variable {data : UInt8} (h : nextData s = some data)

include h

/-- A message that is sent queues behind what is there. -/
theorem nextData_rtMqSend (msg : RadioNormalFormat) : nextData (rtMqSend msg s) = some data := by
  unfold rtMqSend
  split
  · cases hmq : s.rfEnMq with
    | nil => simp [nextData, hmq] at h
    | cons first mq => simpa [nextData, hmq] using h
  · exact h

theorem nextData_warUploadGW (ack : UInt8) (deviceID : UInt32) (warnID value : UInt8) :
    nextData (warUploadGW ack deviceID warnID value s) = some data := by
  unfold warUploadGW gatewayWarningEnqueue
  repeat' split
  all_goals first | exact nextData_rtMqSend h _ | exact h

theorem nextData_controlUploadGW (ack : UInt8) (deviceID : UInt32) (controlID value : UInt8) :
    nextData (controlUploadGW ack deviceID controlID value s) = some data := by
  unfold controlUploadGW gatewayControlEnqueue
  repeat' split
  all_goals first | exact nextData_rtMqSend h _ | exact h

end

theorem nextData_handshakeReply (h : s.rfEnMq = []) (buf : Message) (level : UInt8) :
    nextData (handshakeReply buf level s) = some level :=
  nextData_warUploadGW (nextData_radioEnqueue h ..) ..

/-- Of these commands two values of the data differ in what is sent next. -/
theorem exists_nextData_ne {fromID command : Int32} (hmq : s.rfEnMq = [])
    (hvalid : s.slotOf fromID.toUInt32 ≠ 0) (hc : command ∈ [2, 3, 4, 8, 9])
    (hdoor : command = 4 → s.getDoorID ≠ fromID.toUInt32) :
    ∃ data data', ∀ target device counter,
      nextData (dataSolveCommand ⟨target, fromID, device, counter, command, data⟩ s) ≠
        nextData (dataSolveCommand ⟨target, fromID, device, counter, command, data'⟩ s) := by
  have hempty : nextData s = none := by simp [nextData, hmq]
  simp only [List.mem_cons, List.not_mem_nil, or_false] at hc
  obtain rfl | rfl | rfl | rfl | rfl := hc
  · have hreply : ∀ bat, (s.withStorage (·.updateDeviceBat fromID.toUInt32 bat)).rfEnMq = [] :=
      fun _ => hmq
    refine ⟨0, 3, fun target device counter => ?_⟩
    simp [dataSolveCommand, handshake, nextData_handshakeReply, hreply]
  · have hlearn : (startLearn s).rfEnMq = [] := by
      unfold startLearn
      split <;> exact hmq
    have hv : checkValid fromID.toUInt32 s = RT_EOK := Storage.flashGetKeyValid_eq_ok.mpr hvalid
    refine ⟨3, 0, fun target device counter => ?_⟩
    simp [dataSolveCommand, learnStart, hv, nextData_radioEnqueue hlearn, hempty]
  · refine ⟨0, 2, fun target device counter => ?_⟩
    simp [dataSolveCommand, slaveWater, hdoor rfl, hempty,
      nextData_warUploadGW (nextData_radioEnqueue hmq ..)]
  · refine ⟨1, 2, fun target device counter => ?_⟩
    have hstop : ∀ level, nextData (delayTimerCloseDoor fromID.toUInt32
        (radioEnqueue fromID.toUInt32 (toU8 counter) 8 level s)) = some level :=
      fun level => nextData_controlUploadGW (nextData_radioEnqueue hmq ..) ..
    simp [dataSolveCommand, nodeDelay, hstop]
    decide
  · refine ⟨1, 2, fun target device counter => ?_⟩
    simp [dataSolveCommand, slaveLost, nextData_warUploadGW (nextData_radioEnqueue hmq ..)]
    decide

/-! ## which frames are inert -/

/-- The content of `Rx_message` that gets a short node frame through: a
broadcast of a device's battery level. -/
def leftover (target data : Int32) : Message := ⟨target, 10000001, 0, 1, 2, data⟩

/-- What holds of a field that is filled and of the leftover value holds of the
field. -/
theorem getD_of_forall {P : Int32 → Prop} {fields : List Int32} {i : Nat}
    (h : ∀ field ∈ fields[i]?, P field) {v : Int32} (hv : P v) : P (fields.getD i v) := by
  rw [List.getD_eq_getElem?_getD]
  cases hi : fields[i]? with
  | none => exact hv
  | some field => exact h field hi

/-- A field that is not filled is left over. -/
theorem getD_of_length_le {fields : List Int32} {i : Nat} (h : fields.length ≤ i) (v : Int32) :
    fields.getD i v = v := by
  rw [List.getD_eq_getElem?_getD, List.getElem?_eq_none h, Option.getD_none]

/-- Outside learn mode a frame from a registered device is solved. -/
theorem normalAct_of_valid {rssi : Int} {buf : Message}
    (ht : buf.targetID.toUInt32 = s.radioID ∨ buf.targetID = 99999999) (hl : s.learnFlag = 0)
    (hs : s.slotOf buf.fromID.toUInt32 ≠ 0) :
    normalAct rssi buf s = dataSolve buf (heardFrom rssi buf.fromID.toUInt32 s) := by
  rw [normalAct, if_pos ht, if_neg (not_not.mpr hl),
    if_pos (Storage.flashGetKeyValid_eq_ok.mpr hs)]

/-- In learn mode the leftover command decides whether `Learn_Timer` is started
again, also for a sender that is never learned. -/
theorem exists_calls_ne (rom : UInt32) {rxBuffer : List UInt8} {rxLen : UInt8}
    (hend : nodeFrameEnd rxBuffer rxLen)
    (htarget : ∀ target ∈ (nodeFields rxBuffer)[0]?,
      target.toUInt32 = unitID rom ∨ target = 99999999)
    (hlearned : NeverLearned (nodeFields rxBuffer)) (hlen : (nodeFields rxBuffer).length ≤ 3) :
    ∃ s, (valveMachine rom).Reachable s ∧ ∃ rxMessage rxMessage',
      (nodeEffect rxMessage' 0 rxBuffer rxLen s).2 ≠
        (nodeEffect rxMessage 0 rxBuffer rxLen s).2 := by
  obtain ⟨s, hreach, hidle, -⟩ := exists_idle rom
  let t : State := { s with nowStatus := .learn, learnFlag := 1, learnTimer := true }
  have hstart : (valveMachine rom).step s holdK1 = some t := by
    show some (keyLong s) = some t
    rw [keyLong, if_pos hidle.shown]
    rfl
  have hlearn : (valveMachine rom).Reachable t := hreach.step hstart
  obtain ⟨fromID, hfrom, hnever⟩ := hlearned
  have hskip : ∀ buf : Message, buf.fromID = fromID → normalActCalls 0 buf t =
      if (buf.targetID.toUInt32 = t.radioID ∨ buf.targetID = 99999999) ∧ t.learnFlag ≠ 0 ∧
        buf.command = 3 then [.learnTimer] else [] := by
    rintro buf rfl
    exact normalActCalls_neverLearned hlearn hnever
  have hcalls : ∀ rxMessage : Message, rxMessage.targetID = 99999999 →
      (nodeEffect rxMessage 0 rxBuffer rxLen t).2 =
        if rxMessage.command = 3 then [.learnTimer] else [] := by
    intro rxMessage hbroadcast
    have hmode : t.learnFlag ≠ 0 := (by decide : (1 : UInt8) ≠ 0)
    have haccept : ((nodeFields rxBuffer).getD 0 rxMessage.targetID).toUInt32 = t.radioID ∨
        (nodeFields rxBuffer).getD 0 rxMessage.targetID = 99999999 := by
      rw [reachable_radioID hlearn]
      exact getD_of_forall
        (P := fun target => target.toUInt32 = unitID rom ∨ target = 99999999) htarget
        (Or.inr hbroadcast)
    have hsender : (scanNode rxMessage rxBuffer).2.fromID = fromID := by
      simpa only [scanNode_eq] using getD_of_mem hfrom rxMessage.fromID
    unfold nodeEffect
    rw [if_pos hend, hskip _ hsender]
    simp only [scanNode_eq, getD_of_length_le hlen, haccept, hmode, true_and, ne_eq,
      not_false_eq_true]
  refine ⟨t, hlearn, ⟨99999999, 0, 0, 0, 0, 0⟩, ⟨99999999, 0, 0, 0, 3, 0⟩, ?_⟩
  rw [hcalls ⟨99999999, 0, 0, 0, 0, 0⟩ rfl, hcalls ⟨99999999, 0, 0, 0, 3, 0⟩ rfl]
  decide

/-- **A node frame that is not inert has two effects** in some reachable
state. -/
theorem NodeInert.complete (rom : UInt32) {rxBuffer : List UInt8} {rxLen : UInt8}
    (hall : ∀ s, (valveMachine rom).Reachable s → ∀ rxMessage rxMessage' rssi,
      nodeEffect rxMessage' rssi rxBuffer rxLen s = nodeEffect rxMessage rssi rxBuffer rxLen s) :
    NodeInert (unitID rom) rxBuffer rxLen := by
  by_contra hinert
  have hshort : (nodeFields rxBuffer).length ≤ 5 := length_scanFields_le ..
  unfold NodeInert OtherTarget NoData at hinert
  push Not at hinert
  obtain ⟨hend, hlen, htarget, hlearned', hdata⟩ := hinert
  by_cases hnever : NeverLearned (nodeFields rxBuffer)
  · -- the command is not filled
    have hle : (nodeFields rxBuffer).length ≤ 3 := by
      have h4 := hlearned' hnever
      omega
    obtain ⟨s, hreach, rxMessage, rxMessage', hne⟩ := exists_calls_ne rom hend htarget hnever hle
    exact hne (congrArg Prod.snd (hall s hreach rxMessage rxMessage' 0))
  have hlearned : ∀ fromID ∈ (nodeFields rxBuffer)[1]?, ¬50000000 ≤ fromID :=
    fun fromID hfrom hge => hnever ⟨fromID, hfrom, hge⟩
  have hlast : ∀ data, (nodeFields rxBuffer).getD 4 data = data :=
    getD_of_length_le (by omega)
  have hscan : ∀ data, (scanNode (leftover 99999999 data) rxBuffer).2 =
      ⟨(nodeFields rxBuffer).getD 0 99999999, (nodeFields rxBuffer).getD 1 10000001, 0,
        (nodeFields rxBuffer).getD 2 1, (nodeFields rxBuffer).getD 3 2, data⟩ := fun data => by
    rw [scanNode_eq]
    simp only [leftover, hlast]
  generalize nodeFields rxBuffer = fields at *
  have ht : (fields.getD 0 99999999).toUInt32 = unitID rom ∨ fields.getD 0 99999999 = 99999999 :=
    getD_of_forall (P := fun target => target.toUInt32 = unitID rom ∨ target = 99999999) htarget
      (Or.inr rfl)
  have hf : fields.getD 1 10000001 < 50000000 :=
    getD_of_forall (P := (· < 50000000))
      (fun fromID hfrom => Int32.not_le.mp (hlearned fromID hfrom)) (by decide)
  have hc : fields.getD 3 2 ∈ ([2, 3, 4, 8, 9] : List Int32) :=
    getD_of_forall (P := (· ∈ ([2, 3, 4, 8, 9] : List Int32)))
      (fun command hcommand => (hdata command hcommand).1) (by decide)
  have hdoor : fields.getD 3 2 = 4 →
      ¬(30000000 ≤ fields.getD 1 10000001 ∧ fields.getD 1 10000001 < 40000000) := by
    rintro h4 ⟨hge, hlt⟩
    rw [List.getD_eq_getElem?_getD] at h4
    cases hcommand : fields[3]? with
    | none =>
        rw [hcommand] at h4
        exact absurd h4 (by decide : (2 : Int32) ≠ 4)
    | some command =>
        obtain ⟨h3, -⟩ := List.getElem?_eq_some_iff.mp hcommand
        have hfrom : fields.getD 1 10000001 ∈ fields[1]? := by
          rw [List.getD_eq_getElem?_getD, List.getElem?_eq_getElem (by omega)]
          rfl
        rw [hcommand] at h4
        exact (hdata command hcommand).2 h4 _ hfrom hge hlt
  generalize fields.getD 1 10000001 = fromID at *
  obtain ⟨s, hreach, hidle, hslot, hother⟩ := exists_ready rom hf
  let t : State := heardFrom 0 fromID.toUInt32 s
  have hslot' : t.slotOf fromID.toUInt32 ≠ 0 := by rwa [(onlyDevice_heardFrom ..).slotOf]
  have hsent : t.rfEnMq = [] := hidle.sent
  obtain ⟨data, data', hne⟩ := exists_nextData_ne hsent hslot' hc fun h4 hid =>
    hdoor h4 (hother ((onlyDevice_heardFrom ..).getDoorID.symm.trans hid))
  have heffect : ∀ data, nextData (normalSolve (leftover 99999999 data) 0 rxBuffer rxLen s) =
      nextData (dataSolveCommand ⟨fields.getD 0 99999999, fromID, 0, fields.getD 2 1,
        fields.getD 3 2, data⟩ t) := by
    intro data
    have ht' : (fields.getD 0 99999999).toUInt32 = s.radioID ∨
        fields.getD 0 99999999 = 99999999 := by rwa [reachable_radioID hreach]
    let buf : Message := ⟨fields.getD 0 99999999, fromID, 0, fields.getD 2 1, fields.getD 3 2, data⟩
    have hact : normalAct 0 buf s = dataSolve buf t := normalAct_of_valid ht' hidle.learnFlag hslot
    rw [normalSolve, if_pos hend, hscan, hact, nextData, rfEnMq_dataSolve, nextData]
  refine hne (fields.getD 0 99999999) 0 (fields.getD 2 1) ?_
  rw [← heffect, ← heffect]
  exact congrArg (fun p => nextData p.1)
    (hall s hreach (leftover 99999999 data') (leftover 99999999 data) 0)

/-- Shown open or closed, the valve follows command 2 of the gateway. -/
theorem valveStatus_gatewayValve {buf : Message}
    (hs : s.nowStatus = .close ∨ s.nowStatus = .opened) :
    (gatewayValve buf s).valveStatus = if buf.data ≠ 0 then 1 else 0 := by
  have hvalve : ∀ t, (controlUploadGW 1 t.radioID 2 t.valveStatus t).valveStatus = t.valveStatus :=
    fun t => congrArg Ctl.valve (ctl_controlUploadGW ..)
  unfold gatewayValve
  rw [if_pos hs]
  dsimp only
  rw [hvalve]
  split
  · have hopen := congrArg Ctl.valve (ctl_motoOpen otherOpen s)
    rw [remoteOpen, if_pos hs]
    exact hopen.trans (by simp [Ctl.openAs])
  · have hclose := congrArg Ctl.valve (ctl_motoClose otherOff s)
    exact hclose.trans (by simp [Ctl.closeAs])

/-- **A gateway frame that is not inert has two effects** in some reachable
state. -/
theorem GatewayInert.complete (rom : UInt32) {rxBuffer : List UInt8} {rxLen : UInt8}
    (hall : ∀ s, (valveMachine rom).Reachable s → ∀ rxMessage rxMessage',
      gatewayEffect rxMessage' rxBuffer rxLen s = gatewayEffect rxMessage rxBuffer rxLen s) :
    GatewayInert (unitID rom) rxBuffer rxLen := by
  by_contra hinert
  unfold GatewayInert OtherTarget NeverLearned at hinert
  push Not at hinert
  obtain ⟨hend, hlen, htarget, hlearned, hcommand⟩ := hinert
  have hshort : (gatewayFields rxBuffer).length ≤ 6 := length_scanFields_le ..
  have hlast : ∀ data, (gatewayFields rxBuffer).getD 5 data = data :=
    getD_of_length_le (by omega)
  have hc : (gatewayFields rxBuffer).getD 4 2 = 2 := getD_of_forall (P := (· = 2)) hcommand rfl
  have hscan : ∀ data, (scanGateway (leftover (unitID rom).toInt32 data) rxBuffer).2 =
      ⟨(gatewayFields rxBuffer).getD 0 (unitID rom).toInt32,
        (gatewayFields rxBuffer).getD 1 10000001, (gatewayFields rxBuffer).getD 2 0,
        (gatewayFields rxBuffer).getD 3 1, 2, data⟩ := fun data => by
    rw [scanGateway_eq]
    simp only [leftover, hlast, hc]
  generalize gatewayFields rxBuffer = fields at *
  have ht : (fields.getD 0 (unitID rom).toInt32).toUInt32 = unitID rom :=
    getD_of_forall (P := fun target => target.toUInt32 = unitID rom) htarget
      (UInt32.toUInt32_toInt32 _)
  have hf : fields.getD 1 10000001 < 50000000 :=
    getD_of_forall (P := (· < 50000000))
      (fun fromID hfrom => Int32.not_le.mp (hlearned fromID hfrom)) (by decide)
  generalize fields.getD 1 10000001 = fromID at *
  obtain ⟨s, hreach, hidle, hslot, -⟩ := exists_ready rom hf
  have heffect : ∀ data, (gatewayDataSolve (leftover (unitID rom).toInt32 data) rxBuffer rxLen
      s).valveStatus = if data ≠ 0 then 1 else 0 := by
    intro data
    let buf : Message := ⟨fields.getD 0 (unitID rom).toInt32, fromID, fields.getD 2 0,
      fields.getD 3 1, 2, data⟩
    have haccept : buf.targetID.toUInt32 = s.radioID ∧ checkValid buf.fromID.toUInt32 s = RT_EOK :=
      ⟨ht.trans (reachable_radioID hreach).symm, Storage.flashGetKeyValid_eq_ok.mpr hslot⟩
    have hshown : (heartRefresh fromID.toUInt32 s).nowStatus = .close ∨
        (heartRefresh fromID.toUInt32 s).nowStatus = .opened := by
      unfold heartRefresh
      split <;> exact hidle.shown
    have hact : gatewayAct buf s = gatewayValve buf (heartRefresh fromID.toUInt32 s) :=
      if_pos haccept
    rw [gatewayDataSolve, if_pos hend, hscan, hact, valveStatus_gatewayValve hshown]
  have hsame : (gatewayDataSolve (leftover (unitID rom).toInt32 1) rxBuffer rxLen s).valveStatus =
      (gatewayDataSolve (leftover (unitID rom).toInt32 0) rxBuffer rxLen s).valveStatus :=
    congrArg (fun p => p.1.valveStatus)
      (hall s hreach (leftover (unitID rom).toInt32 0) (leftover (unitID rom).toInt32 1))
  rw [heffect, heffect] at hsame
  exact absurd hsame (by decide)

end WaterValve
