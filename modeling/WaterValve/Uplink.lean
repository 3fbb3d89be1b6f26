import WaterValve.Hour
import WaterValve.Roles
import WaterValve.Senders

/-!
# WaterValve.Uplink

The ids the unit sends with.  The radio id is the one of the id word
(`reachable_radioID`).  The gateway id is a copy: `Gateway_Init` and
`Gateway_Reload` take it from the registry, and the frames that learn or delete
a gateway leave it alone until the next of them.  `uplink_address` says which
gateway the uplink messages are addressed to in every reachable state.
-/

namespace WaterValve

variable {rom : UInt32} {s s' : State}

/-! ## the radio id -/

/-- **The radio id never changes.** -/
theorem reachable_radioID (h : (valveMachine rom).Reachable s) : s.radioID = unitID rom := by
  have hinv : registryMachine.Reachable s ∧ s.radioID = unitID rom := by
    refine h.invariant (I := fun s => registryMachine.Reachable s ∧ s.radioID = unitID rom)
      (fun s hs => ?_) fun s a s' hI _ hs => ⟨reach_step hI.1 hs, ?_⟩
    · obtain ⟨pins, hboot⟩ := hs
      obtain ⟨st, -, hview⟩ := view_boot hboot
      exact ⟨reachable_registryMachine (.init ⟨pins, hboot⟩ : (valveMachine rom).Reachable s),
        congrArg View.radioID hview⟩
    · obtain ⟨hr, hid⟩ := hI
      have hevent := handles_event hs
      generalize event s a = e at hevent
      cases hevent with
      | quiet hview | delayEnds hview => exact (congrArg View.radioID hview).trans hid
      | @learn rssi buf haccept hlearn =>
          have hh : Handles rom s (.node rssi buf) _ := .learn haccept hlearn
          exact (node_clock hh).2.trans hid
      | @solve rssi buf haccept hlearn =>
          have hh : Handles rom s (.node rssi buf) _ := .solve haccept hlearn
          exact (node_clock hh).2.trans hid
      | @gateway buf haccept =>
          obtain ⟨d, hview⟩ := view_gateway buf s
          exact (congrArg View.radioID hview).trans hid
      | hour hs => exact (hourPassed hr hs).radioID.trans hid
      | restart hs =>
          obtain ⟨st, -, hview⟩ := view_boot hs
          exact congrArg View.radioID hview
      | sent => exact hid
  exact hinv.2

/-! ## the gateway id -/

/-- What has happened to the registered gateway since `Gateway_ID` was last
taken from the registry: at a start, or when a gateway confirmed. -/
structure UplinkHistory where
  /-- the gateway registered then -/
  gateway : UInt32
  /-- a learn frame has registered another one since -/
  learned : Bool
  /-- it has been deleted since -/
  deleted : Bool

def UplinkHistory.start (s : State) : UplinkHistory := ⟨s.getGatewayID, false, false⟩

def observeUplink (s : State) (g : UplinkHistory) (a : Action) (s' : State) : UplinkHistory :=
  match event s a with
  | .restart .. => .start s'
  | .node _ buf =>
    if s.learnFlag ≠ 0 ∧ GatewayConfirms buf s then .start s'
    else { g with learned := g.learned || s'.getGatewayID ≠ s.getGatewayID }
  | .gateway _ => { g with deleted := g.deleted || s'.getGatewayID ≠ s.getGatewayID }
  | _ => g

/-- The firmware under the observer of the gateway. -/
def uplinkMachine (rom : UInt32) : Machine (State × UplinkHistory) Action :=
  (valveMachine rom).observed .start observeUplink

/-- The two copies of the gateway id, and the queue of a unit without one. -/
structure UplinkInv (s : State) (g : UplinkHistory) : Prop where
  stray : (view s).stray = []
  gatewayID : s.gatewayID = g.gateway
  current : g.learned = false → g.deleted = false → s.getGatewayID = g.gateway

variable {g : UplinkHistory}

theorem getGatewayID_of_noFlag {st st' : Storage}
    (h : st'.globalDevice.noFlag = st.globalDevice.noFlag) :
    st'.getGatewayID = st.getGatewayID := by
  have hid : (Storage.mk st'.globalDevice.noFlag st.env).getGatewayID =
      (Storage.mk st.globalDevice.noFlag st.env).getGatewayID := by rw [h]
  exact hid

/-- What the code reads as `ID[GatewayNum]`. -/
theorem Storage.Wf.id_gatewayNum {st : Storage} (h : st.Wf) :
    st.globalDevice.id st.globalDevice.gatewayNum = st.getGatewayID := by
  unfold Storage.getGatewayID
  split
  · rename_i h0
    rw [h0]
    exact h.table.zero
  · rfl

theorem getGatewayID_congr {st st' : Storage}
    (hnum : st'.globalDevice.gatewayNum = st.globalDevice.gatewayNum)
    (hid : st'.globalDevice.id st.globalDevice.gatewayNum =
      st.globalDevice.id st.globalDevice.gatewayNum) : st'.getGatewayID = st.getGatewayID := by
  rw [Storage.getGatewayID, hnum, hid, Storage.getGatewayID]

theorem stray_iff : (view s).stray = [] ↔
    (s.gatewayID = 0 → ∀ msg ∈ s.rfEnMq, msg.uplink = false) := by
  unfold view
  dsimp only
  split
  · rename_i h0
    simp [List.filter_eq_nil_iff, h0]
  · rename_i h0
    simp [h0]

/-- A step that leaves the registered gateway alone. -/
private theorem UplinkInv.same (h : UplinkInv s g) (hstray : (view s').stray = [])
    (hgateway : s'.gatewayID = s.gatewayID) (hget : s'.getGatewayID = s.getGatewayID) :
    UplinkInv s' g :=
  ⟨hstray, hgateway.trans h.gatewayID, fun hl hd => hget.trans (h.current hl hd)⟩

theorem UplinkInv.boot {pins : Pins} {env : Env} (hwf : s.Wf) (hs : boot rom pins env = some s) :
    UplinkInv s (.start s) := by
  obtain ⟨st, -, hview⟩ := view_boot hs
  have hid : s.gatewayID = st.globalDevice.id st.globalDevice.gatewayNum :=
    congrArg View.gatewayID hview
  have hslot : s.globalDevice.id s.globalDevice.gatewayNum =
      st.globalDevice.id st.globalDevice.gatewayNum :=
    congrArg (fun v : View => v.device.id v.device.gatewayNum) hview
  refine ⟨congrArg View.stray hview, ?_, fun _ _ => rfl⟩
  rw [hid, ← hslot, hwf.id_gatewayNum]
  rfl

/-- A gateway that confirms is registered, in the slot of the gateway. -/
theorem GatewayConfirms.getGatewayID_ne {buf : Message} (h : GatewayConfirms buf s) (hwf : s.Wf)
    (hslot : GatewaySlot s.toStorage) : s.getGatewayID ≠ 0 := by
  obtain ⟨-, -, hv, hclass⟩ := h
  have hs := Storage.flashGetKeyValid_eq_ok.mp hv
  have hid := hwf.id_slotOf hs
  have hgateway := (isGateway_toUInt32 buf.fromID).mpr hclass
  have hnum := hslot _ (hid.symm ▸ hgateway)
  rw [Storage.getGatewayID, ← hnum, if_neg hs, hid]
  rintro h0
  rw [h0] at hgateway
  exact absurd hgateway.1 (by decide)

theorem HeardOf.getGatewayID {st st' : Storage} {deviceID : UInt32} (h : HeardOf deviceID st st') :
    st'.getGatewayID = st.getGatewayID :=
  getGatewayID_congr h.gatewayNum (by rw [h.id])

/-- A learn frame. -/
private theorem UplinkInv.learn (h : UplinkInv s g) (hr : registryMachine.Reachable s)
    {buf : Message} {rssi : Int} (hh : Handles rom s (.node rssi buf) s')
    (honly : RegistryOnly (if GatewayConfirms buf s then rereadGatewayID s else s) s') :
    UplinkInv s' (if GatewayConfirms buf s then .start s'
      else { g with learned := g.learned || s'.getGatewayID ≠ s.getGatewayID }) := by
  have hwf := registryMachine_wf hr
  split at honly
  · rename_i hconfirm
    have hget : s'.getGatewayID = s.getGatewayID := by
      obtain hheard | ⟨num, -, hnum, -⟩ := node_outcome hwf hh
      · exact hheard.getGatewayID
      · exact absurd hconfirm.2.2.1 (Storage.learnSlot_spec hnum).2
    have hgateway : s'.gatewayID = s.getGatewayID := honly.gatewayID.trans hwf.id_gatewayNum
    have hreread : view (rereadGatewayID s) = _ := view_setGatewayID h.stray fun h0 =>
      absurd (hwf.id_gatewayNum.symm.trans h0)
        (hconfirm.getGatewayID_ne hwf (registryMachine_gatewaySlot hr))
    rw [if_pos hconfirm]
    exact ⟨honly.stray.trans (congrArg View.stray hreread), hgateway.trans hget.symm,
      fun _ _ => rfl⟩
  · rename_i hconfirm
    rw [if_neg hconfirm]
    refine ⟨honly.stray.trans h.stray, honly.gatewayID.trans h.gatewayID, fun hl hd => ?_⟩
    simp only [Bool.or_eq_false_iff, decide_eq_false_iff_not, not_not] at hl
    exact hl.2.trans (h.current hl.1 hd)

theorem UplinkInv.step (h : UplinkInv s g) (hr : registryMachine.Reachable s) {a : Action}
    (hs : step rom s a = some s') : UplinkInv s' (observeUplink s g a s') := by
  have hwf := registryMachine_wf hr
  have hwf' := registryMachine_wf (reach_step hr hs)
  have hevent := handles_event hs
  unfold observeUplink
  generalize event s a = e at hevent
  cases hevent with
  | quiet hview | delayEnds hview =>
      exact h.same ((congrArg View.stray hview).trans h.stray) (congrArg View.gatewayID hview)
        (getGatewayID_of_noFlag (congrArg View.device hview))
  | @learn rssi buf haccept hlearn =>
      have hh : Handles rom s (.node rssi buf) _ := .learn haccept hlearn
      simpa [hlearn] using h.learn hr hh (registryOnly_learn rssi buf s)
  | @solve rssi buf haccept hlearn =>
      have hh : Handles rom s (.node rssi buf) _ := .solve haccept hlearn
      obtain ⟨d, hview⟩ := view_solve rssi buf s
      obtain hheard | ⟨num, hne, -⟩ := node_outcome hwf hh
      · have hsame := h.same ((congrArg View.stray hview).trans h.stray)
          (congrArg View.gatewayID hview) hheard.getGatewayID
        simpa [hlearn, hheard.getGatewayID] using hsame
      · exact absurd hlearn hne
  | @gateway buf haccept =>
      obtain ⟨d, hview⟩ := view_gateway buf s
      refine ⟨(congrArg View.stray hview).trans h.stray,
        (congrArg View.gatewayID hview).trans h.gatewayID, fun hl hd => ?_⟩
      simp only [Bool.or_eq_false_iff, decide_eq_false_iff_not, not_not] at hd
      exact hd.2.trans (h.current hl hd.1)
  | hour hs =>
      have hour := hourPassed hr hs
      refine h.same (hour.stray.trans h.stray) hour.gatewayID
        (getGatewayID_congr hour.gatewayNum ?_)
      obtain ⟨idTime, alive, getMesssage, hslot⟩ := hour.slot s.globalDevice.gatewayNum
      exact congrArg Slot.id hslot
  | restart hs => exact .boot hwf' hs
  | sent =>
      refine h.same (stray_iff.mpr fun h0 msg hmsg => ?_) rfl rfl
      exact stray_iff.mp h.stray h0 msg (List.mem_of_mem_tail hmsg)

theorem uplinkInv (h : (uplinkMachine rom).Reachable (s, g)) : UplinkInv s g := by
  have hinv : registryMachine.Reachable s ∧ UplinkInv s g := by
    refine Machine.ReachableVia.invariant
      (I := fun p : State × UplinkHistory => registryMachine.Reachable p.1 ∧ UplinkInv p.1 p.2) h
      (fun p hp => ?_) fun p a p' hI _ hs => ?_
    · obtain ⟨⟨pins, hboot⟩, hg⟩ := hp
      have hr := reachable_registryMachine (.init ⟨pins, hboot⟩ : (valveMachine rom).Reachable p.1)
      refine ⟨hr, ?_⟩
      rw [hg]
      exact .boot (registryMachine_wf hr) hboot
    · obtain ⟨hs, hg⟩ := Machine.observed_step_eq_some.mp hs
      rw [hg]
      exact ⟨reach_step hI.1 hs, hI.2.step hI.1 hs⟩
  exact hinv.2

/-- **Uplink goes to the gateway of the last start or confirmation**, as long as
no gateway has been deleted since; there is no message without one, and it is
the registered gateway unless a learn frame has registered another one since. -/
theorem uplink_address (h : (uplinkMachine rom).Reachable (s, g)) (hd : g.deleted = false) :
    s.gatewayID = g.gateway ∧ (g.learned = false → s.gatewayID = s.getGatewayID) ∧
      ∀ msg ∈ s.rfEnMq, msg.uplink → g.gateway ≠ 0 ∧
        sendPrepare msg s.gatewayID s.radioID = sendPrepare msg g.gateway s.radioID := by
  have hinv := uplinkInv h
  refine ⟨hinv.gatewayID, fun hl => hinv.gatewayID.trans (hinv.current hl hd).symm, ?_⟩
  intro msg hmsg hup
  refine ⟨fun h0 => ?_, by rw [hinv.gatewayID]⟩
  have hnone := stray_iff.mp hinv.stray (hinv.gatewayID.trans h0) msg hmsg
  exact Bool.false_ne_true (hnone.symm.trans hup)

/-- The unit of `started` after its first start. -/
def uplinkStarted : State × UplinkHistory := (started, .start started)

theorem uplinkStarted_reachable : (uplinkMachine 0).Reachable uplinkStarted :=
  .init ⟨⟨dryPins, boot_started⟩, rfl⟩

/-- A gateway is learned and confirms. -/
def learnGateway (fromID : UInt32) : List Action :=
  [holdK1, nodeRx fromID 3 1, nodeRx fromID 3 2, holdK1]

/-- The valve is closed by its key after a gateway was learned. -/
theorem uplink_address_learned : ∃ s g, (uplinkMachine 0).Reachable (s, g) ∧
    s.getGatewayID = 40000001 ∧ s.gatewayID = s.getGatewayID ∧
    ∃ msg ∈ s.rfEnMq, msg.uplink ∧
      sendPrepare msg s.gatewayID s.radioID = sendPrepare msg 40000001 s.radioID := by
  have hrun : ((uplinkMachine 0).runFrom uplinkStarted (learnGateway 40000001 ++ [pressK1])).map
      (fun p => (p.1.getGatewayID, p.2.gateway, p.2.learned, p.2.deleted,
        p.1.rfEnMq.any (·.uplink))) = some (40000001, 40000001, false, false, true) := by
    decide +kernel
  obtain ⟨⟨s, g⟩, hrun, hobs⟩ := Option.map_eq_some_iff.mp hrun
  simp only [Prod.mk.injEq] at hobs
  obtain ⟨hget, hgateway, hlearned, hdeleted, hany⟩ := hobs
  have hreach := uplinkStarted_reachable.runFrom hrun
  obtain ⟨-, hcurrent, haddress⟩ := uplink_address hreach hdeleted
  obtain ⟨msg, hmsg, hup⟩ := List.any_eq_true.mp hany
  refine ⟨s, g, hreach, hget, hcurrent hlearned, msg, hmsg, hup, ?_⟩
  rw [(haddress msg hmsg hup).2, hgateway]

/-- A second gateway is learned in the place of the first, and its confirmation
is lost: the reports of the valve still go to the first. -/
theorem not_uplink_address : ∃ s, (valveMachine 0).Reachable s ∧ s.getGatewayID = 40000002 ∧
    s.gatewayID = 40000001 ∧ ∃ msg ∈ s.rfEnMq, msg.uplink ∧
      sendPrepare msg s.gatewayID s.radioID ≠ sendPrepare msg s.getGatewayID s.radioID := by
  have hrun : ((valveMachine 0).runFrom started
      (learnGateway 40000001 ++ learnDevice 40000002 ++ [pressK1])).map
      (fun s => (s.getGatewayID, s.gatewayID, s.rfEnMq.any fun msg => msg.uplink &&
        sendPrepare msg s.gatewayID s.radioID != sendPrepare msg s.getGatewayID s.radioID)) =
      some (40000002, 40000001, true) := by decide +kernel
  obtain ⟨s, hreach, hobs⟩ := exists_of_run hrun
  simp only [Prod.mk.injEq] at hobs
  obtain ⟨hget, hgateway, hany⟩ := hobs
  obtain ⟨msg, hmsg, hboth⟩ := List.any_eq_true.mp hany
  simp only [Bool.and_eq_true, bne_iff_ne] at hboth
  exact ⟨s, hreach, hget, hgateway, msg, hmsg, hboth.1, hboth.2⟩

end WaterValve
