import WaterValve.Lib.Sweep
import WaterValve.SystemRegistry

/-!
# WaterValve.GatewaySync

The list of devices that `Gateway_Sync` sends, one slot at every tick of
`Gateway_Sync_t`, while the other handlers run in between.  Only the ticks and
`Gateway_Sync` itself move the cursor (`syncCursor_step`), so the ticks sweep
the registry as it is at each of them (`swept_step`), and every device that
keeps its slot is reported exactly once (`gateway_sync_once`).
-/

namespace WaterValve

variable {rom : UInt32} {s s' : State} {a : Action}

/-! ## what moves the cursor -/

private theorem QueueOnly.syncCursor (h : QueueOnly s s') :
    WaterValve.syncCursor s' = WaterValve.syncCursor s := by
  obtain ⟨mq, rfl⟩ := h
  rfl

private theorem syncCursor_motoInitOpen (actFlag : UInt8) (s : State) :
    syncCursor (motoInitOpen actFlag s) = syncCursor s := by
  unfold motoInitOpen
  split <;> rfl

private theorem syncCursor_motoOpen (actFlag : UInt8) (s : State) :
    syncCursor (motoOpen actFlag s) = syncCursor s := by
  unfold motoOpen
  dsimp only
  repeat' split
  · exact (queueOnly_controlUploadGW 1 0 1 1 _).syncCursor
  · rfl
  · rfl

private theorem syncCursor_motoClose (actFlag : UInt8) (s : State) :
    syncCursor (motoClose actFlag s) = syncCursor s := by
  have hrest : ∀ t : State, syncCursor ({
      ({ t with senor1Irq := false, senor2Irq := false } |> writeTurns false |> delayTimerStop) with
      moto1TimerAct := false
      moto2TimerAct := false
      moto1TimerDetect := false
      moto2TimerDetect := false } |> keyIOInit |> waterScanIOInit) = syncCursor t := fun _ => rfl
  unfold motoClose
  split
  · refine (hrest _).trans ?_
    split
    · exact (queueOnly_controlUploadGW 1 0 1 0 _).syncCursor
    · rfl
  · split <;> rfl

private theorem syncCursor_motoDetect (pins : Pins) (s : State) :
    syncCursor (motoDetect pins s) = syncCursor s := by
  obtain ⟨t, htest⟩ := testOnly_motoDetect pins s
  rw [htest]
  rfl

/-- Without a detour the handlers leave the cursor alone. -/
theorem kept_syncCursor (c : UInt8 × Bool) :
    Kept (fun _ => False) (fun s => syncCursor s = c) where
  other h hs := (congrArg (·.2.2) hs).trans h
  table h ha hs := by
    obtain ⟨_, _, _, _, _, _, _, _, rfl⟩ := tableOnly_registryStep ha hs
    exact h
  initOpen h _ _ := (syncCursor_motoInitOpen ..).trans h
  openAs h _ _ := (syncCursor_motoOpen ..).trans h
  closeAs h _ := (syncCursor_motoClose ..).trans h
  detect h _ := (syncCursor_motoDetect ..).trans h
  act1 h _ := h
  act2 h _ := h
  end1 h _ := h
  end2 h _ := h
  resume h := h
  sync := False.elim
  load := False.elim

/-- **What moves the cursor**: a tick, `Gateway_Sync` and a reset. -/
theorem syncCursor_step (hs : step rom s a = some s') (htick : a ≠ .gatewaySyncT)
    (hcall : ¬CallsGatewaySync s a) (hrestart : ¬Restarts a) : syncCursor s' = syncCursor s := by
  refine kept_step (kept_syncCursor (syncCursor s)) rfl (fun detour hdetour => ?_) hs
  cases detour with
  | sync => exact hdetour.elim htick hcall
  | restart => exact hrestart hdetour

/-! ## the sweep -/

/-- The report on slot `n`: code 3 for a device that is there, 5 for one that
is not. -/
def syncReport (d : DeviceInfo) (n : Nat) : RadioNormalFormat where
  type := 1
  ack := 1
  command := if d.alive n ≠ 0 then 3 else 5
  payloadID := d.id n
  rssi := d.rssi n
  data := d.bat n

/-- What the ticks sweep: the devices below the gateway class. -/
def deviceSweep : Sweep DeviceInfo RadioNormalFormat UInt32 where
  bound d := d.num
  report d n := if d.id n < 40000000 ∧ 0 < d.id n then some (syncReport d n) else none
  key msg := msg.payloadID

theorem holds_deviceSweep {d : DeviceInfo} {i : Nat} {deviceID : UInt32} :
    deviceSweep.Holds d i deviceID ↔ d.id i = deviceID ∧ 0 < deviceID ∧ deviceID < 40000000 := by
  constructor
  · rintro ⟨e, he, rfl⟩
    obtain ⟨hused, rfl⟩ : (d.id i < 40000000 ∧ 0 < d.id i) ∧ syncReport d i = e := by
      simpa [deviceSweep] using he
    exact ⟨rfl, hused.2, hused.1⟩
  · rintro ⟨rfl, hpos, hlt⟩
    exact ⟨syncReport d i, by simp [deviceSweep, hpos, hlt], rfl⟩

/-- An intact registry is fit to be swept. -/
theorem sound_deviceSweep (h : s.Wf) : deviceSweep.Sound s.globalDevice where
  distinct hi hj := by
    obtain ⟨hi, hpos, -⟩ := holds_deviceSweep.mp hi
    obtain ⟨hj, -, -⟩ := holds_deviceSweep.mp hj
    have hused : s.globalDevice.id _ ≠ 0 := fun h0 => by rw [← hi, h0] at hpos; simp at hpos
    exact h.table.distinct _ _ (hi.trans hj.symm) hused
  bounded hi := by
    obtain ⟨hi, hpos, -⟩ := holds_deviceSweep.mp hi
    have hused : s.globalDevice.id _ ≠ 0 := fun h0 => by rw [← hi, h0] at hpos; simp at hpos
    exact ⟨h.table.pos_of_used hused, h.table.le_of_used hused⟩

/-- A tick queues the report on the slot under the cursor. -/
theorem queued_gatewaySyncCallback (hgateway : s.gatewayID ≠ 0)
    (hroom : s.rfEnMq.length < rfEnMqSize)
    (hn : s.gatewaySyncNum.toNat ≤ s.globalDevice.num) :
    (gatewaySyncCallback s).rfEnMq.drop s.rfEnMq.length =
      (deviceSweep.report s.globalDevice s.gatewaySyncNum.toNat).toList := by
  rw [gatewaySyncCallback_eq, if_pos hn]
  show (syncSlot _ s).rfEnMq.drop _ = _
  unfold syncSlot
  dsimp only [deviceSweep]
  split
  · split <;> simp [gatewaySyncEnqueue, rtMqSend, syncReport, *]
  · simp

/-- And moves the cursor on. -/
theorem syncCursor_gatewaySyncCallback (hn : s.gatewaySyncNum.toNat ≤ s.globalDevice.num) :
    syncCursor (gatewaySyncCallback s) = (s.gatewaySyncNum + 1, s.gatewaySyncT) := by
  obtain ⟨mq, hmq⟩ := queueOnly_syncSlot s.gatewaySyncNum.toNat s
  rw [gatewaySyncCallback_eq, if_pos hn, hmq]
  rfl

/-! ## the log of a run -/

/-- What a run of the list shows: the registries it was in, the messages the
ticks queued, each with the registry at that tick, and the number of ticks. -/
structure SyncLog where
  seen : List DeviceInfo
  reports : List (DeviceInfo × RadioNormalFormat)
  ticks : Nat

/-- One handler more. -/
def SyncLog.observe (s : State) (log : SyncLog) (a : Action) (s' : State) : SyncLog :=
  match a with
  | .gatewaySyncT =>
    { seen := s'.globalDevice :: log.seen
      reports := log.reports ++ (s'.rfEnMq.drop s.rfEnMq.length).map (s.globalDevice, ·)
      ticks := log.ticks + 1 }
  | _ => { log with seen := s'.globalDevice :: log.seen }

/-- The firmware from a call of `Gateway_Sync` on, with any intact registry. -/
def syncMachine (rom : UInt32) : Machine (State × SyncLog) Action :=
  ({ init := fun s => ∃ s₀ : State, s₀.Wf ∧ gatewaySync s₀ = s
     step := step rom } : Machine State Action).observed
    (fun s => ⟨[s.globalDevice], [], 0⟩) SyncLog.observe

/-- Condition on a step: no second `Gateway_Sync`, no reset, and at a tick a
gateway and room in the queue. -/
def OneSync (p : State × SyncLog) (a : Action) : Prop :=
  ¬CallsGatewaySync p.1 a ∧ ¬Restarts a ∧
    (a = .gatewaySyncT → p.1.gatewayID ≠ 0 ∧ p.1.rfEnMq.length < rfEnMqSize)

/-- Where the list is: the ticks so far are a sweep of the registry. -/
structure Syncing (p : State × SyncLog) : Prop where
  wf : p.1.Wf
  seen : p.1.globalDevice ∈ p.2.seen
  swept : deviceSweep.Swept p.1.gatewaySyncT p.1.gatewaySyncNum.toNat p.2.seen p.2.reports
  ended : p.1.gatewaySyncT = false → p.1.gatewaySyncNum = 1
  ticks : p.1.gatewaySyncT = true → p.1.gatewaySyncNum.toNat = p.2.ticks + 1 ∧ p.2.ticks ≤ 12

theorem syncing_gatewaySync (h : s.Wf) :
    Syncing (gatewaySync s, ⟨[(gatewaySync s).globalDevice], [], 0⟩) := by
  have hwf : (gatewaySync s).Wf := (syncOnly_gatewaySync s).toStorage ▸ h
  exact {
    wf := hwf
    seen := by simp
    swept := .start (sound_deviceSweep hwf)
    ended := nofun
    ticks := fun _ => ⟨rfl, by simp⟩ }

/-- A handler that leaves the cursor alone changes the table at most. -/
theorem Syncing.other {log : SyncLog} (h : Syncing (s, log)) (hwf : s'.Wf)
    (hcursor : syncCursor s' = syncCursor s) :
    Syncing (s', { log with seen := s'.globalDevice :: log.seen }) := by
  obtain ⟨hnum, htimer⟩ : s'.gatewaySyncNum = s.gatewaySyncNum ∧
      s'.gatewaySyncT = s.gatewaySyncT := by simpa [syncCursor] using hcursor
  exact {
    wf := hwf
    seen := by simp
    swept := by
      show deviceSweep.Swept s'.gatewaySyncT s'.gatewaySyncNum.toNat _ _
      rw [hnum, htimer]
      exact h.swept.change _
    ended := fun hstop => hnum.trans (h.ended (htimer.symm.trans hstop))
    ticks := fun hrun => by
      show s'.gatewaySyncNum.toNat = log.ticks + 1 ∧ _
      rw [hnum]
      exact h.ticks (htimer.symm.trans hrun) }

/-- A tick that visits the slot under the cursor. -/
theorem Syncing.visit {log : SyncLog} (h : Syncing (s, log)) (hrun : s.gatewaySyncT = true)
    (hgateway : s.gatewayID ≠ 0) (hroom : s.rfEnMq.length < rfEnMqSize)
    (hn : s.gatewaySyncNum.toNat ≤ s.globalDevice.num) :
    Syncing (gatewaySyncCallback s, log.observe s .gatewaySyncT (gatewaySyncCallback s)) := by
  have hst : (gatewaySyncCallback s).toStorage = s.toStorage :=
    (syncOnly_gatewaySyncCallback s).toStorage
  obtain ⟨hnum, htimer⟩ : (gatewaySyncCallback s).gatewaySyncNum = s.gatewaySyncNum + 1 ∧
      (gatewaySyncCallback s).gatewaySyncT = s.gatewaySyncT := by
    simpa [syncCursor] using syncCursor_gatewaySyncCallback hn
  obtain ⟨hticks, -⟩ := h.ticks hrun
  have h12 : s.globalDevice.num ≤ 12 := h.wf.num_le
  have hnext : (gatewaySyncCallback s).gatewaySyncNum.toNat = s.gatewaySyncNum.toNat + 1 := by
    rw [hnum, UInt8.toNat_add]
    exact Nat.mod_eq_of_lt (by simp; omega)
  have hswept := h.swept
  dsimp only at hswept hticks
  rw [hrun] at hswept
  have hvisit := (hswept.visit (sound_deviceSweep h.wf) h.seen).change s.globalDevice
  have hreports : ((gatewaySyncCallback s).rfEnMq.drop s.rfEnMq.length).map (s.globalDevice, ·) =
      deviceSweep.visit s.globalDevice s.gatewaySyncNum.toNat := by
    rw [queued_gatewaySyncCallback hgateway hroom hn, Sweep.visit, Option.toList_map]
  refine ⟨hst ▸ h.wf, by simp [SyncLog.observe], ?_, fun hstop => ?_, fun _ => ?_⟩
  · dsimp only [SyncLog.observe]
    rw [htimer, hrun, hnext, hreports, hst]
    exact hvisit
  · rw [htimer, hrun] at hstop
    cases hstop
  · dsimp only [SyncLog.observe]
    omega

/-- A tick that finds no further slot. -/
theorem Syncing.stop {log : SyncLog} (h : Syncing (s, log)) (hrun : s.gatewaySyncT = true)
    (hn : ¬s.gatewaySyncNum.toNat ≤ s.globalDevice.num) :
    Syncing (gatewaySyncCallback s, log.observe s .gatewaySyncT (gatewaySyncCallback s)) := by
  have hstop : gatewaySyncCallback s = { s with gatewaySyncNum := 1, gatewaySyncT := false } := by
    rw [gatewaySyncCallback_eq, if_neg hn]
  have hswept := h.swept
  dsimp only at hswept
  rw [hrun] at hswept
  have hend := (hswept.stop (sound_deviceSweep h.wf) h.seen (Nat.lt_of_not_le hn) 1).change
    s.globalDevice
  rw [hstop]
  refine ⟨h.wf, by simp [SyncLog.observe], ?_, fun _ => rfl, nofun⟩
  dsimp only [SyncLog.observe]
  rw [List.drop_length, List.map_nil, List.append_nil]
  exact hend

/-- Every step of the run keeps the list where the ticks have brought it. -/
theorem Syncing.step {p p' : State × SyncLog} (h : Syncing p) (hok : OneSync p a)
    (hs : (syncMachine rom).step p a = some p') : Syncing p' := by
  obtain ⟨s, log⟩ := p
  obtain ⟨s', log'⟩ := p'
  obtain ⟨hstep, hlog⟩ := Machine.observed_step_eq_some.mp hs
  dsimp only at hstep hlog
  obtain ⟨hcall, hrestart, htick⟩ := hok
  by_cases ha : a = .gatewaySyncT
  · subst ha
    obtain ⟨hgateway, hroom⟩ := htick rfl
    obtain ⟨hrun, rfl⟩ : s.gatewaySyncT = true ∧ gatewaySyncCallback s = s' := by
      simpa [WaterValve.step] using hstep
    rw [hlog]
    by_cases hn : s.gatewaySyncNum.toNat ≤ s.globalDevice.num
    · exact h.visit hrun hgateway hroom hn
    · exact h.stop hrun hn
  · have hobserve : log.observe s a s' = { log with seen := s'.globalDevice :: log.seen } := by
      cases a <;> first | rfl | exact absurd rfl ha
    rw [hlog, hobserve]
    exact h.other (wf_step h.wf hstep) (syncCursor_step hstep ha hcall hrestart)

/-! ## the list -/

/-- What has been sent when the timer has stopped: one report on every device
that kept its slot, as the registry had it at that tick, and no other report
than on a device below the gateway class. -/
structure ListSent (s : State) (log : SyncLog) : Prop where
  cursor : s.gatewaySyncNum = 1
  once : ∀ i deviceID, 0 < deviceID → deviceID < 40000000 →
    (∀ d ∈ log.seen, d.id i = deviceID) →
    ∃ d, d.id i = deviceID ∧
      log.reports.filter (fun r => r.2.payloadID = deviceID) = [(d, syncReport d i)]
  devices : ∀ r ∈ log.reports, 0 < r.2.payloadID ∧ r.2.payloadID < 40000000 ∧
    ∃ i, r.2 = syncReport r.1 i

theorem Syncing.listSent {log : SyncLog} (h : Syncing (s, log)) (hstop : s.gatewaySyncT = false) :
    ListSent s log := by
  have hswept := h.swept
  dsimp only at hswept
  rw [hstop] at hswept
  have hreport : ∀ {d i msg}, deviceSweep.report d i = some msg →
      (d.id i < 40000000 ∧ 0 < d.id i) ∧ syncReport d i = msg := fun he => by
    simpa [deviceSweep] using he
  refine ⟨h.ended hstop, fun i deviceID hpos hlt hstays => ?_, fun r hr => ?_⟩
  · have hholds : ∀ d ∈ log.seen, deviceSweep.Holds d i deviceID := fun d hd =>
      holds_deviceSweep.mpr ⟨hstays d hd, hpos, hlt⟩
    obtain ⟨d, msg, he, hunder⟩ := hswept.once hholds
    obtain ⟨-, rfl⟩ := hreport he
    have hmem : (d, syncReport d i) ∈ deviceSweep.under deviceID log.reports := by
      rw [hunder]; simp
    have hid : d.id i = deviceID := by
      simpa [Sweep.under, deviceSweep, syncReport] using (List.mem_filter.mp hmem).2
    exact ⟨d, hid, hunder⟩
  · obtain ⟨i, he⟩ := hswept.made r hr
    obtain ⟨⟨hlt, hpos⟩, hmsg⟩ := hreport he
    rw [← hmsg]
    exact ⟨hpos, hlt, i, rfl⟩

/-- **The list reports each device exactly once.**  From a call of
`Gateway_Sync` on, whatever the other handlers do in between, the timer runs
for twelve ticks at most before the one that stops it, and then the list is
sent. -/
theorem gateway_sync_once {p : State × SyncLog}
    (h : (syncMachine rom).ReachableVia OneSync p) :
    (p.1.gatewaySyncT = true → p.2.ticks ≤ 12) ∧
      (p.1.gatewaySyncT = false → ListSent p.1 p.2) := by
  have hsyncing : Syncing p := by
    refine h.invariant (fun p ⟨⟨s₀, hwf, hs⟩, hlog⟩ => ?_) fun _ _ _ hI hok hs => hI.step hok hs
    obtain ⟨s, log⟩ := p
    dsimp only at hs hlog
    rw [hlog, ← hs]
    exact syncing_gatewaySync hwf
  exact ⟨fun hrun => (hsyncing.ticks hrun).2, hsyncing.listSent⟩

/-- A tick that has a gateway and room in the queue, or a frame that is not the
gateway's. -/
def tickOrNode (p : State × SyncLog) : Action → Bool
  | .gatewaySyncT => p.1.gatewayID ≠ 0 ∧ p.1.rfEnMq.length < rfEnMqSize
  | .rf433Rx _ _ buffer _ => byteAt buffer 1 ≠ 71
  | _ => false

theorem oneSync_of_tickOrNode (p : State × SyncLog) (a : Action) (h : tickOrNode p a = true) :
    OneSync p a := by
  cases a <;> simp [tickOrNode] at h <;>
    simp [OneSync, CallsGatewaySync, AsksForSync, EndsLearn, Restarts, h]

/-- A door, a slave and a gateway, of which the slave shakes hands after the
first tick. -/
def listRun : List Action :=
  [.gatewaySyncT, nodeRx 10000001 2 3, .gatewaySyncT, .gatewaySyncT, .gatewaySyncT]

/-- `Gateway_Sync` is called with these three. -/
def listStart : State := gatewaySync { threeLearned with gatewayID := 40000001 }

def listed : Option (State × SyncLog) :=
  (syncMachine 0).runChecked tickOrNode (listStart, ⟨[listStart.globalDevice], [], 0⟩) listRun

/-- The door and the slave are reported, the gateway is not. -/
theorem gateway_sync_once_threeLearned :
    ∃ p, listed = some p ∧ p.2.reports.map (·.2.payloadID) = [30000001, 10000001] ∧
      ListSent p.1 p.2 := by
  have hrun : listed.map (fun p => (p.1.gatewaySyncT, p.2.reports.map (·.2.payloadID))) =
      some (false, [30000001, 10000001]) := by decide +kernel
  obtain ⟨p, hp, hobs⟩ := Option.map_eq_some_iff.mp hrun
  obtain ⟨hstop, hreports⟩ : p.1.gatewaySyncT = false ∧
      p.2.reports.map (·.2.payloadID) = [30000001, 10000001] := by simpa using hobs
  have hwf : threeLearned.Wf := registryMachine_wf reachable_threeLearned
  have hinit :
      (syncMachine 0).ReachableVia OneSync (listStart, ⟨[listStart.globalDevice], [], 0⟩) :=
    .init ⟨⟨{ threeLearned with gatewayID := 40000001 }, hwf, rfl⟩, rfl⟩
  exact ⟨p, hp, hreports, (gateway_sync_once (hinit.runChecked oneSync_of_tickOrNode hp)).2 hstop⟩

end WaterValve
