import WaterValve.RegistryRun

/-!
# WaterValve.Handlers

A walk over the handlers of the firmware that serves any invariant of the
registry and the valve.  Apart from the operations of `flashwork.c`, the
functions of `Moto.c` and a reset, no code touches either: a property that
these keep (`Kept`) is kept by every step (`kept_step`).

Each function of the source has one lemma here, `kept_<function>`.
-/

namespace WaterValve

/-! ## what a property has to be kept by -/

/-- The outputs and timers of the valve and its self-test. -/
structure Actuator where
  lastFlag : UInt8
  valve : UInt8
  turn1 : Bool
  turn2 : Bool
  act1 : Bool
  act2 : Bool
  detect1 : Bool
  detect2 : Bool
  keyPause : UInt8
  waterPause : UInt8

/-- The actuator of a state. -/
def actuator (s : State) : Actuator where
  lastFlag := s.globalDevice.lastFlag
  valve := s.valveStatus
  turn1 := s.turn1
  turn2 := s.turn2
  act1 := s.moto1TimerAct
  act2 := s.moto2TimerAct
  detect1 := s.moto1TimerDetect
  detect2 := s.moto2TimerDetect
  keyPause := s.keyPauseFlag
  waterPause := s.waterAlarmPause

/-- How far the device list is sent: `Gateway_Sync_Num`, and whether
`Gateway_Sync_t` runs. -/
def syncCursor (s : State) : UInt8 × Bool := (s.gatewaySyncNum, s.gatewaySyncT)

/-- The registry, the actuator and the list that is sent: what most code leaves
alone. -/
def plant (s : State) : Storage × Actuator × UInt8 × Bool := (s.toStorage, actuator s, syncCursor s)

/-- The operations on the table of devices. -/
def RegistryAction.OnTable : RegistryAction → Prop
  | .setLastFlag _ | .loadDevice2Memory | .other _ => False
  | _ => True

/-- `Turn1_Timer_Callback` before it judges motor 1. -/
def endTest1 (s : State) : State :=
  { ({ s with moto1TimerDetect := false } |> keyIOInit |> waterScanIOInit) with
    senor1Irq := false, turn1 := true }

/-- `Turn2_Timer_Callback` before it judges motor 2. -/
def endTest2 (s : State) : State :=
  { ({ s with moto2TimerDetect := false } |> keyIOInit |> waterScanIOInit) with
    senor2Irq := false, turn2 := true }

/-- What a property need not survive: the list of devices being sent, and a
reset. -/
inductive Detour
  | sync | restart

/-- Every detour. -/
def AnyDetour (_ : Detour) : Prop := True

/-- The gateway asks for the list: command 4, in a frame that is accepted. -/
def AsksForSync (s : State) : Action → Prop
  | .rf433Rx rxMessage _ buffer len =>
    byteAt buffer 1 = 71 ∧ gatewayFrameEnd buffer len ∧
      GatewayAccepts (scanGateway rxMessage buffer).2 s ∧
      (scanGateway rxMessage buffer).2.command = 4
  | _ => False

/-- The handler calls `Stop_Learn`. -/
def EndsLearn (s : State) : Action → Prop
  | .learnTimer => True
  | .keyReponse sem _ => sem.k0 = false ∧ sem.k1 = false ∧ sem.k0k1 = false ∧
      sem.k0Long = false ∧ sem.k1Long = true ∧ s.nowStatus = .learn
  | _ => False

/-- The handler calls `Gateway_Sync`: on request, and at the end of learn mode
when a gateway was learned. -/
def CallsGatewaySync (s : State) (a : Action) : Prop :=
  AsksForSync s a ∨ EndsLearn s a ∧ s.gwFlag ≠ 0

/-- The handler resets the unit. -/
def Restarts : Action → Prop
  | .keyReponse sem _ => sem.k0 = false ∧ sem.k1 = false ∧ sem.k0k1 = true
  | .reboot _ => True
  | _ => False

/-- The detours of an action. -/
def Detours (s : State) (a : Action) : Detour → Prop
  | .sync => a = .gatewaySyncT ∨ CallsGatewaySync s a
  | .restart => Restarts a

variable {ok : Detour → Prop} {P : State → Prop} {s s' : State}

/-- A property kept by the parts of the code that move the valve or touch the
registry, and by the detours it permits. -/
structure Kept (ok : Detour → Prop) (P : State → Prop) : Prop where
  other : ∀ {s s'}, P s → plant s' = plant s → P s'
  table : ∀ {s s' a}, P s → RegistryAction.OnTable a → registryStep s a = some s' → P s'
  initOpen : ∀ {s}, P s → ∀ {actFlag}, actFlag ≠ otherOff → P (motoInitOpen actFlag s)
  openAs : ∀ {s}, P s → ∀ {actFlag}, actFlag ≠ otherOff → P (motoOpen actFlag s)
  closeAs : ∀ {s}, P s → ∀ actFlag, P (motoClose actFlag s)
  detect : ∀ {s}, P s → ∀ pins, P (motoDetect pins s)
  act1 : ∀ {s}, P s → s.moto1TimerAct = true →
    P (moto1TimerActCallback { s with moto1TimerAct := false })
  act2 : ∀ {s}, P s → s.moto2TimerAct = true →
    P (moto2TimerActCallback { s with moto2TimerAct := false })
  end1 : ∀ {s}, P s → s.moto1TimerDetect = true → P (endTest1 s)
  end2 : ∀ {s}, P s → s.moto2TimerDetect = true → P (endTest2 s)
  resume : ∀ {s}, P s → P (waterScanIOInit s)
  sync : ok .sync → ∀ {s s'}, P s → SyncOnly s s' → P s'
  load : ok .restart → ∀ {s st}, P s → s.loadDevice2Memory = some st → ∀ rom,
    P (radioQueueInit rom { State.reset s.env with toStorage := st })

/-! ## what the operations on the table change -/

/-- `s'` is `s` up to the registry, the queue, and what a learn frame sets. -/
def TableOnly (s s' : State) : Prop :=
  ∃ st mq timer flag id recv status check, s' = { s with
    toStorage := st, rfEnMq := mq, learnTimer := timer, gwFlag := flag, gatewayID := id,
    heartRecvFlag := recv, heartStatus := status, heartCheckT := check }

theorem TableOnly.refl (s : State) : TableOnly s s := ⟨_, _, _, _, _, _, _, _, rfl⟩

/-- What one operation may change, two in a row may. -/
theorem TableOnly.trans {s'' : State} (h : TableOnly s s') (h' : TableOnly s' s'') :
    TableOnly s s'' := by
  obtain ⟨_, _, _, _, _, _, _, _, rfl⟩ := h
  obtain ⟨_, _, _, _, _, _, _, _, rfl⟩ := h'
  exact ⟨_, _, _, _, _, _, _, _, rfl⟩

/-- The answer to a learn frame goes into the queue. -/
theorem QueueOnly.tableOnly (h : QueueOnly s s') : TableOnly s s' := by
  obtain ⟨mq, rfl⟩ := h
  exact ⟨_, mq, _, _, _, _, _, _, rfl⟩

theorem TableOnly.queue {s'' : State} (h : TableOnly s s') (h' : QueueOnly s' s'') :
    TableOnly s s'' :=
  h.trans h'.tableOnly

theorem tableOnly_toStorage (st : Storage) (s : State) : TableOnly s { s with toStorage := st } :=
  ⟨st, _, _, _, _, _, _, _, rfl⟩

/-- Most operations have a return value that their callers drop. -/
theorem tableOnly_withStorage (f : Storage → UInt8 × Storage) (s : State) :
    TableOnly s (s.withStorage f) :=
  tableOnly_toStorage ..

/-- What is learned is entered by one of the `Add_.._Device` functions, and answered
only when that has succeeded. -/
private theorem tableOnly_learnNew {add : UInt32 → State → UInt8 × State} (buf : Message)
    (hadd : ∀ deviceID s, TableOnly s (add deviceID s).2) : TableOnly s (learnNew add buf s) := by
  unfold learnNew
  dsimp only
  split
  · exact (hadd _ s).queue (queueOnly_radioEnqueue ..)
  · exact hadd _ s

/-- The device asks: its class says which of the functions enters it, and an old door is
dismissed by a message. -/
private theorem tableOnly_learnRequest (buf : Message) (s : State) :
    TableOnly s (learnRequest buf s) := by
  unfold learnRequest
  repeat' split
  · exact tableOnly_learnNew buf fun _ _ => tableOnly_toStorage ..
  · refine tableOnly_learnNew buf fun deviceID s => ?_
    unfold addDoorDevice
    dsimp only
    split
    · exact (queueOnly_replaceDoor _ s).tableOnly.trans (tableOnly_toStorage ..)
    · exact tableOnly_toStorage ..
  · exact tableOnly_learnNew buf fun _ _ => tableOnly_toStorage ..
  · exact .refl s
  · exact (queueOnly_radioEnqueue ..).tableOnly

/-- The device confirms; a gateway is made the one the unit talks to. -/
private theorem tableOnly_learnConfirm (buf : Message) (s : State) :
    TableOnly s (learnConfirm buf s) := by
  have hreload : TableOnly s (gatewayReload s) := by
    unfold gatewayReload heartRefresh
    dsimp only
    split <;> exact ⟨_, _, _, _, _, _, _, _, rfl⟩
  unfold learnConfirm
  split
  · exact .refl s
  · dsimp only
    refine .queue (.queue (.trans ?_ (tableOnly_withStorage ..)) (queueOnly_radioEnqueue ..))
      (queueOnly_gatewaySyncEnqueue ..)
    split
    · exact hreload
    · exact .refl s

/-- A learn frame changes nothing outside learn mode, and else starts `Learn_Timer`
again. -/
theorem tableOnly_deviceLearn (buf : Message) (s : State) : TableOnly s (deviceLearn buf s) := by
  have htimer : ∀ t, TableOnly s t → TableOnly s { t with learnTimer := true } := fun t ht =>
    ht.trans ⟨_, _, true, _, _, _, _, _, rfl⟩
  unfold deviceLearn
  split
  · dsimp only
    refine htimer (ite _ _ _) ?_
    repeat' split
    · exact tableOnly_learnRequest buf s
    · exact tableOnly_learnConfirm buf s
    · exact .refl s
  · exact .refl s

/-- The operations on the table change the table, and a learn frame what it
sets besides. -/
theorem tableOnly_registryStep {a : RegistryAction} (ha : a.OnTable)
    (hs : registryStep s a = some s') : TableOnly s s' := by
  cases a <;> simp only [registryStep, Option.some.injEq, Option.map_eq_some_iff] at hs
  case learn buf => exact hs ▸ tableOnly_deviceLearn buf s
  case deleteAllDevice =>
    rw [← hs]
    exact (queueOnly_gatewaySyncEnqueue ..).tableOnly.trans (tableOnly_toStorage ..)
  case updateAllTime | clearAllTime =>
    obtain ⟨st, -, rfl⟩ := hs
    exact tableOnly_toStorage st s
  case setLastFlag | loadDevice2Memory | other => exact ha.elim
  all_goals exact hs ▸ tableOnly_toStorage _ s

/-! ## what leaves the plant alone -/

/-- A message that is sent leaves the plant alone. -/
theorem QueueOnly.plant (h : QueueOnly s s') : plant s' = WaterValve.plant s := by
  obtain ⟨mq, rfl⟩ := h
  rfl

theorem plant_backToNormal (s : State) : plant (backToNormal s) = plant s := rfl

theorem plant_warningDisable (s : State) : plant (warningDisable s) = plant s := rfl

theorem plant_setStatus (status : DeviceStatus) (s : State) :
    plant { s with nowStatus := status } = plant s := rfl

/-- Factory mode starts the timer of its frames, which is none of the valve. -/
theorem plant_detectFactory (pins : Pins) (s : State) : plant (detectFactory pins s) = plant s := by
  unfold detectFactory
  split <;> rfl

/-- A message more or less in the queue changes nothing. -/
theorem Kept.queue (k : Kept ok P) (h : P s) (hq : QueueOnly s s') : P s' := k.other h hq.plant

section

variable (ack counter command data rssi warnId value : UInt8) (deviceId : UInt32) (s : State)

@[simp] theorem plant_radioEnqueue :
    plant (radioEnqueue deviceId counter command data s) = plant s :=
  (queueOnly_radioEnqueue ..).plant

@[simp] theorem plant_gatewaySyncEnqueue :
    plant (gatewaySyncEnqueue ack command deviceId rssi data s) = plant s :=
  (queueOnly_gatewaySyncEnqueue ..).plant

@[simp] theorem plant_warUploadGW : plant (warUploadGW ack deviceId warnId value s) = plant s :=
  (queueOnly_warUploadGW ..).plant

@[simp] theorem plant_controlUploadGW :
    plant (controlUploadGW ack deviceId command value s) = plant s :=
  (queueOnly_controlUploadGW ..).plant

end

/-- Branches that both lead to reachable states. -/
theorem kept_ite {b : Prop} [Decidable b] (h : b → P s) (h' : ¬b → P s') :
    P (if b then s else s') := by
  by_cases hb : b
  · rw [if_pos hb]; exact h hb
  · rw [if_neg hb]; exact h' hb

section

variable (k : Kept ok P)

include k

/-! ## the warnings -/

/-- A warning that is accepted may close the valve; the others change the status and
send a message. -/
theorem kept_callback (h : P s) (callback : WarningCallback) : P (callback.run s) := by
  cases callback with
  | slaverLowBatteryWarning => exact h
  | slaverUltraLowBatteryWarning | slaverWaterAlarmWarning =>
      exact k.other (k.closeAs h otherOff) (plant_setStatus ..)
  | masterLostPeakWarning =>
      exact k.queue (k.other h (plant_setStatus ..)) (queueOnly_warUploadGW ..)
  | moto1FailCallback | moto2FailCallback =>
      exact k.other (k.queue h (queueOnly_warUploadGW ..)) (plant_setStatus ..)
  | masterWaterAlarmWarning | ntcWarningEventCallback =>
      exact k.other (k.queue (k.closeAs h normalOff) (queueOnly_warUploadGW ..))
        (plant_setStatus ..)
  | offlineWarning =>
      simp only [WarningCallback.run]
      split
      · exact k.other (k.closeAs h normalOff) (plant_setStatus ..)
      · exact h

/-- The priorities decide whether the callback of the warning runs. -/
theorem kept_warningEnable (h : P s) (event : WariningEvent) : P (warningEnable event s) := by
  unfold warningEnable
  split
  · dsimp only
    split
    · exact kept_callback k (k.other h (by rfl)) _
    · exact k.other h rfl
  · exact h

theorem kept_warningEnableNum (h : P s) (id : UInt8) : P (warningEnableNum id s) := by
  unfold warningEnableNum
  split
  · exact kept_warningEnable k h _
  · exact h

theorem kept_warningDisable (h : P s) : P (warningDisable s) :=
  k.other h (plant_warningDisable s)

/-- A transition of the probe raises a warning or ends one. -/
theorem kept_warningWithPeak (h : P s) (status : Nat) : P (warningWithPeak status s) := by
  unfold warningWithPeak
  split
  · split
    · dsimp only
      split
      · exact k.other (k.queue h (queueOnly_warUploadGW ..)) (plant_backToNormal _)
      · exact k.queue h (queueOnly_warUploadGW ..)
    · exact kept_warningEnableNum k h 3
    · exact kept_warningEnableNum k h 4
    · exact k.other h rfl
    · exact kept_warningEnableNum k h 4
    · exact h
  · exact h

/-- Six transitions of the probe are told apart, and each is handled once. -/
theorem kept_waterscanTimerCallback (h : P s) (pins : Pins) :
    P (waterscanTimerCallback pins s) := by
  have hnow : P { s with warningNowStatus := peakReading pins s } := k.other h rfl
  have hhandled : ∀ {status : Nat} {handled : UInt8} {t : State}, P t →
      P (peakHandled handled (warningWithPeak status t)) :=
    fun ht => k.other (kept_warningWithPeak k ht _) rfl
  unfold waterscanTimerCallback
  refine kept_ite (fun _ => kept_ite (fun _ => ?_) fun _ => kept_ite (fun _ => ?_)
    fun _ => kept_ite (fun _ => ?_) fun _ => kept_ite (fun _ => ?_)
    fun _ => kept_ite (fun _ => ?_) fun _ => kept_ite (fun _ => ?_) fun _ => hnow)
    fun _ => hnow
  · exact kept_ite (fun _ => kept_warningWithPeak k (k.other hnow (by rfl)) 3) fun _ => hnow
  · exact kept_ite (fun _ => k.other hnow rfl) fun _ => hnow
  all_goals exact kept_ite (fun _ => hhandled hnow) fun _ => hnow

/-- A freeze closes the valve by its warning; when it is over, the valve goes back to
where it was, by hand and not remotely. -/
theorem kept_ntcScanTimerCallback (h : P s) (cold warm : Bool) :
    P (ntcScanTimerCallback cold warm s) := by
  unfold ntcScanTimerCallback
  extract_lets t
  have ht : P t := by
    unfold t
    split
    · exact kept_warningEnableNum k (k.other h (by rfl)) 8
    · exact h
  split
  · have ht' : P (warningDisable (warUploadGW 1 0 8 0 t)) :=
      kept_warningDisable k (k.other ht (by simp))
    split
    · exact k.openAs ht' (by decide)
    · exact k.closeAs ht' _
  · exact ht

/-! ## frames -/

/-- Any frame of a registered device notes its signal and that it is alive. -/
theorem kept_heardFrom (h : P s) (rssi : Int) (fromID : UInt32) :
    P (heardFrom rssi fromID s) :=
  k.table (k.table h (a := .updateDeviceRssi fromID rssi) trivial rfl)
    (a := .deviceAliveChange fromID 1) trivial rfl

/-- A handshake notes the battery, and warns when it is low. -/
theorem kept_handshake (h : P s) (buf : Message) : P (handshake buf s) := by
  have hbat : P (s.withStorage (·.updateDeviceBat buf.fromID.toUInt32 (toU8 buf.data))) :=
    k.table h (a := .updateDeviceBat buf.fromID.toUInt32 (toU8 buf.data)) trivial rfl
  unfold handshake
  generalize s.withStorage _ = t at hbat ⊢
  have hreply : ∀ level, P (handshakeReply buf level t) :=
    fun level => k.other hbat (by simp [handshakeReply])
  have hwarn : ∀ level id, P (if buf.fromID.toUInt32 ≠ (handshakeReply buf level t).getDoorID
      then warningEnableNum id (handshakeReply buf level t) else handshakeReply buf level t) :=
    fun level id => kept_ite (fun _ => kept_warningEnableNum k (hreply level) id)
      fun _ => hreply level
  exact kept_ite (fun _ => hreply 0) fun _ => kept_ite (fun _ => hwarn 1 7)
    fun _ => kept_ite (fun _ => hwarn 2 1) fun _ => kept_ite (fun _ => hreply 3)
    fun _ => kept_ite (fun _ => hreply 4) fun _ => hbat

/-- An alarm of a slave is stored before it is raised. -/
theorem kept_slaveWater (h : P s) (buf : Message) : P (slaveWater buf s) := by
  have hreport : ∀ wet, P (radioEnqueue buf.fromID.toUInt32 (toU8 buf.counter) 4 wet s
      |> warUploadGW 1 buf.fromID.toUInt32 5 wet) := fun wet => k.other h (by simp)
  unfold slaveWater
  split
  · split
    · exact h
    · exact hreport 0
  · split
    · split
      · exact h
      · have hset := k.table (hreport 1) (a := .flashSetSlaveAlarmFlag buf.fromID.toUInt32 1)
          trivial rfl
        dsimp only
        split
        · exact kept_warningEnableNum k hset 2
        · exact hset
    · exact h

theorem kept_reportValve (h : P s) (buf : Message) : P (reportValve buf s) := by
  unfold reportValve
  split <;> exact k.other h (by simp)

/-- A node opens the valve remotely when no warning is shown. -/
theorem kept_nodeOpen (h : P s) (buf : Message) : P (nodeOpen buf s) := by
  unfold nodeOpen
  refine kept_reportValve k ?_ buf
  split
  · have henq : P (radioEnqueue buf.fromID.toUInt32 (toU8 buf.counter) 5 1 s) :=
      k.other h (by simp)
    have hopen : P (motoOpen otherOpen _) := k.openAs henq (by decide)
    exact k.other hopen rfl
  · exact k.other h (by simp)

/-- The last alarm that is cleared ends the warning. -/
theorem kept_clearSlaveAlarm (h : P s) (buf : Message) : P (clearSlaveAlarm buf s) := by
  unfold clearSlaveAlarm
  split
  · have hset := k.table h (a := .flashSetSlaveAlarmFlag buf.fromID.toUInt32 0) trivial rfl
    dsimp only
    split
    · exact kept_warningDisable k hset
    · exact hset
  · exact h

/-- A node closes the valve remotely when no warning is shown any more. -/
theorem kept_nodeClose (h : P s) (buf : Message) : P (nodeClose buf s) := by
  have hclear : P (clearSlaveAlarm buf
      (radioEnqueue buf.fromID.toUInt32 (toU8 buf.counter) 6 0 s)) :=
    kept_clearSlaveAlarm k (k.other h (by simp)) buf
  unfold nodeClose
  dsimp only
  split
  · exact kept_reportValve k (k.closeAs (k.other (kept_warningDisable k hclear) (by rfl)) _) buf
  · exact kept_reportValve k hclear buf

/-- A delayed close starts a timer; it is the timer that closes the valve. -/
theorem kept_nodeDelay (h : P s) (buf : Message) : P (nodeDelay buf s) := by
  have hreply : P (radioEnqueue buf.fromID.toUInt32 (toU8 buf.counter) 8 (toU8 buf.data) s) :=
    k.queue h (queueOnly_radioEnqueue ..)
  unfold nodeDelay delayTimerCloseDoor delayTimerOpenDoor
  dsimp only
  split
  · exact k.other (k.queue hreply (queueOnly_controlUploadGW 1 buf.fromID.toUInt32 3 0 _)) rfl
  · split
    · split
      · exact k.queue (k.other hreply (by rfl)) (queueOnly_controlUploadGW ..)
      · exact hreply
    · exact hreply

/-- Each command of a node has its own function. -/
theorem kept_dataSolveCommand (h : P s) (buf : Message) : P (dataSolveCommand buf s) := by
  have hstart : P (startLearn s) := by
    unfold startLearn
    split
    · exact k.other h rfl
    · exact h
  unfold dataSolveCommand
  repeat' split
  · exact k.other h (by simp)
  · exact kept_handshake k h buf
  · unfold learnStart
    split
    · exact k.other hstart (by simp)
    · exact h
  · exact kept_slaveWater k h buf
  · exact kept_nodeOpen k h buf
  · exact kept_nodeClose k h buf
  · exact kept_nodeDelay k h buf
  · exact k.other h (by simp [slaveLost])
  · exact h

/-- To leave the offline warning moves no valve. -/
theorem kept_offlineReact (h : P s) : P (offlineReact s) := by
  unfold offlineReact offlineDisableWarning
  dsimp only
  repeat' split
  all_goals first
    | exact h
    | exact kept_warningDisable k h

/-- After its command, a frame ends the silence of its sender. -/
theorem kept_dataSolve (h : P s) (buf : Message) : P (dataSolve buf s) := by
  unfold dataSolve
  dsimp only
  refine kept_offlineReact k (k.table (s := ite _ _ _) ?_
    (a := .clearDeviceTime buf.fromID.toUInt32) trivial rfl)
  have hcmd := kept_dataSolveCommand k h buf
  unfold changeMaxPower backNormalPower
  repeat' split
  all_goals exact k.other hcmd rfl

/-- A frame is learned from, or obeyed, or ignored. -/
theorem kept_normalAct (h : P s) (rssi : Int) (buf : Message) :
    P (normalAct rssi buf s) := by
  have hheard := kept_heardFrom k h rssi buf.fromID.toUInt32
  unfold normalAct
  repeat' split
  · exact k.table hheard (a := .learn buf) trivial rfl
  · exact kept_dataSolve k hheard buf
  · exact h
  · exact h

/-- The gateway opens and closes the valve when no warning is shown. -/
theorem kept_gatewayValve (h : P s) (buf : Message) : P (gatewayValve buf s) := by
  unfold gatewayValve
  split
  · have hmoved : P (if buf.data ≠ 0 then remoteOpen s else remoteClose s) := by
      unfold remoteOpen remoteClose
      split
      · exact k.openAs h (by decide)
      · exact k.closeAs h otherOff
    exact k.other hmoved (by simp)
  · exact k.other h (by simp)

/-- Of the commands of the gateway only 4 is a detour. -/
theorem kept_gatewayAct (h : P s) (buf : Message)
    (hok : GatewayAccepts buf s → buf.command = 4 → ok .sync) : P (gatewayAct buf s) := by
  have hrefresh : P (heartRefresh buf.fromID.toUInt32 s) := by
    unfold heartRefresh
    split
    · exact k.other h (by rfl)
    · exact h
  unfold gatewayAct
  split
  · rename_i haccept
    unfold gatewayCommand
    repeat' split
    · exact kept_gatewayValve k hrefresh buf
    · exact k.other hrefresh (by simp)
    · rename_i h4
      exact k.sync (hok haccept h4) hrefresh (syncOnly_gatewaySync _)
    · exact k.table hrefresh (a := .deleteDevice buf.deviceID.toUInt32) trivial rfl
    · exact k.other hrefresh (by rfl)
    · exact hrefresh
  · exact h

/-- A buffer is a node frame, a gateway frame, or neither. -/
theorem kept_rf433RxCallback (h : P s) (rxMessage : Message) (rssi : Int)
    (buffer : List UInt8) (len : UInt8)
    (hok : AsksForSync s (.rf433Rx rxMessage rssi buffer len) → ok .sync) :
    P (rf433RxCallback rxMessage rssi buffer len s) := by
  unfold rf433RxCallback normalSolve gatewayDataSolve
  repeat' split
  · exact kept_normalAct k h rssi _
  · exact h
  · rename_i hgateway hend
    exact kept_gatewayAct k h _ fun haccept h4 => hok ⟨hgateway, hend, haccept, h4⟩
  · exact h
  · exact h

/-! ## the clock -/

/-- A device that is found silent is marked so, the gateway apart. -/
theorem kept_detectSlot (num : Nat) (p : Bool × State) (h : P p.2) :
    P (detectSlot num p).2 := by
  obtain ⟨warnFlag, s⟩ := p
  have hoff : ∀ id, P ((warUploadGW 1 id 4 1 s).withStorage (·.deviceAliveChange id 0)) :=
    fun id => k.table (k.other h (by simp)) (a := .deviceAliveChange id 0) trivial rfl
  unfold detectSlot
  dsimp only
  repeat' split
  all_goals first
    | exact h
    | exact hoff _

/-- The induction is on the slots that are left, down to 1. -/
theorem kept_detectLoop (num : Nat) (p : Bool × State) (h : P p.2) :
    P (detectLoop num p).2 := by
  induction num generalizing p with
  | zero => exact h
  | succ num ih => exact ih _ (kept_detectSlot k (num + 1) p h)

/-- The warning is raised once for all the slots. -/
theorem kept_detectAllTime (h : P s) (hs : detectAllTime s = some s') : P s' := by
  unfold detectAllTime at hs
  split at hs
  · cases hs; exact h
  · have hloop := kept_detectLoop k s.searchStart (false, s) h
    dsimp only at hs
    split at hs
    · exact k.table (kept_warningEnableNum k hloop 5) (a := .clearAllTime) trivial hs
    · exact k.table hloop (a := .clearAllTime) trivial hs

/-- An hour: every fifth day a self-test, always the ages of the devices, and once a day
the search for silent ones. -/
theorem kept_rtcTimerEntry (h : P s) (pins : Pins) (hs : rtcTimerEntry pins s = some s') :
    P s' := by
  unfold rtcTimerEntry at hs
  extract_lets t t' at hs
  have hdetect : P t' := by
    unfold t'
    split
    · exact k.detect (k.other h (by rfl)) _
    · exact k.other h (by rfl)
  rw [Option.bind_eq_some_iff] at hs
  obtain ⟨st, hst, hs⟩ := hs
  have haged : P { t' with toStorage := st } :=
    k.table hdetect (a := .updateAllTime) trivial (Option.map_eq_some_iff.mpr ⟨st, hst, rfl⟩)
  dsimp only at hs
  split at hs
  · cases hs
    exact k.other haged (by rfl)
  · obtain ⟨u, hu, rfl⟩ := Option.map_eq_some_iff.mp hs
    exact k.other (kept_detectAllTime k haged hu) (by rfl)

/-! ## start-up, the keys and the timers -/

/-- The valve comes up as the stored flags say. -/
theorem kept_motoInit (h : P s) : P (motoInit s) := by
  unfold motoInit
  split
  · exact kept_warningEnableNum k h 2
  · split
    · exact k.initOpen h (by decide)
    · exact h

theorem kept_gatewayInit (h : P s) : P (gatewayInit s) := by
  unfold gatewayInit heartTestStart
  extract_lets t u
  have hu : P u := k.queue (k.other h (by rfl)) (queueOnly_controlUploadGW ..)
  split
  · exact hu
  · exact k.other hu rfl

/-- A reset starts from what flash holds, with everything else as it was set up. -/
theorem kept_boot (hok : ok .restart) (h : P s) {rom : UInt32} {pins : Pins}
    {env : Env} (henv : s.env = env) (hs : boot rom pins env = some s') : P s' := by
  unfold boot at hs
  dsimp only at hs
  obtain ⟨st, hst, rfl⟩ := Option.map_eq_some_iff.mp hs
  rw [loadDevice2Memory_congr (show (State.reset env).env = s.env from henv.symm)] at hst
  have hload := k.load hok h hst rom
  rw [henv] at hload
  exact kept_gatewayInit k
    (k.other (k.resume (kept_motoInit k hload)) (plant_detectFactory pins _))

/-- The end of learn mode sends the device list if a gateway was learned. -/
theorem kept_stopLearn (h : P s) (hok : s.gwFlag ≠ 0 → ok .sync) : P (stopLearn s) := by
  unfold stopLearn
  dsimp only
  split
  · rename_i hgw
    exact k.sync (hok hgw) (k.other h (by rfl)) (syncOnly_gatewaySync _)
  · exact k.other h rfl

/-- Two keys at once erase the registry and reset the unit; one key opens or closes
the valve; `K1` held begins learn mode or ends it. -/
theorem kept_keyReponse (h : P s) {rom : UInt32} {sem : KeySem} {pins : Pins}
    (hrestart : Restarts (.keyReponse sem pins) → ok .restart)
    (hsync : EndsLearn s (.keyReponse sem pins) → s.gwFlag ≠ 0 → ok .sync)
    (hs : keyReponse rom sem pins s = some s') : P s' := by
  unfold keyReponse at hs
  split at hs
  · cases hs
    unfold keyOn
    repeat' split
    all_goals first
      | exact h
      | exact k.openAs h (by decide)
      | exact k.openAs (k.other h (by rfl)) (by decide)
  · split at hs
    · cases hs
      unfold keyOff
      repeat' split
      · exact k.detect (k.other h (by rfl)) _
      · exact k.closeAs (k.other h (by rfl)) _
      · exact k.other (k.closeAs h _) rfl
      · exact k.queue (kept_warningDisable k (k.other h (by rfl))) (queueOnly_warUploadGW ..)
      · exact h
    · split at hs
      · have hrestarts : Restarts (.keyReponse sem pins) := by simp_all [Restarts]
        have herased := k.table h (a := .deleteAllDevice) trivial rfl
        exact kept_boot k (hrestart hrestarts) herased rfl hs
      · split at hs
        · cases hs; exact h
        · split at hs
          · cases hs
            unfold keyLong
            repeat' split
            · exact k.other h rfl
            · have hends : EndsLearn s (.keyReponse sem pins) := by simp_all [EndsLearn]
              exact kept_stopLearn k (k.other h (by rfl)) (hsync hends)
            · exact h
          · cases hs; exact h

/-- The verdict on motor 1 comes after its test has ended. -/
theorem kept_turn1TimerCallback (h : P s) (hd : s.moto1TimerDetect = true) :
    P (turn1TimerCallback { s with moto1TimerDetect := false }) := by
  unfold turn1TimerCallback
  extract_lets u t
  have ht : P t := k.end1 h hd
  split
  · refine k.other (s := ite _ _ _) ?_ rfl
    split
    · exact k.other (kept_warningEnableNum k ht 6) rfl
    · exact ht
  · refine k.other (s := ite _ _ _) ?_ rfl
    split
    · exact k.other (k.queue ht (queueOnly_warUploadGW 1 0 2 0 t)) rfl
    · exact ht

/-- The same for motor 2. -/
theorem kept_turn2TimerCallback (h : P s) (hd : s.moto2TimerDetect = true) :
    P (turn2TimerCallback { s with moto2TimerDetect := false }) := by
  unfold turn2TimerCallback
  extract_lets u t
  have ht : P t := k.end2 h hd
  split
  · exact k.other (kept_warningEnableNum k ht 9) rfl
  · exact k.other (k.queue ht (queueOnly_warUploadGW 1 0 2 1 t)) rfl

theorem kept_heartCheck (h : P s) : P (heartCheck s) := by
  unfold heartCheck
  split <;> exact k.other h rfl

theorem kept_heartTest (h : P s) : P (heartTest s) := by
  unfold heartTest
  split
  · exact k.queue (k.other h (by rfl))
      ((queueOnly_controlUploadGW ..).trans (queueOnly_powerOnUpload _))
  · split
    · exact k.queue (k.other h (by rfl)) (queueOnly_controlUploadGW ..)
    · exact k.other h rfl

/-! ## a step -/

/-- **Every step keeps what the parts keep.** -/
theorem kept_step (h : P s) {rom : UInt32} {a : Action}
    (hok : ∀ detour, Detours s a detour → ok detour) (hs : step rom s a = some s') : P s' := by
  cases a <;> simp only [step, Option.ite_none_right_eq_some, Option.ite_none_left_eq_some,
    Option.some.injEq] at hs
  case keyReponse sem pins =>
    exact kept_keyReponse k h (hok .restart) (fun hends hgw => hok .sync (.inr (.inr ⟨hends, hgw⟩)))
      hs
  case rf433Rx rxMessage rssi buffer len =>
    rw [← hs]
    exact kept_rf433RxCallback k h rxMessage rssi buffer len
      fun hasks => hok .sync (.inr (.inl hasks))
  case rfEncode => exact k.other h (by rw [← hs.2]; rfl)
  case waterscanTimer pins => exact hs ▸ kept_waterscanTimerCallback k h pins
  case ntcScanTimer cold warm => exact hs ▸ kept_ntcScanTimerCallback k h cold warm
  case delayTimer =>
    have hstopped : P { s with delayTimer := false } := k.other h rfl
    rw [← hs.2]
    exact k.queue (k.closeAs hstopped otherOff) (queueOnly_controlUploadGW ..)
  case learnTimer =>
    rw [← hs.2]
    exact kept_stopLearn k (k.other h (by rfl)) fun hgw => hok .sync (.inr (.inr ⟨trivial, hgw⟩))
  case turn1Edge | turn2Edge => exact k.other h (by rw [← hs.2]; rfl)
  case moto1TimerAct => exact hs.2 ▸ k.act1 h hs.1
  case moto2TimerAct => exact hs.2 ▸ k.act2 h hs.1
  case moto1TimerDetect => exact hs.2 ▸ kept_turn1TimerCallback k h hs.1
  case moto2TimerDetect => exact hs.2 ▸ kept_turn2TimerCallback k h hs.1
  case motoDetectTimer pins => exact hs.2 ▸ k.detect (k.other h (by rfl)) pins
  case rtcAlarm pins => exact kept_rtcTimerEntry k h pins hs
  case gatewaySyncT =>
    exact k.sync (hok .sync (.inl rfl)) h (hs.2 ▸ syncOnly_gatewaySyncCallback s)
  case heartCheckT => exact hs.2 ▸ kept_heartCheck k h
  case heartTestT => exact hs.2 ▸ kept_heartTest k h
  case factoryCycle => exact hs.2 ▸ k.queue h (queueOnly_radioEnqueue ..)
  case reboot pins => exact kept_boot k (hok .restart trivial) h rfl hs

end

end WaterValve
