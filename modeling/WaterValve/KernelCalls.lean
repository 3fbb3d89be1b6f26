import WaterValve.Links

/-!
# WaterValve.KernelCalls

The kernel objects the handlers use: each function of the source with the
timers it starts or stops and the queue it sends to, in the order of the calls.
The functions follow the ones on the state, branch by branch, and read the state
where those read it.

What a handler can count on and what it cannot is told in
`WaterValve.KernelNeeds`.
-/

namespace WaterValve

/-- The timers, and the transmit queue. -/
inductive KernelObject
  | learnTimer | delayTimer | rf433SendTimer | rfEnMq | moto1TimerAct | moto2TimerAct
  | moto1TimerDetect | moto2TimerDetect | motoDetectTimer | ntcscanTimer | waterscanTimer
  | factoryCycle | heartTestT | heartCheckT | gatewaySyncT
  deriving DecidableEq, Repr

/-! ## uploads -/

/-- `GatewaySyncEnqueue`, `GatewayWarningEnqueue`, `GatewayControlEnqueue`. -/
def gatewayEnqueueCalls (s : State) : List KernelObject :=
  if s.gatewayID ≠ 0 then [.rfEnMq] else []

/-- `WarUpload_GW`, `ControlUpload_GW`. -/
def uploadCalls (s : State) : List KernelObject :=
  if s.getGatewayID ≠ 0 then gatewayEnqueueCalls s else []

/-! ## the valve -/

/-- `Moto_Open`; `Moto_InitOpen` makes no such call. -/
def motoOpenCalls (actFlag : UInt8) (s : State) : List KernelObject :=
  if mayOpen actFlag s then
    (if actFlag = normalOpen then uploadCalls s ++ [.motoDetectTimer] else []) ++ [.delayTimer]
  else []

/-- The timers `Moto_Close` stops in its first branch. -/
def motoTimers : List KernelObject :=
  [.moto1TimerAct, .moto2TimerAct, .moto1TimerDetect, .moto2TimerDetect]

def motoCloseCalls (actFlag : UInt8) (s : State) : List KernelObject :=
  if s.globalDevice.lastFlag ≠ otherOff then
    (if actFlag = normalOff then uploadCalls s else []) ++ .delayTimer :: motoTimers
  else if actFlag = otherOff then [.delayTimer]
  else []

/-! ## the warnings -/

def WarningCallback.calls : WarningCallback → State → List KernelObject
  | .slaverLowBatteryWarning, _ => []
  | .slaverUltraLowBatteryWarning, s => motoCloseCalls otherOff s
  | .slaverWaterAlarmWarning, s => motoCloseCalls otherOff s
  | .masterLostPeakWarning, s => uploadCalls s
  | .masterWaterAlarmWarning, s => motoCloseCalls normalOff s ++ uploadCalls (motoClose normalOff s)
  | .ntcWarningEventCallback, s => motoCloseCalls normalOff s ++ uploadCalls (motoClose normalOff s)
  | .offlineWarning, s => if s.nowStatus ≠ .offline then motoCloseCalls normalOff s else []
  | .moto1FailCallback, s => uploadCalls s
  | .moto2FailCallback, s => uploadCalls s

def warningEnableCalls (event : WariningEvent) (s : State) : List KernelObject :=
  if s.nowStatusEvent.priority ≤ event.priority then
    match event.callback with
    | some callback => callback.calls s
    | none => []
  else []

def warningEnableNumCalls (id : UInt8) (s : State) : List KernelObject :=
  match warningEvent id with
  | some event => warningEnableCalls event s
  | none => []

/-! ## the sensors -/

def warningWithPeakCalls (status : Nat) (s : State) : List KernelObject :=
  if detectLearn s then
    match status with
    | 0 => uploadCalls s
    | 1 => warningEnableNumCalls 3 s
    | 2 => warningEnableNumCalls 4 s
    | 4 => warningEnableNumCalls 4 s
    | _ => []
  else []

def waterscanTimerCalls (pins : Pins) (s : State) : List KernelObject :=
  let s := { s with warningNowStatus := peakReading pins s }
  if s.warningNowStatus ≠ s.warningPastStatus then
    if s.warningPastStatus = 2 ∧ s.warningNowStatus = 0 then
      if s.warningStatus ≠ 1 then warningWithPeakCalls 3 { s with warningStatus := 1 } else []
    else if s.warningPastStatus = 2 ∧ s.warningNowStatus = 1 then []
    else if s.warningPastStatus = 0 ∧ s.warningNowStatus = 1 then
      if s.warningStatus ≠ 4 then warningWithPeakCalls 1 s else []
    else if s.warningPastStatus = 0 ∧ s.warningNowStatus = 2 then
      if s.warningStatus ≠ 8 then warningWithPeakCalls 2 s else []
    else if s.warningPastStatus = 1 ∧ s.warningNowStatus = 0 then
      if s.warningStatus ≠ 16 then warningWithPeakCalls 0 s else []
    else if s.warningPastStatus = 1 ∧ s.warningNowStatus = 2 then
      if s.warningStatus ≠ 32 then warningWithPeakCalls 4 s else []
    else []
  else []

/-- The second half of `ntc_scan_timer_callback`. -/
def ntcReleaseCalls (warm : Bool) (s : State) : List KernelObject :=
  if warm ∧ s.nowStatus = .ntcWarning then
    let t := warningDisable (warUploadGW 1 0 8 0 s)
    uploadCalls s ++
      if t.ntcState ≠ 0 then motoOpenCalls normalOpen t else motoCloseCalls normalOff t
  else []

def ntcScanTimerCalls (cold warm : Bool) (s : State) : List KernelObject :=
  if cold ∧ s.nowStatus ≠ .ntcWarning then
    let s := { s with ntcState := s.valveStatus }
    warningEnableNumCalls 8 s ++ ntcReleaseCalls warm (warningEnableNum 8 s)
  else ntcReleaseCalls warm s

/-! ## the self-test -/

def motoDetectCalls (pins : Pins) (s : State) : List KernelObject :=
  if s.valveStatus = 1 then
    (if pins.senor1 then [.moto1TimerAct] else []) ++
      if pins.senor2 then [.moto2TimerAct] else []
  else []

def turn1TimerCalls (s : State) : List KernelObject :=
  if s.turn1Flag < 2 then if s.moto2FailFlag = 0 then warningEnableNumCalls 6 s else []
  else if s.moto2FailFlag = 0 then uploadCalls s
  else []

def turn2TimerCalls (s : State) : List KernelObject :=
  if s.turn2Flag < 2 then warningEnableNumCalls 9 s else uploadCalls s

/-! ## the gateway -/

def powerOnUploadCalls (s : State) : List KernelObject :=
  match s.nowStatus with
  | .opened | .close | .masterLostPeak | .masterWaterAlarmActive | .masterWaterAlarmDeActive
  | .ntcWarning => uploadCalls s
  | .motoFail =>
    (if s.moto1FailFlag ≠ 0 then uploadCalls s else []) ++
      if s.moto2FailFlag ≠ 0 then uploadCalls s else []
  | _ => []

def gatewaySyncCalls (s : State) : List KernelObject :=
  uploadCalls s ++ powerOnUploadCalls s ++ [.gatewaySyncT]

def gatewaySyncCallbackCalls (s : State) : List KernelObject :=
  let n := s.gatewaySyncNum.toNat
  if n ≤ s.globalDevice.num then
    if s.globalDevice.id n < 40000000 ∧ 0 < s.globalDevice.id n then gatewayEnqueueCalls s else []
  else [.gatewaySyncT]

def heartTestCalls (s : State) : List KernelObject :=
  if s.heartRecvFlag ≠ 0 then .heartTestT :: (uploadCalls s ++ powerOnUploadCalls s)
  else if s.heartCheckCount < 3 then uploadCalls s
  else [.heartTestT]

/-! ## learn mode -/

def stopLearnCalls (s : State) : List KernelObject :=
  let s := warningDisable { s with learnFlag := 0 }
  if s.gwFlag ≠ 0 then gatewaySyncCalls { s with gwFlag := 0 } else []

/-- A class branch of `Device_Learn`. -/
def learnNewCalls (add : UInt32 → State → UInt8 × State) (buf : Message) (s : State) :
    List KernelObject :=
  if (add buf.fromID.toUInt32 s).1 = RT_EOK then [.rfEnMq] else []

def learnRequestCalls (buf : Message) (s : State) : List KernelObject :=
  if checkValid buf.fromID.toUInt32 s ≠ RT_EOK then
    if buf.fromID < 30000000 then learnNewCalls addDevice buf s
    else if 30000000 ≤ buf.fromID ∧ buf.fromID < 40000000 then
      (if s.getDoorID ≠ 0 then gatewayEnqueueCalls s else []) ++ learnNewCalls addDoorDevice buf s
    else if 40000000 ≤ buf.fromID ∧ buf.fromID < 50000000 then learnNewCalls addGatewayDevice buf s
    else []
  else [.rfEnMq]

/-- `Gateway_Reload` starts `Heart_Check_t`. -/
def learnConfirmCalls (buf : Message) (s : State) : List KernelObject :=
  if checkValid buf.fromID.toUInt32 s ≠ RT_EOK then []
  else if 40000000 ≤ buf.fromID ∧ buf.fromID < 50000000 then
    .heartCheckT :: .rfEnMq :: gatewayEnqueueCalls (gatewayReload s)
  else .rfEnMq :: gatewayEnqueueCalls s

def deviceLearnCalls (buf : Message) (s : State) : List KernelObject :=
  if buf.command = 3 then
    (if buf.data = 1 then learnRequestCalls buf s
      else if buf.data = 2 then learnConfirmCalls buf s
      else []) ++ [.learnTimer]
  else []

/-! ## the commands of a node -/

def handshakeReplyCalls (s : State) : List KernelObject := .rfEnMq :: uploadCalls s

def handshakeCalls (buf : Message) (s : State) : List KernelObject :=
  let s := s.withStorage (·.updateDeviceBat buf.fromID.toUInt32 (toU8 buf.data))
  if buf.data = 0 then handshakeReplyCalls s
  else if buf.data = 1 then
    let t := handshakeReply buf 1 s
    handshakeReplyCalls s ++
      if buf.fromID.toUInt32 ≠ t.getDoorID then warningEnableNumCalls 7 t else []
  else if buf.data = 2 then
    let t := handshakeReply buf 2 s
    handshakeReplyCalls s ++
      if buf.fromID.toUInt32 ≠ t.getDoorID then warningEnableNumCalls 1 t else []
  else if buf.data = 3 ∨ buf.data = 4 then handshakeReplyCalls s
  else []

def learnStartCalls (buf : Message) (s : State) : List KernelObject :=
  if buf.data = 3 ∧ checkValid buf.fromID.toUInt32 s = RT_EOK then
    (if s.nowStatus = .close ∨ s.nowStatus = .opened then [.learnTimer] else []) ++ [.rfEnMq]
  else []

def slaveWaterCalls (buf : Message) (s : State) : List KernelObject :=
  if buf.data = 0 then
    if s.getDoorID = buf.fromID.toUInt32 then [] else .rfEnMq :: uploadCalls s
  else if buf.data = 1 then
    if s.getDoorID = buf.fromID.toUInt32 then []
    else
      let t := radioEnqueue buf.fromID.toUInt32 (toU8 buf.counter) 4 1 s
        |> warUploadGW 1 buf.fromID.toUInt32 5 1
      let t := t.withStorage (·.flashSetSlaveAlarmFlag buf.fromID.toUInt32 1)
      .rfEnMq :: uploadCalls s ++
        if t.nowStatus ≠ .slaverWaterAlarmActive then warningEnableNumCalls 2 t else []
  else []

def nodeOpenCalls (buf : Message) (s : State) : List KernelObject :=
  if s.nowStatus = .opened ∨ s.nowStatus = .close then
    let t := radioEnqueue buf.fromID.toUInt32 (toU8 buf.counter) 5 1 s
    .rfEnMq :: motoOpenCalls otherOpen t ++ uploadCalls (motoOpen otherOpen t)
  else .rfEnMq :: uploadCalls s

def nodeCloseCalls (buf : Message) (s : State) : List KernelObject :=
  let t := clearSlaveAlarm buf (radioEnqueue buf.fromID.toUInt32 (toU8 buf.counter) 6 0 s)
  if t.nowStatus = .opened ∨ t.nowStatus = .close then
    let t := { warningDisable t with lastCloseFlag := 1 }
    .rfEnMq :: motoCloseCalls otherOff t ++ uploadCalls (motoClose otherOff t)
  else .rfEnMq :: uploadCalls t

def nodeDelayCalls (buf : Message) (s : State) : List KernelObject :=
  .rfEnMq ::
    if buf.data ≠ 0 then uploadCalls s ++ [.delayTimer]
    else if s.nowStatus = .opened then .delayTimer :: uploadCalls s
    else []

/-- `DataSolve`: no call follows the `switch`. -/
def dataSolveCalls (buf : Message) (s : State) : List KernelObject :=
  if buf.command = 1 then [.rfEnMq]
  else if buf.command = 2 then handshakeCalls buf s
  else if buf.command = 3 then learnStartCalls buf s
  else if buf.command = 4 then slaveWaterCalls buf s
  else if buf.command = 5 then nodeOpenCalls buf s
  else if buf.command = 6 then nodeCloseCalls buf s
  else if buf.command = 8 then nodeDelayCalls buf s
  else if buf.command = 9 then .rfEnMq :: uploadCalls s
  else []

/-! ## received frames -/

def normalActCalls (rssi : Int) (buf : Message) (s : State) : List KernelObject :=
  if buf.targetID.toUInt32 = s.radioID ∨ buf.targetID = 99999999 then
    if s.learnFlag ≠ 0 then deviceLearnCalls buf (heardFrom rssi buf.fromID.toUInt32 s)
    else if s.flashGetKeyValid buf.fromID.toUInt32 = RT_EOK then
      dataSolveCalls buf (heardFrom rssi buf.fromID.toUInt32 s)
    else []
  else []

def gatewayValveCalls (buf : Message) (s : State) : List KernelObject :=
  if s.nowStatus = .close ∨ s.nowStatus = .opened then
    if buf.data ≠ 0 then motoOpenCalls otherOpen s ++ uploadCalls (motoOpen otherOpen s)
    else motoCloseCalls otherOff s ++ uploadCalls (motoClose otherOff s)
  else uploadCalls s

def gatewayCommandCalls (buf : Message) (s : State) : List KernelObject :=
  if buf.command = 2 then gatewayValveCalls buf s
  else if buf.command = 3 then uploadCalls s
  else if buf.command = 4 then gatewaySyncCalls s
  else []

def gatewayActCalls (buf : Message) (s : State) : List KernelObject :=
  if buf.targetID.toUInt32 = s.radioID ∧ checkValid buf.fromID.toUInt32 s = RT_EOK then
    gatewayCommandCalls buf (heartRefresh buf.fromID.toUInt32 s)
  else []

def rf433RxCalls (rxMessage : Message) (rssi : Int) (buffer : List UInt8) (len : UInt8)
    (s : State) : List KernelObject :=
  if byteAt buffer 1 = 123 then
    if nodeFrameEnd buffer len then normalActCalls rssi (scanNode rxMessage buffer).2 s else []
  else if byteAt buffer 1 = 71 then
    if gatewayFrameEnd buffer len then gatewayActCalls (scanGateway rxMessage buffer).2 s else []
  else []

/-! ## the clock -/

/-- The loop of `Detect_All_Time`. -/
def detectLoopCalls : Nat → Bool × State → List KernelObject
  | 0, _ => []
  | num + 1, p =>
    (if TreatsOffline (num + 1) p.2 then uploadCalls p.2 else []) ++
      detectLoopCalls num (detectSlot (num + 1) p)

def detectAllTimeCalls (s : State) : List KernelObject :=
  if s.searchStart = 0 then []
  else
    let p := detectLoop s.searchStart (false, s)
    detectLoopCalls s.searchStart (false, s) ++
      if p.1 then warningEnableNumCalls 5 p.2 else []

def rtcTimerEntryCalls (pins : Pins) (s : State) : List KernelObject :=
  (if (s.rtcHours + 1) % 120 = 0 then motoDetectCalls pins s else []) ++
    match aged pins s with
    | some t => if t.rtcCounter < 24 then [] else detectAllTimeCalls t
    | none => []

/-! ## the keys -/

def keyOnCalls (s : State) : List KernelObject :=
  match s.nowStatus with
  | .close => if s.lastCloseFlag = 0 then motoOpenCalls normalOpen s else []
  | .masterLostPeak => motoOpenCalls normalOpen { s with nowStatus := .opened }
  | _ => []

/-- `Stop_Factory_Cycle` looks whether there is a timer to stop. -/
def keyOffCalls (hasFactoryCycle : Bool) (pins : Pins) (s : State) : List KernelObject :=
  if s.factoryFlag ≠ 0 then
    (if hasFactoryCycle then [.factoryCycle] else []) ++
      motoDetectCalls pins (warningDisable { s with factoryCycle := false })
  else
    match s.nowStatus with
    | .opened => motoCloseCalls normalOff { s with lastCloseFlag := 0 }
    | .masterLostPeak => motoCloseCalls normalOff s
    | .masterWaterAlarmDeActive => uploadCalls (warningDisable { s with nowStatus := .close })
    | _ => []

def keyLongCalls (s : State) : List KernelObject :=
  if s.nowStatus = .close ∨ s.nowStatus = .opened then [.learnTimer]
  else if s.nowStatus = .learn then .learnTimer :: stopLearnCalls { s with learnTimer := false }
  else []

/-- A round of the key thread; `DeleteAllDevice` reports to the gateway. -/
def keyReponseCalls (hasFactoryCycle : Bool) (sem : KeySem) (pins : Pins) (s : State) :
    List KernelObject :=
  if sem.k0 then keyOnCalls s
  else if sem.k1 then keyOffCalls hasFactoryCycle pins s
  else if sem.k0k1 then gatewayEnqueueCalls s
  else if sem.k0Long then []
  else if sem.k1Long then keyLongCalls s
  else []

/-! ## the handlers -/

/-- The calls of a handler.  The transmit thread starts the send timer, and the
callbacks of the one-shot timers run when these have stopped. -/
def handlerCalls (hasFactoryCycle : Bool) (s : State) : Action → List KernelObject
  | .keyReponse sem pins => keyReponseCalls hasFactoryCycle sem pins s
  | .rf433Rx rxMessage rssi buffer len => rf433RxCalls rxMessage rssi buffer len s
  | .rfEncode => [.rf433SendTimer]
  | .waterscanTimer pins => waterscanTimerCalls pins s
  | .ntcScanTimer cold warm => ntcScanTimerCalls cold warm s
  | .delayTimer => motoCloseCalls otherOff s ++ uploadCalls (motoClose otherOff s)
  | .learnTimer => stopLearnCalls s
  | .turn1Edge | .turn2Edge => []
  | .moto1TimerAct => [.moto1TimerDetect]
  | .moto2TimerAct => [.moto2TimerDetect]
  | .moto1TimerDetect => turn1TimerCalls s
  | .moto2TimerDetect => turn2TimerCalls s
  | .motoDetectTimer pins => motoDetectCalls pins s
  | .rtcAlarm pins => rtcTimerEntryCalls pins s
  | .gatewaySyncT => gatewaySyncCallbackCalls s
  | .heartCheckT => []
  | .heartTestT => heartTestCalls s
  | .factoryCycle => [.rfEnMq]
  | .reboot _ => []

end WaterValve
