import WaterValve.Gateway

/-!
# WaterValve.Decoder

`Radio_Decoder.c` and `Radio_Decoder_Utils.c`: `rt_sscanf`, learn mode, the
commands of node frames (`DataSolve`) and of gateway frames
(`GatewayDataSolve`).

`NormalSolve` and `GatewayDataSolve` parse into an uninitialised local
`Rx_message`.  Its initial content is the parameter `rxMessage` here: the
fields `rt_sscanf` does not fill keep it.
-/

namespace WaterValve

open CText

/-! ## `rt_sscanf` -/

/-- `rt_sscanf(rp, fp, ..)`.  `ap` holds the values of the remaining output
arguments; the result is the number of conversions and the outputs after the
call.  Both strings end where their NUL is. -/
def rtSscanf (rp : List UInt8) : (fp : List UInt8) → (ap : List Int32) → Nat × List Int32
  | [], ap => (0, ap)
  | fc :: fp, ap =>
    if rp = [] then (0, ap)
    else if isspace fc then rtSscanf rp fp ap
    else if fc ≠ 37 then
      match rp.dropWhile isspace with
      | [] => (0, ap)
      | c :: rp => if fc ≠ c then (0, ap) else rtSscanf rp fp ap
    else
      match fp, ap with
      | [], ap => (0, ap)
      | 100 :: fp, v :: ap =>
        match strtol 10 rp with
        | none => (0, v :: ap)
        | some (n, rp) =>
          let (ret, ap) := rtSscanf rp fp ap
          (ret + 1, Int32.ofInt n :: ap)
      | 120 :: fp, v :: ap =>
        match strtol 16 rp with
        | none => (0, v :: ap)
        | some (n, rp) =>
          let (ret, ap) := rtSscanf rp fp ap
          (ret + 1, Int32.ofInt n :: ap)
      | _ :: fp, ap => rtSscanf rp fp ap

/-- `(const char *)&rx_buffer[1]`: the bytes up to the first NUL. -/
def cString (rxBuffer : List UInt8) : List UInt8 := (rxBuffer.drop 1).takeWhile (· ≠ 0)

/-- `rx_buffer[i]`; an index outside the buffer reads 0. -/
def byteAt (rxBuffer : List UInt8) (i : Int) : UInt8 :=
  if 0 ≤ i then rxBuffer.getD i.toNat 0 else 0

theorem byteAt_natCast (rxBuffer : List UInt8) (i : Nat) :
    byteAt rxBuffer (i : Int) = rxBuffer.getD i 0 := by
  rw [byteAt, if_pos (Int.natCast_nonneg i), Int.toNat_natCast]

/-- `"{%d,%d,%d,%d,%d}"`. -/
def nodeFormat : List UInt8 := ascii "\x7b%d,%d,%d,%d,%d\x7d"

/-- `"G{%d,%d,%d,%d,%d,%d}G"`. -/
def gatewayFormat : List UInt8 := ascii "G\x7b%d,%d,%d,%d,%d,%d\x7dG"

/-- The `rt_sscanf` call of `NormalSolve`: how many fields it filled, and
`Rx_message` after it. -/
def scanNode (rxMessage : Message) (rxBuffer : List UInt8) : Nat × Message :=
  match rtSscanf (cString rxBuffer) nodeFormat
      [rxMessage.targetID, rxMessage.fromID, rxMessage.counter, rxMessage.command,
        rxMessage.data] with
  | (ret, [targetID, fromID, counter, command, data]) =>
    (ret, { rxMessage with targetID, fromID, counter, command, data })
  | (ret, _) => (ret, rxMessage)

/-- The `rt_sscanf` call of `GatewayDataSolve`. -/
def scanGateway (rxMessage : Message) (rxBuffer : List UInt8) : Nat × Message :=
  match rtSscanf (cString rxBuffer) gatewayFormat
      [rxMessage.targetID, rxMessage.fromID, rxMessage.deviceID, rxMessage.counter,
        rxMessage.command, rxMessage.data] with
  | (ret, [targetID, fromID, deviceID, counter, command, data]) =>
    (ret, { targetID, fromID, deviceID, counter, command, data })
  | (ret, _) => (ret, rxMessage)

/-! ## learn mode -/

def checkValid (fromId : UInt32) (s : State) : UInt8 := s.flashGetKeyValid fromId

def startLearnKey (s : State) : State :=
  { s with nowStatus := .learn, learnFlag := 1, learnTimer := true }

def startLearn (s : State) : State :=
  if s.nowStatus = .close ∨ s.nowStatus = .opened then
    { s with nowStatus := .learn, learnFlag := 1, learnTimer := true }
  else s

def stopLearn (s : State) : State :=
  let s := warningDisable { s with learnFlag := 0 }
  if s.gwFlag ≠ 0 then gatewaySync { s with gwFlag := 0 } else s

/-- `Add_Device` on the whole state. -/
def addDevice (deviceID : UInt32) (s : State) : UInt8 × State :=
  let (ret, st) := s.toStorage.addDevice deviceID
  (ret, { s with toStorage := st })

/-- `Add_DoorDevice`: a door that is replaced is reported to the gateway
first. -/
def addDoorDevice (deviceID : UInt32) (s : State) : UInt8 × State :=
  let s := if s.getDoorID ≠ 0 then replaceDoor s.getDoorID s else s
  let (ret, st) := s.toStorage.addDoorDevice deviceID
  (ret, { s with toStorage := st })

/-- `Add_GatewayDevice` on the whole state. -/
def addGatewayDevice (deviceID : UInt32) (s : State) : UInt8 × State :=
  let (ret, st) := s.toStorage.addGatewayDevice deviceID
  (ret, { s with toStorage := st })

/-- The three class branches of `Device_Learn`, which differ in the function
that registers the id: acknowledge when it succeeds. -/
def learnNew (add : UInt32 → State → UInt8 × State) (buf : Message) (s : State) : State :=
  let (ret, s) := add buf.fromID.toUInt32 s
  if ret = RT_EOK then radioEnqueue buf.fromID.toUInt32 (toU8 buf.counter) 3 1 s else s

/-- `case 1` of `Device_Learn`: register the sender. -/
def learnRequest (buf : Message) (s : State) : State :=
  if checkValid buf.fromID.toUInt32 s ≠ RT_EOK then
    if buf.fromID < 30000000 then learnNew addDevice buf s
    else if 30000000 ≤ buf.fromID ∧ buf.fromID < 40000000 then learnNew addDoorDevice buf s
    else if 40000000 ≤ buf.fromID ∧ buf.fromID < 50000000 then learnNew addGatewayDevice buf s
    else s
  else radioEnqueue buf.fromID.toUInt32 (toU8 buf.counter) 3 1 s

/-- `case 2` of `Device_Learn`: the sender confirms. -/
def learnConfirm (buf : Message) (s : State) : State :=
  if checkValid buf.fromID.toUInt32 s ≠ RT_EOK then s
  else
    let s := if 40000000 ≤ buf.fromID ∧ buf.fromID < 50000000 then gatewayReload s else s
    let s := s.withStorage (·.deviceAliveChange buf.fromID.toUInt32 1)
    let s := radioEnqueue buf.fromID.toUInt32 (toU8 buf.counter) 3 2 s
    gatewaySyncEnqueue 0 6 buf.fromID.toUInt32 (s.flashGetRssi buf.fromID.toUInt32) 0 s

def deviceLearn (buf : Message) (s : State) : State :=
  if buf.command = 3 then
    let s := if buf.data = 1 then learnRequest buf s
      else if buf.data = 2 then learnConfirm buf s
      else s
    { s with learnTimer := true }
  else s

/-! ## the commands of a node -/

/-- The answer to a handshake and the battery upload. -/
def handshakeReply (buf : Message) (level : UInt8) (s : State) : State :=
  radioEnqueue buf.fromID.toUInt32 (toU8 buf.counter) 2 level s
    |> warUploadGW 1 buf.fromID.toUInt32 6 level

/-- Command 2: the battery level; 1 is low and 2 is ultra low. -/
def handshake (buf : Message) (s : State) : State :=
  let s := s.withStorage (·.updateDeviceBat buf.fromID.toUInt32 (toU8 buf.data))
  if buf.data = 0 then handshakeReply buf 0 s
  else if buf.data = 1 then
    let s := handshakeReply buf 1 s
    if buf.fromID.toUInt32 ≠ s.getDoorID then warningEnableNum 7 s else s
  else if buf.data = 2 then
    let s := handshakeReply buf 2 s
    if buf.fromID.toUInt32 ≠ s.getDoorID then warningEnableNum 1 s else s
  else if buf.data = 3 then handshakeReply buf 3 s
  else if buf.data = 4 then handshakeReply buf 4 s
  else s

/-- Command 3 outside learn mode: a registered device asks to start it. -/
def learnStart (buf : Message) (s : State) : State :=
  if buf.data = 3 ∧ checkValid buf.fromID.toUInt32 s = RT_EOK then
    radioEnqueue buf.fromID.toUInt32 (toU8 buf.counter) 3 3 (startLearn s)
  else s

/-- Command 4: water at a slave (data 1) or no longer (data 0). -/
def slaveWater (buf : Message) (s : State) : State :=
  if buf.data = 0 then
    if s.getDoorID = buf.fromID.toUInt32 then s
    else radioEnqueue buf.fromID.toUInt32 (toU8 buf.counter) 4 0 s
      |> warUploadGW 1 buf.fromID.toUInt32 5 0
  else if buf.data = 1 then
    if s.getDoorID = buf.fromID.toUInt32 then s
    else
      let s := radioEnqueue buf.fromID.toUInt32 (toU8 buf.counter) 4 1 s
        |> warUploadGW 1 buf.fromID.toUInt32 5 1
      let s := s.withStorage (·.flashSetSlaveAlarmFlag buf.fromID.toUInt32 1)
      if s.nowStatus ≠ .slaverWaterAlarmActive then warningEnableNum 2 s else s
  else s

/-- The upload that closes commands 5 and 6. -/
def reportValve (buf : Message) (s : State) : State :=
  if buf.fromID.toUInt32 = s.getDoorID then
    controlUploadGW 1 buf.fromID.toUInt32 6 s.valveStatus s
  else controlUploadGW 1 buf.fromID.toUInt32 2 s.valveStatus s

/-- Command 5: open, refused while a warning is shown. -/
def nodeOpen (buf : Message) (s : State) : State :=
  let s := if s.nowStatus = .opened ∨ s.nowStatus = .close then
      { motoOpen otherOpen (radioEnqueue buf.fromID.toUInt32 (toU8 buf.counter) 5 1 s) with
        lastCloseFlag := 0 }
    else radioEnqueue buf.fromID.toUInt32 (toU8 buf.counter) 5 2 s
  reportValve buf s

/-- The first half of command 6: the sender's slave alarm is over, and with the
last one the warning. -/
def clearSlaveAlarm (buf : Message) (s : State) : State :=
  if s.flashGetSlaveAlarmFlag ≠ 0 then
    let s := s.withStorage (·.flashSetSlaveAlarmFlag buf.fromID.toUInt32 0)
    if s.flashGetSlaveAlarmFlag = 0 then warningDisable s else s
  else s

/-- Command 6: close. -/
def nodeClose (buf : Message) (s : State) : State :=
  let s := clearSlaveAlarm buf (radioEnqueue buf.fromID.toUInt32 (toU8 buf.counter) 6 0 s)
  let s := if s.nowStatus = .opened ∨ s.nowStatus = .close then
      motoClose otherOff { warningDisable s with lastCloseFlag := 1 }
    else s
  reportValve buf s

/-- Command 8: stop (data other than 0) or start the delayed close. -/
def nodeDelay (buf : Message) (s : State) : State :=
  let s := radioEnqueue buf.fromID.toUInt32 (toU8 buf.counter) 8 (toU8 buf.data) s
  if buf.data ≠ 0 then delayTimerCloseDoor buf.fromID.toUInt32 s
  else if s.nowStatus = .opened then delayTimerOpenDoor buf.fromID.toUInt32 s
  else s

/-- Command 9: the probe of a slave. -/
def slaveLost (buf : Message) (s : State) : State :=
  radioEnqueue buf.fromID.toUInt32 (toU8 buf.counter) 9 (toU8 buf.data) s
    |> warUploadGW 1 buf.fromID.toUInt32 9 (toU8 buf.data)

/-- The `switch(buf.Command)` of `DataSolve`. -/
def dataSolveCommand (buf : Message) (s : State) : State :=
  if buf.command = 1 then radioEnqueue buf.fromID.toUInt32 (toU8 buf.counter) 1 1 s
  else if buf.command = 2 then handshake buf s
  else if buf.command = 3 then learnStart buf s
  else if buf.command = 4 then slaveWater buf s
  else if buf.command = 5 then nodeOpen buf s
  else if buf.command = 6 then nodeClose buf s
  else if buf.command = 8 then nodeDelay buf s
  else if buf.command = 9 then slaveLost buf s
  else s

def changeMaxPower (s : State) : State :=
  if s.axradioPowerNow = 0 then { s with axradioPowerNow := 1 } else s

def backNormalPower (s : State) : State :=
  if s.axradioPowerNow ≠ 0 then { s with axradioPowerNow := 0 } else s

def dataSolve (buf : Message) (s : State) : State :=
  let s := dataSolveCommand buf s
  let s := if buf.counter = 0 then changeMaxPower s else backNormalPower s
  let s := s.withStorage (·.clearDeviceTime buf.fromID.toUInt32)
  offlineReact s

/-! ## received frames -/

/-- The two updates every accepted node frame makes. -/
def heardFrom (rssi : Int) (fromID : UInt32) (s : State) : State :=
  (s.withStorage (·.updateDeviceRssi fromID rssi)).withStorage (·.deviceAliveChange fromID 1)

/-- `NormalSolve` after the parse. -/
def normalAct (rssi : Int) (buf : Message) (s : State) : State :=
  if buf.targetID.toUInt32 = s.radioID ∨ buf.targetID = 99999999 then
    if s.learnFlag ≠ 0 then deviceLearn buf (heardFrom rssi buf.fromID.toUInt32 s)
    else if s.flashGetKeyValid buf.fromID.toUInt32 = RT_EOK then
      dataSolve buf (heardFrom rssi buf.fromID.toUInt32 s)
    else s
  else s

/-- The frame end `NormalSolve` asks for: CR LF. -/
def nodeFrameEnd (rxBuffer : List UInt8) (rxLen : UInt8) : Prop :=
  byteAt rxBuffer rxLen.toNat = 0x0A ∧ byteAt rxBuffer (rxLen.toNat - 1) = 0x0D

instance (rxBuffer : List UInt8) (rxLen : UInt8) : Decidable (nodeFrameEnd rxBuffer rxLen) :=
  inferInstanceAs (Decidable (_ ∧ _))

def normalSolve (rxMessage : Message) (rssi : Int) (rxBuffer : List UInt8) (rxLen : UInt8)
    (s : State) : State :=
  if nodeFrameEnd rxBuffer rxLen then normalAct rssi (scanNode rxMessage rxBuffer).2 s else s

/-- Command 2 of the gateway: open or close, refused while a warning is
shown. -/
def gatewayValve (buf : Message) (s : State) : State :=
  if s.nowStatus = .close ∨ s.nowStatus = .opened then
    let s := if buf.data ≠ 0 then remoteOpen s else remoteClose s
    controlUploadGW 1 s.radioID 2 s.valveStatus s
  else controlUploadGW 0 s.radioID 2 3 s

/-- The `switch(Rx_message.Command)` of `GatewayDataSolve`. -/
def gatewayCommand (buf : Message) (s : State) : State :=
  if buf.command = 2 then gatewayValve buf s
  else if buf.command = 3 then controlUploadGW 1 0 4 s.valveStatus s
  else if buf.command = 4 then gatewaySync s
  else if buf.command = 6 then s.withStorage (·.deleteDevice buf.deviceID.toUInt32)
  else if buf.command = 7 then { s with rfAckSem := true }
  else s

/-- `GatewayDataSolve` after the parse. -/
def gatewayAct (buf : Message) (s : State) : State :=
  if buf.targetID.toUInt32 = s.radioID ∧ checkValid buf.fromID.toUInt32 s = RT_EOK then
    gatewayCommand buf (heartRefresh buf.fromID.toUInt32 s)
  else s

/-- The frame end `GatewayDataSolve` asks for: `G`. -/
def gatewayFrameEnd (rxBuffer : List UInt8) (rxLen : UInt8) : Prop :=
  byteAt rxBuffer rxLen.toNat = 71

instance (rxBuffer : List UInt8) (rxLen : UInt8) : Decidable (gatewayFrameEnd rxBuffer rxLen) :=
  inferInstanceAs (Decidable (_ = _))

def gatewayDataSolve (rxMessage : Message) (rxBuffer : List UInt8) (rxLen : UInt8) (s : State) :
    State :=
  if gatewayFrameEnd rxBuffer rxLen then gatewayAct (scanGateway rxMessage rxBuffer).2 s else s

/-- `rf433_rx_callback`; `rxMessage` is what the stack holds where the callee
puts its `Rx_message`. -/
def rf433RxCallback (rxMessage : Message) (rssi : Int) (buffer : List UInt8) (len : UInt8)
    (s : State) : State :=
  if byteAt buffer 1 = 123 then normalSolve rxMessage rssi buffer len s
  else if byteAt buffer 1 = 71 then gatewayDataSolve rxMessage buffer len s
  else s

/-! ## accepted frames -/

/-- `NormalSolve` accepts a frame: it is for this unit or broadcast, and the
unit is in learn mode or knows the sender. -/
def Accepts (buf : Message) (s : State) : Prop :=
  (buf.targetID.toUInt32 = s.radioID ∨ buf.targetID = 99999999) ∧
    (s.learnFlag ≠ 0 ∨ s.flashGetKeyValid buf.fromID.toUInt32 = RT_EOK)

instance (buf : Message) (s : State) : Decidable (Accepts buf s) :=
  inferInstanceAs (Decidable (_ ∧ _))

/-- `GatewayDataSolve` accepts a frame. -/
def GatewayAccepts (buf : Message) (s : State) : Prop :=
  buf.targetID.toUInt32 = s.radioID ∧ s.flashGetKeyValid buf.fromID.toUInt32 = RT_EOK

instance (buf : Message) (s : State) : Decidable (GatewayAccepts buf s) :=
  inferInstanceAs (Decidable (_ ∧ _))

end WaterValve
