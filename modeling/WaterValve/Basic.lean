import WaterValve.Lib.CText

/-!
# WaterValve.Basic

The data of the valve controller: the enumerations, the records that travel
between the modules, the key-value store in flash, and the program state.

`Storage` is what `flashwork.c` owns: the registry in RAM (`Global_Device`)
and the flash environment.  `State` adds the globals of the other source
files, one block a file, and for each kernel timer whether it is running.
LEDs and the beeper are outputs only and are not part of the state.

C's `uint8_t` and `uint32_t` globals keep their width.  `Num`, `DoorNum` and
`GatewayNum` are natural numbers that are only ever loaded through
`uint32_t` conversions, and the arrays of `Device_Info` are functions of the
slot number.
-/

namespace WaterValve

/-! ## constants -/

def RT_EOK : UInt8 := 0

def RT_ERROR : UInt8 := 1

/-- `MaxSupport`: slots `1 .. MaxSupport - 1` can be learned. -/
def maxSupport : Nat := 13

/-- The `ActFlag`s: who moved the valve last, and how. -/
def normalOff : UInt8 := 1

def otherOff : UInt8 := 2

def normalOpen : UInt8 := 3

def otherOpen : UInt8 := 4

/-! ## status and warnings -/

/-- `enum Device_Status` (`opened` is the source's `Open`). -/
inductive DeviceStatus
  | close | opened | slaverLowPower | slaverUltraLowPower | slaverWaterAlarmActive
  | masterLostPeak | masterWaterAlarmActive | masterWaterAlarmDeActive | ntcWarning
  | motoFail | learn | offline
  deriving DecidableEq, Repr

/-- The functions a `WariningEvent` may point to. -/
inductive WarningCallback
  | slaverLowBatteryWarning | slaverUltraLowBatteryWarning | slaverWaterAlarmWarning
  | masterLostPeakWarning | masterWaterAlarmWarning | offlineWarning
  | moto1FailCallback | moto2FailCallback | ntcWarningEventCallback
  deriving DecidableEq, Repr

/-- `WariningEvent`; `callback = none` is `RT_NULL`. -/
structure WariningEvent where
  warningId : UInt8
  lastId : UInt8
  priority : UInt8
  callback : Option WarningCallback
  deriving DecidableEq, Repr

/-! ## radio messages -/

/-- `Message`: the fields `rt_sscanf` fills from a received frame. -/
structure Message where
  targetID : Int32
  fromID : Int32
  deviceID : Int32
  counter : Int32
  command : Int32
  data : Int32
  deriving DecidableEq, Repr

/-- `Radio_Normal_Format`: one entry of the transmit queue. -/
structure RadioNormalFormat where
  ack : UInt8 := 0
  type : UInt8 := 0
  counter : UInt8 := 0
  command : UInt8 := 0
  rssi : UInt8 := 0
  bat : UInt8 := 0
  data : UInt8 := 0
  tagetID : UInt32 := 0
  payloadID : UInt32 := 0
  deriving DecidableEq, Repr

/-- C's conversion of an `int` to `uint8_t`. -/
def toU8 (n : Int32) : UInt8 := n.toUInt32.toUInt8

/-! ## the registry and the flash environment -/

/-- `Device_Info`. -/
structure DeviceInfo where
  lastFlag : UInt8
  num : Nat
  doorNum : Nat
  gatewayNum : Nat
  bat : Nat → UInt8
  rssi : Nat → UInt8
  slaveAlarm : Nat → UInt8
  idTime : Nat → UInt32
  alive : Nat → UInt32
  getMesssage : Nat → UInt32
  id : Nat → UInt32

/-- `memset(&Global_Device, 0, sizeof(Global_Device))`. -/
def DeviceInfo.zero : DeviceInfo where
  lastFlag := 0
  num := 0
  doorNum := 0
  gatewayNum := 0
  bat := fun _ => 0
  rssi := fun _ => 0
  slaveAlarm := fun _ => 0
  idTime := fun _ => 0
  alive := fun _ => 0
  getMesssage := fun _ => 0
  id := fun _ => 0

/-- The flash environment: a persistent map from key strings to values. -/
abbrev Env := List UInt8 → Option (List UInt8)

/-- `default_env_set`: what `ef_env_set_default` leaves in an erased flash. -/
def Env.default : Env := fun key =>
  if key = CText.ascii "Author" then some (CText.ascii "Rick") else none

/-- The registry in RAM and the environment in flash. -/
structure Storage where
  globalDevice : DeviceInfo
  env : Env

/-! ## the program state -/

/-- The globals of the firmware. -/
structure State extends Storage where
  -- Status.c
  nowStatus : DeviceStatus
  nowStatusEvent : WariningEvent
  delayTimer : Bool
  -- key.c
  valveStatus : UInt8
  learnTimer : Bool
  -- Moto.c
  turn1Flag : UInt8
  turn2Flag : UInt8
  moto1FailFlag : UInt8
  moto2FailFlag : UInt8
  valveAlarmFlag : UInt8
  turn1 : Bool
  turn2 : Bool
  senor1Irq : Bool
  senor2Irq : Bool
  moto1TimerAct : Bool
  moto2TimerAct : Bool
  moto1TimerDetect : Bool
  moto2TimerDetect : Bool
  motoDetectTimer : Bool
  -- Work.c
  warningNowStatus : UInt8
  warningPastStatus : UInt8
  warningStatus : UInt8
  waterAlarmPause : UInt8
  -- device.c
  keyPauseFlag : UInt8
  -- ADCwork.c
  ntcState : UInt8
  -- RTCWork.c
  rtcCounter : UInt8
  rtcHours : UInt32
  -- Radio_Decoder.c
  learnFlag : UInt8
  lastCloseFlag : UInt8
  gwFlag : UInt8
  -- Radio_Encoder.c
  radioID : UInt32
  rfEnMq : List RadioNormalFormat
  rfAckSem : Bool
  -- Radio_Common.c
  axradioPowerNow : UInt8
  -- gateway.c
  gatewayID : UInt32
  gatewaySyncNum : UInt8
  gatewaySyncT : Bool
  heartStatus : UInt8
  heartRecvFlag : UInt8
  heartCheckCount : UInt8
  heartCheckT : Bool
  heartTestT : Bool
  -- factory.c
  factoryFlag : UInt8
  factoryCycle : Bool

/-- RAM after a reset, before `main` runs: the static initialisers, with every
timer still to be created. -/
def State.reset (env : Env) : State where
  globalDevice := .zero
  env := env
  nowStatus := .close
  nowStatusEvent := ⟨0, 0, 0, none⟩
  delayTimer := false
  valveStatus := 0
  learnTimer := false
  turn1Flag := 0
  turn2Flag := 0
  moto1FailFlag := 0
  moto2FailFlag := 0
  valveAlarmFlag := 0
  turn1 := false
  turn2 := false
  senor1Irq := false
  senor2Irq := false
  moto1TimerAct := false
  moto2TimerAct := false
  moto1TimerDetect := false
  moto2TimerDetect := false
  motoDetectTimer := false
  warningNowStatus := 0
  warningPastStatus := 0
  warningStatus := 0
  waterAlarmPause := 0
  keyPauseFlag := 0
  ntcState := 0
  rtcCounter := 0
  rtcHours := 0
  learnFlag := 0
  lastCloseFlag := 0
  gwFlag := 0
  radioID := 0
  rfEnMq := []
  rfAckSem := false
  axradioPowerNow := 0
  gatewayID := 0
  gatewaySyncNum := 1
  gatewaySyncT := false
  heartStatus := 0
  heartRecvFlag := 0
  heartCheckCount := 0
  heartCheckT := false
  heartTestT := false
  factoryFlag := 0
  factoryCycle := false

/-- The input pins a handler may sample. -/
structure Pins where
  peakOn : Bool
  peakLoss : Bool
  senor1 : Bool
  senor2 : Bool
  test : Bool
  deriving DecidableEq, Repr

end WaterValve
