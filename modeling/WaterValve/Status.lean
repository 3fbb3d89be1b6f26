import WaterValve.Encoder

/-!
# WaterValve.Status

The valve, `Moto_InitOpen`, `Moto_Open` and `Moto_Close` of `Moto.c` with the
one-line pause switches of `device.c` and `Work.c` that they call; and `Status.c`:
the warnings with their priorities, what each one does when it is accepted, the way
back to normal, and the delayed close.
-/

namespace WaterValve

/-! ## the valve -/

def keyIOInit (s : State) : State := { s with keyPauseFlag := 0 }

def keyIODeInit (s : State) : State := { s with keyPauseFlag := 1 }

def waterScanIOInit (s : State) : State := { s with waterAlarmPause := 0 }

def waterScanIODeInit (s : State) : State := { s with waterAlarmPause := 1 }

def delayTimerStop (s : State) : State := { s with delayTimer := false }

/-- `Global_Device.LastFlag = actFlag; Flash_Moto_Change(actFlag);` -/
def setLastFlag (actFlag : UInt8) (s : State) : State :=
  let st := { s.toStorage with globalDevice := { s.globalDevice with lastFlag := actFlag } }
  { s with toStorage := flashMotoChange actFlag st }

/-- Both turn outputs. -/
def writeTurns (level : Bool) (s : State) : State := { s with turn1 := level, turn2 := level }

/-- May the valve be opened under this flag?  After a remote close only a
remote open may. -/
def mayOpen (actFlag : UInt8) (s : State) : Prop :=
  (s.globalDevice.lastFlag = otherOff ∧ actFlag = otherOpen) ∨ s.globalDevice.lastFlag ≠ otherOff

instance (actFlag : UInt8) (s : State) : Decidable (mayOpen actFlag s) :=
  inferInstanceAs (Decidable (_ ∨ _))

def motoInitOpen (actFlag : UInt8) (s : State) : State :=
  if mayOpen actFlag s then
    { s with nowStatus := .opened, valveStatus := 1 } |> setLastFlag actFlag |> writeTurns true
  else s

def motoOpen (actFlag : UInt8) (s : State) : State :=
  if mayOpen actFlag s then
    let s := { s with nowStatus := .opened, valveStatus := 1 } |> setLastFlag actFlag
      |> writeTurns true
    let s := if actFlag = normalOpen then { controlUploadGW 1 0 1 1 s with motoDetectTimer := true }
      else s
    delayTimerStop s
  else s

def motoClose (actFlag : UInt8) (s : State) : State :=
  if s.globalDevice.lastFlag ≠ otherOff then
    let s := { s with nowStatus := .close, valveStatus := 0 } |> setLastFlag actFlag
    let s := if actFlag = normalOff then controlUploadGW 1 0 1 0 s else s
    let s := { s with senor1Irq := false, senor2Irq := false } |> writeTurns false |> delayTimerStop
    { s with
      moto1TimerAct := false
      moto2TimerAct := false
      moto1TimerDetect := false
      moto2TimerDetect := false } |> keyIOInit |> waterScanIOInit
  else if s.globalDevice.lastFlag = otherOff ∧ actFlag = otherOff then
    { s with nowStatus := .close, valveStatus := 0 } |> delayTimerStop
  else s

/-! ## back to normal -/

/-- `WaterScan_Clear` of `Work.c`. -/
def waterScanClear (s : State) : State :=
  { s with warningPastStatus := 0, warningNowStatus := 0, warningStatus := 0 }

def backToNormal (s : State) : State :=
  { waterScanClear s with nowStatus := if s.valveStatus ≠ 0 then .opened else .close }

def warningDisable (s : State) : State :=
  backToNormal { s with nowStatusEvent := { s.nowStatusEvent with lastId := 0, priority := 0 } }

/-! ## the warnings -/

/-- The warning callbacks (their LED and beeper calls left out). -/
def WarningCallback.run : WarningCallback → State → State
  | .slaverLowBatteryWarning, s => s
  | .slaverUltraLowBatteryWarning, s =>
    { motoClose otherOff s with nowStatus := .slaverUltraLowPower }
  | .slaverWaterAlarmWarning, s =>
    { motoClose otherOff s with nowStatus := .slaverWaterAlarmActive }
  | .masterLostPeakWarning, s => warUploadGW 1 0 3 1 { s with nowStatus := .masterLostPeak }
  | .masterWaterAlarmWarning, s =>
    { warUploadGW 1 0 1 1 (motoClose normalOff s) with nowStatus := .masterWaterAlarmActive }
  | .ntcWarningEventCallback, s =>
    { warUploadGW 1 0 8 1 (motoClose normalOff s) with nowStatus := .ntcWarning }
  | .offlineWarning, s =>
    if s.nowStatus ≠ .offline then { motoClose normalOff s with nowStatus := .offline } else s
  | .moto1FailCallback, s => { warUploadGW 1 0 2 2 s with nowStatus := .motoFail }
  | .moto2FailCallback, s => { warUploadGW 1 0 2 3 s with nowStatus := .motoFail }

/-- The events `WarningInit` sets up: id, priority, callback. -/
def slaverLowPowerEvent : WariningEvent := ⟨7, 0, 4, some .slaverLowBatteryWarning⟩

def slaverWaterAlarmActiveEvent : WariningEvent := ⟨2, 0, 8, some .slaverWaterAlarmWarning⟩

def masterLostPeakEvent : WariningEvent := ⟨3, 0, 1, some .masterLostPeakWarning⟩

def masterWaterAlarmActiveEvent : WariningEvent := ⟨4, 0, 7, some .masterWaterAlarmWarning⟩

def offlineEvent : WariningEvent := ⟨5, 0, 5, some .offlineWarning⟩

def moto1FailEvent : WariningEvent := ⟨6, 0, 3, some .moto1FailCallback⟩

def moto2FailEvent : WariningEvent := ⟨9, 0, 3, some .moto2FailCallback⟩

def slaverUltraLowPowerEvent : WariningEvent := ⟨1, 0, 6, some .slaverUltraLowBatteryWarning⟩

def ntcWarningEvent : WariningEvent := ⟨8, 0, 2, some .ntcWarningEventCallback⟩

def warningEnable (event : WariningEvent) (s : State) : State :=
  if s.nowStatusEvent.priority ≤ event.priority then
    let s := { s with nowStatusEvent := { s.nowStatusEvent with
      lastId := event.warningId, priority := event.priority } }
    match event.callback with
    | some callback =>
      callback.run { s with nowStatusEvent := { s.nowStatusEvent with callback := some callback } }
    | none => s
  else s

/-- The event `Warning_Enable_Num` selects. -/
def warningEvent (id : UInt8) : Option WariningEvent :=
  if id = 1 then some slaverUltraLowPowerEvent
  else if id = 2 then some slaverWaterAlarmActiveEvent
  else if id = 3 then some masterLostPeakEvent
  else if id = 4 then some masterWaterAlarmActiveEvent
  else if id = 5 then some offlineEvent
  else if id = 6 then some moto1FailEvent
  else if id = 7 then some slaverLowPowerEvent
  else if id = 8 then some ntcWarningEvent
  else if id = 9 then some moto2FailEvent
  else none

def warningEnableNum (id : UInt8) (s : State) : State :=
  match warningEvent id with
  | some event => warningEnable event s
  | none => s

def masterStatusChangeToDeAvtive (s : State) : State :=
  { s with nowStatus := .masterWaterAlarmDeActive }

def offlineDisableWarning (s : State) : State :=
  if s.nowStatus = .offline then warningDisable s else s

/-- `Detect_Learn`: outside learn mode? -/
def detectLearn (s : State) : Bool := s.nowStatus ≠ .learn

/-! ## remote control and the delayed close -/

/-- The timer is one-shot: it has stopped when its callback runs. -/
def delayTimerCallback (s : State) : State := controlUploadGW 1 0 1 0 (motoClose otherOff s)

def remoteOpen (s : State) : State :=
  if s.nowStatus = .close ∨ s.nowStatus = .opened then motoOpen otherOpen s else s

def remoteClose (s : State) : State := motoClose otherOff s

def delayTimerOpenDoor (deviceId : UInt32) (s : State) : State :=
  if s.nowStatus = .close ∨ s.nowStatus = .opened then
    controlUploadGW 1 deviceId 3 1 { s with delayTimer := true }
  else s

def delayTimerCloseDoor (deviceId : UInt32) (s : State) : State :=
  delayTimerStop (controlUploadGW 1 deviceId 3 0 s)

end WaterValve
