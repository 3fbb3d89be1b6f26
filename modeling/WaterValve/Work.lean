import WaterValve.Status

/-!
# WaterValve.Work

The periodic sensors: the probe scan of `Work.c`, which reacts to changes of
the probe and keeps the last reading (`WarningPastStatus`) and the last
transition handled (`WarningStatus`), and the freeze scan of `ADCwork.c`.

The motor self-test of `Moto.c`: `Moto_Detect` releases the turn outputs and
starts the Act timers, each Act timer restores its output and starts a Detect
timer, and the Detect callbacks judge the motor by the edges counted on its
sensor.  `Moto_Init` is here too, since it raises a warning.
-/

namespace WaterValve

/-! ## the water probe -/

def warningWithPeak (status : Nat) (s : State) : State :=
  if detectLearn s then
    match status with
    | 0 =>
      -- probe back in place
      let s := warUploadGW 1 0 3 0 s
      if s.nowStatus = .opened ∨ s.nowStatus = .close ∨ s.nowStatus = .masterLostPeak then
        backToNormal s
      else s
    | 1 => warningEnableNum 3 s
    | 2 => warningEnableNum 4 s
    | 3 => masterStatusChangeToDeAvtive s
    | 4 => warningEnableNum 4 s
    | _ => s
  else s

/-- `Get_Peak_ON_Level`: a paused scan reads a dry probe. -/
def getPeakONLevel (pins : Pins) (s : State) : Bool :=
  if s.waterAlarmPause = 0 then pins.peakOn else true

/-- `Get_Peak_LOSS_Level`: a paused scan reads a connected probe. -/
def getPeakLOSSLevel (pins : Pins) (s : State) : Bool :=
  if s.waterAlarmPause = 0 then pins.peakLoss else false

/-- The reading of a scan: 1 probe lost, 2 probe shorted by water, 0 normal. -/
def peakReading (pins : Pins) (s : State) : UInt8 :=
  if getPeakLOSSLevel pins s then 1 else if getPeakONLevel pins s then 0 else 2

/-- The two assignments that close a handled transition. -/
def peakHandled (status : UInt8) (s : State) : State :=
  { s with warningPastStatus := s.warningNowStatus, warningStatus := status }

/-- `waterscan_timer_callback`.  The first two transitions leave
`WarningPastStatus` alone. -/
def waterscanTimerCallback (pins : Pins) (s : State) : State :=
  let s := { s with warningNowStatus := peakReading pins s }
  if s.warningNowStatus ≠ s.warningPastStatus then
    if s.warningPastStatus = 2 ∧ s.warningNowStatus = 0 then
      if s.warningStatus ≠ 1 then warningWithPeak 3 { s with warningStatus := 1 } else s
    else if s.warningPastStatus = 2 ∧ s.warningNowStatus = 1 then
      if s.warningStatus ≠ 2 then { s with warningStatus := 2 } else s
    else if s.warningPastStatus = 0 ∧ s.warningNowStatus = 1 then
      if s.warningStatus ≠ 4 then peakHandled 4 (warningWithPeak 1 s) else s
    else if s.warningPastStatus = 0 ∧ s.warningNowStatus = 2 then
      if s.warningStatus ≠ 8 then peakHandled 8 (warningWithPeak 2 s) else s
    else if s.warningPastStatus = 1 ∧ s.warningNowStatus = 0 then
      if s.warningStatus ≠ 16 then peakHandled 16 (warningWithPeak 0 s) else s
    else if s.warningPastStatus = 1 ∧ s.warningNowStatus = 2 then
      if s.warningStatus ≠ 32 then peakHandled 32 (warningWithPeak 4 s) else s
    else s
  else s

/-! ## the freeze sensor -/

/-- `ntc_scan_timer_callback`.  The source computes the voltage twice; `cold`
is the outcome of the first comparison (below 1.153) and `warm` of the second
(at least 1.168). -/
def ntcScanTimerCallback (cold warm : Bool) (s : State) : State :=
  let s := if cold ∧ s.nowStatus ≠ .ntcWarning then
      warningEnableNum 8 { s with ntcState := s.valveStatus }
    else s
  if warm ∧ s.nowStatus = .ntcWarning then
    let s := warningDisable (warUploadGW 1 0 8 0 s)
    if s.ntcState ≠ 0 then motoOpen normalOpen s else motoClose normalOff s
  else s

/-! ## the motor self-test -/

def turn1EdgeCallback (s : State) : State := { s with turn1Flag := s.turn1Flag + 1 }

def turn2EdgeCallback (s : State) : State := { s with turn2Flag := s.turn2Flag + 1 }

def turn1TimerCallback (s : State) : State :=
  let s := { (s |> keyIOInit |> waterScanIOInit) with senor1Irq := false, turn1 := true }
  if s.turn1Flag < 2 then
    let s := if s.moto2FailFlag = 0 then { warningEnableNum 6 s with valveAlarmFlag := 1 } else s
    { s with moto1FailFlag := 1 }
  else
    let s := if s.moto2FailFlag = 0 then { warUploadGW 1 0 2 0 s with valveAlarmFlag := 0 } else s
    { s with moto1FailFlag := 0 }

/-- Unlike motor 1, motor 2 is judged without a look at the other motor. -/
def turn2TimerCallback (s : State) : State :=
  let s := { (s |> keyIOInit |> waterScanIOInit) with senor2Irq := false, turn2 := true }
  if s.turn2Flag < 2 then
    { warningEnableNum 9 s with moto2FailFlag := 1, valveAlarmFlag := 1 }
  else
    { warUploadGW 1 0 2 1 s with moto2FailFlag := 0, valveAlarmFlag := 0 }

def moto1TimerActCallback (s : State) : State := { s with turn1 := true, moto1TimerDetect := true }

def moto2TimerActCallback (s : State) : State := { s with turn2 := true, moto2TimerDetect := true }

def motoDetect (pins : Pins) (s : State) : State :=
  if s.valveStatus = 1 then
    let s := { s with turn1Flag := 0, turn2Flag := 0, moto1FailFlag := 0, moto2FailFlag := 0 }
    let s := if pins.senor1 then
        { (s |> keyIODeInit |> waterScanIODeInit) with
          senor1Irq := true, turn1 := false, moto1TimerAct := true }
      else s
    if pins.senor2 then
      { (s |> keyIODeInit |> waterScanIODeInit) with
        senor2Irq := true, turn2 := false, moto2TimerAct := true }
    else s
  else s

/-- `s'` is `s` up to the outputs, sensors, timers and pauses of the self-test. -/
def TestOnly (s s' : State) : Prop :=
  ∃ t : State, s' = { s with
    turn1Flag := t.turn1Flag, turn2Flag := t.turn2Flag
    moto1FailFlag := t.moto1FailFlag, moto2FailFlag := t.moto2FailFlag
    keyPauseFlag := t.keyPauseFlag, waterAlarmPause := t.waterAlarmPause
    senor1Irq := t.senor1Irq, senor2Irq := t.senor2Irq
    turn1 := t.turn1, turn2 := t.turn2
    moto1TimerAct := t.moto1TimerAct, moto2TimerAct := t.moto2TimerAct }

theorem testOnly_motoDetect (pins : Pins) (s : State) : TestOnly s (motoDetect pins s) := by
  refine ⟨motoDetect pins s, ?_⟩
  unfold motoDetect
  dsimp only
  repeat' split
  all_goals rfl

/-- `Moto_Init`: the valve comes up closed with the alarm raised when a slave
alarm is stored, and open unless it was closed remotely. -/
def motoInit (s : State) : State :=
  if s.flashGetSlaveAlarmFlag ≠ 0 then warningEnableNum 2 s
  else if s.globalDevice.lastFlag ≠ otherOff then motoInitOpen normalOpen s
  else s

end WaterValve
