import WaterValve.Decoder
import WaterValve.Lib.Machine

/-!
# WaterValve.System

The firmware as a transition system.  An action is one complete execution of
a handler: a round of the key thread, a received frame, an expiry of a timer,
an alarm of the clock, a round of the transmit thread, or a reset.  A timer
can only expire while it runs; a one-shot timer has stopped when its callback
starts.

`boot` is `main`: the registry is loaded from flash, the valve is set by
`Moto_Init`, and everything else starts from its static initialiser.  The
transition system is `valveMachine rom`, started on an erased flash; `rom` is
the word at `0x0801FFF0` that holds the unit's radio id.
-/

namespace WaterValve

/-! ## start-up -/

/-- `Self_Default_Id`. -/
def selfDefaultId : UInt32 := 10000000

/-- `RadioQueue_Init`: the radio id, or the default when none is programmed. -/
def radioQueueInit (rom : UInt32) (s : State) : State :=
  { s with radioID := if rom = 0xFFFFFFFF ∨ rom = 0 then selfDefaultId else rom }

/-- `DetectFactory`: the unit is in factory mode when `TEST` is low. -/
def detectFactory (pins : Pins) (s : State) : State :=
  if pins.test then { s with factoryFlag := 0 }
  else { s with factoryFlag := 1, factoryCycle := true }

/-- `main` up to its idle loop. -/
def boot (rom : UInt32) (pins : Pins) (env : Env) : Option State :=
  let s := State.reset env
  s.loadDevice2Memory.map fun st =>
    radioQueueInit rom { s with toStorage := st }
      |> motoInit |> waterScanIOInit |> detectFactory pins |> gatewayInit

/-! ## the keys -/

/-- Which of the five semaphores a round of the key thread could take. -/
structure KeySem where
  k0 : Bool
  k0Long : Bool
  k1 : Bool
  k1Long : Bool
  k0k1 : Bool
  deriving DecidableEq, Repr

/-- `K0`, the open key. -/
def keyOn (s : State) : State :=
  match s.nowStatus with
  | .close => if s.lastCloseFlag = 0 then motoOpen normalOpen s else s
  | .masterLostPeak => motoOpen normalOpen { s with nowStatus := .opened }
  | _ => s

/-- `K1`, the close key. -/
def keyOff (pins : Pins) (s : State) : State :=
  if s.factoryFlag ≠ 0 then motoDetect pins (warningDisable { s with factoryCycle := false })
  else
    match s.nowStatus with
    | .opened => motoClose normalOff { s with lastCloseFlag := 0 }
    | .masterLostPeak => { motoClose normalOff s with nowStatus := .close }
    | .masterWaterAlarmDeActive =>
        warUploadGW 1 0 1 0 (warningDisable { s with nowStatus := .close })
    | _ => s

/-- `DeleteAllDevice`. -/
def deleteAllDevice (s : State) : State :=
  let s := gatewayRemoteDelete s
  { s with toStorage := s.eraseAll }

/-- `K1` held: start or stop learn mode. -/
def keyLong (s : State) : State :=
  if s.nowStatus = .close ∨ s.nowStatus = .opened then
    startLearnKey { s with nowStatus := .learn }
  else if s.nowStatus = .learn then stopLearn { s with learnTimer := false }
  else s

/-- One round of `Key_Reponse_Callback`.  Both keys held erase the registry and
reset the unit. -/
def keyReponse (rom : UInt32) (sem : KeySem) (pins : Pins) (s : State) : Option State :=
  if sem.k0 then some (keyOn s)
  else if sem.k1 then some (keyOff pins s)
  else if sem.k0k1 then boot rom pins (deleteAllDevice s).env
  else if sem.k0Long then some s
  else if sem.k1Long then some (keyLong s)
  else some s

/-- `Factory_Cycle_Callback`. -/
def factoryCycleCallback (s : State) : State := radioEnqueue 98989898 1 9 0 s

/-! ## the transition system -/

/-- The handlers, with what they read from outside. -/
inductive Action
  | keyReponse (sem : KeySem) (pins : Pins)
  | rf433Rx (rxMessage : Message) (rssi : Int) (buffer : List UInt8) (len : UInt8)
  | rfEncode
  | waterscanTimer (pins : Pins)
  | ntcScanTimer (cold warm : Bool)
  | delayTimer
  | learnTimer
  | turn1Edge
  | turn2Edge
  | moto1TimerAct
  | moto2TimerAct
  | moto1TimerDetect
  | moto2TimerDetect
  | motoDetectTimer (pins : Pins)
  | rtcAlarm (pins : Pins)
  | gatewaySyncT
  | heartCheckT
  | heartTestT
  | factoryCycle
  | reboot (pins : Pins)

/-- One complete handler execution; `none` when the action is not enabled. -/
def step (rom : UInt32) (s : State) : Action → Option State
  | .keyReponse sem pins => keyReponse rom sem pins s
  | .rf433Rx rxMessage rssi buffer len => some (rf433RxCallback rxMessage rssi buffer len s)
  | .rfEncode =>
    if s.rfEnMq = [] then none else some { s with rfEnMq := s.rfEnMq.tail, rfAckSem := false }
  | .waterscanTimer pins => some (waterscanTimerCallback pins s)
  | .ntcScanTimer cold warm => some (ntcScanTimerCallback cold warm s)
  | .delayTimer =>
    if s.delayTimer then some (delayTimerCallback { s with delayTimer := false }) else none
  | .learnTimer => if s.learnTimer then some (stopLearn { s with learnTimer := false }) else none
  | .turn1Edge => if s.senor1Irq then some (turn1EdgeCallback s) else none
  | .turn2Edge => if s.senor2Irq then some (turn2EdgeCallback s) else none
  | .moto1TimerAct =>
    if s.moto1TimerAct then some (moto1TimerActCallback { s with moto1TimerAct := false }) else none
  | .moto2TimerAct =>
    if s.moto2TimerAct then some (moto2TimerActCallback { s with moto2TimerAct := false }) else none
  | .moto1TimerDetect =>
    if s.moto1TimerDetect then some (turn1TimerCallback { s with moto1TimerDetect := false })
    else none
  | .moto2TimerDetect =>
    if s.moto2TimerDetect then some (turn2TimerCallback { s with moto2TimerDetect := false })
    else none
  | .motoDetectTimer pins =>
    if s.motoDetectTimer then some (motoDetect pins { s with motoDetectTimer := false }) else none
  | .rtcAlarm pins => rtcTimerEntry pins s
  | .gatewaySyncT => if s.gatewaySyncT then some (gatewaySyncCallback s) else none
  | .heartCheckT => if s.heartCheckT then some (heartCheck s) else none
  | .heartTestT => if s.heartTestT then some (heartTest s) else none
  | .factoryCycle => if s.factoryCycle then some (factoryCycleCallback s) else none
  | .reboot pins => boot rom pins s.env

/-- The firmware on a unit whose id word is `rom`, from an erased flash on. -/
def valveMachine (rom : UInt32) : Machine State Action where
  init := fun s => ∃ pins, boot rom pins .default = some s
  step := step rom

/-! ## runs -/

/-- Every pin at its idle level, the probe dry. -/
def dryPins : Pins := ⟨true, false, false, false, true⟩

/-- A unit without an id word, started on an erased flash. -/
def started : State := (boot 0 dryPins .default).getD (.reset .default)

theorem boot_started : boot 0 dryPins .default = some started := by
  have hsome : (boot 0 dryPins .default).isSome = true := by decide +kernel
  obtain ⟨s, hs⟩ := Option.isSome_iff_exists.mp hsome
  rw [started, hs]
  rfl

theorem started_reachable : (valveMachine 0).Reachable started := .init ⟨dryPins, boot_started⟩

/-- A run from `started` reaches a state, which shows what the run shows. -/
theorem exists_of_run {β : Type} {observe : State → β} {as : List Action} {b : β}
    (h : ((valveMachine 0).runFrom started as).map observe = some b) :
    ∃ s, (valveMachine 0).Reachable s ∧ observe s = b := by
  obtain ⟨s, hs, hb⟩ := Option.map_eq_some_iff.mp h
  exact ⟨s, started_reachable.runFrom hs, hb⟩

/-- A scan of the probe: dry, wet, or not there. -/
def scanDry : Action := .waterscanTimer dryPins

def scanWet : Action := .waterscanTimer { dryPins with peakOn := false }

def scanLost : Action := .waterscanTimer { dryPins with peakLoss := true }

/-- A round of the key thread: `K0`, `K1`, or `K1` held. -/
def pressK0 : Action := .keyReponse ⟨true, false, false, false, false⟩ dryPins

def pressK1 : Action := .keyReponse ⟨false, false, true, false, false⟩ dryPins

def holdK1 : Action := .keyReponse ⟨false, false, false, true, false⟩ dryPins

/-- A node frame from `fromID`, broadcast, as a node sends it. -/
def nodeRx (fromID : UInt32) (command data : UInt8) : Action :=
  .rf433Rx ⟨0, 0, 0, 0, 0, 0⟩ (-50)
    (32 :: (nodeText 99999999 fromID 1 command data ++ [48, 48, 13, 10])) 32

/-- A device is learned. -/
def learnDevice (fromID : UInt32) : List Action := [holdK1, nodeRx fromID 3 1, holdK1]

end WaterValve
