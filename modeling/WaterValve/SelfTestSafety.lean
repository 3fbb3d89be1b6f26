import WaterValve.LearnSlot
import WaterValve.SystemRegistry

/-!
# WaterValve.SelfTestSafety

The motor self-test against the valve.  The two tests, each with an Act and a
Detect timer, drive the outputs that opening and closing drive, and pause the
keys and the water probe while they run.  `Actuator.Safe` is what holds between
them in every reachable state (`valveMachine_safe`): a closed valve has no
output raised and no timer pending that would raise one, an output released by
a test is going to be restored, and what is paused is going to be resumed.
-/

namespace WaterValve

namespace Actuator

variable {a : Actuator}

/-! ## operations -/

/-- `Moto_Open`. -/
def openAs (actFlag : UInt8) (a : Actuator) : Actuator :=
  if a.lastFlag = otherOff ∧ actFlag ≠ otherOpen then a
  else { a with lastFlag := actFlag, valve := 1, turn1 := true, turn2 := true }

/-- `Moto_Close`.  The second branch stops nothing. -/
def closeAs (actFlag : UInt8) (a : Actuator) : Actuator :=
  if a.lastFlag ≠ otherOff then ⟨actFlag, 0, false, false, false, false, false, false, 0, 0⟩
  else if actFlag = otherOff then { a with valve := 0 }
  else a

/-- The start of test 1: the output is released until its Act timer expires. -/
def startTest1 (a : Actuator) : Actuator :=
  { a with turn1 := false, act1 := true, keyPause := 1, waterPause := 1 }

def startTest2 (a : Actuator) : Actuator :=
  { a with turn2 := false, act2 := true, keyPause := 1, waterPause := 1 }

/-- `Moto_Detect`. -/
def detect (pins : Pins) (a : Actuator) : Actuator :=
  if a.valve = 1 then
    let a := if pins.senor1 then a.startTest1 else a
    if pins.senor2 then a.startTest2 else a
  else a

/-! ## the invariant -/

/-- A timer of the self-test runs. -/
def Testing (a : Actuator) : Prop :=
  a.act1 = true ∨ a.act2 = true ∨ a.detect1 = true ∨ a.detect2 = true

/-- Nothing drives the outputs nor is about to. -/
structure AtRest (a : Actuator) : Prop where
  turn1 : a.turn1 = false
  turn2 : a.turn2 = false
  act1 : a.act1 = false
  act2 : a.act2 = false
  detect1 : a.detect1 = false
  detect2 : a.detect2 = false

/-- What holds between the valve and its self-test. -/
structure Safe (a : Actuator) : Prop where
  locked : a.lastFlag = otherOff → a.valve = 0
  closed : a.valve = 0 → a.AtRest
  restores1 : a.valve = 1 → a.turn1 = false → a.act1 = true
  restores2 : a.valve = 1 → a.turn2 = false → a.act2 = true
  resumes : a.keyPause = 1 ∨ a.waterPause = 1 → a.Testing

/-- At rest no test runs. -/
theorem AtRest.not_testing (h : a.AtRest) : ¬a.Testing := by
  simp [Testing, h.act1, h.act2, h.detect1, h.detect2]

/-- A test that runs has found the valve open. -/
theorem Safe.valve_ne_zero (h : a.Safe) (ht : a.Testing) : a.valve ≠ 0 :=
  fun h0 => (h.closed h0).not_testing ht

/-- Opening the valve keeps the actuator safe. -/
theorem Safe.openAs (h : a.Safe) {actFlag : UInt8} (hf : actFlag ≠ otherOff) :
    (a.openAs actFlag).Safe := by
  unfold Actuator.openAs
  split
  · exact h
  · exact ⟨fun hoff => absurd hoff hf, nofun, nofun, nofun, h.resumes⟩

/-- Only the branch that finds the valve open stops the timers, and only it has
to: after a remote close the valve is at rest. -/
theorem Safe.closeAs (h : a.Safe) (actFlag : UInt8) : (a.closeAs actFlag).Safe := by
  unfold Actuator.closeAs
  split
  · exact ⟨fun _ => rfl, fun _ => ⟨rfl, rfl, rfl, rfl, rfl, rfl⟩, nofun, nofun, by simp⟩
  · rename_i hoff
    split
    · have hrest := h.closed (h.locked (not_not.mp hoff))
      exact ⟨fun _ => rfl, fun _ => { hrest with }, nofun, nofun, h.resumes⟩
    · exact h

/-- So does the start of the test of motor 1. -/
theorem Safe.startTest1 (h : a.Safe) (hv : a.valve = 1) : a.startTest1.Safe where
  locked hoff := h.locked hoff
  closed h0 := absurd (h0.symm.trans hv) (by decide)
  restores1 _ _ := rfl
  restores2 := h.restores2
  resumes _ := .inl rfl

/-- So does that of motor 2. -/
theorem Safe.startTest2 (h : a.Safe) (hv : a.valve = 1) : a.startTest2.Safe where
  locked hoff := h.locked hoff
  closed h0 := absurd (h0.symm.trans hv) (by decide)
  restores1 := h.restores1
  restores2 _ _ := rfl
  resumes _ := .inr (.inl rfl)

/-- So does `Moto_Detect`. -/
theorem Safe.detect (h : a.Safe) (pins : Pins) : (a.detect pins).Safe := by
  unfold Actuator.detect
  split
  · rename_i hv
    dsimp only
    split
    · split
      · exact (h.startTest1 hv).startTest2 hv
      · exact h.startTest2 hv
    · split
      · exact h.startTest1 hv
      · exact h
  · exact h

/-- The Act timer of test 1 expires: the output is restored. -/
theorem Safe.act1 (h : a.Safe) (ht : a.act1 = true) :
    Safe { a with act1 := false, turn1 := true, detect1 := true } where
  locked := h.locked
  closed h0 := absurd h0 (h.valve_ne_zero (.inl ht))
  restores1 _ := nofun
  restores2 := h.restores2
  resumes _ := .inr (.inr (.inl rfl))

/-- The first timer of motor 2 gives its output back and starts the second. -/
theorem Safe.act2 (h : a.Safe) (ht : a.act2 = true) :
    Safe { a with act2 := false, turn2 := true, detect2 := true } where
  locked := h.locked
  closed h0 := absurd h0 (h.valve_ne_zero (.inr (.inl ht)))
  restores1 := h.restores1
  restores2 _ := nofun
  resumes _ := .inr (.inr (.inr rfl))

/-- The Detect timer of test 1 expires: the test is over. -/
theorem Safe.end1 (h : a.Safe) (ht : a.detect1 = true) :
    Safe { a with detect1 := false, turn1 := true, keyPause := 0, waterPause := 0 } where
  locked := h.locked
  closed h0 := absurd h0 (h.valve_ne_zero (.inr (.inr (.inl ht))))
  restores1 _ := nofun
  restores2 := h.restores2
  resumes := by simp

/-- The end of the test of motor 2 ends the pause. -/
theorem Safe.end2 (h : a.Safe) (ht : a.detect2 = true) :
    Safe { a with detect2 := false, turn2 := true, keyPause := 0, waterPause := 0 } where
  locked := h.locked
  closed h0 := absurd h0 (h.valve_ne_zero (.inr (.inr (.inr ht))))
  restores1 := h.restores1
  restores2 _ := nofun
  resumes := by simp

/-- The probe is scanned again. -/
theorem Safe.resume (h : a.Safe) : Safe { a with waterPause := 0 } where
  locked := h.locked
  closed h0 := { h.closed h0 with }
  restores1 := h.restores1
  restores2 := h.restores2
  resumes hp := h.resumes (.inl (by simpa using hp))

/-- Erasing the registry forgets that the valve was closed remotely. -/
theorem Safe.erased (h : a.Safe) : Safe { a with lastFlag := 0 } where
  locked := nofun
  closed h0 := { h.closed h0 with }
  restores1 := h.restores1
  restores2 := h.restores2
  resumes := h.resumes

/-- The actuator after a reset. -/
def reset (lastFlag : UInt8) : Actuator :=
  ⟨lastFlag, 0, false, false, false, false, false, false, 0, 0⟩

/-- The actuator is safe when the firmware starts. -/
theorem safe_reset (lastFlag : UInt8) : (reset lastFlag).Safe :=
  ⟨fun _ => rfl, fun _ => ⟨rfl, rfl, rfl, rfl, rfl, rfl⟩, nofun, nofun, by simp [reset]⟩

end Actuator

/-! ## the firmware on the actuator -/

variable {s s' : State}

/-- Whether the valve may be opened is seen from the actuator. -/
private theorem mayOpen_actuator (actFlag : UInt8) (s : State) :
    mayOpen actFlag s ↔ ¬((actuator s).lastFlag = otherOff ∧ actFlag ≠ otherOpen) := by
  unfold mayOpen
  rw [show (actuator s).lastFlag = s.globalDevice.lastFlag from rfl]
  tauto

private theorem actuator_motoInitOpen (actFlag : UInt8) (s : State) :
    actuator (motoInitOpen actFlag s) = (actuator s).openAs actFlag := by
  unfold motoInitOpen Actuator.openAs
  by_cases hm : mayOpen actFlag s
  · rw [if_pos hm, if_neg ((mayOpen_actuator actFlag s).mp hm)]
    rfl
  · rw [if_neg hm, if_pos (not_not.mp (mt (mayOpen_actuator actFlag s).mpr hm))]

/-- `Moto_Open` on the actuator. -/
private theorem actuator_motoOpen (actFlag : UInt8) (s : State) :
    actuator (motoOpen actFlag s) = (actuator s).openAs actFlag := by
  unfold motoOpen Actuator.openAs
  by_cases hm : mayOpen actFlag s
  · rw [if_pos hm, if_neg ((mayOpen_actuator actFlag s).mp hm)]
    by_cases hf : actFlag = normalOpen
    · obtain ⟨mq, hmq⟩ := queueOnly_controlUploadGW 1 0 1 1
        (writeTurns true (setLastFlag actFlag { s with nowStatus := .opened, valveStatus := 1 }))
      simp only [if_pos hf, hmq]
      rfl
    · simp only [if_neg hf]
      rfl
  · rw [if_neg hm, if_pos (not_not.mp (mt (mayOpen_actuator actFlag s).mpr hm))]

/-- `Moto_Close` on the actuator. -/
private theorem actuator_motoClose (actFlag : UInt8) (s : State) :
    actuator (motoClose actFlag s) = (actuator s).closeAs actFlag := by
  unfold motoClose Actuator.closeAs
  rw [show (actuator s).lastFlag = s.globalDevice.lastFlag from rfl]
  by_cases hoff : s.globalDevice.lastFlag = otherOff
  · rw [if_neg (not_not.mpr hoff), if_neg (not_not.mpr hoff)]
    by_cases hf : actFlag = otherOff
    · rw [if_pos ⟨hoff, hf⟩, if_pos hf]
      rfl
    · rw [if_neg (by tauto), if_neg hf]
  · rw [if_pos hoff, if_pos hoff]
    by_cases hf : actFlag = normalOff
    · obtain ⟨mq, hmq⟩ := queueOnly_controlUploadGW 1 0 1 0
        (setLastFlag actFlag { s with nowStatus := .close, valveStatus := 0 })
      simp only [if_pos hf, hmq]
      rfl
    · simp only [if_neg hf]
      rfl

/-- `Moto_Detect` on the actuator. -/
private theorem actuator_motoDetect (pins : Pins) (s : State) :
    actuator (motoDetect pins s) = (actuator s).detect pins := by
  unfold motoDetect Actuator.detect
  rw [show (actuator s).valve = s.valveStatus from rfl]
  split
  · dsimp only
    repeat' split
    all_goals rfl
  · rfl

/-! ## the registry on the actuator -/

/-- The actuator but for `LastFlag`, which the registry holds. -/
private def hardware (s : State) : Actuator := { actuator s with lastFlag := 0 }

/-- Writing the table does not touch the outputs. -/
private theorem TableOnly.hardware (h : TableOnly s s') :
    WaterValve.hardware s' = WaterValve.hardware s := by
  obtain ⟨_, _, _, _, _, _, _, _, rfl⟩ := h
  rfl

/-- The operations on the table leave `LastFlag` alone; only erasing it resets
the flag. -/
private theorem lastFlag_registryStep {a : RegistryAction} (hwf : s.Wf) (ha : a.OnTable)
    (hs : registryStep s a = some s') :
    s'.globalDevice.lastFlag = s.globalDevice.lastFlag ∨ s'.globalDevice.lastFlag = 0 := by
  cases a <;> simp only [registryStep, Option.some.injEq, Option.map_eq_some_iff] at hs
  case learn buf =>
    subst hs
    obtain ⟨num, -, hw⟩ | hsame | halive := hwf.learned_cases (learned_deviceLearn buf s)
    · exact .inl hw.lastFlag
    · exact .inl (by rw [hsame])
    · rw [halive]
      exact .inl (onlyDevice_deviceAliveChange 1).lastFlag
  case deleteDevice deviceID =>
    subst hs
    refine .inl ?_
    by_cases hslot : s.slotOf deviceID = 0
    · exact congrArg (·.2.globalDevice.lastFlag) (Storage.deleteDevice_of_invalid hslot)
    · exact (hwf.writesSlot_deleteDevice hslot).lastFlag
  case deleteAllDevice => exact .inr (hs ▸ rfl)
  case deviceAliveChange deviceID value =>
    exact .inl (hs ▸ (onlyDevice_deviceAliveChange value).lastFlag)
  case updateDeviceBat deviceID bat => exact .inl (hs ▸ (onlyDevice_updateDeviceBat bat).lastFlag)
  case updateDeviceRssi deviceID rssi =>
    exact .inl (hs ▸ (onlyDevice_updateDeviceRssi rssi).lastFlag)
  case clearDeviceTime deviceID => exact .inl (hs ▸ onlyDevice_clearDeviceTime.lastFlag)
  case flashSetSlaveAlarmFlag deviceID flag =>
    exact .inl (hs ▸ (onlyDevice_flashSetSlaveAlarmFlag flag).lastFlag)
  case updateAllTime =>
    obtain ⟨st, hst, rfl⟩ := hs
    obtain ⟨idTime, getMesssage, rfl⟩ := onlyTimes_updateAllTime hwf hst
    exact .inl rfl
  case clearAllTime =>
    obtain ⟨st, hst, rfl⟩ := hs
    obtain ⟨idTime, getMesssage, rfl⟩ := onlyTimes_clearAllTime hwf hst
    exact .inl rfl
  all_goals exact ha.elim

/-- What they do to the actuator is what they do to `LastFlag`. -/
private theorem actuator_registryStep {a : RegistryAction} (hwf : s.Wf) (ha : a.OnTable)
    (hs : registryStep s a = some s') :
    actuator s' = actuator s ∨ actuator s' = { actuator s with lastFlag := 0 } := by
  have hflag : actuator s' = { hardware s' with lastFlag := s'.globalDevice.lastFlag } := rfl
  rw [hflag, (tableOnly_registryStep ha hs).hardware]
  obtain hl | hl := lastFlag_registryStep hwf ha hs <;> rw [hl]
  · exact .inl rfl
  · exact .inr rfl

/-! ## every state -/

/-- Neither does a sync. -/
private theorem SyncOnly.actuator (h : SyncOnly s s') :
    WaterValve.actuator s' = WaterValve.actuator s := by
  obtain ⟨mq, n, t, rfl⟩ := h
  rfl

/-- The registry is reachable and the actuator safe. -/
private structure SafeState (s : State) : Prop where
  reach : registryMachine.Reachable s
  safe : (actuator s).Safe

/-- Safety is kept by all the code. -/
private theorem kept_safeState : Kept AnyDetour SafeState where
  other h hs := by
    have ha : actuator _ = actuator _ := congrArg (·.2.1) hs
    exact ⟨kept_reachable.other h.reach hs, ha ▸ h.safe⟩
  table h ha hs := by
    refine ⟨kept_reachable.table h.reach ha hs, ?_⟩
    obtain heq | hzero := actuator_registryStep (registryMachine_wf h.reach) ha hs
    · exact heq ▸ h.safe
    · exact hzero ▸ h.safe.erased
  initOpen h _ hf :=
    ⟨kept_reachable.initOpen h.reach hf, actuator_motoInitOpen _ _ ▸ h.safe.openAs hf⟩
  openAs h _ hf := ⟨kept_reachable.openAs h.reach hf, actuator_motoOpen _ _ ▸ h.safe.openAs hf⟩
  closeAs h actFlag :=
    ⟨kept_reachable.closeAs h.reach actFlag, actuator_motoClose _ _ ▸ h.safe.closeAs actFlag⟩
  detect h pins :=
    ⟨kept_reachable.detect h.reach pins, actuator_motoDetect _ _ ▸ h.safe.detect pins⟩
  act1 h ht := ⟨kept_reachable.act1 h.reach ht, h.safe.act1 ht⟩
  act2 h ht := ⟨kept_reachable.act2 h.reach ht, h.safe.act2 ht⟩
  end1 h ht := ⟨kept_reachable.end1 h.reach ht, h.safe.end1 ht⟩
  end2 h ht := ⟨kept_reachable.end2 h.reach ht, h.safe.end2 ht⟩
  resume h := ⟨kept_reachable.resume h.reach, h.safe.resume⟩
  sync hok _ _ h hs := ⟨kept_reachable.sync hok h.reach hs, hs.actuator ▸ h.safe⟩
  load hok _ _ h hst rom := ⟨kept_reachable.load hok h.reach hst rom, Actuator.safe_reset _⟩

/-- **The self-test never fights the valve**, in any state of any run. -/
theorem valveMachine_safe {rom : UInt32} {ok : State → Action → Prop}
    (h : (valveMachine rom).ReachableVia ok s) : (actuator s).Safe := by
  have hinv : SafeState s := by
    refine h.invariant (fun s ⟨pins, hboot⟩ => ?_) fun _ _ _ hI _ hs =>
      kept_step kept_safeState hI (fun _ _ => trivial) hs
    have hreset : SafeState (State.reset .default) :=
      ⟨.init ⟨rfl, rfl⟩, Actuator.safe_reset _⟩
    exact kept_boot kept_safeState trivial hreset rfl hboot
  exact hinv.safe

/-- **The actuator and its self-test.**  A closed valve is at rest: its outputs
are low and no timer of the self-test runs.  An output that is low while the
valve is open is about to be restored.  Keys or probe are paused only while a
timer of the self-test runs, which will resume them. -/
theorem actuator_invariant {rom : UInt32} (h : (valveMachine rom).Reachable s) :
    (s.valveStatus = 0 → s.turn1 = false ∧ s.turn2 = false ∧
      s.moto1TimerAct = false ∧ s.moto2TimerAct = false ∧
      s.moto1TimerDetect = false ∧ s.moto2TimerDetect = false) ∧
    (s.valveStatus = 1 → (s.turn1 = false → s.moto1TimerAct = true) ∧
      (s.turn2 = false → s.moto2TimerAct = true)) ∧
    (s.keyPauseFlag = 1 ∨ s.waterAlarmPause = 1 →
      s.moto1TimerAct = true ∨ s.moto2TimerAct = true ∨
      s.moto1TimerDetect = true ∨ s.moto2TimerDetect = true) := by
  have hsafe := valveMachine_safe h
  refine ⟨fun h0 => ?_, fun h1 => ⟨hsafe.restores1 h1, hsafe.restores2 h1⟩, hsafe.resumes⟩
  have hrest := hsafe.closed h0
  exact ⟨hrest.turn1, hrest.turn2, hrest.act1, hrest.act2, hrest.detect1, hrest.detect2⟩

/-- The test after an opening by key, with both sensors at their end: both
outputs are released. -/
def testRun : List Action :=
  [pressK1, pressK0, .motoDetectTimer { dryPins with senor1 := true, senor2 := true }]

/-- While the test runs, the keys are paused and the Act timers are running. -/
theorem actuator_invariant_testing :
    ∃ s, (valveMachine 0).runFrom started testRun = some s ∧
      s.turn1 = false ∧ s.keyPauseFlag = 1 ∧ s.moto1TimerAct = true := by
  have hrun : (((valveMachine 0).runFrom started testRun).map fun s =>
      (s.valveStatus, s.turn1, s.keyPauseFlag)) = some (1, false, 1) := by decide +kernel
  obtain ⟨s, hs, hobs⟩ := Option.map_eq_some_iff.mp hrun
  obtain ⟨hv, ht, hk⟩ : s.valveStatus = 1 ∧ s.turn1 = false ∧ s.keyPauseFlag = 1 := by
    simpa using hobs
  exact ⟨s, hs, ht, hk, ((actuator_invariant (started_reachable.runFrom hs)).2.1 hv).1 ht⟩

end WaterValve
