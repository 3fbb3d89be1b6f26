import WaterValve.Work
import Mathlib.Logic.Relation

/-!
# WaterValve.Control

The control core of the firmware: what decides the status shown and the
position of the valve.  `Ctl` holds those variables and nothing of the queues,
the registry table or the gateway; `CtlStep` lists the transitions between
its values, each with the guard the code checks.

Six of the transitions are the ones the safety properties turn on: the
expiry of the delay timer, the probe drying, `K0` pressed while the probe is
lost, `K1` pressed in factory mode, a low-battery frame, and an open command of
the gateway.  They are `Special`; a run may be restricted to those that satisfy
a condition `ok`.
-/

namespace WaterValve

open Relation

/-- The control variables.  `alarm` is `Flash_Get_SlaveAlarmFlag()`, `past` and
`handled` are the probe history `WarningPastStatus` and `WarningStatus`. -/
structure Ctl where
  status : DeviceStatus
  priority : UInt8
  valve : UInt8
  lastFlag : UInt8
  delay : Bool
  learnFlag : UInt8
  learnTimer : Bool
  past : UInt8
  handled : UInt8
  alarm : Bool
  lastClose : UInt8
  ntcState : UInt8
  deriving DecidableEq

namespace Ctl

/-! ## operations -/

/-- `Moto_Open`: refused after a remote close unless it is remote too. -/
def openAs (actFlag : UInt8) (c : Ctl) : Ctl :=
  if c.lastFlag = otherOff ∧ actFlag ≠ otherOpen then c
  else { c with status := .opened, valve := 1, lastFlag := actFlag, delay := false }

/-- `Moto_Close`: refused after a remote close unless it is remote too. -/
def closeAs (actFlag : UInt8) (c : Ctl) : Ctl :=
  if c.lastFlag = otherOff ∧ actFlag ≠ otherOff then c
  else { c with status := .close, valve := 0, lastFlag := actFlag, delay := false }

def backToNormal (c : Ctl) : Ctl :=
  { c with status := if c.valve ≠ 0 then .opened else .close, past := 0, handled := 0 }

/-- `Warning_Disable`. -/
def disable (c : Ctl) : Ctl := { c with priority := 0 }.backToNormal

/-- The effect of a warning callback. -/
def call : WarningCallback → Ctl → Ctl
  | .slaverLowBatteryWarning, c => c
  | .slaverUltraLowBatteryWarning, c => { c.closeAs otherOff with status := .slaverUltraLowPower }
  | .slaverWaterAlarmWarning, c => { c.closeAs otherOff with status := .slaverWaterAlarmActive }
  | .masterLostPeakWarning, c => { c with status := .masterLostPeak }
  | .masterWaterAlarmWarning, c => { c.closeAs normalOff with status := .masterWaterAlarmActive }
  | .ntcWarningEventCallback, c => { c.closeAs normalOff with status := .ntcWarning }
  | .offlineWarning, c =>
    if c.status ≠ .offline then { c.closeAs normalOff with status := .offline } else c
  | .moto1FailCallback, c => { c with status := .motoFail }
  | .moto2FailCallback, c => { c with status := .motoFail }

/-- `Warning_Enable`. -/
def warn (event : WariningEvent) (c : Ctl) : Ctl :=
  if c.priority ≤ event.priority then
    match event.callback with
    | some callback => { c with priority := event.priority }.call callback
    | none => { c with priority := event.priority }
  else c

/-- The probe reaction `WarningWithPeak`, outside learn mode. -/
def peak (status : Nat) (c : Ctl) : Ctl :=
  if c.status = .learn then c
  else
    match status with
    | 0 =>
      if c.status = .opened ∨ c.status = .close ∨ c.status = .masterLostPeak then c.backToNormal
      else c
    | 1 => c.warn masterLostPeakEvent
    | 2 => c.warn masterWaterAlarmActiveEvent
    | 3 => { c with status := .masterWaterAlarmDeActive }
    | 4 => c.warn masterWaterAlarmActiveEvent
    | _ => c

/-- A dry probe that is plugged in. -/
theorem peak_zero (c : Ctl) : c.peak 0 = if c.status = .learn then c
    else if c.status = .opened ∨ c.status = .close ∨ c.status = .masterLostPeak then c.backToNormal
    else c := rfl

/-- A probe that is lost. -/
theorem peak_one (c : Ctl) :
    c.peak 1 = if c.status = .learn then c else c.warn masterLostPeakEvent := rfl

/-- A wet probe. -/
theorem peak_two (c : Ctl) :
    c.peak 2 = if c.status = .learn then c else c.warn masterWaterAlarmActiveEvent := rfl

/-- A scan of the probe. -/
def scan (reading : UInt8) (c : Ctl) : Ctl :=
  if reading ≠ c.past then
    if c.past = 2 ∧ reading = 0 then
      if c.handled ≠ 1 then peak 3 { c with handled := 1 } else c
    else if c.past = 2 ∧ reading = 1 then
      if c.handled ≠ 2 then { c with handled := 2 } else c
    else if c.past = 0 ∧ reading = 1 then
      if c.handled ≠ 4 then { c.peak 1 with past := 1, handled := 4 } else c
    else if c.past = 0 ∧ reading = 2 then
      if c.handled ≠ 8 then { c.peak 2 with past := 2, handled := 8 } else c
    else if c.past = 1 ∧ reading = 0 then
      if c.handled ≠ 16 then { c.peak 0 with past := 0, handled := 16 } else c
    else if c.past = 1 ∧ reading = 2 then
      if c.handled ≠ 32 then { c.peak 4 with past := 2, handled := 32 } else c
    else c
  else c

/-- A scan that takes the probe from wet to dry outside learn mode, which
shows the de-activated alarm whatever is shown before. -/
def Dries (reading : UInt8) (c : Ctl) : Prop :=
  c.past = 2 ∧ reading = 0 ∧ c.handled ≠ 1 ∧ c.status ≠ .learn

/-- The first half of a scan of the freeze sensor. -/
def freeze (cold : Bool) (c : Ctl) : Ctl :=
  if cold ∧ c.status ≠ .ntcWarning then { c with ntcState := c.valve }.warn ntcWarningEvent else c

/-- The second half: back to where the valve was. -/
def thaw (warm : Bool) (c : Ctl) : Ctl :=
  if warm ∧ c.status = .ntcWarning then
    if c.ntcState ≠ 0 then c.disable.openAs normalOpen else c.disable.closeAs normalOff
  else c

/-! ## what opening and closing leave alone -/

@[simp] theorem openAs_learnFlag (actFlag : UInt8) (c : Ctl) :
    (c.openAs actFlag).learnFlag = c.learnFlag := by
  unfold openAs; split <;> rfl

@[simp] theorem closeAs_learnFlag (actFlag : UInt8) (c : Ctl) :
    (c.closeAs actFlag).learnFlag = c.learnFlag := by
  unfold closeAs; split <;> rfl

/-- Opening shows the open valve or is refused. -/
theorem openAs_status (actFlag : UInt8) (c : Ctl) :
    (c.openAs actFlag).status = c.status ∨ (c.openAs actFlag).status = .opened := by
  unfold openAs; split <;> simp

/-- Closing shows the closed valve or is refused. -/
theorem closeAs_status (actFlag : UInt8) (c : Ctl) :
    (c.closeAs actFlag).status = c.status ∨ (c.closeAs actFlag).status = .close := by
  unfold closeAs; split <;> simp

/-- A close that is refused finds the valve closed. -/
theorem valve_closeAs {c : Ctl} (actFlag : UInt8) (h : c.lastFlag = otherOff → c.valve = 0) :
    (c.closeAs actFlag).valve = 0 := by
  unfold closeAs
  split
  · rename_i hc; exact h hc.1
  · rfl

@[simp] theorem openAs_priority (actFlag : UInt8) (c : Ctl) :
    (c.openAs actFlag).priority = c.priority := by
  unfold openAs; split <;> rfl

@[simp] theorem closeAs_priority (actFlag : UInt8) (c : Ctl) :
    (c.closeAs actFlag).priority = c.priority := by
  unfold closeAs; split <;> rfl

@[simp] theorem openAs_alarm (actFlag : UInt8) (c : Ctl) :
    (c.openAs actFlag).alarm = c.alarm := by
  unfold openAs; split <;> rfl

@[simp] theorem closeAs_alarm (actFlag : UInt8) (c : Ctl) :
    (c.closeAs actFlag).alarm = c.alarm := by
  unfold closeAs; split <;> rfl

@[simp] theorem openAs_learnTimer (actFlag : UInt8) (c : Ctl) :
    (c.openAs actFlag).learnTimer = c.learnTimer := by
  unfold openAs; split <;> rfl

@[simp] theorem closeAs_learnTimer (actFlag : UInt8) (c : Ctl) :
    (c.closeAs actFlag).learnTimer = c.learnTimer := by
  unfold closeAs; split <;> rfl

@[simp] theorem openAs_past (actFlag : UInt8) (c : Ctl) : (c.openAs actFlag).past = c.past := by
  unfold openAs; split <;> rfl

@[simp] theorem closeAs_past (actFlag : UInt8) (c : Ctl) : (c.closeAs actFlag).past = c.past := by
  unfold closeAs; split <;> rfl

@[simp] theorem openAs_handled (actFlag : UInt8) (c : Ctl) :
    (c.openAs actFlag).handled = c.handled := by
  unfold openAs; split <;> rfl

@[simp] theorem closeAs_handled (actFlag : UInt8) (c : Ctl) :
    (c.closeAs actFlag).handled = c.handled := by
  unfold closeAs; split <;> rfl

/-! ## what a warning shows -/

@[simp] theorem call_priority (callback : WarningCallback) (c : Ctl) :
    (c.call callback).priority = c.priority := by
  cases callback <;> simp only [call, closeAs_priority]
  split <;> simp

@[simp] theorem call_alarm (callback : WarningCallback) (c : Ctl) :
    (c.call callback).alarm = c.alarm := by
  cases callback <;> simp only [call, closeAs_alarm]
  split <;> simp

/-- No warning sets or clears the alarm of a slave. -/
@[simp] theorem warn_alarm (event : WariningEvent) (c : Ctl) : (c.warn event).alarm = c.alarm := by
  unfold warn
  split
  · cases event.callback with
    | none => rfl
    | some callback => exact call_alarm callback _
  · rfl

/-- The status a warning shows; the low battery shows none. -/
def shows : WarningCallback → Option DeviceStatus
  | .slaverLowBatteryWarning => none
  | .slaverUltraLowBatteryWarning => some .slaverUltraLowPower
  | .slaverWaterAlarmWarning => some .slaverWaterAlarmActive
  | .masterLostPeakWarning => some .masterLostPeak
  | .masterWaterAlarmWarning => some .masterWaterAlarmActive
  | .ntcWarningEventCallback => some .ntcWarning
  | .offlineWarning => some .offline
  | .moto1FailCallback | .moto2FailCallback => some .motoFail

/-- What a warning shows. -/
theorem call_status {callback : WarningCallback} {status : DeviceStatus}
    (h : shows callback = some status) (c : Ctl) : (c.call callback).status = status := by
  cases callback with
  | slaverLowBatteryWarning => cases h
  | offlineWarning =>
      cases h
      simp only [call]
      split
      · rfl
      · rename_i hoff; exact not_not.mp hoff
  | slaverUltraLowBatteryWarning | slaverWaterAlarmWarning | masterLostPeakWarning
  | masterWaterAlarmWarning | ntcWarningEventCallback | moto1FailCallback | moto2FailCallback =>
      cases h; rfl

/-- An accepted warning. -/
theorem warn_of_le {event : WariningEvent} {callback : WarningCallback} {c : Ctl}
    (hcall : event.callback = some callback) (h : c.priority ≤ event.priority) :
    c.warn event = { c with priority := event.priority }.call callback := by
  rw [warn, if_pos h, hcall]

/-- A warning shows its own status or leaves the shown one. -/
theorem warn_status {event : WariningEvent} {callback : WarningCallback}
    (hcall : event.callback = some callback) (c : Ctl) :
    (c.warn event).status = c.status ∨ shows callback = some (c.warn event).status := by
  by_cases hle : c.priority ≤ event.priority
  · rw [warn_of_le hcall hle]
    cases hshow : shows callback with
    | some status => exact .inr (congrArg some (call_status hshow _).symm)
    | none =>
        cases callback with
        | slaverLowBatteryWarning => exact .inl rfl
        | offlineWarning | slaverUltraLowBatteryWarning | slaverWaterAlarmWarning
        | masterLostPeakWarning | masterWaterAlarmWarning | ntcWarningEventCallback
        | moto1FailCallback | moto2FailCallback => cases hshow
  · exact .inl (by rw [warn, if_neg hle])

/-! ## what a scan can do -/

/-- The outcomes of a scan. -/
inductive Scanned (c : Ctl) (reading : UInt8) : Ctl → Prop
  | idle : Scanned c reading c
  | dries (h : c.Dries reading) :
      Scanned c reading { c with handled := 1, status := .masterWaterAlarmDeActive }
  | driesLearning (hpast : c.past = 2) (hlearn : c.status = .learn) :
      Scanned c reading { c with handled := 1 }
  | wetLost (hpast : c.past = 2) : Scanned c reading { c with handled := 2 }
  | lost (hpast : c.past = 0) : Scanned c reading { c.peak 1 with past := 1, handled := 4 }
  | wet (handled : UInt8) (hpast : c.past = 0 ∨ c.past = 1) (hwet : reading = 2)
      (hhandled : handled = 8 ∨ handled = 32) :
      Scanned c reading { c.peak 2 with past := 2, handled := handled }
  | back (hpast : c.past = 1) : Scanned c reading { c.peak 0 with past := 0, handled := 16 }

private theorem Scanned.ite {b : Prop} [Decidable b] {c c₁ c₂ : Ctl} {reading : UInt8}
    (h : b → c.Scanned reading c₁) (h' : ¬b → c.Scanned reading c₂) :
    c.Scanned reading (if b then c₁ else c₂) :=
  iteInduction h h'

/-- A scan is one of these. -/
theorem scanned_scan (c : Ctl) (reading : UInt8) : c.Scanned reading (c.scan reading) := by
  unfold scan
  refine .ite (fun _ => ?_) fun _ => .idle
  -- the transitions in the order of the source, each behind its `handled` guard
  refine .ite (fun h => .ite (fun hnew => ?_) fun _ => .idle) fun _ => ?_
  · by_cases hl : c.status = .learn
    · rw [peak, if_pos hl]
      exact .driesLearning h.1 hl
    · rw [peak, if_neg hl]
      exact .dries ⟨h.1, h.2, hnew, hl⟩
  refine .ite (fun h => .ite (fun _ => .wetLost h.1) fun _ => .idle) fun _ => ?_
  refine .ite (fun h => .ite (fun _ => .lost h.1) fun _ => .idle) fun _ => ?_
  refine .ite (fun h => .ite (fun _ => ?_) fun _ => .idle) fun _ => ?_
  · exact .wet 8 (Or.inl h.1) h.2 (Or.inl rfl)
  refine .ite (fun h => .ite (fun _ => .back h.1) fun _ => .idle) fun _ => ?_
  refine .ite (fun h => .ite (fun _ => ?_) fun _ => .idle) fun _ => .idle
  exact .wet 32 (Or.inr h.1) h.2 (Or.inr rfl)

/-! ## learn mode -/

/-- No warning enters or leaves learn mode. -/
theorem warn_learn (event : WariningEvent) (c : Ctl) :
    (c.warn event).learnFlag = c.learnFlag ∧ (c.warn event).learnTimer = c.learnTimer := by
  have hcall : ∀ (callback : WarningCallback) (c : Ctl),
      (c.call callback).learnFlag = c.learnFlag ∧ (c.call callback).learnTimer = c.learnTimer := by
    intro callback c
    cases callback <;> simp only [call, closeAs_learnFlag, closeAs_learnTimer, and_self]
    split <;> simp
  unfold warn
  split
  · cases event.callback with
    | none => exact ⟨rfl, rfl⟩
    | some callback => exact hcall callback _
  · exact ⟨rfl, rfl⟩

/-- Nor does a scan. -/
theorem scan_learn (reading : UInt8) (c : Ctl) :
    (c.scan reading).learnFlag = c.learnFlag ∧ (c.scan reading).learnTimer = c.learnTimer := by
  have hscan := c.scanned_scan reading
  generalize c.scan reading = c' at hscan ⊢
  cases hscan with
  | idle | dries | driesLearning | wetLost => exact ⟨rfl, rfl⟩
  | lost =>
      show (c.peak 1).learnFlag = c.learnFlag ∧ (c.peak 1).learnTimer = c.learnTimer
      rw [peak_one]
      split
      · exact ⟨rfl, rfl⟩
      · exact warn_learn ..
  | wet =>
      show (c.peak 2).learnFlag = c.learnFlag ∧ (c.peak 2).learnTimer = c.learnTimer
      rw [peak_two]
      split
      · exact ⟨rfl, rfl⟩
      · exact warn_learn ..
  | back =>
      show (c.peak 0).learnFlag = c.learnFlag ∧ (c.peak 0).learnTimer = c.learnTimer
      rw [peak_zero]
      repeat' split
      all_goals exact ⟨rfl, rfl⟩

/-! ## start-up -/

/-- After a reset, with the flag and the alarm found in flash. -/
def reset (lastFlag : UInt8) (alarm : Bool) : Ctl where
  status := .close
  priority := 0
  valve := 0
  lastFlag := lastFlag
  delay := false
  learnFlag := 0
  learnTimer := false
  past := 0
  handled := 0
  alarm := alarm
  lastClose := 0
  ntcState := 0

/-- `Moto_Init` on it. -/
def boot (lastFlag : UInt8) (alarm : Bool) : Ctl :=
  let c := reset lastFlag alarm
  if alarm then c.warn slaverWaterAlarmActiveEvent
  else if lastFlag ≠ otherOff then c.openAs normalOpen
  else c

end Ctl

/-! ## transitions -/

/-- The transitions the safety properties turn on. -/
inductive Special
  | delayExpires | probeDries | lostPeakOpens | factoryKey | lowBattery | gatewayOpens
  deriving DecidableEq

/-- The transitions of the control core.  A special one needs `ok`. -/
inductive CtlStep (ok : Special → Ctl → Prop) : Ctl → Ctl → Prop
  | remoteOpen {c : Ctl} (h : c.status = .close ∨ c.status = .opened) (hok : ok .gatewayOpens c) :
      CtlStep ok c (c.openAs otherOpen)
  | remoteClose {c : Ctl} (h : c.status = .close ∨ c.status = .opened) :
      CtlStep ok c (c.closeAs otherOff)
  | nodeOpen {c : Ctl} (h : c.status = .close ∨ c.status = .opened) :
      CtlStep ok c { c.openAs otherOpen with lastClose := 0 }
  | nodeClose {c : Ctl} (h : c.status = .close ∨ c.status = .opened) :
      CtlStep ok c ({ c.disable with lastClose := 1 }.closeAs otherOff)
  | keyOpen {c : Ctl} (h : c.status = .close) (hlast : c.lastClose = 0) :
      CtlStep ok c (c.openAs normalOpen)
  | lostPeakOpens {c : Ctl} (h : c.status = .masterLostPeak) (hok : ok .lostPeakOpens c) :
      CtlStep ok c ({ c with status := .opened }.openAs normalOpen)
  | keyClose {c : Ctl} (h : c.status = .opened) :
      CtlStep ok c ({ c with lastClose := 0 }.closeAs normalOff)
  | lostPeakCloses {c : Ctl} (h : c.status = .masterLostPeak) :
      CtlStep ok c { c.closeAs normalOff with status := .close }
  | dismiss {c : Ctl} (h : c.status = .masterWaterAlarmDeActive) : CtlStep ok c c.disable
  | factoryKey {c : Ctl} (hok : ok .factoryKey c) : CtlStep ok c c.disable
  | startLearn {c : Ctl} (h : c.status = .close ∨ c.status = .opened) :
      CtlStep ok c { c with status := .learn, learnFlag := 1, learnTimer := true }
  | stopLearn {c : Ctl} (h : c.learnTimer = true ∨ c.status = .learn) :
      CtlStep ok c { c with learnFlag := 0, learnTimer := false }.disable
  | learning {c : Ctl} (h : c.learnFlag ≠ 0) : CtlStep ok c { c with learnTimer := true }
  | scan {c : Ctl} (reading : UInt8) (hok : c.Dries reading → ok .probeDries c) :
      CtlStep ok c (c.scan reading)
  | freeze {c : Ctl} (cold : Bool) : CtlStep ok c (c.freeze cold)
  | thaw {c : Ctl} (warm : Bool) : CtlStep ok c (c.thaw warm)
  | warnOffline {c : Ctl} : CtlStep ok c (c.warn offlineEvent)
  | warnMoto1 {c : Ctl} : CtlStep ok c (c.warn moto1FailEvent)
  | warnMoto2 {c : Ctl} : CtlStep ok c (c.warn moto2FailEvent)
  | ultraLow {c : Ctl} (h : c.learnFlag = 0) : CtlStep ok c (c.warn slaverUltraLowPowerEvent)
  | lowBattery {c : Ctl} (h : c.learnFlag = 0) (hok : ok .lowBattery c) :
      CtlStep ok c (c.warn slaverLowPowerEvent)
  | slaveWater {c : Ctl} (h : c.learnFlag = 0) :
      CtlStep ok c (if c.status ≠ .slaverWaterAlarmActive then
        { c with alarm := true }.warn slaverWaterAlarmActiveEvent
      else { c with alarm := true })
  | slaveDry {c : Ctl} (h : c.alarm = true) : CtlStep ok c { c with alarm := false }.disable
  | delayStart {c : Ctl} (h : c.status = .opened) : CtlStep ok c { c with delay := true }
  | delayStop {c : Ctl} : CtlStep ok c { c with delay := false }
  | delayExpires {c : Ctl} (h : c.delay = true) (hok : ok .delayExpires c) :
      CtlStep ok c ({ c with delay := false }.closeAs otherOff)
  | online {c : Ctl} (h : c.status = .offline) : CtlStep ok c c.disable
  | boot {c : Ctl} (lastFlag : UInt8) (alarm : Bool) : CtlStep ok c (Ctl.boot lastFlag alarm)

/-- What one handler does: a sequence of transitions. -/
abbrev CtlRun (ok : Special → Ctl → Prop) : Ctl → Ctl → Prop := ReflTransGen (CtlStep ok)

/-- An invariant of the transitions holds after any sequence of them. -/
theorem CtlRun.invariant {ok : Special → Ctl → Prop} {I : Ctl → Prop} {c c' : Ctl}
    (h : CtlRun ok c c') (hI : I c) (hstep : ∀ c c', I c → CtlStep ok c c' → I c') : I c' := by
  induction h with
  | refl => exact hI
  | tail _ hlast ih => exact hstep _ _ ih hlast

/-- In learn mode the timer that ends it runs. -/
theorem CtlStep.learnTimer {ok : Special → Ctl → Prop} {c c' : Ctl}
    (h : c.learnFlag ≠ 0 → c.learnTimer = true) (hs : CtlStep ok c c') :
    c'.learnFlag ≠ 0 → c'.learnTimer = true := by
  have hwarn : ∀ (event : WariningEvent) (c : Ctl), (c.learnFlag ≠ 0 → c.learnTimer = true) →
      (c.warn event).learnFlag ≠ 0 → (c.warn event).learnTimer = true := by
    intro event c h
    rw [(c.warn_learn event).1, (c.warn_learn event).2]
    exact h
  cases hs with
  | remoteOpen | nodeOpen | keyOpen | lostPeakOpens => simpa using h
  | remoteClose | nodeClose | keyClose | lostPeakCloses | delayExpires =>
    simpa [Ctl.disable, Ctl.backToNormal] using h
  | dismiss | factoryKey | online | slaveDry => exact h
  | startLearn | learning => exact fun _ => rfl
  | stopLearn => exact fun hl => absurd rfl hl
  | scan reading =>
      rw [(c.scan_learn reading).1, (c.scan_learn reading).2]
      exact h
  | freeze cold =>
      unfold Ctl.freeze
      split
      · exact hwarn _ _ h
      · exact h
  | thaw warm =>
      unfold Ctl.thaw
      repeat' split
      · simpa [Ctl.disable, Ctl.backToNormal] using h
      · simpa [Ctl.disable, Ctl.backToNormal] using h
      · exact h
  | warnOffline | warnMoto1 | warnMoto2 | ultraLow | lowBattery => exact hwarn _ _ h
  | slaveWater =>
      split
      · exact hwarn _ _ h
      · exact h
  | delayStart | delayStop => exact h
  | boot lastFlag alarm =>
      unfold Ctl.boot
      dsimp only
      repeat' split
      · exact hwarn _ _ fun hl => absurd rfl hl
      · simp [Ctl.reset]
      · exact fun hl => absurd rfl hl

end WaterValve
