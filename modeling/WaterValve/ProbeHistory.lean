import WaterValve.SelfTestSafety
import WaterValve.WaterSafety

/-!
# WaterValve.ProbeHistory

What a scan of the probe does is settled by the history it keeps,
`WarningPastStatus` and `WarningStatus`:

* `wet_scan_active_iff`: a wet reading puts the water alarm in force, unless
  the history holds water already;
* `paused_scan_keeps_iff`: a scan during a motor self-test reads a dry probe,
  and changes nothing exactly when a dry probe is no news.

`Ctl.ProbeKnown` is what is known of the history in every reachable state.
-/

namespace WaterValve

/-! ## the history of the probe -/

namespace Ctl

variable {c c' : Ctl}

/-- A callback leaves the history alone, and so does a warning. -/
theorem call_history (callback : WarningCallback) (c : Ctl) :
    (c.call callback).past = c.past ∧ (c.call callback).handled = c.handled := by
  cases callback <;> simp only [call, closeAs_past, closeAs_handled, and_self]
  split <;> simp

theorem warn_history (event : WariningEvent) (c : Ctl) :
    (c.warn event).past = c.past ∧ (c.warn event).handled = c.handled := by
  unfold warn
  split
  · cases event.callback with
    | none => exact ⟨rfl, rfl⟩
    | some callback => exact call_history callback _
  · exact ⟨rfl, rfl⟩

theorem warn_priority_le {event : WariningEvent} (hc : c.priority ≤ 8)
    (he : event.priority ≤ 8) : (c.warn event).priority ≤ 8 := by
  unfold warn
  split
  · cases event.callback with
    | none => exact he
    | some callback => exact (call_priority callback _).symm ▸ he
  · exact hc

/-- The history of the probe in every reachable state.  The de-activated alarm
is only shown after water, and learn mode only in learn mode. -/
structure ProbeKnown (c : Ctl) : Prop where
  history : (c.past = 0 ∧ (c.handled = 0 ∨ c.handled = 16)) ∨ (c.past = 1 ∧ c.handled = 4) ∨
    (c.past = 2 ∧ (c.handled = 1 ∨ c.handled = 2 ∨ c.handled = 8 ∨ c.handled = 32))
  dried : c.status = .masterWaterAlarmDeActive → c.past = 2
  learn : c.learnFlag = 0 → c.status ≠ .learn
  bound : c.priority ≤ 8

/-- A transition that leaves the history and learn mode alone, and changes the
status shown, if it does, to another than these two. -/
theorem ProbeKnown.leave (h : c.ProbeKnown)
    (hc : (c'.past, c'.handled, c'.learnFlag) = (c.past, c.handled, c.learnFlag))
    (hs : c'.status = c.status ∨ c'.status ≠ .masterWaterAlarmDeActive ∧ c'.status ≠ .learn)
    (hp : c'.priority ≤ 8) : c'.ProbeKnown := by
  obtain ⟨hpast, hh, hl⟩ : c'.past = c.past ∧ c'.handled = c.handled ∧
      c'.learnFlag = c.learnFlag := by simpa using hc
  refine ⟨by rw [hpast, hh]; exact h.history, fun hdry => ?_, fun h0 => ?_, hp⟩
  · obtain hs | hs := hs
    · exact hpast.trans (h.dried (hs.symm.trans hdry))
    · exact absurd hdry hs.1
  · obtain hs | hs := hs
    · exact hs ▸ h.learn (hl.symm.trans h0)
    · exact hs.2

theorem ProbeKnown.openAs (h : c.ProbeKnown) (actFlag : UInt8) : (c.openAs actFlag).ProbeKnown := by
  refine h.leave (by simp) ?_ (by simpa using h.bound)
  obtain hs | hs := openAs_status actFlag c <;> simp [hs]

theorem ProbeKnown.closeAs (h : c.ProbeKnown) (actFlag : UInt8) :
    (c.closeAs actFlag).ProbeKnown := by
  refine h.leave (by simp) ?_ (by simpa using h.bound)
  obtain hs | hs := closeAs_status actFlag c <;> simp [hs]

theorem ProbeKnown.warn (h : c.ProbeKnown) {event : WariningEvent} {callback : WarningCallback}
    (hcall : event.callback = some callback) (hp : event.priority ≤ 8) :
    (c.warn event).ProbeKnown := by
  refine h.leave (by simp [warn_history, warn_learn]) ?_ (warn_priority_le h.bound hp)
  refine (warn_status hcall c).imp_right fun hshow => ?_
  cases callback <;> simp only [shows, Option.some.injEq, reduceCtorEq] at hshow <;>
    simp [← hshow]

theorem ProbeKnown.backToNormal (hp : c.priority ≤ 8) : c.backToNormal.ProbeKnown := by
  refine ⟨.inl ⟨rfl, .inl rfl⟩, ?_, ?_, hp⟩ <;>
    obtain hs | hs := c.backToNormal_status <;> simp [hs]

/-- Clearing the warning clears the history. -/
theorem ProbeKnown.disable (c : Ctl) : c.disable.ProbeKnown :=
  .backToNormal (c := { c with priority := 0 }) (by decide : (0 : UInt8) ≤ 8)

/-- Whatever a scan remembers, it was not showing the de-activated alarm when
the last reading was not water. -/
theorem ProbeKnown.remember (h : c.ProbeKnown) (hpast : c.past ≠ 2) {past handled : UInt8}
    (hnew : (past = 0 ∧ handled = 16) ∨ (past = 1 ∧ handled = 4) ∨
      (past = 2 ∧ (handled = 8 ∨ handled = 32))) :
    { c with past := past, handled := handled }.ProbeKnown := by
  refine ⟨?_, fun hdry => absurd (h.dried hdry) hpast, h.learn, h.bound⟩
  obtain ⟨rfl, rfl⟩ | ⟨rfl, rfl⟩ | ⟨rfl, rfl | rfl⟩ := hnew <;> simp

theorem ProbeKnown.scan (h : c.ProbeKnown) (reading : UInt8) : (c.scan reading).ProbeKnown := by
  have hscan := c.scanned_scan reading
  generalize c.scan reading = c' at hscan ⊢
  cases hscan with
  | idle => exact h
  | dries hd =>
      exact ⟨.inr (.inr ⟨hd.1, .inl rfl⟩), fun _ => hd.1, fun _ => by simp, h.bound⟩
  | driesLearning hpast =>
      exact ⟨.inr (.inr ⟨hpast, .inl rfl⟩), h.dried, h.learn, h.bound⟩
  | wetLost hpast =>
      exact ⟨.inr (.inr ⟨hpast, .inr (.inl rfl)⟩), h.dried, h.learn, h.bound⟩
  | lost hpast =>
      have hpeak : (c.peak 1).ProbeKnown ∧ (c.peak 1).past = c.past := by
        rw [peak_one]
        split
        · exact ⟨h, rfl⟩
        · exact ⟨h.warn rfl (by decide), (warn_history _ c).1⟩
      exact hpeak.1.remember (by rw [hpeak.2, hpast]; decide) (by simp)
  | wet handled hpast _ hh =>
      have hpeak : (c.peak 2).ProbeKnown ∧ (c.peak 2).past = c.past := by
        rw [peak_two]
        split
        · exact ⟨h, rfl⟩
        · exact ⟨h.warn rfl (by decide), (warn_history _ c).1⟩
      refine hpeak.1.remember ?_ (by simp [hh])
      obtain hpast | hpast := hpast <;> rw [hpeak.2, hpast] <;> decide
  | back hpast =>
      have h2 : c.past ≠ 2 := by rw [hpast]; decide
      have hpeak : (c.peak 0).ProbeKnown ∧ (c.peak 0).past ≠ 2 := by
        rw [peak_zero]
        split
        · exact ⟨h, h2⟩
        · split
          · exact ⟨.backToNormal h.bound, (by decide : (0 : UInt8) ≠ 2)⟩
          · exact ⟨h, h2⟩
      exact hpeak.1.remember hpeak.2 (by simp)

theorem probeKnown_boot (lastFlag : UInt8) (alarm : Bool) : (boot lastFlag alarm).ProbeKnown := by
  have hreset : (reset lastFlag alarm).ProbeKnown :=
    ⟨.inl ⟨rfl, .inl rfl⟩, nofun, nofun, (by decide : (0 : UInt8) ≤ 8)⟩
  unfold boot
  dsimp only
  split
  · exact hreset.warn rfl (by decide)
  · split
    · exact hreset.openAs normalOpen
    · exact hreset

/-- Every transition keeps the history known. -/
theorem ProbeKnown.step {ok : Special → Ctl → Prop} (h : c.ProbeKnown) (hs : CtlStep ok c c') :
    c'.ProbeKnown := by
  have hkeep : ∀ (c' : Ctl), (c'.past, c'.handled, c'.learnFlag, c'.status, c'.priority) =
      (c.past, c.handled, c.learnFlag, c.status, c.priority) → c'.ProbeKnown := by
    intro c' hc
    simp only [Prod.mk.injEq] at hc
    obtain ⟨hpast, hh, hl, hs, hp⟩ := hc
    exact h.leave (by simp [hpast, hh, hl]) (.inl hs) (hp ▸ h.bound)
  cases hs with
  | remoteOpen | keyOpen => exact h.openAs _
  | remoteClose => exact h.closeAs _
  | nodeOpen =>
      exact (h.openAs otherOpen).leave rfl (.inl rfl) (h.openAs otherOpen).bound
  | nodeClose =>
      have hd : { c.disable with lastClose := 1 }.ProbeKnown :=
        (ProbeKnown.disable c).leave rfl (.inl rfl) (ProbeKnown.disable c).bound
      exact hd.closeAs otherOff
  | lostPeakOpens =>
      have hshow : { c with status := .opened }.ProbeKnown :=
        h.leave rfl (.inr ⟨by simp, by simp⟩) h.bound
      exact hshow.openAs normalOpen
  | keyClose =>
      have hflag : { c with lastClose := 0 }.ProbeKnown := hkeep _ rfl
      exact hflag.closeAs normalOff
  | lostPeakCloses =>
      exact (h.closeAs normalOff).leave rfl (.inr ⟨by simp, by simp⟩) (h.closeAs normalOff).bound
  | dismiss | factoryKey | online | stopLearn | slaveDry => exact .disable _
  | startLearn =>
      exact ⟨h.history, nofun, fun hl => absurd hl (by decide : (1 : UInt8) ≠ 0), h.bound⟩
  | learning | delayStart | delayStop => exact hkeep _ rfl
  | scan reading => exact h.scan reading
  | freeze cold =>
      unfold Ctl.freeze
      split
      · have hntc : { c with ntcState := c.valve }.ProbeKnown := hkeep _ rfl
        exact hntc.warn rfl (by decide)
      · exact h
  | thaw warm =>
      unfold Ctl.thaw
      split
      · split
        · exact (ProbeKnown.disable c).openAs normalOpen
        · exact (ProbeKnown.disable c).closeAs normalOff
      · exact h
  | warnOffline | warnMoto1 | warnMoto2 | ultraLow | lowBattery => exact h.warn rfl (by decide)
  | slaveWater =>
      have halarm : { c with alarm := true }.ProbeKnown := hkeep _ rfl
      split
      · exact halarm.warn rfl (by decide)
      · exact halarm
  | delayExpires =>
      have hstop : { c with delay := false }.ProbeKnown := hkeep _ rfl
      exact hstop.closeAs otherOff
  | boot lastFlag alarm => exact probeKnown_boot lastFlag alarm

/-! ## a wet reading -/

/-- Water that the history holds is no news. -/
theorem scan_past (c : Ctl) : c.scan c.past = c := by
  rw [scan, if_neg (not_not.mpr rfl)]

/-- Water that it does not hold is, whatever was handled last. -/
theorem ProbeKnown.scan_wet (h : c.ProbeKnown) (hpast : c.past ≠ 2) :
    ∃ handled, c.scan 2 = { c.peak 2 with past := 2, handled := handled } := by
  obtain ⟨hp, hh⟩ | ⟨hp, hh⟩ | ⟨hp, -⟩ := h.history
  · exact ⟨8, by obtain hh | hh := hh <;> simp [Ctl.scan, hp, hh]⟩
  · exact ⟨32, by simp [Ctl.scan, hp, hh, peak]⟩
  · exact absurd hp hpast

/-- The water alarm of the own probe is in force, or the alarm of a slave
stands above it; and it is not shown as over. -/
def WaterActive (c : Ctl) : Prop :=
  (c.status = .masterWaterAlarmActive ∨ c.priority = 8) ∧ c.status ≠ .masterWaterAlarmDeActive

/-- Outside learn mode the alarm is raised, unless a slave alarm is above it. -/
theorem ProbeKnown.waterActive_peak (h : c.ProbeKnown) (hl : c.learnFlag = 0)
    (hpast : c.past ≠ 2) : (c.peak 2).WaterActive := by
  rw [peak_two, if_neg (h.learn hl)]
  by_cases hle : c.priority ≤ masterWaterAlarmActiveEvent.priority
  · rw [warn_of_le rfl hle]
    exact ⟨.inl rfl, by simp [call]⟩
  · have h8 : c.priority = 8 := by
      have h7 : (7 : UInt8) < c.priority := UInt8.not_le.mp hle
      have hb := h.bound
      rw [UInt8.lt_iff_toNat_lt] at h7
      rw [UInt8.le_iff_toNat_le] at hb
      exact UInt8.toNat_inj.mp (Nat.le_antisymm hb h7)
    rw [Ctl.warn, if_neg hle]
    exact ⟨.inr h8, fun hdry => hpast (h.dried hdry)⟩

theorem ProbeKnown.waterActive_scan_iff (h : c.ProbeKnown) (hl : c.learnFlag = 0) :
    (c.scan 2).WaterActive ↔ c.past ≠ 2 ∨ c.WaterActive := by
  by_cases hpast : c.past = 2
  · rw [show c.scan 2 = c from hpast ▸ c.scan_past]
    simp [hpast]
  · obtain ⟨handled, hscan⟩ := h.scan_wet hpast
    have hactive := h.waterActive_peak hl hpast
    rw [hscan]
    exact ⟨fun _ => .inl hpast, fun _ => hactive⟩

end Ctl

variable {rom : UInt32} {s : State}

theorem probeKnown_reachable (h : (valveMachine rom).Reachable s) : (ctl s).ProbeKnown :=
  ctl_invariant (fun _ _ => True) h (fun _ _ _ _ _ => trivial) Ctl.probeKnown_boot
    fun _ _ hc hs => hc.step hs

/-- The master alarm is shown, or the alarm of a slave stands above it, and the
alarm is not shown as over, when `K1` would dismiss it. -/
def WaterActive (s : State) : Prop :=
  (s.nowStatus = .masterWaterAlarmActive ∨ s.nowStatusEvent.priority = 8) ∧
    s.nowStatus ≠ .masterWaterAlarmDeActive

instance (s : State) : Decidable (WaterActive s) := inferInstanceAs (Decidable (_ ∧ _))

/-- **When a wet reading is an active alarm**: the history does not hold water,
or the alarm for the water it holds is active still. -/
theorem wet_scan_active_iff (h : (valveMachine rom).Reachable s) (hlearn : s.learnFlag = 0)
    (hpause : s.waterAlarmPause = 0) {pins : Pins} (hloss : pins.peakLoss = false)
    (hon : pins.peakOn = false) :
    WaterActive (waterscanTimerCallback pins s) ↔ s.warningPastStatus ≠ 2 ∨ WaterActive s := by
  have hscan := ctl_waterscanTimerCallback pins s
  rw [peakReading_wet hpause hloss hon] at hscan
  have hiff := (probeKnown_reachable h).waterActive_scan_iff hlearn
  rw [← hscan] at hiff
  exact hiff

/-- The first wet reading after start-up. -/
theorem wet_scan_active_started :
    WaterActive (waterscanTimerCallback { dryPins with peakOn := false } started) :=
  (wet_scan_active_iff started_reachable (by decide +kernel) (by decide +kernel) rfl rfl).mpr
    (.inl (by decide +kernel))

/-- Water, no water, and water again: the alarm is shown as over. -/
theorem not_wet_scan_active : ¬∀ s, (valveMachine 0).Reachable s → s.learnFlag = 0 →
    s.waterAlarmPause = 0 → ∀ pins : Pins, pins.peakLoss = false → pins.peakOn = false →
      WaterActive (waterscanTimerCallback pins s) := by
  intro hall
  let wet : Pins := { dryPins with peakOn := false }
  have hrun : ((valveMachine 0).runFrom started [scanWet, scanDry]).map
      (fun s => (s.learnFlag, s.waterAlarmPause, (waterscanTimerCallback wet s).nowStatus)) =
        some (0, 0, .masterWaterAlarmDeActive) := by decide +kernel
  obtain ⟨s, hreach, hobs⟩ := exists_of_run hrun
  simp only [Prod.mk.injEq] at hobs
  obtain ⟨hl, hpause, hstatus⟩ := hobs
  exact (hall s hreach hl hpause wet rfl rfl).2 hstatus

/-! ## a paused scan -/

/-- What the display, the warning in force, the valve and the transmit queue
show is unchanged. -/
@[mk_iff]
structure ScanKeeps (s s' : State) : Prop where
  nowStatus : s'.nowStatus = s.nowStatus
  nowStatusEvent : s'.nowStatusEvent = s.nowStatusEvent
  valveStatus : s'.valveStatus = s.valveStatus
  rfEnMq : s'.rfEnMq = s.rfEnMq

/-- An upload to the gateway is queued. -/
def Uploads (s : State) : Prop :=
  s.getGatewayID ≠ 0 ∧ s.gatewayID ≠ 0 ∧ s.rfEnMq.length < rfEnMqSize

/-- A dry probe is no news: learn mode ignores it; or the last reading handled
was dry; or it was lost, but no report can be queued and the status shown is
the one that follows; or it was water, and is shown or handled as over. -/
def DryIsNoNews (s : State) : Prop :=
  s.nowStatus = .learn ∨ s.warningPastStatus = 0 ∨
    (s.warningPastStatus = 1 ∧ ¬Uploads s ∧ s.nowStatus ≠ .masterLostPeak ∧
      (s.nowStatus = .opened → s.valveStatus ≠ 0) ∧ (s.nowStatus = .close → s.valveStatus = 0)) ∨
    (s.warningPastStatus = 2 ∧ (s.warningStatus = 1 ∨ s.nowStatus = .masterWaterAlarmDeActive))

theorem rfEnMq_warUploadGW_eq_iff (ack : UInt8) (deviceId : UInt32) (warnId value : UInt8)
    (s : State) : (warUploadGW ack deviceId warnId value s).rfEnMq = s.rfEnMq ↔ ¬Uploads s := by
  unfold warUploadGW gatewayWarningEnqueue rtMqSend Uploads
  split
  · split
    · split <;> simp [*]
    · simp [*]
  · simp [*]

theorem peakReading_paused (hpause : s.waterAlarmPause ≠ 0) (pins : Pins) :
    peakReading pins s = 0 := by
  simp [peakReading, getPeakLOSSLevel, getPeakONLevel, hpause]

/-- The scan that finds a lost probe back. -/
theorem scanKeeps_back_iff (hlearn : s.nowStatus ≠ .learn) :
    ScanKeeps s (peakHandled 16 (warningWithPeak 0 { s with warningNowStatus := 0 })) ↔
      ¬Uploads s ∧ s.nowStatus ≠ .masterLostPeak ∧
        (s.nowStatus = .opened → s.valveStatus ≠ 0) ∧
        (s.nowStatus = .close → s.valveStatus = 0) := by
  have hup := rfEnMq_warUploadGW_eq_iff 1 0 3 0 { s with warningNowStatus := 0 }
  obtain ⟨mq, hmq⟩ := queueOnly_warUploadGW 1 0 3 0 { s with warningNowStatus := 0 }
  rw [hmq] at hup
  have huploads : mq = s.rfEnMq ↔ ¬Uploads s := hup
  rw [scanKeeps_iff, ← huploads]
  have hdetect : detectLearn { s with warningNowStatus := 0 } = true := by
    simp [detectLearn, hlearn]
  rw [warningWithPeak, if_pos hdetect]
  simp only [hmq, peakHandled, backToNormal, waterScanClear]
  cases s.nowStatus <;> simp <;> by_cases hv : s.valveStatus = 0 <;> simp [hv]

/-- In learn mode no change of the probe has an effect. -/
theorem warningWithPeak_learn (status : Nat) (hlearn : s.nowStatus = .learn) :
    warningWithPeak status s = s := by
  simp [warningWithPeak, detectLearn, hlearn]

private theorem ScanKeeps.ite {b : Prop} [Decidable b] {s₁ s₂ : State} (h₁ : ScanKeeps s s₁)
    (h₂ : ScanKeeps s s₂) : ScanKeeps s (if b then s₁ else s₂) :=
  iteInduction (fun _ => h₁) fun _ => h₂

/-- Nor has any scan. -/
theorem scanKeeps_learn (hlearn : s.nowStatus = .learn) (pins : Pins) :
    ScanKeeps s (waterscanTimerCallback pins s) := by
  unfold waterscanTimerCallback
  refine .ite (.ite (.ite ?_ ?_) (.ite (.ite ?_ ?_) (.ite (.ite ?_ ?_) (.ite (.ite ?_ ?_)
    (.ite (.ite ?_ ?_) (.ite (.ite ?_ ?_) ?_)))))) ?_
  all_goals simp [scanKeeps_iff, warningWithPeak_learn, hlearn, peakHandled]

/-- **When a paused scan changes nothing**: a dry probe is no news. -/
theorem paused_scan_keeps_iff (h : (valveMachine rom).Reachable s)
    (hpause : s.waterAlarmPause = 1) (pins : Pins) :
    ScanKeeps s (waterscanTimerCallback pins s) ↔ DryIsNoNews s := by
  have hreading : peakReading pins s = 0 := peakReading_paused (by rw [hpause]; decide) pins
  have hhistory := (probeKnown_reachable h).history
  simp only [ctl] at hhistory
  rw [DryIsNoNews]
  by_cases hpast : s.warningPastStatus = 0
  · simp [waterscanTimerCallback, hreading, hpast, scanKeeps_iff]
  by_cases hlearn : s.nowStatus = .learn
  · simp [hlearn, scanKeeps_learn hlearn pins]
  obtain ⟨h0, -⟩ | ⟨h1, hhandled⟩ | ⟨h2, -⟩ := hhistory
  · exact absurd h0 hpast
  · have hback : waterscanTimerCallback pins s =
        peakHandled 16 (warningWithPeak 0 { s with warningNowStatus := 0 }) := by
      simp [waterscanTimerCallback, hreading, h1, hhandled]
    rw [hback, scanKeeps_back_iff hlearn]
    simp [h1, hlearn]
  · by_cases hover : s.warningStatus = 1
    · simp [waterscanTimerCallback, hreading, h2, hover, scanKeeps_iff]
    · have hdry : waterscanTimerCallback pins s =
          { s with
            warningNowStatus := 0, warningStatus := 1,
            nowStatus := .masterWaterAlarmDeActive } := by
        simp [waterscanTimerCallback, hreading, h2, hover, warningWithPeak, detectLearn, hlearn,
          masterStatusChangeToDeAvtive]
      rw [hdry, scanKeeps_iff]
      simp [h2, hover, hlearn, eq_comm]

/-- The valve opened by key, the probe lost, and the self-test of the motors. -/
def testLost : List Action :=
  [pressK1, pressK0, scanLost, .motoDetectTimer { dryPins with senor1 := true }]

/-- A self-test that finds the probe in place, and wet while it runs. -/
theorem paused_scan_keeps_testRun :
    ∃ s, (valveMachine 0).runFrom started testRun = some s ∧
      ScanKeeps s (waterscanTimerCallback { dryPins with peakOn := false } s) := by
  have hrun : ((valveMachine 0).runFrom started testRun).map
      (fun s => (s.waterAlarmPause, s.warningPastStatus)) = some (1, 0) := by decide +kernel
  obtain ⟨s, hs, hobs⟩ := Option.map_eq_some_iff.mp hrun
  simp only [Prod.mk.injEq] at hobs
  obtain ⟨hpause, hpast⟩ := hobs
  exact ⟨s, hs, (paused_scan_keeps_iff (started_reachable.runFrom hs) hpause _).mpr
    (.inr (.inl hpast))⟩

/-- The probe is still lost, and the paused scan shows it as back. -/
theorem not_paused_scan_keeps : ¬∀ s, (valveMachine 0).Reachable s → s.waterAlarmPause = 1 →
    ∀ pins : Pins, ScanKeeps s (waterscanTimerCallback pins s) := by
  intro hall
  let lost : Pins := { dryPins with peakLoss := true }
  have hrun : ((valveMachine 0).runFrom started testLost).map
      (fun s => (s.waterAlarmPause, s.nowStatus, (waterscanTimerCallback lost s).nowStatus)) =
        some (1, .masterLostPeak, .opened) := by decide +kernel
  obtain ⟨s, hreach, hobs⟩ := exists_of_run hrun
  simp only [Prod.mk.injEq] at hobs
  obtain ⟨hpause, hlost, hopened⟩ := hobs
  have hkeep := (hall s hreach hpause lost).nowStatus
  rw [hopened, hlost] at hkeep
  exact absurd hkeep (by decide)

end WaterValve
