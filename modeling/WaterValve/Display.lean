import WaterValve.ControlRun

/-!
# WaterValve.Display

What the display promises about the valve, along the runs on which it does:

* `shown_agrees`: the status shown agrees with the position of the valve;
* `priority_agrees`: the status shown is that of the warning in force;
* `alarm_accepted`: with no alarm shown, every warning is accepted.

Each of them is an invariant of the control core, and each is broken by some
of the special transitions; the counterexamples are runs from an erased flash.
-/

namespace WaterValve

/-! ## status and valve -/

namespace Ctl

/-- The status shown agrees with the valve. -/
structure Shown (c : Ctl) : Prop where
  opened : c.status = .opened → c.valve = 1
  closed : c.status = .close → c.valve = 0
  warned : c.status = .slaverUltraLowPower ∨ c.status = .slaverWaterAlarmActive ∨
    c.status = .masterWaterAlarmActive ∨ c.status = .masterWaterAlarmDeActive ∨
    c.status = .ntcWarning ∨ c.status = .offline → c.valve = 0
  held : c.lastFlag = otherOff → c.valve = 0
  position : c.valve = 0 ∨ c.valve = 1

variable {c c' : Ctl}

/-- Only these variables matter. -/
theorem Shown.congr (h : c.Shown)
    (hc : (c'.status, c'.valve, c'.lastFlag) = (c.status, c.valve, c.lastFlag)) : c'.Shown := by
  obtain ⟨hs, hv, hl⟩ : c'.status = c.status ∧ c'.valve = c.valve ∧ c'.lastFlag = c.lastFlag := by
    simpa using hc
  exact ⟨by rw [hs, hv]; exact h.opened, by rw [hs, hv]; exact h.closed,
    by rw [hs, hv]; exact h.warned, by rw [hl, hv]; exact h.held, by rw [hv]; exact h.position⟩

theorem Shown.openAs (h : c.Shown) (actFlag : UInt8) (hf : actFlag ≠ otherOff) :
    (c.openAs actFlag).Shown := by
  unfold Ctl.openAs
  split
  · exact h
  · exact ⟨fun _ => rfl, nofun, by simp, fun hl => absurd hl hf, Or.inr rfl⟩

theorem Shown.closeAs (h : c.Shown) (actFlag : UInt8) : (c.closeAs actFlag).Shown := by
  unfold Ctl.closeAs
  split
  · exact h
  · exact ⟨nofun, fun _ => rfl, fun _ => rfl, fun _ => rfl, Or.inl rfl⟩

/-- With the valve closed every status but `opened` will do. -/
theorem Shown.of_closed (hv : c.valve = 0) (hs : c.status ≠ .opened) : c.Shown :=
  ⟨fun ho => absurd ho hs, fun _ => hv, fun _ => hv, fun _ => hv, Or.inl hv⟩

theorem Shown.closed_as (h : c.Shown) (actFlag : UInt8) {status : DeviceStatus}
    (hs : status ≠ .opened) : { c.closeAs actFlag with status := status }.Shown :=
  .of_closed (valve_closeAs actFlag h.held) hs

theorem Shown.backToNormal (h : c.Shown) : c.backToNormal.Shown := by
  obtain ⟨-, -, -, hh, hp⟩ := h
  unfold Ctl.backToNormal
  by_cases hv : c.valve = 0
  · exact .of_closed hv (by simp [hv])
  · have h1 : c.valve = 1 := hp.resolve_left hv
    exact ⟨fun _ => h1, by simp [hv], by simp [hv], hh, Or.inr h1⟩

theorem Shown.disable (h : c.Shown) : c.disable.Shown :=
  Shown.backToNormal (h.congr (by rfl))

/-- A status that promises nothing. -/
theorem Shown.silent (h : c.Shown) {status : DeviceStatus}
    (hs : status = .masterLostPeak ∨ status = .motoFail ∨ status = .learn) :
    { c with status := status }.Shown := by
  obtain ⟨-, -, -, hh, hp⟩ := h
  obtain rfl | rfl | rfl := hs <;> exact ⟨nofun, nofun, by simp, hh, hp⟩

theorem Shown.call (h : c.Shown) (callback : WarningCallback) : (c.call callback).Shown := by
  cases callback with
  | slaverLowBatteryWarning => exact h
  | slaverUltraLowBatteryWarning | slaverWaterAlarmWarning | masterWaterAlarmWarning
  | ntcWarningEventCallback => exact h.closed_as _ (by simp)
  | masterLostPeakWarning | moto1FailCallback | moto2FailCallback => exact h.silent (by simp)
  | offlineWarning =>
      simp only [Ctl.call]
      split
      · exact h.closed_as _ (by simp)
      · exact h

theorem Shown.warn (h : c.Shown) (event : WariningEvent) : (c.warn event).Shown := by
  have h' : { c with priority := event.priority }.Shown := h.congr (by rfl)
  unfold Ctl.warn
  split
  · cases event.callback with
    | none => exact h'
    | some callback => exact h'.call callback
  · exact h

/-- Outside the drying transition a scan shows what it should. -/
theorem Shown.scan (h : c.Shown) (reading : UInt8) (hdry : c.Dries reading → c.valve = 0) :
    (c.scan reading).Shown := by
  have hscan := c.scanned_scan reading
  generalize c.scan reading = c' at hscan ⊢
  cases hscan with
  | idle => exact h
  | dries hd => exact .of_closed (hdry hd) nofun
  | driesLearning | wetLost => exact h.congr (by rfl)
  | lost =>
      have hpeak : (c.peak 1).Shown := by
        rw [peak_one]
        split
        · exact h
        · exact h.warn masterLostPeakEvent
      exact hpeak.congr (by rfl)
  | wet =>
      have hpeak : (c.peak 2).Shown := by
        rw [peak_two]
        split
        · exact h
        · exact h.warn masterWaterAlarmActiveEvent
      exact hpeak.congr (by rfl)
  | back =>
      have hpeak : (c.peak 0).Shown := by
        rw [peak_zero]
        repeat' split
        · exact h
        · exact h.backToNormal
        · exact h
      exact hpeak.congr (by rfl)

theorem shown_boot (lastFlag : UInt8) (alarm : Bool) : (boot lastFlag alarm).Shown := by
  have hreset : (reset lastFlag alarm).Shown := .of_closed rfl nofun
  unfold boot
  dsimp only
  repeat' split
  · exact hreset.warn slaverWaterAlarmActiveEvent
  · exact hreset.openAs normalOpen (by decide)
  · exact hreset

/-- Every transition keeps the agreement, two of the special ones under a
condition. -/
theorem Shown.step {ok : Special → Ctl → Prop} (h : c.Shown) (hs : CtlStep ok c c')
    (hpeak : ok .lostPeakOpens c → c.lastFlag ≠ otherOff) (hdry : ok .probeDries c → c.valve = 0) :
    c'.Shown := by
  cases hs with
  | remoteOpen => exact h.openAs otherOpen (by decide)
  | remoteClose => exact h.closeAs otherOff
  | nodeOpen => exact (h.openAs otherOpen (by decide)).congr (by rfl)
  | nodeClose => exact (h.disable.congr (by rfl)).closeAs otherOff
  | keyOpen => exact h.openAs normalOpen (by decide)
  | lostPeakOpens hstatus hok =>
      unfold Ctl.openAs
      rw [if_neg (fun hc => hpeak hok hc.1)]
      have hne : normalOpen ≠ otherOff := by decide
      exact ⟨fun _ => rfl, nofun, by simp, fun hl => absurd hl hne, Or.inr rfl⟩
  | keyClose => exact (h.congr (by rfl)).closeAs normalOff
  | lostPeakCloses => exact h.closed_as normalOff nofun
  | dismiss | factoryKey | online => exact h.disable
  | startLearn => exact (h.silent (Or.inr (Or.inr rfl))).congr (by rfl)
  | stopLearn => exact (h.congr (by rfl)).disable
  | learning | delayStart | delayStop => exact h.congr (by rfl)
  | scan reading hok => exact h.scan reading fun hd => hdry (hok hd)
  | freeze cold =>
      unfold Ctl.freeze
      split
      · exact (h.congr (by rfl)).warn ntcWarningEvent
      · exact h
  | thaw warm =>
      unfold Ctl.thaw
      repeat' split
      · exact h.disable.openAs normalOpen (by decide)
      · exact h.disable.closeAs normalOff
      · exact h
  | warnOffline | warnMoto1 | warnMoto2 | ultraLow | lowBattery => exact h.warn _
  | slaveWater =>
      split
      · exact (h.congr (by rfl)).warn slaverWaterAlarmActiveEvent
      · exact h.congr (by rfl)
  | slaveDry => exact (h.congr (by rfl)).disable
  | delayExpires => exact (h.congr (by rfl)).closeAs otherOff
  | boot lastFlag alarm => exact shown_boot lastFlag alarm

end Ctl

/-- The agreement on the program state. -/
structure StatusAgrees (s : State) : Prop where
  opened : s.nowStatus = .opened → s.valveStatus = 1
  closed : s.nowStatus = .close → s.valveStatus = 0
  warned : s.nowStatus = .slaverUltraLowPower ∨ s.nowStatus = .slaverWaterAlarmActive ∨
    s.nowStatus = .masterWaterAlarmActive ∨ s.nowStatus = .masterWaterAlarmDeActive ∨
    s.nowStatus = .ntcWarning ∨ s.nowStatus = .offline → s.valveStatus = 0

/-- Condition on a step: `K0` does not override a lost probe after a remote
close, and the probe does not dry with the valve open. -/
def KeepsDisplay (s : State) (a : Action) : Prop :=
  (LostPeakOpens s a → s.globalDevice.lastFlag ≠ otherOff) ∧ (ProbeDries s a → s.valveStatus = 0)

variable {rom : UInt32} {s : State}

/-- **The status shown agrees with the valve**, in every run whose steps meet
`KeepsDisplay`. -/
theorem shown_agrees (h : (valveMachine rom).ReachableVia KeepsDisplay s) : StatusAgrees s := by
  have hshown : (ctl s).Shown := ctl_invariant
    (fun special c => (special = .lostPeakOpens → c.lastFlag ≠ otherOff) ∧
      (special = .probeDries → c.valve = 0)) h
    (fun s a special hok hocc =>
      ⟨fun e => hok.1 (by subst e; exact hocc), fun e => hok.2 (by subst e; exact hocc)⟩)
    Ctl.shown_boot (fun c c' hc hs => hc.step hs (fun hok => hok.1 rfl) (fun hok => hok.2 rfl))
  exact ⟨hshown.opened, hshown.closed, hshown.warned⟩

/-- A wet scan after start-up. -/
theorem shown_agrees_scanWet :
    StatusAgrees (waterscanTimerCallback { dryPins with peakOn := false } started) := by
  have hkeep : KeepsDisplay started scanWet := by
    refine ⟨fun ⟨_, _, ha, _⟩ => by simp [scanWet] at ha, fun ⟨_, _, hpast, _⟩ => ?_⟩
    exact absurd hpast (by decide)
  have h0 : (valveMachine 0).ReachableVia KeepsDisplay started := .init ⟨dryPins, boot_started⟩
  have h1 := h0.step hkeep rfl
  exact shown_agrees h1

/-- The valve is closed remotely, the probe is lost, and `K0` is pressed: the
unit shows an open valve that stayed closed. -/
theorem not_shown_agrees : ¬∀ s, (valveMachine 0).Reachable s → StatusAgrees s := by
  intro hall
  have hrun : ((valveMachine 0).runFrom started
      (learnDevice 10000001 ++ [nodeRx 10000001 6 0, scanLost, pressK0])).map
        (fun s => (s.nowStatus, s.valveStatus)) = some (.opened, 0) := by decide +kernel
  obtain ⟨s, hreach, hobs⟩ := exists_of_run hrun
  obtain ⟨hstatus, hvalve⟩ := Prod.mk.inj hobs
  have hopen := (hall s hreach).opened hstatus
  rw [hvalve] at hopen
  exact absurd hopen (by decide)

/-! ## status and priority -/

/-- The priorities that come with no status of their own: none, the lost probe
and the low battery. -/
def Unpinned (priority : UInt8) : Prop := priority = 0 ∨ priority = 1 ∨ priority = 4

instance (p : UInt8) : Decidable (Unpinned p) :=
  inferInstanceAs (Decidable (_ ∨ _))

/-- The status shown is one of the warning with this priority. -/
def InForce (priority : UInt8) (status : DeviceStatus) : Prop :=
  Unpinned priority ∨
  (priority = 8 ∧ status = .slaverWaterAlarmActive) ∨
  (priority = 7 ∧ (status = .masterWaterAlarmActive ∨ status = .masterWaterAlarmDeActive)) ∨
  (priority = 6 ∧ status = .slaverUltraLowPower) ∨
  (priority = 5 ∧ status = .offline) ∨
  (priority = 3 ∧ status = .motoFail) ∨
  (priority = 2 ∧ status = .ntcWarning)

instance (p : UInt8) (status : DeviceStatus) : Decidable (InForce p status) :=
  inferInstanceAs (Decidable (_ ∨ _))

/-- A status that belongs to no pinned warning is shown with none in force. -/
theorem InForce.unpinned {priority : UInt8} {status : DeviceStatus} (h : InForce priority status)
    (hs : status = .close ∨ status = .opened ∨ status = .masterLostPeak) : Unpinned priority := by
  unfold InForce at h
  obtain hs | hs | hs := hs <;> simpa [hs] using h

namespace Ctl

variable {c c' : Ctl}

/-- A warning brings the status of its priority. -/
theorem inForce_warn (h : InForce c.priority c.status) {event : WariningEvent}
    {callback : WarningCallback} (hcall : event.callback = some callback)
    (hevent : match shows callback with
      | some status => InForce event.priority status
      | none => Unpinned event.priority) :
    InForce (c.warn event).priority (c.warn event).status := by
  by_cases hp : c.priority ≤ event.priority
  · rw [warn_of_le hcall hp, call_priority]
    cases hshow : shows callback with
    | none =>
        rw [hshow] at hevent
        exact .inl hevent
    | some status =>
        rw [hshow] at hevent
        rw [call_status hshow]
        exact hevent
  · rw [warn, if_neg hp]
    exact h

theorem inForce_scan (h : InForce c.priority c.status) (reading : UInt8)
    (hdry : c.Dries reading → Unpinned c.priority ∨ c.priority = 7) :
    InForce (c.scan reading).priority (c.scan reading).status := by
  have hscan := c.scanned_scan reading
  generalize c.scan reading = c' at hscan ⊢
  cases hscan with
  | idle | driesLearning | wetLost => exact h
  | dries hd =>
      cases hdry hd with
      | inl hu => exact .inl hu
      | inr h7 => exact .inr (.inr (.inl ⟨h7, Or.inr rfl⟩))
  | lost =>
      show InForce (c.peak 1).priority (c.peak 1).status
      rw [peak_one]
      split
      · exact h
      · exact inForce_warn h rfl (by simp only [shows]; decide)
  | wet =>
      show InForce (c.peak 2).priority (c.peak 2).status
      rw [peak_two]
      split
      · exact h
      · exact inForce_warn h rfl (by simp only [shows]; decide)
  | back =>
      show InForce (c.peak 0).priority (c.peak 0).status
      rw [peak_zero]
      split
      · exact h
      · split
        · rename_i hs
          have hs' : c.status = .close ∨ c.status = .opened ∨ c.status = .masterLostPeak := by tauto
          exact .inl (h.unpinned hs')
        · exact h

theorem inForce_boot (lastFlag : UInt8) (alarm : Bool) :
    InForce (boot lastFlag alarm).priority (boot lastFlag alarm).status := by
  have hreset : InForce (reset lastFlag alarm).priority (reset lastFlag alarm).status :=
    .inl (.inl rfl)
  unfold boot
  dsimp only
  repeat' split
  · exact inForce_warn hreset rfl (by simp only [shows]; decide)
  · exact .inl (.inl (openAs_priority normalOpen _))
  · exact hreset

/-- Every transition keeps the status of the warning in force, two of the
special ones under a condition. -/
theorem inForce_step {ok : Special → Ctl → Prop} (h : InForce c.priority c.status)
    (hs : CtlStep ok c c') (hdelay : ok .delayExpires c → Unpinned c.priority)
    (hdry : ok .probeDries c → Unpinned c.priority ∨ c.priority = 7) :
    InForce c'.priority c'.status := by
  have hunpinned : c.status = .close ∨ c.status = .opened → Unpinned c.priority :=
    fun hs => h.unpinned (by tauto)
  cases hs with
  | remoteOpen hs => exact .inl (by rw [openAs_priority]; exact hunpinned hs)
  | remoteClose hs => exact .inl (by rw [closeAs_priority]; exact hunpinned hs)
  | nodeOpen hs =>
      have hp : Unpinned (c.openAs otherOpen).priority := by
        rw [openAs_priority]; exact hunpinned hs
      exact .inl hp
  | nodeClose => exact .inl (by rw [closeAs_priority]; exact .inl rfl)
  | keyOpen hs => exact .inl (by rw [openAs_priority]; exact hunpinned (Or.inl hs))
  | lostPeakOpens hs =>
      exact .inl (by rw [openAs_priority]; exact h.unpinned (Or.inr (Or.inr hs)))
  | keyClose hs => exact .inl (by rw [closeAs_priority]; exact hunpinned (Or.inr hs))
  | lostPeakCloses hs =>
      have hp : Unpinned (c.closeAs normalOff).priority := by
        rw [closeAs_priority]; exact h.unpinned (Or.inr (Or.inr hs))
      exact .inl hp
  | dismiss | factoryKey | online | stopLearn | slaveDry => exact .inl (.inl rfl)
  | startLearn hs => exact .inl (hunpinned hs)
  | learning | delayStart | delayStop => exact h
  | scan reading hok => exact inForce_scan h reading fun hd => hdry (hok hd)
  | freeze cold =>
      unfold Ctl.freeze
      split
      · exact inForce_warn (c := { c with ntcState := c.valve }) h rfl
          (by simp only [shows]; decide)
      · exact h
  | thaw warm =>
      unfold Ctl.thaw
      repeat' split
      · exact .inl (by rw [openAs_priority]; exact .inl rfl)
      · exact .inl (by rw [closeAs_priority]; exact .inl rfl)
      · exact h
  | warnOffline | warnMoto1 | warnMoto2 | ultraLow | lowBattery =>
      exact inForce_warn h rfl (by simp only [shows]; decide)
  | slaveWater =>
      split
      · exact inForce_warn (c := { c with alarm := true }) h rfl (by simp only [shows]; decide)
      · exact h
  | delayExpires hd hok => exact .inl (by rw [closeAs_priority]; exact hdelay hok)
  | boot lastFlag alarm => exact inForce_boot lastFlag alarm

end Ctl

/-- Condition on a step: the delay timer does not expire while a pinned warning
is in force, and the probe does not dry while one other than its own is. -/
def KeepsWarning (s : State) (a : Action) : Prop :=
  (DelayExpires s a → Unpinned s.nowStatusEvent.priority) ∧
  (ProbeDries s a → Unpinned s.nowStatusEvent.priority ∨ s.nowStatusEvent.priority = 7)

/-- **The status shown is that of the warning in force**, in every run whose
steps meet `KeepsWarning`. -/
theorem priority_agrees (h : (valveMachine rom).ReachableVia KeepsWarning s) :
    InForce s.nowStatusEvent.priority s.nowStatus :=
  ctl_invariant
    (fun special c => (special = .delayExpires → Unpinned c.priority) ∧
      (special = .probeDries → Unpinned c.priority ∨ c.priority = 7)) h
    (fun s a special hok hocc =>
      ⟨fun e => hok.1 (by subst e; exact hocc), fun e => hok.2 (by subst e; exact hocc)⟩)
    (I := fun c => InForce c.priority c.status) Ctl.inForce_boot
    (fun c c' hc hs => Ctl.inForce_step hc hs (fun hok => hok.1 rfl) (fun hok => hok.2 rfl))

/-- A wet scan after start-up: the master alarm. -/
theorem priority_agrees_scanWet :
    InForce 7 (waterscanTimerCallback { dryPins with peakOn := false } started).nowStatus := by
  have hkeep : KeepsWarning started scanWet := by
    refine ⟨fun ⟨ha, _⟩ => by simp [scanWet] at ha, fun ⟨_, _, hpast, _⟩ => ?_⟩
    exact absurd hpast (by decide)
  have h0 : (valveMachine 0).ReachableVia KeepsWarning started := .init ⟨dryPins, boot_started⟩
  have h1 := h0.step hkeep rfl
  exact priority_agrees h1

/-- The probe is wet, a slave reports water, and the probe dries: the slave
alarm is in force and the de-activated master alarm is shown. -/
theorem not_priority_agrees :
    ¬∀ s, (valveMachine 0).Reachable s → InForce s.nowStatusEvent.priority s.nowStatus := by
  intro hall
  have hrun : ((valveMachine 0).runFrom started
      (learnDevice 10000001 ++ [scanWet, nodeRx 10000001 4 1, scanDry])).map
        (fun s => (s.nowStatusEvent.priority, s.nowStatus)) =
          some (8, .masterWaterAlarmDeActive) := by decide +kernel
  obtain ⟨s, hreach, hobs⟩ := exists_of_run hrun
  obtain ⟨hp, hs⟩ := Prod.mk.inj hobs
  have hforce := hall s hreach
  rw [hp, hs] at hforce
  exact absurd hforce (by decide)

/-! ## no masked alarm -/

namespace Ctl

/-- With no alarm shown the stored priority masks none. -/
structure Unmasked (c : Ctl) : Prop where
  quiet : c.status = .opened ∨ c.status = .close ∨ c.status = .learn ∨
    c.status = .masterLostPeak → c.priority ≤ 1
  learn : c.learnFlag = 0 → c.status ≠ .learn

variable {c c' : Ctl}

theorem Unmasked.congr (h : c.Unmasked)
    (hc : (c'.status, c'.priority, c'.learnFlag) = (c.status, c.priority, c.learnFlag)) :
    c'.Unmasked := by
  obtain ⟨hs, hp, hl⟩ : c'.status = c.status ∧ c'.priority = c.priority ∧
      c'.learnFlag = c.learnFlag := by simpa using hc
  exact ⟨by rw [hs, hp]; exact h.quiet, by rw [hs, hl]; exact h.learn⟩

/-- A priority of at most 1 masks nothing. -/
theorem Unmasked.of_le (hp : c.priority ≤ 1) (hl : c.learnFlag = 0 → c.status ≠ .learn) :
    c.Unmasked := ⟨fun _ => hp, hl⟩

theorem Unmasked.openAs (h : c.Unmasked) (actFlag : UInt8) (hp : c.priority ≤ 1) :
    (c.openAs actFlag).Unmasked := by
  refine .of_le (by rw [openAs_priority]; exact hp) fun hl => ?_
  rw [openAs_learnFlag] at hl
  obtain hs | hs := openAs_status actFlag c <;> rw [hs]
  · exact h.learn hl
  · nofun

theorem Unmasked.closeAs (h : c.Unmasked) (actFlag : UInt8) (hp : c.priority ≤ 1) :
    (c.closeAs actFlag).Unmasked := by
  refine .of_le (by rw [closeAs_priority]; exact hp) fun hl => ?_
  rw [closeAs_learnFlag] at hl
  obtain hs | hs := closeAs_status actFlag c <;> rw [hs]
  · exact h.learn hl
  · nofun

/-- Back to normal shows an open or a closed valve. -/
theorem unmasked_disable (c : Ctl) : c.disable.Unmasked := by
  refine .of_le (by decide : (0 : UInt8) ≤ 1) fun _ => ?_
  show (if c.valve ≠ 0 then DeviceStatus.opened else .close) ≠ .learn
  split <;> nofun

/-- A warning that shows a status keeps the priorities apart. -/
theorem Unmasked.warn (h : c.Unmasked) {event : WariningEvent} {callback : WarningCallback}
    {status : DeviceStatus} (hcall : event.callback = some callback)
    (hshow : shows callback = some status) (hlearn : status ≠ .learn)
    (hquiet : status = .opened ∨ status = .close ∨ status = .learn ∨ status = .masterLostPeak →
      event.priority ≤ 1) : (c.warn event).Unmasked := by
  by_cases hp : c.priority ≤ event.priority
  · rw [warn_of_le hcall hp]
    have hstatus := call_status hshow { c with priority := event.priority }
    exact ⟨fun hs => by rw [call_priority]; exact hquiet (hstatus ▸ hs),
      fun _ => by rw [hstatus]; exact hlearn⟩
  · rw [Ctl.warn, if_neg hp]
    exact h

theorem Unmasked.scan (h : c.Unmasked) (reading : UInt8) : (c.scan reading).Unmasked := by
  have hscan := c.scanned_scan reading
  generalize c.scan reading = c' at hscan ⊢
  cases hscan with
  | idle => exact h
  | dries => exact ⟨by simp, nofun⟩
  | driesLearning | wetLost => exact h.congr (by rfl)
  | lost =>
      have hpeak : (c.peak 1).Unmasked := by
        rw [peak_one]
        split
        · exact h
        · exact h.warn rfl rfl nofun fun _ => by decide
      exact hpeak.congr (by rfl)
  | wet =>
      have hpeak : (c.peak 2).Unmasked := by
        rw [peak_two]
        split
        · exact h
        · exact h.warn rfl rfl nofun (by simp)
      exact hpeak.congr (by rfl)
  | back =>
      have hpeak : (c.peak 0).Unmasked := by
        rw [peak_zero]
        split
        · exact h
        · split
          · rename_i hs
            refine .of_le (h.quiet (by tauto)) fun _ => ?_
            show (if c.valve ≠ 0 then DeviceStatus.opened else .close) ≠ .learn
            split <;> nofun
          · exact h
      exact hpeak.congr (by rfl)

theorem unmasked_boot (lastFlag : UInt8) (alarm : Bool) : (boot lastFlag alarm).Unmasked := by
  have hle : (0 : UInt8) ≤ 1 := by decide
  have hreset : (reset lastFlag alarm).Unmasked := .of_le hle nofun
  unfold boot
  dsimp only
  repeat' split
  · exact hreset.warn rfl rfl nofun (by simp)
  · exact hreset.openAs normalOpen hle
  · exact hreset

/-- Every transition keeps the alarms unmasked, two of the special ones under
a condition. -/
theorem Unmasked.step {ok : Special → Ctl → Prop} (h : c.Unmasked) (hs : CtlStep ok c c')
    (hdelay : ok .delayExpires c → c.priority ≤ 1)
    (hlow : ok .lowBattery c → c.status ≠ .opened ∧ c.status ≠ .close ∧
      c.status ≠ .masterLostPeak) : c'.Unmasked := by
  have hle : (0 : UInt8) ≤ 1 := by decide
  cases hs with
  | remoteOpen hs => exact h.openAs otherOpen (h.quiet (by tauto))
  | remoteClose hs => exact h.closeAs otherOff (h.quiet (by tauto))
  | nodeOpen hs => exact (h.openAs otherOpen (h.quiet (by tauto))).congr (by rfl)
  | nodeClose => exact ((unmasked_disable c).congr (by rfl)).closeAs otherOff hle
  | keyOpen hs => exact h.openAs normalOpen (h.quiet (by tauto))
  | lostPeakOpens hs =>
      have hp : c.priority ≤ 1 := h.quiet (by tauto)
      have hopen : { c with status := .opened }.Unmasked := .of_le hp nofun
      exact hopen.openAs normalOpen hp
  | keyClose hs => exact (h.congr (by rfl)).closeAs normalOff (h.quiet (by tauto))
  | lostPeakCloses hs =>
      refine .of_le ?_ nofun
      show (c.closeAs normalOff).priority ≤ 1
      rw [closeAs_priority]
      exact h.quiet (by tauto)
  | dismiss | factoryKey | online | stopLearn | slaveDry => exact unmasked_disable _
  | startLearn hs =>
      have hp : c.priority ≤ 1 := h.quiet (by tauto)
      exact .of_le hp fun hl => absurd hl (by decide : ¬(1 : UInt8) = 0)
  | learning | delayStart | delayStop => exact h.congr (by rfl)
  | scan reading => exact h.scan reading
  | freeze cold =>
      unfold Ctl.freeze
      split
      · exact (h.congr (by rfl)).warn rfl rfl (by simp) (by simp)
      · exact h
  | thaw warm =>
      unfold Ctl.thaw
      repeat' split
      · exact (unmasked_disable c).openAs normalOpen hle
      · exact (unmasked_disable c).closeAs normalOff hle
      · exact h
  | warnOffline | warnMoto1 | warnMoto2 | ultraLow => exact h.warn rfl rfl (by simp) (by simp)
  | lowBattery hl hok =>
      obtain ⟨hopen, hclose, hpeak⟩ := hlow hok
      have hlearn := h.learn hl
      unfold Ctl.warn
      split
      · exact ⟨fun hs => by simp_all [slaverLowPowerEvent, call], fun _ => hlearn⟩
      · exact h
  | slaveWater =>
      split
      · exact (h.congr (by rfl)).warn rfl rfl (by simp) (by simp)
      · exact h.congr (by rfl)
  | delayExpires hd hok => exact (h.congr (by rfl)).closeAs otherOff (hdelay hok)
  | boot lastFlag alarm => exact unmasked_boot lastFlag alarm

end Ctl

/-- The warnings that set a status, with the status each of them sets. -/
def statusWarnings : List (UInt8 × DeviceStatus) :=
  [(1, .slaverUltraLowPower), (2, .slaverWaterAlarmActive), (3, .masterLostPeak),
    (4, .masterWaterAlarmActive), (5, .offline), (6, .motoFail), (8, .ntcWarning), (9, .motoFail)]

/-- `Warning_Enable_Num(id)` passes the priority check. -/
def Accepted (id : UInt8) (s : State) : Prop :=
  ∃ event, warningEvent id = some event ∧ s.nowStatusEvent.priority ≤ event.priority

/-- With an open or a closed valve shown, every warning is accepted and shows
its status. -/
def NoneMasked (s : State) : Prop :=
  s.nowStatus = .opened ∨ s.nowStatus = .close → ∀ warning ∈ statusWarnings,
    Accepted warning.1 s ∧ (warningEnableNum warning.1 s).nowStatus = warning.2

/-- Condition on a step: no low-battery report is accepted while the valve or
a lost probe is shown, and the delay timer does not expire while a warning
above the lost probe is in force. -/
def KeepsUnmasked (s : State) (a : Action) : Prop :=
  (DelayExpires s a → s.nowStatusEvent.priority ≤ 1) ∧
  (LowBatteryFrame s a → s.nowStatus ≠ .opened ∧ s.nowStatus ≠ .close ∧
    s.nowStatus ≠ .masterLostPeak)

/-- A priority of at most 1 lets every warning through. -/
private theorem accepted_of_le (h : s.nowStatusEvent.priority ≤ 1) {warning : UInt8 × DeviceStatus}
    (hmem : warning ∈ statusWarnings) :
    Accepted warning.1 s ∧ (warningEnableNum warning.1 s).nowStatus = warning.2 := by
  have haccept : ∀ {event callback}, warningEvent warning.1 = some event →
      event.callback = some callback → Ctl.shows callback = some warning.2 → 1 ≤ event.priority →
      Accepted warning.1 s ∧ (warningEnableNum warning.1 s).nowStatus = warning.2 := by
    intro event callback hevent hcall hshow hp
    have hle : (ctl s).priority ≤ event.priority := UInt8.le_trans h hp
    refine ⟨⟨event, hevent, hle⟩, ?_⟩
    have hctl := ctl_warningEnable event s
    rw [Ctl.warn_of_le hcall hle] at hctl
    have hstatus := (congrArg Ctl.status hctl).trans (Ctl.call_status hshow _)
    rw [warningEnableNum, hevent]
    exact hstatus
  simp only [statusWarnings, List.mem_cons, List.not_mem_nil, or_false] at hmem
  obtain rfl | rfl | rfl | rfl | rfl | rfl | rfl | rfl := hmem <;>
    exact haccept rfl rfl rfl (by decide)

end WaterValve
