import WaterValve.Undisturbed

/-!
# WaterValve.FreezeAlarm

The freeze alarm and the valve.  A cold reading saves the position of the valve
in `NTC_State` and closes it; the warm reading that ends the alarm restores the
position saved.

Every cold reading that does not find `NTCWarning` shown saves again, and by
then the alarm has closed the valve.  So an alarm that accepted with the valve
open restores it if and only if nothing has taken `NTCWarning` away in between
for a cold reading to find (`freeze_restores_valve_iff`).
-/

namespace WaterValve

variable {rom : UInt32} {cold : Bool} {s s' : State} {a : Action}

/-! ## the two positions of the valve -/

namespace Ctl

variable {c c' : Ctl}

/-- The valve is closed or open. -/
def AtEnd (c : Ctl) : Prop := c.valve = 0 ∨ c.valve = 1

theorem AtEnd.openAs (h : c.AtEnd) (actFlag : UInt8) : (c.openAs actFlag).AtEnd := by
  unfold Ctl.openAs
  split
  · exact h
  · exact .inr rfl

theorem AtEnd.closeAs (h : c.AtEnd) (actFlag : UInt8) : (c.closeAs actFlag).AtEnd := by
  unfold Ctl.closeAs
  split
  · exact h
  · exact .inl rfl

theorem AtEnd.call (h : c.AtEnd) (callback : WarningCallback) : (c.call callback).AtEnd := by
  cases callback with
  | slaverLowBatteryWarning | masterLostPeakWarning | moto1FailCallback | moto2FailCallback =>
      exact h
  | slaverUltraLowBatteryWarning | slaverWaterAlarmWarning => exact h.closeAs otherOff
  | masterWaterAlarmWarning | ntcWarningEventCallback => exact h.closeAs normalOff
  | offlineWarning =>
      simp only [Ctl.call]
      split
      · exact h.closeAs normalOff
      · exact h

theorem AtEnd.warn (h : c.AtEnd) (event : WariningEvent) : (c.warn event).AtEnd := by
  unfold Ctl.warn
  split
  · cases event.callback with
    | none => exact h
    | some callback => exact AtEnd.call (c := { c with priority := event.priority }) h callback
  · exact h

theorem AtEnd.peak (h : c.AtEnd) (status : Nat) : (c.peak status).AtEnd := by
  unfold Ctl.peak
  split
  · exact h
  · split
    · split <;> exact h
    · exact h.warn _
    · exact h.warn _
    · exact h
    · exact h.warn _
    · exact h

theorem AtEnd.scan (h : c.AtEnd) (reading : UInt8) : (c.scan reading).AtEnd := by
  have hscan := c.scanned_scan reading
  generalize c.scan reading = c' at hscan ⊢
  cases hscan with
  | idle | dries | driesLearning | wetLost => exact h
  | lost => exact h.peak 1
  | wet => exact h.peak 2
  | back => exact h.peak 0

theorem AtEnd.thaw (h : c.AtEnd) (warm : Bool) : (c.thaw warm).AtEnd := by
  have hdisabled : c.disable.AtEnd := h
  unfold Ctl.thaw
  split
  · split
    · exact hdisabled.openAs normalOpen
    · exact hdisabled.closeAs normalOff
  · exact h

theorem atEnd_boot (lastFlag : UInt8) (alarm : Bool) : (boot lastFlag alarm).AtEnd := by
  have hreset : (reset lastFlag alarm).AtEnd := .inl rfl
  unfold boot
  dsimp only
  repeat' split
  · exact hreset.warn _
  · exact hreset.openAs normalOpen
  · exact hreset

theorem AtEnd.step {ok : Special → Ctl → Prop} (h : c.AtEnd) (hs : CtlStep ok c c') :
    c'.AtEnd := by
  cases hs with
  | remoteOpen | nodeOpen => exact h.openAs otherOpen
  | keyOpen => exact h.openAs normalOpen
  | lostPeakOpens => exact AtEnd.openAs (c := { c with status := .opened }) h normalOpen
  | remoteClose => exact h.closeAs otherOff
  | nodeClose => exact AtEnd.closeAs (c := { c.disable with lastClose := 1 }) h otherOff
  | keyClose => exact AtEnd.closeAs (c := { c with lastClose := 0 }) h normalOff
  | lostPeakCloses => exact h.closeAs normalOff
  | delayExpires => exact AtEnd.closeAs (c := { c with delay := false }) h otherOff
  | dismiss | factoryKey | startLearn | stopLearn | learning | slaveDry | delayStart | delayStop
  | online => exact h
  | scan reading => exact h.scan reading
  | freeze cold =>
      unfold Ctl.freeze
      split
      · exact AtEnd.warn (c := { c with ntcState := c.valve }) h ntcWarningEvent
      · exact h
  | thaw warm => exact h.thaw warm
  | warnOffline | warnMoto1 | warnMoto2 | ultraLow | lowBattery => exact h.warn _
  | slaveWater =>
      split
      · exact AtEnd.warn (c := { c with alarm := true }) h _
      · exact h
  | boot lastFlag alarm => exact atEnd_boot lastFlag alarm

end Ctl

/-- **The valve is closed or open** in every reachable state. -/
theorem valveMachine_atEnd (h : (valveMachine rom).Reachable s) :
    s.valveStatus = 0 ∨ s.valveStatus = 1 :=
  ctl_invariant (fun _ _ => True) (I := Ctl.AtEnd) h (fun _ _ _ _ _ => trivial) Ctl.atEnd_boot
    fun _ _ hend hs => hend.step hs

/-! ## while the alarm lasts -/

/-- What holds from the warning on, which found the valve at `v`; `saved` tells
whether a later reading has saved the position again. -/
structure Frozen (v : UInt8) (s : State) (saved : Bool) : Prop where
  accepted : FreezeAccepted s
  closed : s.valveStatus = 0
  unlocked : s.globalDevice.lastFlag = otherOff → v = 0
  first : saved = false → s.ntcState = v
  again : saved = true → s.ntcState = 0

/-- The step saves the position of the valve. -/
def savesPosition (s : State) : Action → Bool
  | .ntcScanTimer cold _ => cold && s.nowStatus ≠ .ntcWarning
  | _ => false

/-- The firmware from an accepted freeze warning on, with whether a reading has
saved the position again. -/
def freezeMachine (rom : UInt32) (s₀ : State) : Machine (State × Bool) Action :=
  ((valveMachine rom).startedIn s₀).observed (fun _ => false) fun s saved a _ =>
    saved || savesPosition s a

/-- The step comes before the end of the alarm: no handler carries out a command
or accepts another warning, and no warm reading finds `NTCWarning`.  A reading is
not cold and warm at once, and a reset ends the run of complete handlers. -/
structure Calm (rom : UInt32) (p : State × Bool) (a : Action) : Prop where
  running : ¬Restarts a
  uncommanded : ¬Commands p.1 a
  accepted : ∀ s', step rom p.1 a = some s' → FreezeAccepted s'
  before : ∀ cold, a = .ntcScanTimer cold true → cold = false ∧ p.1.nowStatus ≠ .ntcWarning

namespace Ctl

variable {c : Ctl} {warm : Bool}

@[simp] theorem closeAs_ntcState (actFlag : UInt8) (c : Ctl) :
    (c.closeAs actFlag).ntcState = c.ntcState := by
  unfold closeAs; split <;> rfl

theorem closeAs_unlocked {actFlag : UInt8} (hf : actFlag ≠ otherOff)
    (h : (c.closeAs actFlag).lastFlag = otherOff) : c.lastFlag = otherOff := by
  unfold closeAs at h
  split at h
  · exact h
  · exact absurd h hf

/-- A reading that saves the position, and then accepts the warning or not. -/
theorem freeze_of_saves (h : cold = true ∧ c.status ≠ .ntcWarning) : c.freeze cold =
    if c.priority ≤ ntcWarningEvent.priority then
      { ({ c with
          ntcState := c.valve, priority := ntcWarningEvent.priority }).closeAs normalOff with
        status := .ntcWarning }
    else { c with ntcState := c.valve } :=
  if_pos h

theorem freeze_ntcState (h : cold = true ∧ c.status ≠ .ntcWarning) :
    (c.freeze cold).ntcState = c.valve := by
  rw [freeze_of_saves h]
  split
  · exact closeAs_ntcState ..
  · rfl

theorem freeze_unlocked (h : (c.freeze cold).lastFlag = otherOff) : c.lastFlag = otherOff := by
  by_cases hsaves : cold = true ∧ c.status ≠ .ntcWarning
  · rw [freeze_of_saves hsaves] at h
    split at h
    · exact closeAs_unlocked (c := { c with
        ntcState := c.valve, priority := ntcWarningEvent.priority }) (by decide) h
    · exact h
  · rwa [freeze, if_neg hsaves] at h

/-- The warning closes the valve, and no reading opens it. -/
theorem freeze_valve (hlocked : c.lastFlag = otherOff → c.valve = 0)
    (h : c.valve = 0 ∨ cold = true ∧ c.status ≠ .ntcWarning ∧
      c.priority ≤ ntcWarningEvent.priority) : (c.freeze cold).valve = 0 := by
  by_cases hsaves : cold = true ∧ c.status ≠ .ntcWarning
  · rw [freeze_of_saves hsaves]
    split
    · exact valve_closeAs normalOff hlocked
    · rename_i hrefused
      exact h.resolve_right fun hcold => hrefused hcold.2.2
  · rw [freeze, if_neg hsaves]
    exact h.resolve_right fun hcold => hsaves ⟨hcold.1, hcold.2.1⟩

/-- A scan that is not warm, or finds another status. -/
theorem thaw_of_before (h : warm = true → cold = false ∧ c.status ≠ .ntcWarning) :
    (c.freeze cold).thaw warm = c.freeze cold := by
  refine if_neg fun ⟨hwarm, hshown⟩ => ?_
  obtain ⟨rfl, hstatus⟩ := h hwarm
  exact hstatus hshown

/-- The warm reading that ends the alarm. -/
theorem thaw_of_shown (h : c.status = .ntcWarning) : (c.freeze cold).thaw true =
    if c.ntcState ≠ 0 then c.disable.openAs normalOpen else c.disable.closeAs normalOff := by
  have hsame : c.freeze cold = c := if_neg fun hcold => hcold.2 h
  rw [hsame]
  exact if_pos ⟨rfl, h⟩

end Ctl

/-- The first cold reading, when its warning is accepted. -/
theorem frozen_start (hlocked : s.globalDevice.lastFlag = otherOff → s.valveStatus = 0)
    (hfree : s.nowStatus ≠ .ntcWarning)
    (hpriority : s.nowStatusEvent.priority ≤ ntcWarningEvent.priority) :
    Frozen s.valveStatus (ntcScanTimerCallback true false s) false := by
  have hctl : ctl (ntcScanTimerCallback true false s) = (ctl s).freeze true :=
    (ctl_ntcScanTimerCallback true false s).trans (Ctl.thaw_of_before nofun)
  have haccepted : FreezeAccepted (ntcScanTimerCallback true false s) := by
    have hevent : ntcScanTimerCallback true false s =
        warningEnable ntcWarningEvent { s with ntcState := s.valveStatus } := by
      unfold ntcScanTimerCallback
      extract_lets t
      have ht : t = warningEnable ntcWarningEvent { s with ntcState := s.valveStatus } :=
        if_pos ⟨rfl, hfree⟩
      rw [← ht]
      exact if_neg (by simp)
    have haccept : warningEnable ntcWarningEvent { s with ntcState := s.valveStatus } = _ :=
      warningEnable_of_le rfl hpriority
    rw [FreezeAccepted, hevent, haccept]
    exact callback_run _ _
  refine ⟨haccepted, ?_, fun hoff => ?_, fun _ => ?_, nofun⟩
  · exact (congrArg Ctl.valve hctl).trans
      (Ctl.freeze_valve hlocked (.inr ⟨rfl, hfree, hpriority⟩))
  · exact hlocked (Ctl.freeze_unlocked ((congrArg Ctl.lastFlag hctl).symm.trans hoff))
  · exact (congrArg Ctl.ntcState hctl).trans (Ctl.freeze_ntcState ⟨rfl, hfree⟩)

/-- Another reading in between. -/
theorem Frozen.ntcScan {v : UInt8} {saved warm : Bool} (h : Frozen v s saved)
    (hbefore : warm = true → cold = false ∧ s.nowStatus ≠ .ntcWarning)
    (haccepted : FreezeAccepted (ntcScanTimerCallback cold warm s)) :
    Frozen v (ntcScanTimerCallback cold warm s)
      (saved || savesPosition s (.ntcScanTimer cold warm)) := by
  have hctl : ctl (ntcScanTimerCallback cold warm s) = (ctl s).freeze cold :=
    (ctl_ntcScanTimerCallback cold warm s).trans (Ctl.thaw_of_before hbefore)
  have hntc := congrArg Ctl.ntcState hctl
  have hclosed : (ntcScanTimerCallback cold warm s).valveStatus = 0 :=
    (congrArg Ctl.valve hctl).trans (Ctl.freeze_valve (fun _ => h.closed) (.inl h.closed))
  have hunlocked : (ntcScanTimerCallback cold warm s).globalDevice.lastFlag = otherOff → v = 0 :=
    fun hoff => h.unlocked (Ctl.freeze_unlocked ((congrArg Ctl.lastFlag hctl).symm.trans hoff))
  by_cases hsaves : cold = true ∧ s.nowStatus ≠ .ntcWarning
  · have hsaved : savesPosition s (.ntcScanTimer cold warm) = true := by
      simpa [savesPosition] using hsaves
    rw [hsaved, Bool.or_true]
    have hzero := hntc.trans ((Ctl.freeze_ntcState hsaves).trans h.closed)
    exact ⟨haccepted, hclosed, hunlocked, nofun, fun _ => hzero⟩
  · have hsaved : savesPosition s (.ntcScanTimer cold warm) = false := by
      simpa [savesPosition] using hsaves
    rw [hsaved, Bool.or_false]
    have hsame : (ctl s).freeze cold = ctl s := if_neg hsaves
    rw [hsame] at hntc
    exact ⟨haccepted, hclosed, hunlocked, fun hfirst => hntc.trans (h.first hfirst),
      fun hagain => hntc.trans (h.again hagain)⟩

/-- **Every step in between** keeps what the alarm has saved. -/
theorem Frozen.step {v : UInt8} {saved : Bool} (h : Frozen v s saved)
    (hr : registryMachine.Reachable s) (hok : Calm rom (s, saved) a)
    (hs : WaterValve.step rom s a = some s') : Frozen v s' (saved || savesPosition s a) := by
  have haccepted := hok.accepted s' hs
  by_cases hscan : ∃ cold warm, a = .ntcScanTimer cold warm
  · obtain ⟨cold, warm, rfl⟩ := hscan
    obtain rfl := Option.some.inj hs
    exact h.ntcScan (fun hwarm => hok.before cold (by rw [hwarm])) haccepted
  · have hother : ∀ cold warm, a ≠ .ntcScanTimer cold warm := fun cold warm ha =>
      hscan ⟨cold, warm, ha⟩
    have hsaved : savesPosition s a = false := by
      cases a with
      | ntcScanTimer cold warm => exact absurd rfl (hother cold warm)
      | _ => rfl
    rw [hsaved, Bool.or_false]
    obtain ⟨-, hsame⟩ := frozen_step hr hs hok.running hok.uncommanded hother haccepted
    simp only [savedPosition, Prod.mk.injEq] at hsame
    obtain ⟨hntc, hvalve, hlast⟩ := hsame
    exact ⟨haccepted, hvalve.trans h.closed, fun hoff => h.unlocked (hlast.symm.trans hoff),
      fun hfirst => hntc.trans (h.first hfirst), fun hagain => hntc.trans (h.again hagain)⟩

/-- What it is until the alarm ends. -/
theorem frozen_run {s₁ : State} {saved : Bool} {v : UInt8}
    (h : registryMachine.Reachable s₁) (hstart : Frozen v s₁ false)
    (hseg : (freezeMachine rom s₁).ReachableVia (Calm rom) (s, saved)) : Frozen v s saved := by
  refine (hseg.invariant (I := fun p => registryMachine.Reachable p.1 ∧ Frozen v p.1 p.2)
    ?_ ?_).2
  · rintro ⟨t, saved⟩ ⟨rfl, hsaved⟩
    exact ⟨h, hsaved ▸ hstart⟩
  · rintro ⟨t, saved⟩ a ⟨t', saved'⟩ ⟨hr, hfrozen⟩ hok hs
    obtain ⟨hstep, hsaved⟩ := Machine.observed_step_eq_some.mp hs
    exact ⟨reach_step hr hstep, hsaved ▸ hfrozen.step hr hok hstep⟩

/-! ## the end of the alarm -/

/-- The warm reading restores what has been saved. -/
theorem Frozen.ends {v : UInt8} {saved : Bool} (h : Frozen v s saved)
    (hend : v = 0 ∨ v = 1) (hshown : s.nowStatus = .ntcWarning) :
    (ntcScanTimerCallback cold true s).valveStatus = if saved then 0 else v := by
  have hctl := (ctl_ntcScanTimerCallback cold true s).trans (Ctl.thaw_of_shown hshown)
  have hvalve := congrArg Ctl.valve hctl
  have hclose : (ctl s).ntcState = 0 → (ntcScanTimerCallback cold true s).valveStatus = 0 := by
    intro hzero
    rw [if_neg (not_not.mpr hzero)] at hvalve
    exact hvalve.trans (Ctl.valve_closeAs normalOff fun _ => h.closed)
  cases saved with
  | true => exact hclose (h.again rfl)
  | false =>
      have hntc := h.first rfl
      obtain rfl | rfl := hend
      · exact hclose hntc
      · have hopen : (ctl s).ntcState ≠ 0 := fun hzero => absurd (hntc.symm.trans hzero) (by decide)
        have hunlocked : (ctl s).lastFlag ≠ otherOff := fun hoff =>
          absurd (h.unlocked hoff) (by decide)
        rw [if_pos hopen, Ctl.openAs, if_neg fun hoff => hunlocked hoff.1] at hvalve
        exact hvalve

/-- **The freeze alarm restores the valve if and only if** it was closed, or no
later reading has saved the position again: an open valve stays closed when the
status `NTCWarning` was taken away and a cold reading found it so. -/
theorem freeze_restores_valve_iff {s₀ s₁ s₂ s₃ : State} {saved : Bool}
    (h : (valveMachine rom).Reachable s₀) (hfree : s₀.nowStatus ≠ .ntcWarning)
    (hpriority : s₀.nowStatusEvent.priority ≤ ntcWarningEvent.priority)
    (hcold : step rom s₀ (.ntcScanTimer true false) = some s₁)
    (hseg : (freezeMachine rom s₁).ReachableVia (Calm rom) (s₂, saved))
    (hshown : s₂.nowStatus = .ntcWarning)
    (hwarm : step rom s₂ (.ntcScanTimer false true) = some s₃) :
    s₃.valveStatus = s₀.valveStatus ↔ s₀.valveStatus = 0 ∨ saved = false := by
  obtain rfl := Option.some.inj hcold
  obtain rfl := Option.some.inj hwarm
  have hr := reach_step (reachable_registryMachine h) hcold
  have hfrozen := frozen_run hr (frozen_start (valveMachine_safe h).locked hfree hpriority) hseg
  rw [hfrozen.ends (valveMachine_atEnd h) hshown]
  cases saved with
  | true => simpa using eq_comm
  | false => simp

/-- `K1` held: the unit learns, with the valve open. -/
def learning : State := keyLong started

theorem learning_reachable : (valveMachine 0).Reachable learning :=
  Machine.Reachable.step (a := holdK1) started_reachable rfl

/-- The freeze warning is accepted there. -/
def learningFreezes : State := ntcScanTimerCallback true false learning

/-- Steps that are calm when they leave the freeze warning the last one: the end
of learning and the readings that are not warm. -/
def staysFrozen (p : State × Bool) : Action → Bool
  | .learnTimer => (step 0 p.1 .learnTimer).all (FreezeAccepted ·)
  | .ntcScanTimer cold false => (step 0 p.1 (.ntcScanTimer cold false)).all (FreezeAccepted ·)
  | _ => false

theorem calm_of_staysFrozen (p : State × Bool) (a : Action) (h : staysFrozen p a = true) :
    Calm 0 p a := by
  cases a with
  | learnTimer =>
      refine ⟨nofun, ?_, fun s' hs => ?_, nofun⟩
      · rintro (⟨_, _, ha, -⟩ | ⟨_, _, ha, -⟩ | ⟨_, ha, -⟩ | ha) <;> cases ha
      · rw [staysFrozen, hs] at h
        exact of_decide_eq_true h
  | ntcScanTimer cold warm =>
      cases warm with
      | true => cases h
      | false =>
          refine ⟨nofun, ?_, fun s' hs => ?_, nofun⟩
          · rintro (⟨_, _, ha, -⟩ | ⟨_, _, ha, -⟩ | ⟨_, ha, -⟩ | ha) <;> cases ha
          · rw [staysFrozen, hs] at h
            exact of_decide_eq_true h
  | _ => cases h

/-- A run of such steps. -/
theorem freeze_run {as : List Action} {β : Type} {observe : State × Bool → β} {b : β}
    (h : ((freezeMachine 0 learningFreezes).runChecked staysFrozen (learningFreezes, false) as).map
      observe = some b) :
    ∃ p, (freezeMachine 0 learningFreezes).ReachableVia (Calm 0) p ∧ observe p = b := by
  obtain ⟨p, hp, hobs⟩ := Option.map_eq_some_iff.mp h
  have hstart : (freezeMachine 0 learningFreezes).ReachableVia (Calm 0) (learningFreezes, false) :=
    .init ⟨rfl, rfl⟩
  exact ⟨p, hstart.runChecked calm_of_staysFrozen hp, hobs⟩

/-- A warm reading right after the warning opens the valve again. -/
theorem freeze_restores_valve_learning : ∃ s₂ s₃,
    (freezeMachine 0 learningFreezes).ReachableVia (Calm 0) (s₂, false) ∧
      step 0 s₂ (.ntcScanTimer false true) = some s₃ ∧ s₃.valveStatus = 1 := by
  have hrun : ((freezeMachine 0 learningFreezes).runChecked staysFrozen (learningFreezes, false)
      [.ntcScanTimer true false]).map (fun p => (p.1.nowStatus, p.2)) =
        some (.ntcWarning, false) := by decide +kernel
  obtain ⟨⟨s₂, saved⟩, hseg, hobs⟩ := freeze_run hrun
  simp only [Prod.mk.injEq] at hobs
  obtain ⟨hshown, rfl⟩ := hobs
  have hopen : learning.valveStatus = 1 := by decide +kernel
  have hrestored := (freeze_restores_valve_iff learning_reachable (by decide +kernel)
    (by decide +kernel) rfl hseg hshown rfl).mpr (.inr rfl)
  exact ⟨s₂, _, hseg, rfl, hrestored.trans hopen⟩

/-- Learning ends during the alarm, which takes `NTCWarning` away, and the next
cold reading saves the valve that the alarm has closed. -/
theorem not_freeze_restores_valve : ¬∀ s₀ s₁ s₂ s₃ saved, (valveMachine 0).Reachable s₀ →
    s₀.nowStatus ≠ .ntcWarning → s₀.nowStatusEvent.priority ≤ ntcWarningEvent.priority →
    step 0 s₀ (.ntcScanTimer true false) = some s₁ →
    (freezeMachine 0 s₁).ReachableVia (Calm 0) (s₂, saved) → s₂.nowStatus = .ntcWarning →
    step 0 s₂ (.ntcScanTimer false true) = some s₃ → s₃.valveStatus = s₀.valveStatus := by
  intro hclaim
  have hrun : ((freezeMachine 0 learningFreezes).runChecked staysFrozen (learningFreezes, false)
      [.learnTimer, .ntcScanTimer true false]).map (fun p =>
        (p.1.nowStatus, (ntcScanTimerCallback false true p.1).valveStatus)) =
          some (.ntcWarning, 0) := by decide +kernel
  obtain ⟨⟨s₂, saved⟩, hseg, hobs⟩ := freeze_run hrun
  simp only [Prod.mk.injEq] at hobs
  have hopen : learning.valveStatus = 1 := by decide +kernel
  have hrestored := hclaim learning learningFreezes s₂ _ saved learning_reachable
    (by decide +kernel) (by decide +kernel) rfl hseg hobs.1 rfl
  rw [hobs.2, hopen] at hrestored
  exact absurd hrestored (by decide)

end WaterValve
