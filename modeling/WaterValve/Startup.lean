import WaterValve.KernelNeeds

/-!
# WaterValve.Startup

The start of the unit, step by step.  `main` creates the timers and the queue
one after the other and starts the threads in between, so a handler can run
before the objects it uses exist.  `startupMachine` interleaves the steps of
`main` with the handlers that have been started.

The kernel asserts that the object of a call is there.  It is not when a node is
answered between the start of the receiver and the creation of the queue, when
`Moto_Close` or a self-test runs before `Moto_Init` has created its timers, or
when the gateway is served before `Gateway_Init` has created its own; it is in
every other step (`calls_created_iff`).
-/

namespace WaterValve

/-! ## the steps of `main` -/

/-- What `main` starts: its threads, the interrupts of the sensors, the receiver,
and the two timers that run from the beginning. -/
inductive Process
  | keyResponse | rtcScan | rf433Task | rf433Driver | radioSend | senors | ntcscan | button
  | waterscan
  deriving DecidableEq, Repr

/-- A step of `main`. -/
inductive InitStep
  | create (o : KernelObject)
  | start (p : Process)
  | loadDevice2Memory
  | radioID
  | motoInit
  | waterScanIOInit
  | factoryFlag
  | startFactoryCycle
  | gatewayID
  | gatewayReport
  | heartStart
  deriving DecidableEq, Repr

/-- `Key_Reponse`. -/
def keyReponseSteps : List InitStep := [.start .keyResponse, .create .learnTimer]

/-- `flash_Init`, `WarningInit` and `RTC_Init`. -/
def rtcInitSteps : List InitStep := [.loadDevice2Memory, .create .delayTimer, .start .rtcScan]

/-- `RF_Init`, which ends with `RadioQueue_Init`. -/
def rfInitSteps : List InitStep :=
  [.create .rf433SendTimer, .start .rf433Task, .start .rf433Driver,
    .radioID, .create .rfEnMq, .start .radioSend]

/-- `Moto_Init`, which decides about the valve when it has created its timers. -/
def motoInitSteps : List InitStep :=
  [.start .senors, .create .moto1TimerAct, .create .moto2TimerAct, .create .moto1TimerDetect,
    .create .moto2TimerDetect, .create .motoDetectTimer, .motoInit]

/-- `ADC_Init`, `Button_Init` and `WaterScan_Init`. -/
def scanInitSteps : List InitStep :=
  [.create .ntcscanTimer, .start .ntcscan, .start .button,
    .waterScanIOInit, .create .waterscanTimer, .start .waterscan]

/-- `DetectFactory`. -/
def detectFactorySteps : List InitStep :=
  [.factoryFlag, .create .factoryCycle, .startFactoryCycle]

/-- `Gateway_Init`. -/
def gatewayInitSteps : List InitStep :=
  [.gatewayID, .gatewayReport, .create .heartTestT, .create .heartCheckT, .create .gatewaySyncT,
    .heartStart]

/-- `main` up to its idle loop (`led_Init` has no step here). -/
def mainSteps : List InitStep :=
  keyReponseSteps ++ rtcInitSteps ++ rfInitSteps ++ motoInitSteps ++ scanInitSteps ++
    detectFactorySteps ++ gatewayInitSteps

namespace InitStep

/-- The effect of a step on the state. -/
def exec (rom : UInt32) (pins : Pins) (s : State) : InitStep → Option State
  | .create _ | .start _ => some s
  | .loadDevice2Memory => s.loadDevice2Memory.map fun st => { s with toStorage := st }
  | .radioID => some (radioQueueInit rom s)
  | .motoInit => some (WaterValve.motoInit s)
  | .waterScanIOInit => some (WaterValve.waterScanIOInit s)
  | .factoryFlag => some { s with factoryFlag := if pins.test then 0 else 1 }
  | .startFactoryCycle =>
    some (if s.factoryFlag ≠ 0 then { s with factoryCycle := true } else s)
  | .gatewayID => some { s with gatewayID := s.globalDevice.id s.globalDevice.gatewayNum }
  | .gatewayReport => some (controlUploadGW 0 0 5 s.valveStatus s)
  | .heartStart =>
    some (if s.gatewayID = 0 then s else { heartTestStart s with heartCheckT := true })

/-- The calls `main` makes itself. -/
def calls (s : State) : InitStep → List KernelObject
  | .start .ntcscan => [.ntcscanTimer]
  | .start .waterscan => [.waterscanTimer]
  | .motoInit => if s.flashGetSlaveAlarmFlag ≠ 0 then warningEnableNumCalls 2 s else []
  | .startFactoryCycle => if s.factoryFlag ≠ 0 then [.factoryCycle] else []
  | .gatewayReport => uploadCalls s
  | .heartStart => if s.gatewayID = 0 then [] else [.heartTestT, .heartCheckT]
  | _ => []

end InitStep

/-! ## the transition system -/

/-- How far `main` is, and the state. -/
structure Startup where
  done : Nat
  state : State

namespace Startup

variable (q : Startup)

/-- `main` has made this step. -/
def Ran (i : InitStep) : Prop := mainSteps.idxOf i < q.done

instance (i : InitStep) : Decidable (q.Ran i) := inferInstanceAs (Decidable (_ < _))

/-- The object exists; the timer of the factory mode is created in that mode
only. -/
def Created (o : KernelObject) : Prop :=
  q.Ran (.create o) ∧ (o = .factoryCycle → q.state.factoryFlag ≠ 0)

instance (o : KernelObject) : Decidable (q.Created o) := inferInstanceAs (Decidable (_ ∧ _))

/-- The handler can run: its thread or receiver has been started, its timer
created.  The key thread waits for what the button thread releases. -/
def Live : Action → Prop
  | .keyReponse .. => q.Ran (.start .button)
  | .rf433Rx .. => q.Ran (.start .rf433Driver)
  | .rfEncode => q.Ran (.start .radioSend)
  | .waterscanTimer _ => q.Ran (.start .waterscan)
  | .ntcScanTimer .. => q.Ran (.start .ntcscan)
  | .delayTimer => q.Created .delayTimer
  | .learnTimer => q.Created .learnTimer
  | .turn1Edge | .turn2Edge => q.Ran (.start .senors)
  | .moto1TimerAct => q.Created .moto1TimerAct
  | .moto2TimerAct => q.Created .moto2TimerAct
  | .moto1TimerDetect => q.Created .moto1TimerDetect
  | .moto2TimerDetect => q.Created .moto2TimerDetect
  | .motoDetectTimer _ => q.Created .motoDetectTimer
  | .rtcAlarm _ => q.Ran (.start .rtcScan)
  | .gatewaySyncT => q.Created .gatewaySyncT
  | .heartCheckT => q.Created .heartCheckT
  | .heartTestT => q.Created .heartTestT
  | .factoryCycle => q.Created .factoryCycle
  | .reboot _ => True

instance : (a : Action) → Decidable (q.Live a)
  | .keyReponse .. | .rf433Rx .. | .rfEncode | .waterscanTimer _ | .ntcScanTimer .. | .turn1Edge
  | .turn2Edge | .rtcAlarm _ => inferInstanceAs (Decidable (q.Ran _))
  | .delayTimer | .learnTimer | .moto1TimerAct | .moto2TimerAct | .moto1TimerDetect
  | .moto2TimerDetect | .motoDetectTimer _ | .gatewaySyncT | .heartCheckT | .heartTestT
  | .factoryCycle => inferInstanceAs (Decidable (q.Created _))
  | .reboot _ => inferInstanceAs (Decidable True)

end Startup

/-- A step of `main`, a handler, or the end of a transmission, at which the
radio task stops the send timer. -/
inductive StartupAction
  | main (pins : Pins)
  | handler (a : Action)
  | txDone

namespace Startup

/-- One step; a reset begins `main` again. -/
def next (rom : UInt32) (q : Startup) : StartupAction → Option Startup
  | .main pins => mainSteps[q.done]?.bind fun i =>
    (i.exec rom pins q.state).map fun s => ⟨q.done + 1, s⟩
  | .handler a =>
    if q.Live a then
      match event q.state a with
      | .restart _ env => some ⟨0, State.reset env⟩
      | _ => (step rom q.state a).map fun s => ⟨q.done, s⟩
    else none
  | .txDone => if q.Ran (.start .rf433Driver) then some q else none

/-- The kernel calls of a step. -/
def calls (q : Startup) : StartupAction → List KernelObject
  | .main _ => (mainSteps[q.done]?.map (·.calls q.state)).getD []
  | .handler a => handlerCalls (q.Created .factoryCycle) q.state a
  | .txDone => [.rf433SendTimer]

/-- The handler finds what it needs. -/
def Provided (q : Startup) : StartupAction → Prop
  | .handler a => ∀ o, Needs q.state a o → q.Created o
  | _ => True

end Startup

/-- The unit from switching on, with any flash that its operations leave. -/
def startupMachine (rom : UInt32) : Machine Startup StartupAction where
  init := fun q => ∃ u, registryMachine.Reachable u ∧ q = ⟨0, State.reset u.env⟩
  step := Startup.next rom

variable {rom : UInt32} {q q' : Startup} {s s' : State} {a : Action} {i j : InitStep}
  {o : KernelObject}

/-! ## `main` alone -/

/-- `main` from a step on, with nothing in between. -/
theorem runFrom_main (rom : UInt32) (pins : Pins) (k : Nat) (q : Startup)
    (hk : q.done + k = mainSteps.length) :
    (startupMachine rom).runFrom q (List.replicate k (.main pins)) =
      ((mainSteps.drop q.done).foldlM (InitStep.exec rom pins) q.state).map
        fun s => ⟨mainSteps.length, s⟩ := by
  induction k generalizing q with
  | zero =>
      obtain ⟨done, s⟩ := q
      obtain rfl : done = mainSteps.length := hk
      rw [List.drop_length]
      rfl
  | succ k ih =>
      obtain ⟨done, s⟩ := q
      have hlt : done < mainSteps.length := by
        simp only at hk
        omega
      rw [List.drop_eq_getElem_cons hlt, List.foldlM_cons, List.replicate_succ, Machine.runFrom]
      show ((mainSteps[done]?.bind _).bind _) = _
      rw [List.getElem?_eq_getElem hlt, Option.bind_some]
      cases hs : mainSteps[done].exec rom pins s with
      | none => rfl
      | some s' =>
          have hk' : done + 1 + k = mainSteps.length := by
            simp only at hk
            omega
          exact ih ⟨done + 1, s'⟩ hk'

section

variable (pins : Pins) (s : State)

private theorem exec_keyReponse :
    keyReponseSteps.foldlM (InitStep.exec rom pins) s = some s := rfl

/-- The start of the clock loads the registry. -/
private theorem exec_rtcInit : rtcInitSteps.foldlM (InitStep.exec rom pins) s =
    s.loadDevice2Memory.map fun st => { s with toStorage := st } := by
  simp only [rtcInitSteps, List.foldlM_cons, List.foldlM_nil, InitStep.exec]
  cases s.loadDevice2Memory <;> rfl

/-- The start of the radio reads the id of the unit. -/
private theorem exec_rfInit :
    rfInitSteps.foldlM (InitStep.exec rom pins) s = some (radioQueueInit rom s) := rfl

/-- The start of the motors is `Moto_Init`. -/
private theorem exec_motoInit :
    motoInitSteps.foldlM (InitStep.exec rom pins) s = some (motoInit s) := rfl

private theorem exec_scanInit :
    scanInitSteps.foldlM (InitStep.exec rom pins) s = some (waterScanIOInit s) := rfl

/-- The start of the keys looks for the factory jumper. -/
private theorem exec_detectFactory :
    detectFactorySteps.foldlM (InitStep.exec rom pins) s = some (detectFactory pins s) := by
  unfold detectFactory
  cases htest : pins.test <;> simp [detectFactorySteps, InitStep.exec, htest]

/-- The start of the gateway link. -/
private theorem exec_gatewayInit :
    gatewayInitSteps.foldlM (InitStep.exec rom pins) s = some (gatewayInit s) := rfl

end

/-- **`main` alone boots the unit.** -/
theorem main_boots (rom : UInt32) (pins : Pins) (env : Env) :
    (startupMachine rom).runFrom ⟨0, State.reset env⟩
        (List.replicate mainSteps.length (.main pins)) =
      (boot rom pins env).map fun s => ⟨mainSteps.length, s⟩ := by
  rw [runFrom_main rom pins _ _ (Nat.zero_add _), List.drop_zero]
  congr 1
  unfold mainSteps boot
  simp only [List.foldlM_append, exec_keyReponse, exec_rtcInit, exec_rfInit, exec_motoInit,
    exec_scanInit, exec_detectFactory, exec_gatewayInit, Option.bind_eq_bind, Option.bind_some]
  cases (State.reset env).loadDevice2Memory <;> rfl

/-! ## the order of the steps -/

namespace Startup

/-- A step ran if a later one did. -/
theorem Ran.of_le (h : q.Ran i) (hle : mainSteps.idxOf j ≤ mainSteps.idxOf i) : q.Ran j :=
  Nat.lt_of_le_of_lt hle h

/-- What ran has run from then on. -/
theorem Ran.mono (h : q.Ran i) (hle : q.done ≤ q'.done) : q'.Ran i := Nat.lt_of_lt_of_le h hle

/-- The next step of `main` is the one after those made. -/
theorem idxOf_next (h : mainSteps[q.done]? = some i) : mainSteps.idxOf i = q.done := by
  have hnodup : mainSteps.Nodup := by decide
  obtain ⟨hlt, rfl⟩ := List.getElem?_eq_some_iff.mp h
  exact hnodup.idxOf_getElem q.done hlt

/-- What comes before the next step ran. -/
theorem ran_of_next (h : mainSteps[q.done]? = some i)
    (hlt : mainSteps.idxOf j < mainSteps.idxOf i) : q.Ran j :=
  Nat.lt_of_lt_of_eq hlt (idxOf_next h)

/-- What `main` has created before a step it has made. -/
theorem within_created {l : List KernelObject} (h : q.Ran i) (hbefore : ∀ o ∈ l,
    o ≠ .factoryCycle ∧ mainSteps.idxOf (.create o) ≤ mainSteps.idxOf i) : Within q.Created l :=
  fun o ho => ⟨h.of_le (hbefore o ho).2, fun hcycle => absurd hcycle (hbefore o ho).1⟩

/-- **A handler that can run** finds the objects it was started with. -/
theorem Live.startedWith (h : q.Live a) : Within q.Created (startedWith a) := by
  cases a <;> simp only [WaterValve.startedWith]
  case reboot => exact within_nil
  case delayTimer | learnTimer | moto1TimerAct | moto2TimerAct | moto1TimerDetect
    | moto2TimerDetect | motoDetectTimer | gatewaySyncT | heartCheckT | heartTestT
    | factoryCycle => exact within_created h.1 (by decide)
  all_goals exact within_created h (by decide)

/-- All but `Learn_Timer` and a reboot find the registry loaded. -/
theorem Live.of_start (h : q.Live a) (hlearn : a ≠ .learnTimer)
    (hreboot : ∀ pins, a ≠ .reboot pins) : q.Ran .loadDevice2Memory := by
  cases a
  case learnTimer => exact absurd rfl hlearn
  case reboot pins => exact absurd rfl (hreboot pins)
  case delayTimer | moto1TimerAct | moto2TimerAct | moto1TimerDetect | moto2TimerDetect
    | motoDetectTimer | gatewaySyncT | heartCheckT | heartTestT | factoryCycle =>
      exact Ran.of_le h.1 (by decide)
  all_goals exact Ran.of_le h (by decide)

end Startup

/-! ## what `main` does to the state -/

namespace InitStep

variable {pins : Pins}

/-- A step of `main` keeps the registry intact. -/
theorem exec_reachable (hr : registryMachine.Reachable s) (hs : i.exec rom pins s = some s') :
    registryMachine.Reachable s' := by
  cases i <;> simp only [exec, Option.some.injEq] at hs
  case loadDevice2Memory => exact hr.step (a := .loadDevice2Memory) hs
  case motoInit => exact hs ▸ kept_motoInit kept_reachable hr
  case gatewayReport => exact reach_other hr (by rw [← hs, controlUploadGW_toStorage])
  case startFactoryCycle | heartStart =>
    refine reach_other hr ?_
    rw [← hs]
    split <;> rfl
  all_goals
    subst hs
    exact reach_other hr rfl

/-- Only one step of `main` writes the id of the gateway. -/
theorem exec_links (hs : i.exec rom pins s = some s') (hi : i ≠ .gatewayID) :
    links s' = links s := by
  cases i <;> simp only [exec, Option.some.injEq] at hs
  case loadDevice2Memory =>
    obtain ⟨st, -, rfl⟩ := Option.map_eq_some_iff.mp hs
    rfl
  case motoInit =>
    rw [← hs]
    exact links_ite (fun _ => links_warningEnableNum s 2) fun _ =>
      links_ite (fun _ => links_ite (fun _ => rfl) fun _ => rfl) fun _ => rfl
  case gatewayReport => exact hs ▸ (queueOnly_controlUploadGW ..).links
  case startFactoryCycle | heartStart => exact hs ▸ links_ite (fun _ => rfl) fun _ => rfl
  case gatewayID => exact absurd rfl hi
  all_goals exact hs ▸ rfl

end InitStep

/-! ## the invariant -/

namespace Startup

/-- What holds of the unit from switching on: its flash is one that the
operations on it leave, nothing happens before it has been loaded, and a unit
with a gateway or in learn mode has its queue. -/
structure Sound (q : Startup) : Prop where
  flash : ∃ u, registryMachine.Reachable u ∧ u.env = q.state.env
  fresh : ¬q.Ran .loadDevice2Memory → q.state = State.reset q.state.env
  reach : q.Ran .loadDevice2Memory → registryMachine.Reachable q.state
  queued : Queued q.Created q.state
  learning : q.state.learnFlag ≠ 0 → q.Created .rfEnMq

/-- Nothing has run when the firmware starts. -/
theorem sound_reset {u : State} (h : registryMachine.Reachable u) :
    Sound ⟨0, State.reset u.env⟩ where
  flash := ⟨u, h, rfl⟩
  fresh _ := rfl
  reach hran := absurd hran (Nat.not_lt_zero _)
  queued := fun h => absurd rfl h
  learning := fun h => absurd rfl h

/-- Objects do not vanish while the unit runs. -/
theorem Created.mono (h : q.Created o) (hle : q.done ≤ q'.done) (ho : o ≠ .factoryCycle) :
    q'.Created o :=
  ⟨h.1.mono hle, fun hcycle => absurd hcycle ho⟩

/-- The flash is loaded in the third step, and the first two do nothing to the
state. -/
private theorem before_load (h : mainSteps[q.done]? = some i) (hload : ¬q.Ran .loadDevice2Memory) :
    q.done < 2 ∧ (∀ pins s, i.exec rom pins s = some s) ∨ q.done = 2 ∧ i = .loadDevice2Memory := by
  obtain ⟨done, s⟩ := q
  have hle : done ≤ 2 := not_lt.mp hload
  interval_cases done <;> obtain rfl := Option.some.inj h
  · exact .inl ⟨Nat.zero_lt_two, fun _ _ => rfl⟩
  · exact .inl ⟨Nat.one_lt_two, fun _ _ => rfl⟩
  · exact .inr ⟨rfl, rfl⟩

/-- A step of `main` keeps the invariant. -/
theorem Sound.main (h : q.Sound) {pins : Pins} (hs : q.next rom (.main pins) = some q') :
    q'.Sound := by
  obtain ⟨i, hi, hs⟩ := Option.bind_eq_some_iff.mp hs
  obtain ⟨s', hexec, rfl⟩ := Option.map_eq_some_iff.mp hs
  have hqueue : Queued (Created ⟨q.done + 1, s'⟩) s' ∧
      (s'.learnFlag ≠ 0 → Created ⟨q.done + 1, s'⟩ .rfEnMq) := by
    have hmono : q.Created .rfEnMq → Created ⟨q.done + 1, s'⟩ .rfEnMq :=
      fun ho => ho.mono (Nat.le_succ q.done) (by simp)
    by_cases hgateway : i = .gatewayID
    · have hqueue : q.Created .rfEnMq := by
        subst hgateway
        exact ⟨ran_of_next hi (by decide), by simp⟩
      exact ⟨.of_created (hmono hqueue) s', fun _ => hmono hqueue⟩
    · have hlinks := InitStep.exec_links hexec hgateway
      have hlearn : s'.learnFlag = q.state.learnFlag := congrArg (·.2.2) hlinks
      exact ⟨Queued.congr (fun h0 => hmono (h.queued h0)) hlinks,
        fun h0 => hmono (h.learning (hlearn ▸ h0))⟩
  by_cases hload : q.Ran .loadDevice2Memory
  · have hr := InitStep.exec_reachable (h.reach hload) hexec
    exact ⟨⟨s', hr, rfl⟩, fun hno => absurd (hload.mono (Nat.le_succ q.done)) hno, fun _ => hr,
      hqueue.1, hqueue.2⟩
  · obtain ⟨u, hu, henv⟩ := h.flash
    obtain ⟨hlt, hnothing⟩ | ⟨hdone, rfl⟩ := before_load hi hload
    · obtain rfl := Option.some.inj ((hnothing pins q.state).symm.trans hexec)
      have hnot : ¬Ran ⟨q.done + 1, q.state⟩ .loadDevice2Memory := Nat.not_lt_of_le hlt
      exact ⟨⟨u, hu, henv⟩, fun _ => h.fresh hload, fun hran => absurd hran hnot, hqueue.1,
        hqueue.2⟩
    · obtain ⟨st, hst, rfl⟩ := Option.map_eq_some_iff.mp hexec
      rw [loadDevice2Memory_congr henv.symm] at hst
      have hloaded : registryMachine.Reachable { u with toStorage := st } :=
        hu.step (a := .loadDevice2Memory) (Option.map_eq_some_iff.mpr ⟨st, hst, rfl⟩)
      have hr : registryMachine.Reachable { q.state with toStorage := st } :=
        reach_other hloaded rfl
      have hran : Ran ⟨q.done + 1, { q.state with toStorage := st }⟩ .loadDevice2Memory := by
        show 2 < q.done + 1
        omega
      exact ⟨⟨_, hr, rfl⟩, fun hno => absurd hran hno, fun _ => hr, hqueue.1, hqueue.2⟩

/-- A reset starts with the flash as it is, or erased. -/
theorem restart_env {pins : Pins} {env : Env} (h : event s a = .restart pins env) :
    a = .reboot pins ∧ env = s.env ∨
      (∃ sem, a = .keyReponse sem pins) ∧ env = (deleteAllDevice s).env := by
  cases a <;> simp only [event] at h
  case reboot =>
    cases h
    exact .inl ⟨rfl, rfl⟩
  case keyReponse sem pins' =>
    split at h
    · cases h
      exact .inr ⟨⟨sem, rfl⟩, rfl⟩
    · cases h
  case rf433Rx rxMessage rssi buffer len =>
    obtain ⟨_, hframe, -⟩ | ⟨_, hframe⟩ | hframe := frameEvent_cases rxMessage rssi buffer len s <;>
      exact absurd (hframe.symm.trans h) (by simp)
  all_goals cases h

/-- What is no restart goes on in the same run. -/
theorem not_restarts (h : ∀ pins env, event s a ≠ .restart pins env) : ¬Restarts a := by
  intro hrestart
  cases a with
  | keyReponse sem pins => exact h pins _ (if_pos hrestart)
  | reboot pins => exact h pins _ rfl
  | _ => exact hrestart.elim

/-- Before the flash has been loaded no handler does anything but a reset. -/
theorem Sound.loaded (h : q.Sound) (hlive : q.Live a) (hrestart : ¬Restarts a)
    (hs : step rom q.state a = some s') : q.Ran .loadDevice2Memory := by
  by_cases hlearn : a = .learnTimer
  · subst hlearn
    by_contra hload
    have htimer : q.state.learnTimer = true := (Option.ite_none_right_eq_some.mp hs).1
    rw [h.fresh hload] at htimer
    cases htimer
  · exact hlive.of_start hlearn fun pins ha => hrestart (ha ▸ trivial)

/-- A step of the unit at work. -/
theorem Sound.step (h : q.Sound) (hlive : q.Live a) (hok : q.Provided (.handler a))
    (hrestart : ¬Restarts a) (hs : WaterValve.step rom q.state a = some s') :
    Sound ⟨q.done, s'⟩ := by
  have hload := h.loaded hlive hrestart hs
  have hr := reach_step (h.reach hload) hs
  have hmono : q.Created .rfEnMq → Created ⟨q.done, s'⟩ .rfEnMq :=
    fun ho => ho.mono (Nat.le_refl _) (by simp)
  suffices hqueue : Queued (Created ⟨q.done, s'⟩) s' ∧
      (s'.learnFlag ≠ 0 → Created ⟨q.done, s'⟩ .rfEnMq) from
    ⟨⟨s', hr, rfl⟩, fun hno => absurd hload hno, fun _ => hr, hqueue.1, hqueue.2⟩
  have hgateway : s'.gatewayID = q.state.gatewayID → Queued (Created ⟨q.done, s'⟩) s' :=
    fun hid h0 => hmono (h.queued (hid ▸ h0))
  cases linked_step hs hrestart with
  | same hlinks =>
      have hlearn : s'.learnFlag = q.state.learnFlag := congrArg (·.2.2) hlinks
      exact ⟨hgateway (congrArg Prod.fst hlinks), fun h0 => hmono (h.learning (hlearn ▸ h0))⟩
  | learnEnds hlinks =>
      exact ⟨hgateway (congrArg Prod.fst hlinks), fun h0 => absurd (congrArg (·.2.2) hlinks) h0⟩
  | learnStarts hstart hlinks =>
      refine ⟨hgateway (congrArg Prod.fst hlinks), fun _ => hmono ?_⟩
      obtain ⟨sem, pins, rfl⟩ | ⟨hlearn, rssi, buf, hevent, hnode⟩ := hstart
      · exact within_created hlive (l := [.rfEnMq]) (by decide) _ List.mem_cons_self
      · exact hok _ (.queue hevent hlearn (.inr (.inr (.inl hnode))))
  | reloads hreload hlearn =>
      have hqueue := hmono (h.learning hreload.1)
      exact ⟨.of_created hqueue s', fun _ => hqueue⟩

/-- A handler keeps the invariant. -/
theorem Sound.handler (h : q.Sound) (hok : q.Provided (.handler a))
    (hs : q.next rom (.handler a) = some q') : q'.Sound := by
  obtain ⟨hlive, hs⟩ := Option.ite_none_right_eq_some.mp hs
  split at hs
  · rename_i hevent
    obtain rfl := Option.some.inj hs
    obtain ⟨rfl, rfl⟩ | ⟨⟨sem, rfl⟩, rfl⟩ := restart_env hevent
    · obtain ⟨u, hu, henv⟩ := h.flash
      exact henv ▸ sound_reset hu
    · have hr := h.reach (hlive.of_start (by simp) (by simp))
      exact sound_reset (hr.step (a := .deleteAllDevice) rfl)
  · rename_i hevent
    obtain ⟨s', hstep, rfl⟩ := Option.map_eq_some_iff.mp hs
    exact h.step hlive hok (not_restarts hevent) hstep

/-- **The invariant holds** in every run whose handlers find what they need. -/
theorem sound_run (h : (startupMachine rom).ReachableVia Provided q) : q.Sound := by
  refine h.invariant (fun q ⟨u, hu, hq⟩ => hq ▸ sound_reset hu) fun q a q' hsound hok hs => ?_
  cases a with
  | main pins => exact hsound.main hs
  | handler a => exact hsound.handler hok hs
  | txDone =>
      obtain rfl := Option.some.inj (Option.ite_none_right_eq_some.mp hs).2
      exact hsound

/-! ## no call before its object -/

/-- What the next step of `main` calls has been created. -/
theorem Sound.mainCalls (h : q.Sound) (hi : mainSteps[q.done]? = some i) :
    Within q.Created (i.calls q.state) := by
  have hbefore : ∀ {l : List KernelObject}, (∀ o ∈ l, o ≠ .factoryCycle ∧
      mainSteps.idxOf (.create o) < mainSteps.idxOf i) → Within q.Created l := fun hl o ho =>
    ⟨ran_of_next hi (hl o ho).2, fun hcycle => absurd hcycle (hl o ho).1⟩
  cases i with
  | start p =>
      cases p with
      | ntcscan => exact hbefore (l := [.ntcscanTimer]) (by decide)
      | waterscan => exact hbefore (l := [.waterscanTimer]) (by decide)
      | _ => exact within_nil
  | motoInit =>
      have hcore : Core q.Created := core_of_within (hbefore (by decide))
      exact within_ite.mpr ⟨fun _ => hcore.warningEnableNumCalls q.state 2, fun _ => within_nil⟩
  | startFactoryCycle =>
      refine within_ite.mpr ⟨fun hfactory => within_cons.mpr ⟨⟨?_, fun _ => hfactory⟩, within_nil⟩,
        fun _ => within_nil⟩
      exact ran_of_next hi (by decide)
  | gatewayReport => exact within_uploadCalls h.queued
  | heartStart => exact within_ite.mpr ⟨fun _ => within_nil, fun _ => hbefore (by decide)⟩
  | _ => exact within_nil

/-- **A step calls only what has been created if and only if** its handler finds
what it needs: in every run up to the first that does not. -/
theorem calls_created_iff {a : StartupAction} (h : (startupMachine rom).ReachableVia Provided q)
    (hs : (startupMachine rom).step q a = some q') :
    (∀ o ∈ q.calls a, q.Created o) ↔ q.Provided a := by
  have hsound := sound_run h
  cases a with
  | main pins =>
      obtain ⟨i, hi, -⟩ := Option.bind_eq_some_iff.mp hs
      have hcalls : q.calls (.main pins) = i.calls q.state := by
        simp only [calls, hi, Option.map_some, Option.getD_some]
      rw [hcalls]
      exact iff_of_true (hsound.mainCalls hi) trivial
  | txDone =>
      have hran := (Option.ite_none_right_eq_some.mp hs).1
      exact iff_of_true (within_created hran (l := [.rf433SendTimer]) (by decide)) trivial
  | handler a =>
      obtain ⟨hlive, hs⟩ := Option.ite_none_right_eq_some.mp hs
      refine within_handlerCalls (fun pins ha => ?_) of_decide_eq_true hlive.startedWith
        hsound.queued hsound.learning
      subst ha
      obtain ⟨s', hhour, -⟩ := Option.map_eq_some_iff.mp hs
      exact ⟨hsound.reach (hlive.of_start (by simp) (by simp)), s', hhour⟩

/-- A sensor was learned before the unit is switched on. -/
def learnedEnv : Env :=
  (((valveMachine 0).runFrom started (learnDevice 10000001)).map (·.env)).getD .default

def switchedOn : Startup := ⟨0, State.reset learnedEnv⟩

/-- The unit after it was switched on. -/
theorem init_switchedOn : (startupMachine 0).init switchedOn := by
  have hsome : ((valveMachine 0).runFrom started (learnDevice 10000001)).isSome = true := by
    decide +kernel
  obtain ⟨s, hs⟩ := Option.isSome_iff_exists.mp hsome
  refine ⟨s, reachable_registryMachine (started_reachable.runFrom hs), ?_⟩
  rw [switchedOn, learnedEnv, hs]
  rfl

/-- `main` up to this step. -/
def mainUntil (i : InitStep) : List StartupAction :=
  List.replicate (mainSteps.idxOf i) (.main dryPins)

/-- The sensor reports its battery. -/
def sensorReports : StartupAction := .handler (nodeRx 10000001 2 0)

/-- What the report does when `main` has come to a step: whether it is handled,
what it calls, and whether the queue is there. -/
def reportAt (i : InitStep) : Option (Bool × List KernelObject × Bool) :=
  ((startupMachine 0).runFrom switchedOn (mainUntil i)).map fun q =>
    (((startupMachine 0).step q sensorReports).isSome, q.calls sensorReports,
      decide (q.Created .rfEnMq))

/-- When `Moto_Init` begins the report can be answered. -/
theorem calls_created_answered : ∃ q, (startupMachine 0).ReachableVia Provided q ∧
    q.calls sensorReports = [.rfEnMq] ∧ q.Provided sensorReports := by
  have hrun : reportAt (.start .senors) = some (true, [.rfEnMq], true) := by decide +kernel
  obtain ⟨q, hq, hobs⟩ := Option.map_eq_some_iff.mp hrun
  simp only [Prod.mk.injEq, decide_eq_true_eq] at hobs
  obtain ⟨hhandled, hcalls, hqueue⟩ := hobs
  obtain ⟨q', hq'⟩ := Option.isSome_iff_exists.mp hhandled
  have hreach : (startupMachine 0).ReachableVia Provided q :=
    (Machine.ReachableVia.init init_switchedOn).runFrom (fun a ha q => by
      rw [List.eq_of_mem_replicate ha]
      trivial) hq
  refine ⟨q, hreach, hcalls, (calls_created_iff hreach hq').mp ?_⟩
  rw [hcalls]
  exact within_cons.mpr ⟨hqueue, within_nil⟩

/-- While the receiver is on and the queue is not there yet, it cannot. -/
theorem not_calls_created : ¬∀ q a q', (startupMachine 0).Reachable q →
    (startupMachine 0).step q a = some q' → ∀ o ∈ q.calls a, q.Created o := by
  intro hclaim
  have hrun : reportAt .radioID = some (true, [.rfEnMq], false) := by decide +kernel
  obtain ⟨q, hq, hobs⟩ := Option.map_eq_some_iff.mp hrun
  simp only [Prod.mk.injEq, decide_eq_false_iff_not] at hobs
  obtain ⟨hhandled, hcalls, hqueue⟩ := hobs
  obtain ⟨q', hq'⟩ := Option.isSome_iff_exists.mp hhandled
  have hreach := (Machine.Reachable.init init_switchedOn).runFrom hq
  have hcreated := hclaim q sensorReports q' hreach hq'
  rw [hcalls] at hcreated
  exact hqueue (hcreated .rfEnMq List.mem_cons_self)

end Startup

end WaterValve
