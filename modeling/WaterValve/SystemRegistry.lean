import WaterValve.Handlers

/-!
# WaterValve.SystemRegistry

The firmware refines the registry machine: every handler touches the registry
and its flash copy only through the operations of `flashwork.c`
(`kept_of_registryStep`), so a reachable state of the firmware is a reachable state
of `registryMachine` (`reachable_registryMachine`) and its registry is intact
(`valveMachine_wf`).
-/

namespace WaterValve

variable {s s' : State}

/-! ## what the operations of the registry keep -/

/-- A self-test does not touch the registry. -/
theorem motoDetect_toStorage (pins : Pins) (s : State) :
    (motoDetect pins s).toStorage = s.toStorage := by
  obtain ⟨t, htest⟩ := testOnly_motoDetect pins s
  rw [htest]

/-- Nor does a sync. -/
theorem SyncOnly.toStorage (h : SyncOnly s s') : s'.toStorage = s.toStorage := by
  obtain ⟨mq, n, t, rfl⟩ := h
  rfl

section

variable {P : State → Prop}
  (hstep : ∀ {s s' : State} {a : RegistryAction}, P s → registryStep s a = some s' → P s')

include hstep

/-- Code that leaves the registry alone. -/
private theorem registry_other (h : P s) (hs : s'.toStorage = s.toStorage) : P s' := by
  refine hstep (a := .other s') h ?_
  show some { s' with toStorage := s.toStorage } = some s'
  rw [← hs]

/-- Storing the last action is a step of the registry. -/
private theorem registry_setLastFlag (h : P s) (actFlag : UInt8) : P (setLastFlag actFlag s) :=
  hstep (a := .setLastFlag actFlag) h rfl

private theorem registry_motoInitOpen (h : P s) (actFlag : UInt8) : P (motoInitOpen actFlag s) := by
  unfold motoInitOpen
  split
  · exact registry_other hstep (registry_setLastFlag hstep h actFlag) rfl
  · exact h

/-- Opening the valve stores the last action and no more. -/
private theorem registry_motoOpen (h : P s) (actFlag : UInt8) : P (motoOpen actFlag s) := by
  unfold motoOpen
  split
  · refine registry_other hstep (registry_setLastFlag hstep h actFlag) ?_
    by_cases hf : actFlag = normalOpen <;> simp [hf, delayTimerStop, writeTurns, setLastFlag]
  · exact h

/-- So does closing it. -/
private theorem registry_motoClose (h : P s) (actFlag : UInt8) : P (motoClose actFlag s) := by
  unfold motoClose
  split
  · refine registry_other hstep (registry_setLastFlag hstep h actFlag) ?_
    by_cases hf : actFlag = normalOff <;>
      simp [hf, delayTimerStop, writeTurns, setLastFlag, keyIOInit, waterScanIOInit]
  · split
    · exact registry_other hstep h rfl
    · exact h

/-- A reload is a step of the registry; the rest of the start leaves it alone. -/
private theorem registry_load {st : Storage} (h : P s) (hst : s.loadDevice2Memory = some st)
    (rom : UInt32) : P (radioQueueInit rom { State.reset s.env with toStorage := st }) :=
  registry_other hstep
    (hstep (a := .loadDevice2Memory) h (Option.map_eq_some_iff.mpr ⟨st, hst, rfl⟩)) rfl

/-- **The handlers run the registry machine**: they keep what its operations
keep. -/
theorem kept_of_registryStep : Kept AnyDetour P where
  other h hs := registry_other hstep h (congrArg Prod.fst hs)
  table h _ hs := hstep h hs
  initOpen h _ _ := registry_motoInitOpen hstep h _
  openAs h _ _ := registry_motoOpen hstep h _
  closeAs h := registry_motoClose hstep h
  detect h pins := registry_other hstep h (motoDetect_toStorage pins _)
  act1 h _ := registry_other hstep h rfl
  act2 h _ := registry_other hstep h rfl
  end1 h _ := registry_other hstep h rfl
  end2 h _ := registry_other hstep h rfl
  resume h := registry_other hstep h rfl
  sync _ _ _ h hs := registry_other hstep h hs.toStorage
  load _ _ _ h hst rom := registry_load hstep h hst rom

end

/-- Reachable as far as the registry is concerned. -/
private abbrev R (s : State) : Prop := registryMachine.Reachable s

theorem reach_other (h : R s) (hs : s'.toStorage = s.toStorage) : R s' :=
  registry_other (fun h hs => h.step hs) h hs

/-- What the registry machine reaches is kept by all the code. -/
theorem kept_reachable : Kept AnyDetour registryMachine.Reachable :=
  kept_of_registryStep fun h hs => h.step hs

/-- Every step keeps the registry intact. -/
theorem wf_step (h : s.Wf) {rom : UInt32} {a : Action} (hs : step rom s a = some s') : s'.Wf :=
  kept_step (kept_of_registryStep (P := fun s => s.Wf) fun h hs => h.registryStep hs) h
    (fun _ _ => trivial) hs

/-! ## what the handlers call -/

theorem reach_warningEnableNum (h : R s) (id : UInt8) : R (warningEnableNum id s) :=
  kept_warningEnableNum kept_reachable h id

theorem reach_detectLoop (num : Nat) (p : Bool × State) (h : R p.2) : R (detectLoop num p).2 :=
  kept_detectLoop kept_reachable num p h

/-- A sync sends and writes no device. -/
theorem gatewaySync_toStorage (s : State) : (gatewaySync s).toStorage = s.toStorage :=
  (syncOnly_gatewaySync s).toStorage

/-- The start of the gateway link writes no device. -/
theorem gatewayInit_toStorage (s : State) : (gatewayInit s).toStorage = s.toStorage := by
  unfold gatewayInit heartTestStart
  dsimp only
  split <;> simp

/-- **A step of the firmware is a run of the registry machine.** -/
theorem reach_step (h : registryMachine.Reachable s) {rom : UInt32} {a : Action}
    (hs : step rom s a = some s') : registryMachine.Reachable s' :=
  kept_step kept_reachable h (fun _ _ => trivial) hs

variable {rom : UInt32} {ok : State → Action → Prop}

/-- **The firmware refines the registry machine.** -/
theorem reachable_registryMachine (h : (valveMachine rom).ReachableVia ok s) :
    registryMachine.Reachable s := by
  refine h.invariant (fun s ⟨pins, hboot⟩ => ?_) fun _ _ _ hreach _ hs => reach_step hreach hs
  have hreset : registryMachine.Reachable (State.reset .default) := .init ⟨rfl, rfl⟩
  exact kept_boot kept_reachable trivial hreset rfl hboot

/-- The firmware's registry is intact in every reachable state. -/
theorem valveMachine_wf (h : (valveMachine rom).ReachableVia ok s) : s.Wf :=
  registryMachine_wf (reachable_registryMachine h)

end WaterValve
