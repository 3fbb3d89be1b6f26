import WaterValve.Undisturbed

/-!
# WaterValve.SelfTestVerdict

The verdicts of the motor self-test.  A test of motor `k` starts in
`Moto_Detect`, counts the edges of its sensor in `Turn k_Flag` and ends in the
Turn `k` timer callback, which judges the motor by the count.

The count has eight bits, so the verdict is the right one except after a
multiple of 256 edges or one more (`verdict_counts_edges_iff`).  The status
`MotoFail` is set with a verdict, but neither `Moto_Detect`, which clears both
flags, nor a callback that finds its motor good takes it back: it agrees with
the flags as long as no test passes while it is shown
(`motoFail_matches_verdicts`).
-/

namespace WaterValve

/-! ## the two motors -/

/-- A motor, with the names the source has for what belongs to it. -/
inductive Motor
  | one | two
  deriving DecidableEq, Repr

namespace Motor

/-- `Turn1_Flag`, `Turn2_Flag`. -/
def turnFlag (s : State) : Motor → UInt8
  | one => s.turn1Flag
  | two => s.turn2Flag

/-- `Moto1_Fail_FLag`, `Moto2_Fail_FLag`. -/
def failFlag (s : State) : Motor → UInt8
  | one => s.moto1FailFlag
  | two => s.moto2FailFlag

/-- `Senor1`, `Senor2`. -/
def senor (pins : Pins) : Motor → Bool
  | one => pins.senor1
  | two => pins.senor2

/-- The expiry of the Detect timer. -/
def verdict : Motor → Action
  | one => .moto1TimerDetect
  | two => .moto2TimerDetect

/-- An action counts for this motor. -/
def countedBy : Action → Motor → Bool
  | .turn1Edge, one => true
  | .turn2Edge, two => true
  | _, _ => false

end Motor

variable {rom : UInt32} {k : Motor} {s s' : State} {a : Action}

/-! ## what starts a test -/

/-- The pins `Moto_Detect` reads, when the handler executes it. -/
def motoDetectPins (s : State) : Action → Option Pins
  | .motoDetectTimer pins => some pins
  | .rtcAlarm pins => if (s.rtcHours + 1) % 120 = 0 then some pins else none
  | .keyReponse sem pins =>
    if sem.k0 = false ∧ sem.k1 = true ∧ s.factoryFlag ≠ 0 then some pins else none
  | _ => none

/-- The handler resets the unit. -/
def resets : Action → Bool
  | .keyReponse sem _ => !sem.k0 && !sem.k1 && sem.k0k1
  | .reboot _ => true
  | _ => false

theorem resets_iff (a : Action) : resets a = true ↔ Restarts a := by
  cases a <;> simp [resets, Restarts, and_assoc]

theorem resets_of_motoDetectPins {pins : Pins} (h : motoDetectPins s a = some pins) :
    resets a = false := by
  cases a with
  | keyReponse sem pins =>
      obtain ⟨⟨-, h1, -⟩, -⟩ := Option.ite_none_right_eq_some.mp h
      simp [resets, h1]
  | reboot pins => cases h
  | _ => rfl

/-- `Moto_Detect` clears the counters and verdicts of both motors, or does
nothing. -/
theorem verdicts_motoDetect (pins : Pins) (s : State) :
    verdicts (motoDetect pins s) = if s.valveStatus = 1 then (0, 0, 0, 0) else verdicts s := by
  unfold motoDetect
  split
  · dsimp only
    split_ifs <;> rfl
  · rfl

/-! ## what a step does to the counters -/

theorem Motor.turnFlag_congr (h : verdicts s' = verdicts s) : k.turnFlag s' = k.turnFlag s := by
  cases k with
  | one => exact congrArg Prod.fst h
  | two => exact congrArg (·.2.1) h

theorem Motor.turnFlag_motoDetect (pins : Pins) (s : State) :
    k.turnFlag (motoDetect pins s) = if s.valveStatus = 1 then 0 else k.turnFlag s := by
  have h := verdicts_motoDetect pins s
  by_cases hopen : s.valveStatus = 1
  · rw [if_pos hopen] at h ⊢
    cases k with
    | one => exact congrArg Prod.fst h
    | two => exact congrArg (·.2.1) h
  · rw [if_neg hopen] at h ⊢
    exact turnFlag_congr h

theorem verdicts_rtcTimerEntry {pins : Pins} (hr : registryMachine.Reachable s)
    (hs : rtcTimerEntry pins s = some s') : verdicts s' = verdicts (hourBegins pins s) :=
  ((Undisturbed.refl True _).rtcTimerEntry hr hs).verdicts

private theorem Motor.turnFlag_judged (fail1 fail2 alarm : UInt8) (mq : List RadioNormalFormat)
    (s : State) : k.turnFlag { s with
      rfEnMq := mq, moto1FailFlag := fail1, moto2FailFlag := fail2, valveAlarmFlag := alarm } =
    k.turnFlag s := by
  cases k <;> rfl

/-- A verdict leaves both counters as they are. -/
theorem turnFlag_turn1TimerCallback (s : State) :
    k.turnFlag (turn1TimerCallback { s with moto1TimerDetect := false }) = k.turnFlag s := by
  have htest : k.turnFlag (endTest1 s) = k.turnFlag s := by cases k <;> rfl
  have hwarned : k.turnFlag (warningEnableNum 6 (endTest1 s)) = k.turnFlag s :=
    (Motor.turnFlag_congr (verdicts_warningEnable _ _)).trans htest
  obtain ⟨mq, hmq⟩ := queueOnly_warUploadGW 1 0 2 0 (endTest1 s)
  rw [turn1TimerCallback_eq, hmq]
  split_ifs
  · exact (Motor.turnFlag_judged _ _ _ _ _).trans hwarned
  all_goals exact (Motor.turnFlag_judged _ _ _ _ _).trans htest

theorem turnFlag_turn2TimerCallback (s : State) :
    k.turnFlag (turn2TimerCallback { s with moto2TimerDetect := false }) = k.turnFlag s := by
  have htest : k.turnFlag (endTest2 s) = k.turnFlag s := by cases k <;> rfl
  have hwarned : k.turnFlag (warningEnableNum 9 (endTest2 s)) = k.turnFlag s :=
    (Motor.turnFlag_congr (verdicts_warningEnable _ _)).trans htest
  obtain ⟨mq, hmq⟩ := queueOnly_warUploadGW 1 0 2 1 (endTest2 s)
  rw [turn2TimerCallback_eq, hmq]
  split_ifs
  · exact (Motor.turnFlag_judged _ _ _ _ _).trans hwarned
  · exact (Motor.turnFlag_judged _ _ _ _ _).trans htest

theorem motoDetectPins_of_not_selfTests (htest : ¬SelfTests s a) :
    motoDetectPins s a = none ∧ k.countedBy a = false := by
  cases a <;> first | exact ⟨rfl, rfl⟩ | exact absurd trivial htest | skip
  case keyReponse sem pins => exact ⟨if_neg htest, rfl⟩

/-- **What a step makes of a counter.** -/
theorem turnFlag_step (hr : registryMachine.Reachable s) (hs : step rom s a = some s')
    (hrestart : resets a = false) :
    k.turnFlag s' = match motoDetectPins s a with
      | some _ => if s.valveStatus = 1 then 0 else k.turnFlag s
      | none => k.turnFlag s + if k.countedBy a then 1 else 0 := by
  have hrestart' : ¬Restarts a := fun h => by simp [(resets_iff a).mpr h] at hrestart
  by_cases htest : SelfTests s a
  · cases a <;> simp only [step, Option.ite_none_right_eq_some, Option.some.injEq] at hs
    case keyReponse sem pins =>
      obtain ⟨h0, h1, hfactory⟩ := htest
      simp only [keyReponse, h0, h1, keyOff, if_pos hfactory] at hs
      obtain rfl := Option.some.inj hs
      simp only [motoDetectPins, if_pos (And.intro h0 (And.intro h1 hfactory))]
      exact Motor.turnFlag_motoDetect pins _
    case turn1Edge | turn2Edge =>
      obtain ⟨-, rfl⟩ := hs
      cases k <;> simp [motoDetectPins, Motor.countedBy, Motor.turnFlag, turn1EdgeCallback,
        turn2EdgeCallback]
    case moto1TimerAct | moto2TimerAct =>
      obtain ⟨-, rfl⟩ := hs
      cases k <;> simp [motoDetectPins, Motor.countedBy, Motor.turnFlag, moto1TimerActCallback,
        moto2TimerActCallback]
    case moto1TimerDetect =>
      obtain ⟨-, rfl⟩ := hs
      rw [turnFlag_turn1TimerCallback]
      cases k <;> simp [motoDetectPins, Motor.countedBy]
    case moto2TimerDetect =>
      obtain ⟨-, rfl⟩ := hs
      rw [turnFlag_turn2TimerCallback]
      cases k <;> simp [motoDetectPins, Motor.countedBy]
    case motoDetectTimer pins =>
      obtain ⟨-, rfl⟩ := hs
      exact Motor.turnFlag_motoDetect pins _
    case rtcAlarm pins =>
      rw [Motor.turnFlag_congr (verdicts_rtcTimerEntry hr hs)]
      simp only [hourBegins, motoDetectPins]
      split
      · exact Motor.turnFlag_motoDetect pins _
      · cases k <;> simp [Motor.countedBy, Motor.turnFlag]
    all_goals exact htest.elim
  · obtain ⟨hpins, hcounted⟩ := motoDetectPins_of_not_selfTests (k := k) htest
    rw [hpins, hcounted]
    simp [Motor.turnFlag_congr (undisturbed_step hr hs htest hrestart').verdicts]

/-! ## the count of a test -/

/-- The edges counted since `Moto_Detect` has started a test of motor `k`, when
it has and neither it nor a reset has come since. -/
def edgesCounted (k : Motor) (s : State) (edges : Option Nat) (a : Action) : Option Nat :=
  match motoDetectPins s a with
  | some pins => if s.valveStatus = 1 ∧ k.senor pins then some 0 else none
  | none =>
    if resets a then none
    else if k.countedBy a then edges.map (· + 1)
    else edges

/-- The firmware with the count of a motor's edges. -/
def edgeMachine (rom : UInt32) (k : Motor) : Machine (State × Option Nat) Action :=
  (valveMachine rom).observed (fun _ => none) fun s edges a _ => edgesCounted k s edges a

/-- The counter of the source is the count of edges modulo 256. -/
theorem turnFlag_edges {edges : Option Nat} (h : (edgeMachine rom k).Reachable (s, edges)) :
    ∀ n, edges = some n → (k.turnFlag s).toNat = n % 256 := by
  refine Machine.ReachableVia.invariant
    (I := fun p => registryMachine.Reachable p.1 ∧
      ∀ n, p.2 = some n → (k.turnFlag p.1).toNat = n % 256) h ?_ ?_ |>.2
  · rintro ⟨s, edges⟩ ⟨hinit, hedges⟩
    simp only at hedges
    exact ⟨reachable_registryMachine (Machine.Reachable.init hinit), by rw [hedges]; nofun⟩
  · rintro ⟨s, edges⟩ a ⟨s', edges'⟩ ⟨hr, hcount⟩ - hs
    obtain ⟨hstep, hedges⟩ := Machine.observed_step_eq_some.mp hs
    simp only at hr hcount hstep hedges
    refine ⟨reach_step hr hstep, fun n hn => ?_⟩
    simp only [hedges, edgesCounted] at hn
    cases hpins : motoDetectPins s a with
    | some pins =>
        simp only [hpins, Option.ite_none_right_eq_some, Option.some.injEq] at hn
        obtain ⟨⟨hopen, -⟩, rfl⟩ := hn
        have hreset : resets a = false := resets_of_motoDetectPins hpins
        rw [turnFlag_step hr hstep hreset, hpins]
        simp [hopen]
    | none =>
        simp only [hpins, Option.ite_none_left_eq_some, Bool.not_eq_true] at hn
        obtain ⟨hreset, hn⟩ := hn
        have hflag := turnFlag_step (k := k) hr hstep hreset
        simp only [hpins] at hflag
        rw [hflag]
        cases hcounted : k.countedBy a with
        | false =>
            rw [hcounted, if_neg (by simp)] at hn
            simpa using hcount n hn
        | true =>
            rw [hcounted, if_pos rfl] at hn
            obtain ⟨m, hm, rfl⟩ := Option.map_eq_some_iff.mp hn
            have hbefore := hcount m hm
            rw [if_pos rfl, UInt8.toNat_add, hbefore]
            exact Nat.mod_add_mod m 256 1

/-- The Turn `k` timer callback fails the motor on a count below two. -/
theorem failFlag_verdict (hs : step rom s k.verdict = some s') :
    k.failFlag s' = if k.turnFlag s < 2 then 1 else 0 := by
  cases k with
  | one =>
      obtain ⟨-, hs⟩ := Option.ite_none_right_eq_some.mp hs
      obtain rfl := Option.some.inj hs
      rw [turn1TimerCallback_eq]
      unfold Motor.turnFlag Motor.failFlag
      split_ifs <;> rfl
  | two =>
      obtain ⟨-, hs⟩ := Option.ite_none_right_eq_some.mp hs
      obtain rfl := Option.some.inj hs
      rw [turn2TimerCallback_eq]
      unfold Motor.turnFlag Motor.failFlag
      split_ifs <;> rfl

/-- **The verdict of a test is right if and only if** its edges are fewer than
256, or not a multiple of 256 or one more: the flag is set on fewer than two
edges, counted modulo 256. -/
theorem verdict_counts_edges_iff {n : Nat} (h : (edgeMachine rom k).Reachable (s, some n))
    (hs : step rom s k.verdict = some s') :
    (k.failFlag s' = 1 ↔ n < 2) ↔ n < 256 ∨ 2 ≤ n % 256 := by
  have hflag : k.failFlag s' = 1 ↔ n % 256 < 2 := by
    have hcount := turnFlag_edges h n rfl
    rw [failFlag_verdict hs, ← hcount]
    have hlt : k.turnFlag s < 2 ↔ (k.turnFlag s).toNat < 2 := UInt8.lt_iff_toNat_lt
    rw [← hlt]
    split_ifs with hfew <;> simp [hfew]
  rw [hflag]
  omega

/-- A test of motor 1 after an opening by key. -/
def motor1Test : List Action :=
  [pressK1, pressK0, .motoDetectTimer { dryPins with senor1 := true }]

/-- A test of motor 1 that has counted `n` edges. -/
private theorem exists_edges (n : Nat) : ∃ s, (edgeMachine 0 .one).Reachable (s, some n) ∧
    s.senor1Irq = true ∧ s.moto1TimerAct = true := by
  induction n with
  | zero =>
      have hrun : ((edgeMachine 0 .one).runFrom (started, none) motor1Test).map (fun p =>
          (p.1.senor1Irq, p.1.moto1TimerAct, p.2)) = some (true, true, some 0) := by decide +kernel
      obtain ⟨⟨s, edges⟩, hs, hobs⟩ := Option.map_eq_some_iff.mp hrun
      simp only [Prod.mk.injEq] at hobs
      obtain ⟨hirq, hact, rfl⟩ := hobs
      have hstart : (edgeMachine 0 .one).Reachable (started, none) :=
        .init ⟨⟨dryPins, boot_started⟩, rfl⟩
      exact ⟨s, hstart.runFrom hs, hirq, hact⟩
  | succ n ih =>
      obtain ⟨s, hreach, hirq, hact⟩ := ih
      have hedge : (edgeMachine 0 .one).step (s, some n) .turn1Edge =
          some (turn1EdgeCallback s, some (n + 1)) :=
        Machine.observed_step_eq_some.mpr ⟨if_pos hirq, rfl⟩
      exact ⟨_, hreach.step hedge, hirq, hact⟩

/-- Its verdict is due. -/
private theorem exists_verdict (n : Nat) : ∃ s, (edgeMachine 0 .one).Reachable (s, some n) ∧
    s.moto1TimerDetect = true := by
  obtain ⟨s, hreach, -, hact⟩ := exists_edges n
  have hrestored : (edgeMachine 0 .one).step (s, some n) .moto1TimerAct =
      some (moto1TimerActCallback { s with moto1TimerAct := false }, some n) :=
    Machine.observed_step_eq_some.mpr ⟨if_pos hact, rfl⟩
  exact ⟨_, hreach.step hrestored, rfl⟩

/-- Two edges pass the motor. -/
theorem verdict_counts_edges_two : ∃ s s', (edgeMachine 0 .one).Reachable (s, some 2) ∧
    step 0 s .moto1TimerDetect = some s' ∧ s'.moto1FailFlag ≠ 1 := by
  obtain ⟨s, hreach, hdue⟩ := exists_verdict 2
  have hstep : step 0 s .moto1TimerDetect = some _ := if_pos hdue
  have hverdict := (verdict_counts_edges_iff hreach hstep).mpr (.inl (by decide))
  exact ⟨s, _, hreach, hstep, fun hfail => absurd (hverdict.mp hfail) (by decide)⟩

/-- So many edges that the counter is zero again. -/
theorem not_verdict_counts_edges : ¬∀ s s' n, (edgeMachine 0 .one).Reachable (s, some n) →
    step 0 s .moto1TimerDetect = some s' → (s'.moto1FailFlag = 1 ↔ n < 2) := by
  intro hclaim
  obtain ⟨s, hreach, hdue⟩ := exists_verdict 256
  have hstep : step 0 s .moto1TimerDetect = some _ := if_pos hdue
  have hcount : s.turn1Flag = 0 := UInt8.toNat_inj.mp (turnFlag_edges hreach 256 rfl)
  have hfail := failFlag_verdict (k := .one) hstep
  rw [show Motor.turnFlag s .one = 0 from hcount] at hfail
  exact absurd ((hclaim s _ 256 hreach hstep).mp hfail) (by decide)

/-! ## the failure that is shown -/

/-- No timer of the self-test runs. -/
def TestsOver (s : State) : Prop := testTimers s = (false, false, false, false)

instance (s : State) : Decidable (TestsOver s) := inferInstanceAs (Decidable (_ = _))

/-- With no test running, `MotoFail` has a verdict that it is shown for. -/
def VerdictShown (s : State) : Prop :=
  TestsOver s → s.nowStatus = .motoFail → s.moto1FailFlag = 1 ∨ s.moto2FailFlag = 1

/-- The step clears the verdicts and starts no test, or ends the last test with
a motor that is good while the other one has not failed. -/
def ClearsVerdicts (s : State) : Action → Prop
  | .motoDetectTimer pins =>
    s.valveStatus = 1 ∧ TestsOver s ∧ pins.senor1 = false ∧ pins.senor2 = false
  | .rtcAlarm pins => (s.rtcHours + 1) % 120 = 0 ∧
    s.valveStatus = 1 ∧ TestsOver s ∧ pins.senor1 = false ∧ pins.senor2 = false
  | .moto1TimerDetect => 2 ≤ s.turn1Flag ∧ s.moto2FailFlag ≠ 1 ∧
    s.moto1TimerAct = false ∧ s.moto2TimerAct = false ∧ s.moto2TimerDetect = false
  | .moto2TimerDetect => 2 ≤ s.turn2Flag ∧ s.moto1FailFlag ≠ 1 ∧
    s.moto1TimerAct = false ∧ s.moto2TimerAct = false ∧ s.moto1TimerDetect = false
  | _ => False

/-- No test passes while `MotoFail` is shown. -/
def KeepsCause (s : State) (a : Action) : Prop :=
  s.nowStatus = .motoFail → ¬ClearsVerdicts s a

theorem VerdictShown.undisturbed {moves : Prop} (h : VerdictShown s) (hu : Undisturbed moves s s') :
    VerdictShown s' := by
  intro hover hfail
  obtain ⟨hbefore, htimers⟩ := hu.motoFail hfail
  have hverdict := h (htimers.symm.trans hover) hbefore
  have h₁ : s'.moto1FailFlag = s.moto1FailFlag := congrArg (·.2.2.1) hu.verdicts
  have h₂ : s'.moto2FailFlag = s.moto2FailFlag := congrArg (·.2.2.2) hu.verdicts
  rwa [h₁, h₂]

theorem VerdictShown.motoDetect {pins : Pins} (h : VerdictShown s)
    (hok : s.nowStatus = .motoFail → ¬(s.valveStatus = 1 ∧ TestsOver s ∧
      pins.senor1 = false ∧ pins.senor2 = false)) : VerdictShown (motoDetect pins s) := by
  intro hover hfail
  have hstatus : (WaterValve.motoDetect pins s).nowStatus = s.nowStatus :=
    congrArg Ctl.status (ctl_motoDetect pins s)
  rw [hstatus] at hfail
  unfold WaterValve.motoDetect at hover ⊢
  by_cases hopen : s.valveStatus = 1
  · -- a test that is started runs its Act timer
    cases h₁ : pins.senor1 <;> cases h₂ : pins.senor2 <;>
      simp only [hopen, h₁, h₂, TestsOver, testTimers, Prod.mk.injEq, if_true, if_false,
        Bool.false_eq_true, Bool.true_eq_false, false_and, and_false] at hover
    exact absurd ⟨hopen, by simpa [TestsOver, testTimers] using hover, h₁, h₂⟩ (hok hfail)
  · simp only [if_neg hopen] at hover ⊢
    exact h hover hfail

/-- A motor that passes changes neither the status nor the other motor. -/
private theorem passes1 (hpass : ¬s.turn1Flag < 2) :
    (turn1TimerCallback { s with moto1TimerDetect := false }).nowStatus = s.nowStatus ∧
    (turn1TimerCallback { s with moto1TimerDetect := false }).moto2FailFlag = s.moto2FailFlag ∧
    testTimers (turn1TimerCallback { s with moto1TimerDetect := false }) =
      (s.moto1TimerAct, s.moto2TimerAct, false, s.moto2TimerDetect) := by
  obtain ⟨mq, hmq⟩ := queueOnly_warUploadGW 1 0 2 0 (endTest1 s)
  rw [turn1TimerCallback_eq, if_neg hpass, hmq]
  split_ifs <;> exact ⟨rfl, rfl, rfl⟩

private theorem passes2 (hpass : ¬s.turn2Flag < 2) :
    (turn2TimerCallback { s with moto2TimerDetect := false }).nowStatus = s.nowStatus ∧
    (turn2TimerCallback { s with moto2TimerDetect := false }).moto1FailFlag = s.moto1FailFlag ∧
    testTimers (turn2TimerCallback { s with moto2TimerDetect := false }) =
      (s.moto1TimerAct, s.moto2TimerAct, s.moto1TimerDetect, false) := by
  obtain ⟨mq, hmq⟩ := queueOnly_warUploadGW 1 0 2 1 (endTest2 s)
  rw [turn2TimerCallback_eq, if_neg hpass, hmq]
  exact ⟨rfl, rfl, rfl⟩

theorem verdictShown_verdict1 (hok : KeepsCause s .moto1TimerDetect)
    (hs : step rom s .moto1TimerDetect = some s') : VerdictShown s' := by
  intro hover hfail
  have hverdict := failFlag_verdict (k := .one) hs
  obtain ⟨-, hs⟩ := Option.ite_none_right_eq_some.mp hs
  obtain rfl := Option.some.inj hs
  by_cases hfew : s.turn1Flag < 2
  · exact .inl (hverdict.trans (if_pos hfew))
  · obtain ⟨hstatus, hother, htimers⟩ := passes1 hfew
    rw [TestsOver, htimers] at hover
    simp only [Prod.mk.injEq] at hover
    rw [hstatus] at hfail
    rw [hother]
    obtain ⟨hact₁, hact₂, -, hdetect₂⟩ := hover
    by_contra hclear
    exact hok hfail ⟨UInt8.not_lt.mp hfew, fun h => hclear (.inr h), hact₁, hact₂, hdetect₂⟩

theorem verdictShown_verdict2 (hok : KeepsCause s .moto2TimerDetect)
    (hs : step rom s .moto2TimerDetect = some s') : VerdictShown s' := by
  intro hover hfail
  have hverdict := failFlag_verdict (k := .two) hs
  obtain ⟨-, hs⟩ := Option.ite_none_right_eq_some.mp hs
  obtain rfl := Option.some.inj hs
  by_cases hfew : s.turn2Flag < 2
  · exact .inr (hverdict.trans (if_pos hfew))
  · obtain ⟨hstatus, hother, htimers⟩ := passes2 hfew
    rw [TestsOver, htimers] at hover
    simp only [Prod.mk.injEq] at hover
    rw [hstatus] at hfail
    rw [hother]
    obtain ⟨hact₁, hact₂, hdetect₁, -⟩ := hover
    by_contra hclear
    exact hok hfail ⟨UInt8.not_lt.mp hfew, fun h => hclear (.inl h), hact₁, hact₂, hdetect₁⟩

/-- A reset shows no motor failure. -/
theorem boot_status_ne_motoFail {pins : Pins} {env : Env} (hs : boot rom pins env = some s) :
    s.nowStatus ≠ .motoFail := by
  obtain ⟨lastFlag, alarm, hctl⟩ := ctl_boot hs
  have hstatus : s.nowStatus = (Ctl.boot lastFlag alarm).status := congrArg Ctl.status hctl
  rw [hstatus]
  unfold Ctl.boot
  dsimp only
  split
  · have hpriority : (Ctl.reset lastFlag alarm).priority ≤ slaverWaterAlarmActiveEvent.priority :=
      UInt8.zero_le
    have hshown : Ctl.shows .slaverWaterAlarmWarning = some .slaverWaterAlarmActive := rfl
    rw [Ctl.warn_of_le rfl hpriority, Ctl.call_status hshown]
    decide
  · split
    · obtain hsame | hopened := Ctl.openAs_status normalOpen (Ctl.reset lastFlag alarm)
      · rw [hsame]
        exact nofun
      · rw [hopened]
        decide
    · exact nofun

theorem restarts_status (h : Restarts a) (hs : step rom s a = some s') :
    s'.nowStatus ≠ .motoFail := by
  cases a with
  | keyReponse sem pins =>
      obtain ⟨h0, h1, hreset⟩ := h
      simp only [step, keyReponse, h0, h1, hreset, if_true, if_false, Bool.false_eq_true] at hs
      exact boot_status_ne_motoFail hs
  | reboot pins => exact boot_status_ne_motoFail hs
  | _ => exact h.elim

/-- **Every other step keeps what `MotoFail` is shown for.** -/
theorem VerdictShown.step (h : VerdictShown s) (hr : registryMachine.Reachable s)
    (hok : KeepsCause s a) (hs : WaterValve.step rom s a = some s') : VerdictShown s' := by
  by_cases hrestart : Restarts a
  · exact fun _ hfail => absurd hfail (restarts_status hrestart hs)
  by_cases htest : SelfTests s a
  · cases a
    case moto1TimerDetect => exact verdictShown_verdict1 hok hs
    case moto2TimerDetect => exact verdictShown_verdict2 hok hs
    all_goals simp only [WaterValve.step, Option.ite_none_right_eq_some, Option.some.injEq] at hs
    case keyReponse sem pins =>
      obtain ⟨h0, h1, hfactory⟩ := htest
      simp only [keyReponse, h0, h1, keyOff, if_pos hfactory] at hs
      obtain rfl := Option.some.inj hs
      intro hover hfail
      let t := warningDisable { s with factoryCycle := false }
      have hstatus : (WaterValve.motoDetect pins t).nowStatus = t.nowStatus :=
        congrArg Ctl.status (ctl_motoDetect pins t)
      exact absurd (hstatus.symm.trans hfail) (backToNormal_status _)
    case turn1Edge | turn2Edge =>
      obtain ⟨-, rfl⟩ := hs
      exact h
    case moto1TimerAct | moto2TimerAct =>
      obtain ⟨-, rfl⟩ := hs
      intro hover
      simp [TestsOver, testTimers, moto1TimerActCallback, moto2TimerActCallback] at hover
    case motoDetectTimer pins =>
      obtain ⟨-, rfl⟩ := hs
      exact VerdictShown.motoDetect (s := { s with motoDetectTimer := false }) h hok
    case rtcAlarm pins =>
      have hbegins : VerdictShown (hourBegins pins s) := by
        unfold hourBegins
        dsimp only
        split
        · rename_i hround
          exact VerdictShown.motoDetect (s := { s with rtcHours := s.rtcHours + 1 }) h
            fun hfail hclears => hok hfail ⟨hround, hclears⟩
        · exact h
      exact hbegins.undisturbed ((Undisturbed.refl True _).rtcTimerEntry hr hs)
    all_goals exact htest.elim
  · exact h.undisturbed (undisturbed_step hr hs htest hrestart)

/-- **`MotoFail` matches the failure flags** in every state without a running
test, on every run on which no test passes while it is shown. -/
theorem motoFail_matches_verdicts (h : (valveMachine rom).ReachableVia KeepsCause s)
    (hover : TestsOver s) (hfail : s.nowStatus = .motoFail) :
    s.moto1FailFlag = 1 ∨ s.moto2FailFlag = 1 := by
  have hinv : registryMachine.Reachable s ∧ VerdictShown s := by
    refine h.invariant (I := fun s => registryMachine.Reachable s ∧ VerdictShown s)
      (fun s ⟨pins, hboot⟩ => ?_) fun s a s' ⟨hr, hshown⟩ hok hs =>
        ⟨reach_step hr hs, hshown.step hr hok hs⟩
    exact ⟨reachable_registryMachine (Machine.Reachable.init ⟨pins, hboot⟩),
      fun _ hfail => absurd hfail (boot_status_ne_motoFail hboot)⟩
  exact hinv.2 hover hfail

/-- Motor 1 does not move when it is tested. -/
def motor1Fails : List Action := motor1Test ++ [.moto1TimerAct, .moto1TimerDetect]

theorem motoFail_matches_verdicts_motor1 : ∃ s,
    (valveMachine 0).ReachableVia KeepsCause s ∧ s.nowStatus = .motoFail ∧
      (s.moto1FailFlag = 1 ∨ s.moto2FailFlag = 1) := by
  have hrun : ((valveMachine 0).runChecked (fun s _ => s.nowStatus ≠ .motoFail) started
      motor1Fails).map (fun s => (s.nowStatus, testTimers s)) =
        some (.motoFail, false, false, false, false) := by decide +kernel
  obtain ⟨s, hs, hobs⟩ := Option.map_eq_some_iff.mp hrun
  simp only [Prod.mk.injEq] at hobs
  have hstart : (valveMachine 0).ReachableVia KeepsCause started := .init ⟨dryPins, boot_started⟩
  have hreach := hstart.runChecked
    (fun s a htest hfail => absurd hfail (of_decide_eq_true htest)) hs
  exact ⟨s, hreach, hobs.1, motoFail_matches_verdicts hreach hobs.2 hobs.1⟩

/-- The clock has counted 119 hours when motor 1 fails; the test of the next
hour finds it good. -/
def laterTestPasses : List Action :=
  List.replicate 119 (.rtcAlarm dryPins) ++ motor1Fails ++
    [.rtcAlarm { dryPins with senor1 := true }, .turn1Edge, .turn1Edge, .moto1TimerAct,
      .moto1TimerDetect]

theorem not_motoFail_matches_verdicts : ¬∀ s, (valveMachine 0).Reachable s → TestsOver s →
    s.nowStatus = .motoFail → s.moto1FailFlag = 1 ∨ s.moto2FailFlag = 1 := by
  intro hclaim
  have hrun : ((valveMachine 0).runFrom started laterTestPasses).map (fun s =>
      (s.nowStatus, s.moto1FailFlag, s.moto2FailFlag, decide (TestsOver s))) =
        some (.motoFail, 0, 0, true) := by decide +kernel
  obtain ⟨s, hreach, hobs⟩ := exists_of_run hrun
  simp only [Prod.mk.injEq] at hobs
  obtain ⟨hfail, h₁, h₂, hover⟩ := hobs
  have hflags := hclaim s hreach (of_decide_eq_true hover) hfail
  rw [h₁, h₂] at hflags
  exact absurd hflags (by decide)

end WaterValve
