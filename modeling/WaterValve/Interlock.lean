import WaterValve.Hour
import WaterValve.Reload
import WaterValve.Senders

/-!
# WaterValve.Interlock

The lock a remote close leaves.  A valve closed by `Moto_Close(OtherOff)` is
not opened by a key, a warning, the freeze sensor or a start of the unit: the
lock ends with `Moto_Open(OtherOpen)` or when everything is erased
(`remote_close_interlock`).
-/

namespace WaterValve

variable {rom : UInt32} {s s' : State} {a : Action}

/-! ## the steps that lock and unlock -/

/-- `Moto_Init` finds a slave alarm in the registry it loads. -/
def AlarmStored (env : Env) : Prop :=
  (State.reset env).loadDevice2Memory.any (·.flashGetSlaveAlarmFlag ≠ 0) = true

instance (env : Env) : Decidable (AlarmStored env) := inferInstanceAs (Decidable (_ = _))

/-- The event executes `Moto_Close(OtherOff)`: the delay is over, a node frame
is a remote close or an alarm that closes, the gateway closes, or the unit
starts with a slave alarm. -/
def Event.Closes (s : State) : Event → Prop
  | .delayEnds => True
  | .node rssi buf => s.learnFlag = 0 ∧ NodeCloses buf (heardFrom rssi buf.fromID.toUInt32 s)
  | .gateway buf => GatewayCloses buf s
  | .restart _ env => AlarmStored env
  | _ => False

/-- The event executes `Moto_Open(OtherOpen)`. -/
def Event.Opens (s : State) : Event → Prop
  | .node rssi buf => s.learnFlag = 0 ∧ NodeOpens buf (heardFrom rssi buf.fromID.toUInt32 s)
  | .gateway buf => GatewayOpens buf s
  | _ => False

instance (s : State) : (e : Event) → Decidable (e.Closes s)
  | .delayEnds => inferInstanceAs (Decidable True)
  | .node .. => inferInstanceAs (Decidable (_ ∧ _))
  | .gateway buf => inferInstanceAs (Decidable (GatewayCloses buf s))
  | .restart _ env => inferInstanceAs (Decidable (AlarmStored env))
  | .quiet | .hour _ | .sent => inferInstanceAs (Decidable False)

/-- The handler executes `Moto_Close(OtherOff)`. -/
def ClosesRemotely (s : State) (a : Action) : Prop := (event s a).Closes s

instance (s : State) (a : Action) : Decidable (ClosesRemotely s a) :=
  inferInstanceAs (Decidable ((event s a).Closes s))

/-- The handler executes `Moto_Open(OtherOpen)`. -/
def OpensRemotely (s : State) (a : Action) : Prop := (event s a).Opens s

/-- The handler executes `DeleteAllDevice`. -/
def DeletesAll (a : Action) : Prop :=
  ∃ sem pins, a = .keyReponse sem pins ∧ sem.k0 = false ∧ sem.k1 = false ∧ sem.k0k1 = true

/-- The lock: closed, by a remote close. -/
def Locked (s : State) : Prop := s.globalDevice.lastFlag = otherOff ∧ s.valveStatus = 0

theorem locked_iff (s : State) : (view s).locked = true ↔ Locked s := decide_eq_true_iff

/-- The environment a unit restarts with, unless everything is erased. -/
theorem env_of_restart {pins : Pins} {env : Env} (h : event s a = .restart pins env)
    (ha : ¬DeletesAll a) : env = s.env := by
  cases a with
  | keyReponse sem p =>
      simp only [event] at h
      split at h
      · rename_i hkeys
        exact absurd ⟨sem, p, rfl, hkeys⟩ ha
      · cases h
  | reboot p =>
      cases h
      rfl
  | rf433Rx rxMessage rssi buffer len =>
      simp only [event, frameEvent] at h
      repeat' split at h
      all_goals cases h
  | rfEncode | waterscanTimer | ntcScanTimer | delayTimer | learnTimer | turn1Edge | turn2Edge
  | moto1TimerAct | moto2TimerAct | moto1TimerDetect | moto2TimerDetect | motoDetectTimer
  | rtcAlarm | gatewaySyncT | heartCheckT | heartTestT | factoryCycle => cases h

theorem nodeLocks_of_closes {buf : Message} (h : NodeCloses buf s) (locked : Bool) :
    nodeLocks buf s locked = true := by
  have hopens : ¬NodeOpens buf s := by
    rintro ⟨h5, -⟩
    simp [NodeCloses, h5] at h
  rw [nodeLocks, if_neg hopens, decide_eq_true h, Bool.true_or]

theorem gatewayLocks_of_closes {buf : Message} (h : GatewayCloses buf s) (locked : Bool) :
    gatewayLocks buf s locked = true := by
  have hopens : ¬GatewayOpens buf s := fun ho => ho.2.1 h.2.1
  rw [gatewayLocks, if_neg hopens, decide_eq_true h, Bool.true_or]

/-- **A remote close locks.** -/
theorem locked_of_closes (hs : step rom s a = some s') (hc : ClosesRemotely s a) : Locked s' := by
  have hevent := handles_event hs
  rw [← locked_iff]
  unfold ClosesRemotely at hc
  generalize event s a = e at hevent hc
  cases hevent with
  | quiet | hour | sent => exact hc.elim
  | learn haccept hlearn => exact absurd hc.1 hlearn
  | @solve rssi buf haccept hlearn =>
      obtain ⟨d, hview⟩ := view_solve rssi buf s
      exact (congrArg View.locked hview).trans (nodeLocks_of_closes hc.2 _)
  | @gateway buf haccept =>
      obtain ⟨d, hview⟩ := view_gateway buf s
      exact (congrArg View.locked hview).trans (gatewayLocks_of_closes hc _)
  | restart hs =>
      obtain ⟨st, hst, hview⟩ := view_boot hs
      have halarm : st.flashGetSlaveAlarmFlag ≠ 0 := by
        simpa [Event.Closes, AlarmStored, hst] using hc
      refine (congrArg View.locked hview).trans ?_
      simp [halarm]
  | delayEnds hview => exact congrArg View.locked hview

/-- **The lock is kept** by every handler that neither opens remotely nor erases
everything. -/
theorem locked_step (hr : registryMachine.Reachable s) (hs : step rom s a = some s')
    (hl : Locked s) (ho : ¬OpensRemotely s a) (hd : ¬DeletesAll a) : Locked s' := by
  have hevent := handles_event hs
  have henv : ∀ pins env, event s a = .restart pins env → env = s.env :=
    fun _ _ he => env_of_restart he hd
  rw [← locked_iff] at hl ⊢
  unfold OpensRemotely at ho
  generalize event s a = e at hevent ho henv
  cases hevent with
  | quiet hview => exact (congrArg View.locked hview).trans hl
  | @learn rssi buf haccept hlearn =>
      have hlearn := registryOnly_learn rssi buf s
      split at hlearn <;> exact hlearn.locked.trans hl
  | @solve rssi buf haccept hlearn =>
      obtain ⟨d, hview⟩ := view_solve rssi buf s
      refine (congrArg View.locked hview).trans ?_
      show nodeLocks buf _ (view s).locked = true
      rw [nodeLocks, if_neg fun h => ho ⟨hlearn, h⟩, hl, Bool.or_true]
  | @gateway buf haccept =>
      obtain ⟨d, hview⟩ := view_gateway buf s
      refine (congrArg View.locked hview).trans ?_
      show gatewayLocks buf s (view s).locked = true
      have hopens : ¬GatewayOpens buf s := ho
      rw [gatewayLocks, if_neg hopens, hl, Bool.or_true]
  | hour hs => exact (hourPassed hr hs).locked.trans hl
  | @restart pins env s' hs =>
      -- the registry the unit starts with is the one it had
      obtain ⟨st, hst, hview⟩ := view_boot hs
      have hlast : st.globalDevice.lastFlag = otherOff := by
        rw [henv pins env rfl] at hst
        rw [← motoStored_loadDevice2Memory hst, env_loadDevice2Memory hst]
        exact (registryMachine_motoStored hr).trans ((locked_iff s).mp hl).1
      refine (congrArg View.locked hview).trans ?_
      simp [hlast]
  | delayEnds hview => exact congrArg View.locked hview
  | sent => exact hl

/-- **Remote-close interlock**: from a step that executes `Moto_Close(OtherOff)`
until one executes `Moto_Open(OtherOpen)` or `DeleteAllDevice`, the valve is
closed and `LastFlag` is `OtherOff`, in RAM and as a start of the unit would
load it. -/
theorem remote_close_interlock {s₀ : State} (h : (valveMachine rom).Reachable s)
    (hclose : ClosesRemotely s a) (hs : step rom s a = some s₀)
    (hrun : ((valveMachine rom).startedIn s₀).ReachableVia
      (fun s a => ¬OpensRemotely s a ∧ ¬DeletesAll a) s') :
    s'.valveStatus = 0 ∧ s'.globalDevice.lastFlag = otherOff ∧
      ∃ st, s'.loadDevice2Memory = some st ∧ st.globalDevice.lastFlag = otherOff := by
  have hr := reachable_registryMachine h
  have hinv : registryMachine.Reachable s' ∧ Locked s' := by
    refine hrun.invariant (I := fun s => registryMachine.Reachable s ∧ Locked s) (fun t ht => ?_)
      fun t b t' hI hok ht => ?_
    · obtain rfl : t = s₀ := ht
      exact ⟨reach_step hr hs, locked_of_closes hs hclose⟩
    · exact ⟨reach_step hI.1 ht, locked_step hI.1 ht hI.2 hok.1 hok.2⟩
  obtain ⟨hr', hlast, hvalve⟩ := hinv
  obtain ⟨st, hload, -⟩ := same_loadDevice2Memory (registryMachine_wf hr')
  refine ⟨hvalve, hlast, st, hload, ?_⟩
  rw [← motoStored_loadDevice2Memory hload, env_loadDevice2Memory hload]
  exact (registryMachine_motoStored hr').trans hlast

/-- What happens after a remote close in the run below: `K0` is pressed, the
probe gets wet and dry again, the unit is started again, and `K0` is pressed. -/
def afterClose : List Action := [pressK0, scanWet, scanDry, .reboot dryPins, pressK0]

/-- None of it opens the valve remotely or erases everything. -/
theorem keepsLock_afterClose : ∀ a ∈ afterClose, ∀ s, ¬OpensRemotely s a ∧ ¬DeletesAll a := by
  intro a ha s
  simp only [afterClose, List.mem_cons, List.not_mem_nil, or_false] at ha
  have hkeep : ¬OpensRemotely s a := by
    obtain rfl | rfl | rfl | rfl | rfl := ha <;> exact id
  refine ⟨hkeep, ?_⟩
  rintro ⟨sem, pins, h, -, -, hk0k1⟩
  obtain rfl | rfl | rfl | rfl | rfl := ha <;> cases h <;> cases hk0k1

/-- A slave is learned and closes the valve, and then `afterClose` happens. -/
theorem remote_close_interlock_restarted : ∃ s s₀ s',
    (valveMachine 0).runFrom started (learnDevice 10000001) = some s ∧
    step 0 s (nodeRx 10000001 6 0) = some s₀ ∧ (valveMachine 0).runFrom s₀ afterClose = some s' ∧
    s'.valveStatus = 0 ∧ s'.globalDevice.lastFlag = otherOff ∧
      ∃ st, s'.loadDevice2Memory = some st ∧ st.globalDevice.lastFlag = otherOff := by
  have hrun : (((valveMachine 0).runFrom started (learnDevice 10000001)).bind fun s =>
      (step 0 s (nodeRx 10000001 6 0)).bind fun s₀ =>
        ((valveMachine 0).runFrom s₀ afterClose).map fun _ =>
          decide (ClosesRemotely s (nodeRx 10000001 6 0))) = some true := by decide +kernel
  obtain ⟨s, hs, hrun⟩ := Option.bind_eq_some_iff.mp hrun
  obtain ⟨s₀, hs₀, hrun⟩ := Option.bind_eq_some_iff.mp hrun
  obtain ⟨s', hs', hcloses⟩ := Option.map_eq_some_iff.mp hrun
  generalize nodeRx 10000001 6 0 = a at hs₀ hcloses ⊢
  exact ⟨s, s₀, s', hs, hs₀, hs', remote_close_interlock (started_reachable.runFrom hs)
    (of_decide_eq_true hcloses) hs₀ (Machine.reachableVia_startedIn keepsLock_afterClose hs')⟩

end WaterValve
