import WaterValve.Roles
import WaterValve.Senders
import WaterValve.SystemRegistry

/-!
# WaterValve.OfflineAlarm

When `Offline_React` ends the offline alarm.  It goes by slots where it means
devices.  It looks at free slots, so a deleted slot with `Alive` 0 keeps the
alarm on after every device has been heard.  And it passes over the slots that
`DoorNum` and `GatewayNum` name, where a slave may sit after the door or the
gateway has left.
-/

namespace WaterValve

variable {rom : UInt32} {s : State} {i : Nat}

/-- The slots `Offline_React` looks at. -/
def Watched (s : State) (i : Nat) : Prop :=
  0 < i ∧ i ≤ s.globalDevice.num ∧ i ≠ s.globalDevice.doorNum ∧ i ≠ s.globalDevice.gatewayNum

/-- A watched slot has not been heard of. -/
def Silent (s : State) (i : Nat) : Prop := Watched s i ∧ s.globalDevice.alive i = 0

/-- The offline alarm ends exactly when no watched slot is silent. -/
theorem offlineReact_iff (hwf : s.Wf) (hoff : s.nowStatus = .offline)
    (hnum : 0 < s.globalDevice.num) :
    (offlineReact s).nowStatus ≠ .offline ↔ ∀ i, ¬Silent s i := by
  have hany : ((List.range' 1 s.searchStart).any fun num => s.globalDevice.alive num = 0 &&
      num ≠ s.globalDevice.doorNum && num ≠ s.globalDevice.gatewayNum) = true ↔
      ∃ i, Silent s i := by
    simp only [List.any_eq_true, List.mem_range'_1, Bool.and_eq_true, decide_eq_true_eq,
      hwf.searchStart_eq, Silent, Watched]
    constructor
    · rintro ⟨i, hi, ⟨hz, hd⟩, hg⟩
      exact ⟨i, ⟨by omega, by omega, hd, hg⟩, hz⟩
    · rintro ⟨i, ⟨h0, hi, hd, hg⟩, hz⟩
      exact ⟨i, by omega, ⟨hz, hd⟩, hg⟩
  have hstart : s.searchStart ≠ 0 := by rw [hwf.searchStart_eq]; omega
  unfold offlineReact
  rw [if_neg (not_not.mpr hoff), if_neg hstart]
  dsimp only
  split
  · rename_i hsilent
    obtain ⟨i, hi⟩ := hany.mp hsilent
    exact ⟨fun h => absurd hoff h, fun h => absurd hi (h i)⟩
  · rename_i hsilent
    have hnormal : (offlineDisableWarning s).nowStatus ≠ .offline := by
      simp only [offlineDisableWarning, hoff, if_true, warningDisable, backToNormal]
      split <;> simp
    exact ⟨fun _ i hi => hsilent (hany.mpr ⟨i, hi⟩), fun _ => hnormal⟩

/-- A registered device, neither the door nor the gateway, is in the slot. -/
def HoldsSlave (s : State) (i : Nat) : Prop :=
  0 < i ∧ i ≤ s.globalDevice.num ∧ s.globalDevice.id i ≠ 0 ∧
    ¬IsDoor (s.globalDevice.id i) ∧ ¬IsGateway (s.globalDevice.id i)

/-- Every registered device other than the door and the gateway has been
heard. -/
def AllHeard (s : State) : Prop := ∀ i, HoldsSlave s i → s.globalDevice.alive i ≠ 0

/-- A slave that has not been heard of sits in a slot that `Offline_React`
passes over. -/
def PassedOver (s : State) (i : Nat) : Prop :=
  HoldsSlave s i ∧ s.globalDevice.alive i = 0 ∧
    (i = s.globalDevice.doorNum ∨ i = s.globalDevice.gatewayNum)

/-- The door and the gateway are in the slots of the two pointers, so a watched
slot that is used holds a slave. -/
theorem Watched.holdsSlave (h : (valveMachine rom).Reachable s) (hi : Watched s i)
    (hid : s.globalDevice.id i ≠ 0) : HoldsSlave s i := by
  have hreach := reachable_registryMachine h
  obtain ⟨h0, hle, hdoor, hgateway⟩ := hi
  exact ⟨h0, hle, hid, fun hd => hdoor ((registryMachine_slotClasses hreach).door i hd),
    fun hg => hgateway (registryMachine_gatewaySlot hreach i hg)⟩

/-- A device that has not been heard of is in a watched slot or passed over. -/
theorem allHeard_iff (h : (valveMachine rom).Reachable s) : AllHeard s ↔
    (¬∃ i, Silent s i ∧ s.globalDevice.id i ≠ 0) ∧ ¬∃ i, PassedOver s i := by
  constructor
  · intro hall
    refine ⟨fun ⟨i, ⟨hi, hz⟩, hid⟩ => ?_, fun ⟨i, hi, hz, _⟩ => hall i hi hz⟩
    exact hall i (hi.holdsSlave h hid) hz
  · rintro ⟨hwatched, hpassed⟩ i hi hz
    have hslot : i ≠ s.globalDevice.doorNum ∧ i ≠ s.globalDevice.gatewayNum := by
      rw [← not_or]
      exact fun hpointer => hpassed ⟨i, hi, hz, hpointer⟩
    exact hwatched ⟨i, ⟨⟨hi.1, hi.2.1, hslot.1, hslot.2⟩, hz⟩, hi.2.2.1⟩

/-- **When the offline alarm ends exactly with the last silent device**: a slave
in a watched slot is silent, or a watched free slot is silent just when some
silent slave is passed over. -/
theorem offline_alarm_ends (h : (valveMachine rom).Reachable s) (hoff : s.nowStatus = .offline)
    (hnum : 0 < s.globalDevice.num) :
    ((offlineReact s).nowStatus ≠ .offline ↔ AllHeard s) ↔
      (∃ i, Silent s i ∧ s.globalDevice.id i ≠ 0) ∨
        ((∃ i, Silent s i ∧ s.globalDevice.id i = 0) ↔ ∃ i, PassedOver s i) := by
  have hsilent : (∀ i, ¬Silent s i) ↔ (¬∃ i, Silent s i ∧ s.globalDevice.id i ≠ 0) ∧
      ¬∃ i, Silent s i ∧ s.globalDevice.id i = 0 := by
    constructor
    · intro hnone
      exact ⟨fun ⟨i, hi, _⟩ => hnone i hi, fun ⟨i, hi, _⟩ => hnone i hi⟩
    · rintro ⟨hused, hfree⟩ i hi
      by_cases hid : s.globalDevice.id i = 0
      · exact hfree ⟨i, hi, hid⟩
      · exact hused ⟨i, hi, hid⟩
  rw [offlineReact_iff (valveMachine_wf h) hoff hnum, hsilent, allHeard_iff h]
  generalize (∃ i, Silent s i ∧ s.globalDevice.id i ≠ 0) = used
  generalize (∃ i, Silent s i ∧ s.globalDevice.id i = 0) = free
  generalize (∃ i, PassedOver s i) = passed
  tauto

/-- Twenty-five hours without a frame. -/
def silentDay : List Action := List.replicate 25 (.rtcAlarm dryPins)

/-- Two slaves and a gateway are learned and nothing is heard for a day. -/
theorem offline_alarm_ends_silentDay : ∃ s, (valveMachine 0).runFrom started
      (learnDevice 10000001 ++ learnDevice 10000002 ++ learnDevice 40000001 ++ silentDay) = some s ∧
    (((offlineReact s).nowStatus ≠ .offline ↔ AllHeard s) ↔
      (∃ i, Silent s i ∧ s.globalDevice.id i ≠ 0) ∨
        ((∃ i, Silent s i ∧ s.globalDevice.id i = 0) ↔ ∃ i, PassedOver s i)) := by
  have hrun : ((valveMachine 0).runFrom started
      (learnDevice 10000001 ++ learnDevice 10000002 ++ learnDevice 40000001 ++ silentDay)).map
      (fun s => (s.nowStatus, s.globalDevice.num)) = some (.offline, 3) := by decide +kernel
  obtain ⟨s, hs, hobs⟩ := Option.map_eq_some_iff.mp hrun
  obtain ⟨hoff, hnum⟩ := Prod.mk.inj hobs
  exact ⟨s, hs, offline_alarm_ends (started_reachable.runFrom hs) hoff (by omega)⟩

/-- Two runs in which the alarm does not follow the devices.  In the first the
gateway deletes one of two slaves, neither is heard for a day, and then the
other one is: the alarm stays on.  In the second a slave takes the slot of the
gateway that was deleted and is never heard, the alarm comes while the unit
learns, and the other slave is heard then: the alarm ends. -/
theorem not_offline_alarm_ends :
    (∃ s, (valveMachine 0).Reachable s ∧ s.nowStatus = .offline ∧ 0 < s.globalDevice.num ∧
      AllHeard s ∧ (offlineReact s).nowStatus = .offline) ∧
    ∃ s, (valveMachine 0).Reachable s ∧ s.nowStatus = .offline ∧ 0 < s.globalDevice.num ∧
      ¬AllHeard s ∧ (offlineReact s).nowStatus ≠ .offline := by
  constructor
  · have hrun : ((valveMachine 0).runFrom started
        (learnDevice 10000001 ++ learnDevice 10000002 ++ learnDevice 40000001 ++
          [gatewayRx 40000001 10000001 6 0] ++ silentDay ++ [nodeRx 10000002 1 0])).map
        (fun s => (s.nowStatus, s.globalDevice.num, s.globalDevice.id 1, s.globalDevice.id 3,
          s.globalDevice.alive 2, (offlineReact s).nowStatus)) =
        some (.offline, 3, 0, 40000001, 1, .offline) := by decide +kernel
    obtain ⟨s, hreach, hobs⟩ := exists_of_run hrun
    simp only [Prod.mk.injEq] at hobs
    obtain ⟨hoff, hnum, hdeleted, hgateway, halive, hstays⟩ := hobs
    refine ⟨s, hreach, hoff, by omega, ?_, hstays⟩
    rintro i ⟨h0, hle, hid, -, hslave⟩
    have hcases : i = 1 ∨ i = 2 ∨ i = 3 := by omega
    obtain rfl | rfl | rfl := hcases
    · exact absurd hdeleted hid
    · rw [halive]
      decide
    · rw [hgateway] at hslave
      exact absurd ⟨by decide, by decide⟩ hslave
  · have hrun : ((valveMachine 0).runFrom started
        (learnDevice 10000001 ++ learnDevice 40000001 ++ [gatewayRx 40000001 40000001 6 0] ++
          learnDevice 10000002 ++ silentDay.drop 1 ++
            [holdK1, .rtcAlarm dryPins, nodeRx 10000001 1 0])).map
        (fun s => (s.nowStatus, s.globalDevice.num, s.globalDevice.id 2, s.globalDevice.alive 2,
          (offlineReact s).nowStatus)) = some (.offline, 2, 10000002, 0, .close) := by
      decide +kernel
    obtain ⟨s, hreach, hobs⟩ := exists_of_run hrun
    simp only [Prod.mk.injEq] at hobs
    obtain ⟨hoff, hnum, hid, halive, hends⟩ := hobs
    refine ⟨s, hreach, hoff, by omega, ?_, by rw [hends]; decide⟩
    intro hall
    have hslave : HoldsSlave s 2 := by
      unfold HoldsSlave
      rw [hid, hnum]
      exact ⟨by decide, by decide, by decide, fun h => absurd h.1 (by decide),
        fun h => absurd h.1 (by decide)⟩
    exact hall 2 hslave halive

end WaterValve
