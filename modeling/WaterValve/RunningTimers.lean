import WaterValve.KernelNeeds

/-!
# WaterValve.RunningTimers

The two accounts of the timers: the flags of the state, which say which timers
run, and the calls of the handlers, which say which are started or stopped.  A
handler leaves every timer alone that it makes no call for.  Each function of
the source has one lemma, `framed_<function>`; the one about a step is
`framed_step`.
-/

namespace WaterValve

/-- The timers that run.  The scans have run since `main`; the timer of the
transmit thread has no flag. -/
def State.running (s : State) : KernelObject → Bool
  | .learnTimer => s.learnTimer
  | .delayTimer => s.delayTimer
  | .moto1TimerAct => s.moto1TimerAct
  | .moto2TimerAct => s.moto2TimerAct
  | .moto1TimerDetect => s.moto1TimerDetect
  | .moto2TimerDetect => s.moto2TimerDetect
  | .motoDetectTimer => s.motoDetectTimer
  | .factoryCycle => s.factoryCycle
  | .heartTestT => s.heartTestT
  | .heartCheckT => s.heartCheckT
  | .gatewaySyncT => s.gatewaySyncT
  | .ntcscanTimer | .waterscanTimer => true
  | .rf433SendTimer | .rfEnMq => false

/-- A timer that no call is for runs if it did. -/
def Framed (calls : List KernelObject) (s s' : State) : Prop :=
  ∀ o, o ∉ calls → s'.running o = s.running o

namespace Framed

variable {l l' : List KernelObject} {s t u : State}

theorem refl (l : List KernelObject) (s : State) : Framed l s s := fun _ _ => rfl

/-- Nothing ran or stopped. -/
theorem of_running (h : t.running = s.running) : Framed l s t := fun o _ => congrFun h o

/-- The queue is no timer. -/
theorem mono (h : Framed l s t) (hsub : ∀ o ∈ l, o ∈ l' ∨ o = .rfEnMq) : Framed l' s t := by
  intro o ho
  by_cases hmem : o ∈ l
  · obtain rfl := (hsub o hmem).resolve_left ho
    rfl
  · exact h o hmem

theorem trans (h : Framed l s t) (h' : Framed l' t u) : Framed (l ++ l') s u := fun o ho =>
  (h' o fun hmem => ho (List.mem_append_right l hmem)).trans
    (h o fun hmem => ho (List.mem_append_left l' hmem))

/-- Two parts of a function, of which one has all the calls. -/
theorem trans_self (h : Framed l s t) (h' : Framed l t u) : Framed l s u := fun o ho =>
  (h' o ho).trans (h o ho)

theorem ite {b : Prop} [Decidable b] {t' : State} (h : b → Framed l s t)
    (h' : ¬b → Framed l' s t') : Framed (if b then l else l') s (if b then t else t') := by
  split
  · exact h ‹_›
  · exact h' ‹_›

end Framed

variable {s s' t : State} {buf : Message} {l : List KernelObject}

/-- The queue is no timer: what only sends starts and stops none. -/
theorem QueueOnly.running (h : QueueOnly s s') : s'.running = s.running := by
  obtain ⟨mq, rfl⟩ := h
  rfl

theorem QueueOnly.framed (h : QueueOnly s s') : Framed l s s' := .of_running h.running

/-- A branch that leaves the timers alone on both sides. -/
theorem running_ite {b : Prop} [Decidable b] (h : b → s.running = t.running)
    (h' : ¬b → s'.running = t.running) : (if b then s else s').running = t.running :=
  iteInduction (motive := fun u : State => u.running = t.running) h h'

/-- An upload needs the queue and nothing else of the kernel. -/
theorem mem_uploadCalls {o : KernelObject} (h : o ∈ uploadCalls s) : o = .rfEnMq := by
  unfold uploadCalls gatewayEnqueueCalls at h
  split_ifs at h <;> simp_all

/-! ## the valve and the warnings -/

section

variable (actFlag : UInt8) (s : State)

/-- Every opening stops the delay timer; by hand, it also starts `Moto_Detect_Timer`. -/
theorem framed_motoOpen : Framed (motoOpenCalls actFlag s) s (motoOpen actFlag s) := by
  unfold motoOpenCalls motoOpen
  refine .ite (fun _ => ?_) fun _ => .refl _ _
  dsimp only
  intro o ho
  by_cases hf : actFlag = normalOpen
  · obtain ⟨mq, hmq⟩ := queueOnly_controlUploadGW 1 0 1 1
      (writeTurns true (setLastFlag actFlag { s with nowStatus := .opened, valveStatus := 1 }))
    rw [if_pos hf, hmq]
    cases o with
    | delayTimer | motoDetectTimer => simp [hf] at ho
    | _ => rfl
  · rw [if_neg hf]
    cases o with
    | delayTimer => simp at ho
    | _ => rfl

/-- A close that is carried out stops the delay timer and the four timers of the
self-test; one that only repeats a remote close stops the first. -/
theorem framed_motoClose : Framed (motoCloseCalls actFlag s) s (motoClose actFlag s) := by
  unfold motoCloseCalls motoClose
  refine .ite (fun _ => ?_) fun hoff => ?_
  · dsimp only
    intro o ho
    obtain ⟨mq, hmq⟩ := queueOnly_controlUploadGW 1 0 1 0
      (setLastFlag actFlag { s with nowStatus := .close, valveStatus := 0 })
    rw [hmq]
    cases o with
    | delayTimer | moto1TimerAct | moto2TimerAct | moto1TimerDetect | moto2TimerDetect =>
        simp [motoTimers] at ho
    | _ => split <;> rfl
  · have hlast : s.globalDevice.lastFlag = otherOff := not_not.mp hoff
    simp only [hlast, true_and]
    refine .ite (fun _ o ho => ?_) fun _ => .refl _ _
    cases o with
    | delayTimer => simp at ho
    | _ => rfl

/-- Five of the warnings go through `Moto_Close`, and the others only report. -/
theorem framed_callback (callback : WarningCallback) :
    Framed (callback.calls s) s (callback.run s) := by
  have hclose := framed_motoClose
  cases callback with
  | slaverLowBatteryWarning => exact .refl _ _
  | slaverUltraLowBatteryWarning | slaverWaterAlarmWarning => exact hclose otherOff s
  | masterLostPeakWarning =>
      exact (queueOnly_warUploadGW 1 0 3 1 { s with nowStatus := .masterLostPeak }).framed
  | masterWaterAlarmWarning =>
      exact (hclose normalOff s).trans (queueOnly_warUploadGW 1 0 1 1 _).framed
  | ntcWarningEventCallback =>
      exact (hclose normalOff s).trans (queueOnly_warUploadGW 1 0 8 1 _).framed
  | offlineWarning => exact .ite (fun _ => hclose normalOff s) fun _ => .refl _ _
  | moto1FailCallback => exact (queueOnly_warUploadGW 1 0 2 2 s).framed
  | moto2FailCallback => exact (queueOnly_warUploadGW 1 0 2 3 s).framed

/-- A warning that is not urgent enough makes no call. -/
theorem framed_warningEnable (event : WariningEvent) :
    Framed (warningEnableCalls event s) s (warningEnable event s) := by
  unfold warningEnableCalls warningEnable
  refine .ite (fun _ => ?_) fun _ => .refl _ _
  cases event.callback with
  | none => exact .refl _ _
  | some callback =>
      refine (framed_callback _ callback).mono fun o ho => ?_
      cases callback with
      | masterWaterAlarmWarning | ntcWarningEventCallback =>
          obtain hclose | hupload := List.mem_append.mp ho
          · exact .inl (List.mem_append_left _ hclose)
          · exact .inr (mem_uploadCalls hupload)
      | _ => exact .inl ho

theorem framed_warningEnableNum (id : UInt8) :
    Framed (warningEnableNumCalls id s) s (warningEnableNum id s) := by
  unfold warningEnableNumCalls warningEnableNum
  cases warningEvent id with
  | none => exact .refl _ _
  | some event => exact framed_warningEnable s event

end

theorem running_backToNormal (s : State) : (backToNormal s).running = s.running := rfl

theorem running_warningDisable (s : State) : (warningDisable s).running = s.running := rfl

/-! ## the sensors and the self-test -/

/-- A probe that is wet closes the valve; one that dries or comes back only reports. -/
theorem framed_warningWithPeak (status : Nat) (s : State) :
    Framed (warningWithPeakCalls status s) s (warningWithPeak status s) := by
  unfold warningWithPeakCalls warningWithPeak
  refine .ite (fun _ => ?_) fun _ => .refl _ _
  match status with
  | 0 =>
      have hupload := (queueOnly_warUploadGW 1 0 3 0 s).running
      exact .of_running (running_ite (fun _ => (running_backToNormal _).trans hupload)
        fun _ => hupload)
  | 1 => exact framed_warningEnableNum s 3
  | 2 => exact framed_warningEnableNum s 4
  | 3 => exact .of_running rfl
  | 4 => exact framed_warningEnableNum s 4
  | _ + 5 => exact .refl _ _

/-- Of the six transitions, those that are handled already make no call. -/
theorem framed_waterscanTimerCallback (pins : Pins) (s : State) :
    Framed (waterscanTimerCalls pins s) s (waterscanTimerCallback pins s) := by
  have hpeak := framed_warningWithPeak
  unfold waterscanTimerCalls waterscanTimerCallback
  refine .ite (fun _ => .ite (fun _ => .ite (fun _ => ?_) fun _ => .of_running rfl) fun _ => ?_)
    fun _ => .of_running rfl
  · exact hpeak 3 { s with warningNowStatus := peakReading pins s, warningStatus := 1 }
  have hread : ∀ status handled, Framed
      (warningWithPeakCalls status { s with warningNowStatus := peakReading pins s }) s
      (peakHandled handled
        (warningWithPeak status { s with warningNowStatus := peakReading pins s })) :=
    fun status _ => hpeak status { s with warningNowStatus := peakReading pins s }
  refine .ite (fun _ => .of_running (by split <;> rfl)) fun _ => ?_
  refine .ite (fun _ => .ite (fun _ => hread 1 4) fun _ => .of_running rfl) fun _ => ?_
  refine .ite (fun _ => .ite (fun _ => hread 2 8) fun _ => .of_running rfl) fun _ => ?_
  refine .ite (fun _ => .ite (fun _ => hread 0 16) fun _ => .of_running rfl) fun _ => ?_
  exact .ite (fun _ => .ite (fun _ => hread 4 32) fun _ => .of_running rfl) fun _ => .of_running rfl

/-- When a freeze is over, the valve is moved back to where it was. -/
private theorem framed_ntcRelease (warm : Bool) (s : State) : Framed (ntcReleaseCalls warm s) s
    (if warm = true ∧ s.nowStatus = .ntcWarning then
      let t := warningDisable (warUploadGW 1 0 8 0 s)
      if t.ntcState ≠ 0 then motoOpen normalOpen t else motoClose normalOff t
    else s) := by
  unfold ntcReleaseCalls
  refine .ite (fun _ => ?_) fun _ => .refl _ _
  have hdisabled : Framed (uploadCalls s) s (warningDisable (warUploadGW 1 0 8 0 s)) :=
    .of_running ((running_warningDisable _).trans (queueOnly_warUploadGW 1 0 8 0 s).running)
  exact hdisabled.trans (.ite (fun _ => framed_motoOpen normalOpen _)
    fun _ => framed_motoClose normalOff _)

/-- The two halves of the scan, one after the other. -/
theorem framed_ntcScanTimerCallback (cold warm : Bool) (s : State) :
    Framed (ntcScanTimerCalls cold warm s) s (ntcScanTimerCallback cold warm s) := by
  unfold ntcScanTimerCalls ntcScanTimerCallback
  by_cases hcold : cold = true ∧ s.nowStatus ≠ .ntcWarning
  · rw [if_pos hcold, if_pos hcold]
    have hwarn := framed_warningEnableNum { s with ntcState := s.valveStatus } 8
    exact Framed.trans (s := s) hwarn (framed_ntcRelease warm _)
  · rw [if_neg hcold, if_neg hcold]
    exact framed_ntcRelease warm s

private theorem framed_test1 (s : State) : Framed [.moto1TimerAct] s
    { (s |> keyIODeInit |> waterScanIODeInit) with
      senor1Irq := true, turn1 := false, moto1TimerAct := true } := by
  intro o ho
  cases o with
  | moto1TimerAct => simp at ho
  | _ => rfl

private theorem framed_test2 (s : State) : Framed [.moto2TimerAct] s
    { (s |> keyIODeInit |> waterScanIODeInit) with
      senor2Irq := true, turn2 := false, moto2TimerAct := true } := by
  intro o ho
  cases o with
  | moto2TimerAct => simp at ho
  | _ => rfl

/-- A self-test starts the Act timer of each motor whose sensor is there. -/
theorem framed_motoDetect (pins : Pins) (s : State) :
    Framed (motoDetectCalls pins s) s (motoDetect pins s) := by
  have hcleared : Framed [] s
      { s with turn1Flag := 0, turn2Flag := 0, moto1FailFlag := 0, moto2FailFlag := 0 } :=
    .of_running rfl
  have htest1 : ∀ t, Framed (if pins.senor1 = true then [.moto1TimerAct] else []) t
      (if pins.senor1 = true then { (t |> keyIODeInit |> waterScanIODeInit) with
        senor1Irq := true, turn1 := false, moto1TimerAct := true } else t) := fun t =>
    .ite (fun _ => framed_test1 t) fun _ => .refl _ _
  have htest2 : ∀ t, Framed (if pins.senor2 = true then [.moto2TimerAct] else []) t
      (if pins.senor2 = true then { (t |> keyIODeInit |> waterScanIODeInit) with
        senor2Irq := true, turn2 := false, moto2TimerAct := true } else t) := fun t =>
    .ite (fun _ => framed_test2 t) fun _ => .refl _ _
  unfold motoDetectCalls motoDetect
  refine .ite (fun _ => ?_) fun _ => .refl _ _
  exact (hcleared.trans (htest1 _)).trans (htest2 _)

/-! ## the gateway and learn mode -/

/-- Sending the device list touches one timer. -/
theorem SyncOnly.framed (h : SyncOnly s s') (hmem : .gatewaySyncT ∈ l) : Framed l s s' := by
  obtain ⟨mq, n, t, rfl⟩ := h
  intro o ho
  cases o with
  | gatewaySyncT => exact absurd hmem ho
  | _ => rfl

/-- `Gateway_Sync` starts the list over. -/
theorem framed_gatewaySync (s : State) : Framed (gatewaySyncCalls s) s (gatewaySync s) :=
  (syncOnly_gatewaySync s).framed (List.mem_append_right _ List.mem_cons_self)

/-- The timer of the list is stopped behind the last device. -/
theorem framed_gatewaySyncCallback (s : State) :
    Framed (gatewaySyncCallbackCalls s) s (gatewaySyncCallback s) := by
  rw [gatewaySyncCallback_eq]
  unfold gatewaySyncCallbackCalls
  refine .ite (fun _ => ?_) fun _ o ho => ?_
  · exact .of_running (queueOnly_syncSlot s.gatewaySyncNum.toNat s).running
  · cases o with
    | gatewaySyncT => simp at ho
    | _ => rfl

/-- The heartbeat stops when it is answered, and after three that are not. -/
theorem framed_heartTest (s : State) : Framed (heartTestCalls s) s (heartTest s) := by
  have hstopped : Framed [.heartTestT] s { s with heartTestT := false } := by
    intro o ho
    cases o with
    | heartTestT => simp at ho
    | _ => rfl
  unfold heartTestCalls heartTest
  refine .ite (fun _ => ?_) fun _ => .ite (fun _ => ?_) fun _ => hstopped
  · refine Framed.trans (l := [.heartTestT]) hstopped (.of_running ?_)
    exact (queueOnly_powerOnUpload _).running.trans (queueOnly_controlUploadGW ..).running
  · exact .of_running (queueOnly_controlUploadGW ..).running

/-- The end of learn mode calls for a timer only when a gateway was learned. -/
theorem framed_stopLearn (s : State) : Framed (stopLearnCalls s) s (stopLearn s) := by
  unfold stopLearnCalls stopLearn
  refine .ite (fun _ => ?_) fun _ => .of_running rfl
  exact Framed.trans_self (t := { warningDisable { s with learnFlag := 0 } with gwFlag := 0 })
    (.of_running rfl) (framed_gatewaySync _)

private theorem framed_learnTimer (value : Bool) (s : State) (hmem : .learnTimer ∈ l) :
    Framed l s { s with learnTimer := value } := by
  intro o ho
  cases o with
  | learnTimer => exact absurd hmem ho
  | _ => rfl

/-- To enter a device starts no timer. -/
private theorem running_learnNew {add : UInt32 → State → UInt8 × State}
    (hadd : ∀ deviceID t, (add deviceID t).2.running = t.running) (buf : Message) (s : State) :
    (learnNew add buf s).running = s.running :=
  running_ite (fun _ => (queueOnly_radioEnqueue ..).running.trans (hadd _ s)) fun _ => hadd _ s

/-- A request that is answered starts no timer, whatever the class. -/
theorem running_learnRequest (buf : Message) (s : State) :
    (learnRequest buf s).running = s.running := by
  have hdoor : ∀ deviceID t, (addDoorDevice deviceID t).2.running = t.running := by
    intro deviceID t
    unfold addDoorDevice
    exact running_ite (fun _ => (queueOnly_replaceDoor _ t).running) fun _ => rfl
  unfold learnRequest
  refine running_ite (fun _ => running_ite (fun _ => running_learnNew (fun _ _ => rfl) buf s)
    fun _ => running_ite (fun _ => running_learnNew hdoor buf s)
    fun _ => running_ite (fun _ => running_learnNew (fun _ _ => rfl) buf s) fun _ => rfl)
    fun _ => (queueOnly_radioEnqueue ..).running

/-- A frame of the gateway is noted in two variables. -/
theorem running_heartRefresh (id : UInt32) (s : State) : (heartRefresh id s).running = s.running :=
  running_ite (fun _ => rfl) fun _ => rfl

/-- A new gateway is watched from now on. -/
theorem framed_gatewayReload (s : State) : Framed [.heartCheckT] s (gatewayReload s) := by
  have hstart : ∀ t : State, Framed [.heartCheckT] t { t with heartCheckT := true } := by
    intro t o ho
    cases o with
    | heartCheckT => simp at ho
    | _ => rfl
  refine Framed.trans_self (.of_running ?_) (hstart _)
  exact (running_heartRefresh _ _).trans rfl

/-- A gateway that confirms starts `Heart_Check_t`. -/
theorem framed_learnConfirm (buf : Message) (s : State) :
    Framed (learnConfirmCalls buf s) s (learnConfirm buf s) := by
  unfold learnConfirmCalls learnConfirm
  refine .ite (fun _ => .refl _ _) fun _ => ?_
  have hconfirmed : ∀ t : State, (gatewaySyncEnqueue 0 6 buf.fromID.toUInt32
      ((radioEnqueue buf.fromID.toUInt32 (toU8 buf.counter) 3 2 t).flashGetRssi
        buf.fromID.toUInt32) 0
      (radioEnqueue buf.fromID.toUInt32 (toU8 buf.counter) 3 2 t)).running = t.running := fun t =>
    (queueOnly_gatewaySyncEnqueue ..).running.trans (queueOnly_radioEnqueue ..).running
  by_cases hgateway : 40000000 ≤ buf.fromID ∧ buf.fromID < 50000000
  · rw [if_pos hgateway]
    dsimp only
    rw [if_pos hgateway]
    exact (framed_gatewayReload s).trans (.of_running (hconfirmed _))
  · rw [if_neg hgateway]
    dsimp only
    rw [if_neg hgateway]
    exact .of_running (hconfirmed _)

/-- Every learn frame starts `Learn_Timer` again. -/
theorem framed_deviceLearn (buf : Message) (s : State) :
    Framed (deviceLearnCalls buf s) s (deviceLearn buf s) := by
  unfold deviceLearnCalls deviceLearn
  refine .ite (fun _ => ?_) fun _ => .refl _ _
  have hbody : Framed
      (if buf.data = 1 then learnRequestCalls buf s
        else if buf.data = 2 then learnConfirmCalls buf s else []) s
      (if buf.data = 1 then learnRequest buf s
        else if buf.data = 2 then learnConfirm buf s else s) :=
    .ite (fun _ => .of_running (running_learnRequest buf s)) fun _ =>
      .ite (fun _ => framed_learnConfirm buf s) fun _ => .refl _ _
  exact hbody.trans (framed_learnTimer true _ List.mem_cons_self)

/-! ## node frames -/

/-- A handshake with a low battery warns, and an ultra low one closes the valve. -/
theorem framed_handshake (buf : Message) (s : State) :
    Framed (handshakeCalls buf s) s (handshake buf s) := by
  have hreply : ∀ (level : UInt8) (t : State), (handshakeReply buf level t).running = t.running :=
    fun level t => (queueOnly_warUploadGW ..).running.trans (queueOnly_radioEnqueue ..).running
  unfold handshakeCalls handshake
  dsimp only
  generalize hheard : s.withStorage (·.updateDeviceBat buf.fromID.toUInt32 (toU8 buf.data)) = t
  have hs : t.running = s.running := hheard ▸ rfl
  have hanswer : ∀ level, (handshakeReply buf level t).running = s.running :=
    fun level => (hreply level t).trans hs
  refine .ite (fun _ => .of_running (hanswer 0)) fun _ => .ite (fun _ => ?_) fun _ =>
    .ite (fun _ => ?_) fun _ => ?_
  · refine Framed.trans (.of_running (hanswer 1)) (.ite (fun _ => ?_) fun _ => .refl _ _)
    exact framed_warningEnableNum _ 7
  · refine Framed.trans (.of_running (hanswer 2)) (.ite (fun _ => ?_) fun _ => .refl _ _)
    exact framed_warningEnableNum _ 1
  · exact .of_running (running_ite (fun _ => hanswer 3)
      fun _ => running_ite (fun _ => hanswer 4) fun _ => hs)

/-- A node may begin learn mode, and with it `Learn_Timer`. -/
theorem framed_learnStart (buf : Message) (s : State) :
    Framed (learnStartCalls buf s) s (learnStart buf s) := by
  unfold learnStartCalls learnStart startLearn
  refine .ite (fun _ => ?_) fun _ => .refl _ _
  refine Framed.trans (.ite (fun _ => ?_) fun _ => .refl _ _)
    (.of_running (queueOnly_radioEnqueue ..).running)
  exact Framed.trans_self (t := { s with nowStatus := .learn, learnFlag := 1 }) (.of_running rfl)
    (framed_learnTimer true _ List.mem_cons_self)

/-- Only the first alarm of the slaves warns; the later ones are stored. -/
theorem framed_slaveWater (buf : Message) (s : State) :
    Framed (slaveWaterCalls buf s) s (slaveWater buf s) := by
  have hreport : ∀ wet : UInt8, (radioEnqueue buf.fromID.toUInt32 (toU8 buf.counter) 4 wet s
      |> warUploadGW 1 buf.fromID.toUInt32 5 wet).running = s.running :=
    fun wet => (queueOnly_warUploadGW ..).running.trans (queueOnly_radioEnqueue ..).running
  unfold slaveWaterCalls slaveWater
  refine .ite (fun _ => .ite (fun _ => .refl _ _) fun _ => .of_running (hreport 0)) fun _ =>
    .ite (fun _ => .ite (fun _ => .refl _ _) fun _ => ?_) fun _ => .refl _ _
  refine Framed.trans (l := .rfEnMq :: uploadCalls s) (.of_running ?_)
    (.ite (fun _ => framed_warningEnableNum _ 2) fun _ => .refl _ _)
  exact Eq.trans rfl (hreport 1)

theorem running_reportValve (buf : Message) (s : State) :
    (reportValve buf s).running = s.running :=
  running_ite (fun _ => (queueOnly_controlUploadGW ..).running)
    fun _ => (queueOnly_controlUploadGW ..).running

/-- An open command is refused while a warning is shown. -/
theorem framed_nodeOpen (buf : Message) (s : State) :
    Framed (nodeOpenCalls buf s) s (nodeOpen buf s) := by
  unfold nodeOpenCalls nodeOpen
  have hanswer : ∀ data, (radioEnqueue buf.fromID.toUInt32 (toU8 buf.counter) 5 data s).running =
      s.running := fun data => (queueOnly_radioEnqueue ..).running
  by_cases hshown : s.nowStatus = .opened ∨ s.nowStatus = .close
  · simp only [if_pos hshown]
    refine Framed.trans_self (.trans_self (.of_running (hanswer 1)) ?_)
      (.of_running (running_reportValve ..))
    refine Framed.mono (framed_motoOpen otherOpen _) fun o ho => .inl ?_
    exact List.mem_cons_of_mem _ (List.mem_append_left _ ho)
  · simp only [if_neg hshown]
    exact .of_running ((running_reportValve ..).trans (hanswer 2))

/-- To clear an alarm may end the warning, and makes no call. -/
theorem running_clearSlaveAlarm (buf : Message) (s : State) :
    (clearSlaveAlarm buf s).running = s.running :=
  running_ite (fun _ => running_ite (fun _ => rfl) fun _ => rfl) fun _ => rfl

/-- The close comes after the alarm was cleared. -/
theorem framed_nodeClose (buf : Message) (s : State) :
    Framed (nodeCloseCalls buf s) s (nodeClose buf s) := by
  have hclear := (running_clearSlaveAlarm buf _).trans
    (queueOnly_radioEnqueue buf.fromID.toUInt32 (toU8 buf.counter) 6 0 s).running
  unfold nodeCloseCalls nodeClose
  dsimp only
  generalize clearSlaveAlarm buf (radioEnqueue buf.fromID.toUInt32 (toU8 buf.counter) 6 0 s) = t
    at hclear ⊢
  by_cases hshown : t.nowStatus = .opened ∨ t.nowStatus = .close
  · simp only [if_pos hshown]
    have hdisabled : State.running { warningDisable t with lastCloseFlag := 1 } = s.running :=
      Eq.trans rfl hclear
    refine Framed.trans_self (.trans_self (.of_running hdisabled) ?_)
      (.of_running (running_reportValve ..))
    refine Framed.mono (framed_motoClose otherOff _) fun o ho => .inl ?_
    exact List.mem_cons_of_mem _ (List.mem_append_left _ ho)
  · simp only [if_neg hshown]
    exact .of_running ((running_reportValve ..).trans hclear)

private theorem framed_delayTimer (value : Bool) (s : State) (hmem : .delayTimer ∈ l) :
    Framed l s { s with delayTimer := value } := by
  intro o ho
  cases o with
  | delayTimer => exact absurd hmem ho
  | _ => rfl

/-- The delayed close starts the delay timer, and its cancellation stops it. -/
theorem framed_nodeDelay (buf : Message) (s : State) :
    Framed (nodeDelayCalls buf s) s (nodeDelay buf s) := by
  have hreply :=
    (queueOnly_radioEnqueue buf.fromID.toUInt32 (toU8 buf.counter) 8 (toU8 buf.data) s)
  have hstatus : (radioEnqueue buf.fromID.toUInt32 (toU8 buf.counter) 8 (toU8 buf.data) s).nowStatus
      = s.nowStatus := by
    obtain ⟨mq, hmq⟩ := hreply
    rw [hmq]
  unfold nodeDelayCalls nodeDelay
  dsimp only
  by_cases hdata : buf.data ≠ 0
  · rw [if_pos hdata, if_pos hdata]
    refine Framed.trans_self (.of_running ?_) (framed_delayTimer false _ (by simp))
    exact (queueOnly_controlUploadGW ..).running.trans hreply.running
  · rw [if_neg hdata, if_neg hdata, hstatus]
    by_cases hopened : s.nowStatus = .opened
    · rw [if_pos hopened, if_pos hopened]
      unfold delayTimerOpenDoor
      rw [if_pos (.inr (hstatus.trans hopened))]
      refine Framed.trans_self (.of_running hreply.running)
        (.trans_self (framed_delayTimer true _ (by simp)) (.of_running ?_))
      exact (queueOnly_controlUploadGW ..).running
    · rw [if_neg hopened, if_neg hopened]
      exact .of_running hreply.running

/-- What follows the `switch` of `DataSolve` touches no timer. -/
theorem running_dataSolve (buf : Message) (s : State) :
    (dataSolve buf s).running = (dataSolveCommand buf s).running := by
  have hreact : ∀ t, (offlineReact t).running = t.running := by
    intro t
    unfold offlineReact
    exact running_ite (fun _ => rfl) fun _ => running_ite (fun _ => rfl) fun _ =>
      running_ite (fun _ => rfl) fun _ => running_ite (fun _ => rfl) fun _ => rfl
  unfold dataSolve changeMaxPower backNormalPower
  refine (hreact _).trans ?_
  exact running_ite (fun _ => running_ite (fun _ => rfl) fun _ => rfl)
    fun _ => running_ite (fun _ => rfl) fun _ => rfl

/-- Each command has its calls; what `DataSolve` does behind the `switch` has none. -/
theorem framed_dataSolve (buf : Message) (s : State) :
    Framed (dataSolveCalls buf s) s (dataSolve buf s) := by
  have hcommand : Framed (dataSolveCalls buf s) s (dataSolveCommand buf s) := by
    unfold dataSolveCalls dataSolveCommand
    refine .ite (fun _ => .of_running (queueOnly_radioEnqueue ..).running)
      fun _ => .ite (fun _ => framed_handshake buf s)
      fun _ => .ite (fun _ => framed_learnStart buf s)
      fun _ => .ite (fun _ => framed_slaveWater buf s)
      fun _ => .ite (fun _ => framed_nodeOpen buf s) fun _ => .ite (fun _ => framed_nodeClose buf s)
      fun _ => .ite (fun _ => framed_nodeDelay buf s) fun _ => .ite (fun _ => .of_running ?_)
      fun _ => .refl _ _
    exact (queueOnly_warUploadGW ..).running.trans (queueOnly_radioEnqueue ..).running
  exact hcommand.trans_self (.of_running (running_dataSolve buf s))

/-! ## received frames -/

/-- Learn mode decides which of the two a frame reaches. -/
theorem framed_normalAct (rssi : Int) (buf : Message) (s : State) :
    Framed (normalActCalls rssi buf s) s (normalAct rssi buf s) := by
  have hheard : (heardFrom rssi buf.fromID.toUInt32 s).running = s.running := rfl
  unfold normalActCalls normalAct
  refine .ite (fun _ => .ite (fun _ => ?_) fun _ => .ite (fun _ => ?_) fun _ => .refl _ _)
    fun _ => .refl _ _
  · exact Framed.trans_self (.of_running hheard) (framed_deviceLearn buf _)
  · exact Framed.trans_self (.of_running hheard) (framed_dataSolve buf _)

/-- The gateway moves the valve only while no warning is shown. -/
theorem framed_gatewayValve (buf : Message) (s : State) :
    Framed (gatewayValveCalls buf s) s (gatewayValve buf s) := by
  have hreport : ∀ t : State,
      (controlUploadGW 1 t.radioID 2 t.valveStatus t).running = t.running := fun t =>
    (queueOnly_controlUploadGW ..).running
  unfold gatewayValveCalls gatewayValve
  refine .ite (fun hshown => ?_) fun _ => .of_running (queueOnly_controlUploadGW ..).running
  unfold remoteOpen remoteClose
  simp only [if_pos hshown]
  by_cases hdata : buf.data ≠ 0
  · rw [if_pos hdata, if_pos hdata]
    exact (framed_motoOpen otherOpen s).trans (.of_running (hreport _))
  · rw [if_neg hdata, if_neg hdata]
    exact (framed_motoClose otherOff s).trans (.of_running (hreport _))

/-- Three commands of the gateway make calls. -/
theorem framed_gatewayAct (buf : Message) (s : State) :
    Framed (gatewayActCalls buf s) s (gatewayAct buf s) := by
  unfold gatewayActCalls gatewayAct gatewayCommandCalls gatewayCommand
  refine .ite (fun _ => ?_) fun _ => .refl _ _
  refine Framed.trans_self (.of_running (running_heartRefresh buf.fromID.toUInt32 s)) ?_
  refine .ite (fun _ => framed_gatewayValve buf _) fun _ => .ite (fun _ => ?_) fun _ =>
    .ite (fun _ => framed_gatewaySync _) fun _ => .of_running ?_
  · exact .of_running (queueOnly_controlUploadGW ..).running
  · exact running_ite (fun _ => rfl) fun _ => running_ite (fun _ => rfl) fun _ => rfl

/-- The buffer is a node frame or a gateway frame. -/
theorem framed_rf433RxCallback (rxMessage : Message) (rssi : Int) (buffer : List UInt8)
    (len : UInt8) (s : State) :
    Framed (rf433RxCalls rxMessage rssi buffer len s) s
      (rf433RxCallback rxMessage rssi buffer len s) :=
  .ite (fun _ => .ite (fun _ => framed_normalAct rssi _ s) fun _ => .refl _ _)
    fun _ => .ite (fun _ => .ite (fun _ => framed_gatewayAct _ s) fun _ => .refl _ _)
      fun _ => .refl _ _

/-! ## the clock and the keys -/

/-- The induction is on the slots that are left; each is only reported. -/
theorem running_detectLoop (num : Nat) (p : Bool × State) :
    (detectLoop num p).2.running = p.2.running := by
  induction num generalizing p with
  | zero => rfl
  | succ num ih =>
      refine (ih _).trans ?_
      rw [detectSlot_eq]
      split
      · exact (queueOnly_warUploadGW ..).running
      · rfl

/-- After the slots, one warning for all of them. -/
theorem framed_detectAllTime {u : State} (hu : detectAllTime s = some u) :
    Framed (detectAllTimeCalls s) s u := by
  unfold detectAllTime at hu
  unfold detectAllTimeCalls
  split at hu
  · rename_i hnone
    rw [if_pos hnone]
    cases hu
    exact .refl _ _
  · rename_i hsome
    rw [if_neg hsome]
    dsimp only at hu ⊢
    obtain ⟨st, -, rfl⟩ := Option.map_eq_some_iff.mp hu
    refine Framed.trans (.of_running (running_detectLoop s.searchStart (false, s))) ?_
    generalize detectLoop s.searchStart (false, s) = p
    by_cases hwarn : p.1 = true
    · rw [if_pos hwarn, if_pos hwarn]
      exact framed_warningEnableNum p.2 5
    · rw [if_neg hwarn, if_neg hwarn]
      exact .of_running rfl

/-- The self-test of every fifth day comes first, the search of every day last. -/
theorem framed_rtcTimerEntry {pins : Pins} (hs : rtcTimerEntry pins s = some s') :
    Framed (rtcTimerEntryCalls pins s) s s' := by
  rw [rtcTimerEntry_eq] at hs
  obtain ⟨t, ht, hs⟩ := Option.bind_eq_some_iff.mp hs
  unfold rtcTimerEntryCalls
  rw [ht]
  have hdetected :
      Framed (if (s.rtcHours + 1) % 120 = 0 then motoDetectCalls pins s else []) s t := by
    obtain ⟨st, -, rfl⟩ := Option.map_eq_some_iff.mp ht
    refine Framed.trans_self (t := { s with rtcHours := s.rtcHours + 1 }) (.of_running rfl) ?_
    exact .ite (fun _ => framed_motoDetect pins { s with rtcHours := s.rtcHours + 1 })
      fun _ => .of_running rfl
  refine hdetected.trans ?_
  dsimp only
  split at hs
  · rename_i hearly
    rw [if_pos hearly]
    cases hs
    exact .of_running rfl
  · rename_i hearly
    rw [if_neg hearly]
    obtain ⟨u, hu, rfl⟩ := Option.map_eq_some_iff.mp hs
    exact (framed_detectAllTime hu).trans_self (.of_running rfl)

/-- The open key opens, also while the probe is lost. -/
theorem framed_keyOn (s : State) : Framed (keyOnCalls s) s (keyOn s) := by
  unfold keyOnCalls keyOn
  cases s.nowStatus with
  | close => exact .ite (fun _ => framed_motoOpen normalOpen s) fun _ => .refl _ _
  | masterLostPeak => exact framed_motoOpen normalOpen { s with nowStatus := .opened }
  | _ => exact .refl _ _

/-- A unit in factory mode has created the timer of the factory cycle. -/
theorem framed_keyOff (pins : Pins) (s : State) :
    Framed (keyOffCalls (s.factoryFlag ≠ 0) pins s) s (keyOff pins s) := by
  unfold keyOffCalls keyOff
  refine .ite (fun hfactory => ?_) fun _ => ?_
  · refine Framed.trans (t := warningDisable { s with factoryCycle := false }) ?_
      (framed_motoDetect pins _)
    rw [if_pos (by simpa using hfactory)]
    intro o ho
    cases o with
    | factoryCycle => simp at ho
    | _ => rfl
  · have hopened : Framed (motoCloseCalls normalOff { s with lastCloseFlag := 0 }) s
        (motoClose normalOff { s with lastCloseFlag := 0 }) :=
      .trans_self (.of_running rfl) (framed_motoClose normalOff { s with lastCloseFlag := 0 })
    generalize { s with lastCloseFlag := 0 } = t at hopened ⊢
    cases s.nowStatus with
    | opened => exact hopened
    | masterLostPeak => exact (framed_motoClose normalOff s).trans_self (.of_running rfl)
    | masterWaterAlarmDeActive =>
        exact (queueOnly_warUploadGW 1 0 1 0 (warningDisable { s with nowStatus := .close })).framed
    | _ => exact .refl _ _

/-- `K1` held starts `Learn_Timer`, or stops it. -/
theorem framed_keyLong (s : State) : Framed (keyLongCalls s) s (keyLong s) := by
  unfold keyLongCalls keyLong
  refine .ite (fun _ => ?_) fun _ => .ite (fun _ => ?_) fun _ => .refl _ _
  · exact Framed.trans_self (t := { s with nowStatus := .learn, learnFlag := 1 }) (.of_running rfl)
      (framed_learnTimer true _ List.mem_cons_self)
  · exact Framed.trans (l := [.learnTimer]) (framed_learnTimer false s List.mem_cons_self)
      (framed_stopLearn _)

/-- The round that resets the unit is left out: after it every timer is new. -/
theorem framed_keyReponse {rom : UInt32} {sem : KeySem} {pins : Pins}
    (hs : keyReponse rom sem pins s = some s')
    (hreset : ¬(sem.k0 = false ∧ sem.k1 = false ∧ sem.k0k1 = true)) :
    Framed (keyReponseCalls (s.factoryFlag ≠ 0) sem pins s) s s' := by
  unfold keyReponse at hs
  unfold keyReponseCalls
  split_ifs at hs ⊢ with h0 h1 h01 h2 h3
  · cases hs
    exact framed_keyOn s
  · cases hs
    exact framed_keyOff pins s
  · exact absurd ⟨by simpa using h0, by simpa using h1, h01⟩ hreset
  · cases hs
    exact .refl _ _
  · cases hs
    exact framed_keyLong s
  · cases hs
    exact .refl _ _

/-! ## a step -/

/-- The state in which the function of a timer begins: a one-shot timer has
stopped. -/
def State.expired (s : State) : Action → State
  | .delayTimer => { s with delayTimer := false }
  | .learnTimer => { s with learnTimer := false }
  | .moto1TimerAct => { s with moto1TimerAct := false }
  | .moto2TimerAct => { s with moto2TimerAct := false }
  | .moto1TimerDetect => { s with moto1TimerDetect := false }
  | .moto2TimerDetect => { s with moto2TimerDetect := false }
  | .motoDetectTimer _ => { s with motoDetectTimer := false }
  | _ => s

/-- A motor warning reports, and does no more. -/
theorem running_motoFail {id : UInt8} (hid : id = 6 ∨ id = 9) (s : State) :
    (warningEnableNum id s).running = s.running := by
  unfold warningEnableNum
  obtain rfl | rfl := hid
  · exact running_ite (fun _ => (queueOnly_warUploadGW 1 0 2 2 _).running) fun _ => rfl
  · exact running_ite (fun _ => (queueOnly_warUploadGW 1 0 2 3 _).running) fun _ => rfl

private theorem running_judged (fail1 fail2 alarm : UInt8) (s : State) :
    State.running
      { s with moto1FailFlag := fail1, moto2FailFlag := fail2, valveAlarmFlag := alarm } =
      s.running := rfl

/-- Behind the end of the test, the verdict on motor 1 only reports. -/
theorem running_turn1TimerCallback (s : State) :
    (turn1TimerCallback { s with moto1TimerDetect := false }).running =
      State.running { s with moto1TimerDetect := false } := by
  rw [turn1TimerCallback_eq]
  have htest : (endTest1 s).running = State.running { s with moto1TimerDetect := false } := rfl
  refine running_ite (fun _ => (running_judged _ _ _ _).trans (running_ite (fun _ => ?_)
    fun _ => htest)) fun _ => (running_judged _ _ _ _).trans (running_ite (fun _ => ?_)
    fun _ => htest)
  · exact (running_judged _ _ _ _).trans ((running_motoFail (.inl rfl) _).trans htest)
  · exact (running_judged _ _ _ _).trans ((queueOnly_warUploadGW 1 0 2 0 _).running.trans htest)

/-- The same for motor 2. -/
theorem running_turn2TimerCallback (s : State) :
    (turn2TimerCallback { s with moto2TimerDetect := false }).running =
      State.running { s with moto2TimerDetect := false } := by
  rw [turn2TimerCallback_eq]
  have htest : (endTest2 s).running = State.running { s with moto2TimerDetect := false } := rfl
  refine running_ite (fun _ => (running_judged _ _ _ _).trans ?_)
    fun _ => (running_judged _ _ _ _).trans ?_
  · exact (running_motoFail (.inr rfl) _).trans htest
  · exact (queueOnly_warUploadGW 1 0 2 1 _).running.trans htest

variable {rom : UInt32} {a : Action}

/-- **A handler leaves every timer alone that it makes no call for.** -/
theorem framed_step (hs : step rom s a = some s') (hrestart : ¬Restarts a) :
    Framed (handlerCalls (s.factoryFlag ≠ 0) s a) (s.expired a) s' := by
  cases a <;> simp only [step, Option.ite_none_right_eq_some, Option.ite_none_left_eq_some,
    Option.some.injEq] at hs
  case keyReponse sem pins => exact framed_keyReponse hs hrestart
  case rf433Rx rxMessage rssi buffer len =>
    exact hs ▸ framed_rf433RxCallback rxMessage rssi buffer len s
  case rfEncode => exact hs.2 ▸ .of_running rfl
  case waterscanTimer pins => exact hs ▸ framed_waterscanTimerCallback pins s
  case ntcScanTimer cold warm => exact hs ▸ framed_ntcScanTimerCallback cold warm s
  case delayTimer =>
    obtain ⟨-, rfl⟩ := hs
    exact Framed.trans (l := motoCloseCalls otherOff s)
      (framed_motoClose otherOff { s with delayTimer := false })
      (.of_running (queueOnly_controlUploadGW ..).running)
  case learnTimer => exact hs.2 ▸ framed_stopLearn { s with learnTimer := false }
  case turn1Edge | turn2Edge => exact hs.2 ▸ .of_running rfl
  case moto1TimerAct =>
    obtain ⟨-, rfl⟩ := hs
    intro o ho
    cases o with
    | moto1TimerDetect => simp [handlerCalls] at ho
    | _ => rfl
  case moto2TimerAct =>
    obtain ⟨-, rfl⟩ := hs
    intro o ho
    cases o with
    | moto2TimerDetect => simp [handlerCalls] at ho
    | _ => rfl
  case moto1TimerDetect => exact hs.2 ▸ .of_running (running_turn1TimerCallback s)
  case moto2TimerDetect => exact hs.2 ▸ .of_running (running_turn2TimerCallback s)
  case motoDetectTimer pins =>
    exact hs.2 ▸ framed_motoDetect pins { s with motoDetectTimer := false }
  case rtcAlarm pins => exact framed_rtcTimerEntry hs
  case gatewaySyncT => exact hs.2 ▸ framed_gatewaySyncCallback s
  case heartCheckT => exact hs.2 ▸ .of_running (running_ite (fun _ => rfl) fun _ => rfl)
  case heartTestT => exact hs.2 ▸ framed_heartTest s
  case factoryCycle => exact hs.2 ▸ .of_running (queueOnly_radioEnqueue ..).running
  case reboot pins => exact absurd trivial hrestart

/-! ## who starts the Detect timers

Only the functions of the Act timers do.  A call of another handler for a Detect
timer is a stop, by `Moto_Close`. -/

def KernelObject.IsDetect (o : KernelObject) : Prop := o = .moto1TimerDetect ∨ o = .moto2TimerDetect

/-- The Detect timers that a call is for do not run. -/
def Stops (calls : List KernelObject) (s : State) : Prop :=
  ∀ o, o.IsDetect → o ∈ calls → s.running o = false

namespace Stops

theorem of_within (h : Within (fun o => ¬o.IsDetect) l) (s : State) : Stops l s :=
  fun o ho hmem => absurd ho (h o hmem)

theorem congr (h : Stops l s) (hrunning : t.running = s.running) : Stops l t := fun o ho hmem =>
  (congrFun hrunning o).trans (h o ho hmem)

/-- Calls for other timers may be added. -/
theorem mono {l' : List KernelObject} (h : Stops l s) (hsub : ∀ o ∈ l', o.IsDetect → o ∈ l) :
    Stops l' s := fun o ho hmem => h o ho (hsub o hmem ho)

theorem trans {l' : List KernelObject} (h : Stops l s) (hframed : Framed l' s t)
    (h' : Stops l' t) : Stops (l ++ l') t := by
  intro o ho hmem
  by_cases hlast : o ∈ l'
  · exact h' o ho hlast
  · rw [hframed o hlast]
    exact h o ho ((List.mem_append.mp hmem).resolve_right hlast)

theorem ite {b : Prop} [Decidable b] {l' : List KernelObject} (h : b → Stops l s)
    (h' : ¬b → Stops l' t) : Stops (if b then l else l') (if b then s else t) := by
  split
  · exact h ‹_›
  · exact h' ‹_›

end Stops

private theorem not_isDetect_rfEnMq : ¬KernelObject.IsDetect .rfEnMq := by
  simp [KernelObject.IsDetect]

private theorem queued (s : State) : Queued (fun o => ¬o.IsDetect) s :=
  .of_created not_isDetect_rfEnMq s

private theorem within_upload (s : State) : Within (fun o => ¬o.IsDetect) (uploadCalls s) :=
  within_uploadCalls (queued s)

/-- `Moto_Close` has the only calls for the Detect timers, and they are stops. -/
theorem stops_motoClose (actFlag : UInt8) (s : State) :
    Stops (motoCloseCalls actFlag s) (motoClose actFlag s) := by
  unfold motoCloseCalls motoClose
  refine .ite (fun _ => ?_) fun _ => ?_
  · intro o ho _
    obtain rfl | rfl := ho <;> rfl
  · split <;> exact .of_within (by simp [KernelObject.IsDetect]) _

/-- A warning that reports does so after the valve has been closed. -/
theorem stops_callback (callback : WarningCallback) (s : State) :
    Stops (callback.calls s) (callback.run s) := by
  have hclose := stops_motoClose
  cases callback with
  | slaverLowBatteryWarning => exact .of_within within_nil _
  | slaverUltraLowBatteryWarning | slaverWaterAlarmWarning => exact hclose otherOff s
  | masterWaterAlarmWarning | ntcWarningEventCallback =>
      exact (hclose normalOff s).trans (queueOnly_warUploadGW ..).framed
        (.of_within (within_upload _) _)
  | offlineWarning => exact .ite (fun _ => hclose normalOff s) fun _ => .of_within within_nil _
  | masterLostPeakWarning | moto1FailCallback | moto2FailCallback =>
      exact .of_within (within_upload s) _

/-- A number without a warning makes no call. -/
theorem stops_warningEnableNum (id : UInt8) (s : State) :
    Stops (warningEnableNumCalls id s) (warningEnableNum id s) := by
  unfold warningEnableNumCalls warningEnableNum
  cases warningEvent id with
  | none => exact .of_within within_nil _
  | some event =>
      unfold warningEnableCalls warningEnable
      refine .ite (fun _ => ?_) fun _ => .of_within within_nil _
      cases event.callback with
      | none => exact .of_within within_nil _
      | some callback =>
          refine (stops_callback callback _).mono fun o ho hdetect => ?_
          cases callback with
          | masterWaterAlarmWarning | ntcWarningEventCallback =>
              obtain hclose | hupload := List.mem_append.mp ho
              · exact List.mem_append_left _ hclose
              · exact absurd hdetect (within_upload _ o hupload)
          | _ => exact ho

theorem stops_warningWithPeak (status : Nat) (s : State) :
    Stops (warningWithPeakCalls status s) (warningWithPeak status s) := by
  unfold warningWithPeakCalls warningWithPeak
  refine .ite (fun _ => ?_) fun _ => .of_within within_nil _
  match status with
  | 0 => exact .of_within (within_upload s) _
  | 1 => exact stops_warningEnableNum 3 s
  | 2 => exact stops_warningEnableNum 4 s
  | 3 => exact .of_within within_nil _
  | 4 => exact stops_warningEnableNum 4 s
  | _ + 5 => exact .of_within within_nil _

/-- In each of the transitions there is one warning at most. -/
theorem stops_waterscanTimerCallback (pins : Pins) (s : State) :
    Stops (waterscanTimerCalls pins s) (waterscanTimerCallback pins s) := by
  have hread : ∀ status handled, Stops
      (warningWithPeakCalls status { s with warningNowStatus := peakReading pins s })
      (peakHandled handled
        (warningWithPeak status { s with warningNowStatus := peakReading pins s })) :=
    fun status _ => (stops_warningWithPeak status _).congr rfl
  have hnone : ∀ t : State, Stops [] t := .of_within within_nil
  unfold waterscanTimerCalls waterscanTimerCallback
  refine .ite (fun _ => .ite (fun _ => .ite (fun _ => ?_) fun _ => hnone _) fun _ => ?_)
    fun _ => hnone _
  · exact stops_warningWithPeak 3
      { s with warningNowStatus := peakReading pins s, warningStatus := 1 }
  refine .ite (fun _ => hnone _) fun _ => ?_
  refine .ite (fun _ => .ite (fun _ => hread 1 4) fun _ => hnone _) fun _ => ?_
  refine .ite (fun _ => .ite (fun _ => hread 2 8) fun _ => hnone _) fun _ => ?_
  refine .ite (fun _ => .ite (fun _ => hread 0 16) fun _ => hnone _) fun _ => ?_
  exact .ite (fun _ => .ite (fun _ => hread 4 32) fun _ => hnone _) fun _ => hnone _

private theorem within_motoOpen (actFlag : UInt8) (s : State) :
    Within (fun o => ¬o.IsDetect) (motoOpenCalls actFlag s) :=
  within_motoOpenCalls (queued s) (by simp [KernelObject.IsDetect])
    fun _ => by simp [KernelObject.IsDetect]

private theorem within_motoDetect (pins : Pins) (s : State) :
    Within (fun o => ¬o.IsDetect) (motoDetectCalls pins s) := by
  simp [motoDetectCalls, within_ite, KernelObject.IsDetect]

/-- The freeze scan may close the valve twice, by its warning and when it goes back. -/
theorem stops_ntcScanTimerCallback (cold warm : Bool) (s : State) :
    Stops (ntcScanTimerCalls cold warm s) (ntcScanTimerCallback cold warm s) := by
  have hrelease : ∀ t, Stops (ntcReleaseCalls warm t)
      (if warm = true ∧ t.nowStatus = .ntcWarning then
        let u := warningDisable (warUploadGW 1 0 8 0 t)
        if u.ntcState ≠ 0 then motoOpen normalOpen u else motoClose normalOff u
      else t) := by
    intro t
    unfold ntcReleaseCalls
    refine .ite (fun _ => ?_) fun _ => .of_within within_nil _
    refine Stops.trans (t := ite _ _ _) (.of_within (within_upload t) _)
      (.ite (fun _ => framed_motoOpen normalOpen _) fun _ => framed_motoClose normalOff _)
      (.ite (fun _ => .of_within (within_motoOpen normalOpen _) _)
        fun _ => stops_motoClose normalOff _)
  unfold ntcScanTimerCalls ntcScanTimerCallback
  by_cases hcold : cold = true ∧ s.nowStatus ≠ .ntcWarning
  · rw [if_pos hcold, if_pos hcold]
    have hwarn := stops_warningEnableNum 8 { s with ntcState := s.valveStatus }
    exact hwarn.trans (framed_ntcRelease warm _) (hrelease _)
  · rw [if_neg hcold, if_neg hcold]
    exact hrelease s

theorem stops_handshake (buf : Message) (s : State) :
    Stops (handshakeCalls buf s) (handshake buf s) := by
  have hreply : ∀ t, Within (fun o => ¬o.IsDetect) (handshakeReplyCalls t) := fun t =>
    within_cons.mpr ⟨not_isDetect_rfEnMq, within_upload t⟩
  unfold handshakeCalls handshake
  dsimp only
  generalize s.withStorage (·.updateDeviceBat buf.fromID.toUInt32 (toU8 buf.data)) = t
  refine .ite (fun _ => .of_within (hreply t) _) fun _ => .ite (fun _ => ?_) fun _ =>
    .ite (fun _ => ?_) fun _ =>
    .of_within (within_ite.mpr ⟨fun _ => hreply t, fun _ => within_nil⟩) _
  · refine Stops.trans (.of_within (hreply t) (handshakeReply buf 1 t)) ?_
      (.ite (fun _ => stops_warningEnableNum 7 _) fun _ => .of_within within_nil _)
    exact .ite (fun _ => framed_warningEnableNum _ 7) fun _ => .refl _ _
  · refine Stops.trans (.of_within (hreply t) (handshakeReply buf 2 t)) ?_
      (.ite (fun _ => stops_warningEnableNum 1 _) fun _ => .of_within within_nil _)
    exact .ite (fun _ => framed_warningEnableNum _ 1) fun _ => .refl _ _

theorem stops_slaveWater (buf : Message) (s : State) :
    Stops (slaveWaterCalls buf s) (slaveWater buf s) := by
  have hreport : Within (fun o => ¬o.IsDetect) (.rfEnMq :: uploadCalls s) :=
    within_cons.mpr ⟨not_isDetect_rfEnMq, within_upload s⟩
  have hnone : ∀ t : State, Stops [] t := .of_within within_nil
  unfold slaveWaterCalls slaveWater
  refine .ite (fun _ => .ite (fun _ => hnone _) fun _ => .of_within hreport _) fun _ =>
    .ite (fun _ => .ite (fun _ => hnone _) fun _ => ?_) fun _ => hnone _
  exact Stops.trans (.of_within hreport _)
    (.ite (fun _ => framed_warningEnableNum _ 2) fun _ => .refl _ _)
    (.ite (fun _ => stops_warningEnableNum 2 _) fun _ => hnone _)

/-- The close is followed by a report, which is no timer. -/
theorem stops_nodeClose (buf : Message) (s : State) :
    Stops (nodeCloseCalls buf s) (nodeClose buf s) := by
  unfold nodeCloseCalls nodeClose
  dsimp only
  generalize clearSlaveAlarm buf (radioEnqueue buf.fromID.toUInt32 (toU8 buf.counter) 6 0 s) = t
  refine Stops.congr ?_ (running_reportValve buf _)
  refine .ite (fun _ => ?_) fun _ => ?_
  · refine (stops_motoClose otherOff _).mono fun o ho hdetect => ?_
    obtain rfl | ho := List.mem_cons.mp ho
    · exact absurd hdetect not_isDetect_rfEnMq
    · exact (List.mem_append.mp ho).resolve_right fun hupload =>
        absurd hdetect (within_upload _ o hupload)
  · exact .of_within (within_cons.mpr ⟨not_isDetect_rfEnMq, within_upload t⟩) _

/-- Of the commands, 2, 4 and 6 may close the valve. -/
theorem stops_dataSolve (buf : Message) (s : State) :
    Stops (dataSolveCalls buf s) (dataSolve buf s) := by
  have hqueue := not_isDetect_rfEnMq
  have hdelay : ¬KernelObject.IsDetect .delayTimer := by simp [KernelObject.IsDetect]
  refine Stops.congr (s := dataSolveCommand buf s) ?_ (running_dataSolve buf s)
  unfold dataSolveCalls dataSolveCommand
  refine .ite (fun _ => .of_within (by simpa using hqueue) _)
    fun _ => .ite (fun _ => stops_handshake buf s) fun _ => .ite (fun _ => .of_within ?_ _)
    fun _ => .ite (fun _ => stops_slaveWater buf s)
    fun _ => .ite (fun _ => .of_within (within_nodeOpenCalls hqueue hdelay) _)
    fun _ => .ite (fun _ => stops_nodeClose buf s)
    fun _ => .ite (fun _ => .of_within (within_nodeDelayCalls hqueue hdelay) _)
    fun _ => .ite (fun _ => .of_within (within_cons.mpr ⟨hqueue, within_upload s⟩) _)
    fun _ => .of_within within_nil _
  simp [learnStartCalls, within_ite, KernelObject.IsDetect]

theorem stops_gatewayValve (buf : Message) (s : State) :
    Stops (gatewayValveCalls buf s) (gatewayValve buf s) := by
  unfold gatewayValveCalls gatewayValve
  refine .ite (fun hshown => ?_) fun _ => .of_within (within_upload s) _
  unfold remoteOpen remoteClose
  simp only [if_pos hshown]
  by_cases hdata : buf.data ≠ 0
  · rw [if_pos hdata, if_pos hdata]
    exact .of_within (within_append.mpr ⟨within_motoOpen otherOpen s, within_upload _⟩) _
  · rw [if_neg hdata, if_neg hdata]
    exact (stops_motoClose otherOff s).trans (queueOnly_controlUploadGW ..).framed
      (.of_within (within_upload _) _)

/-- Of the commands of the gateway, only 2 moves the valve. -/
theorem stops_gatewayCommand (buf : Message) (s : State) :
    Stops (gatewayCommandCalls buf s) (gatewayCommand buf s) := by
  unfold gatewayCommandCalls gatewayCommand
  refine .ite (fun _ => stops_gatewayValve buf s) fun _ => .ite (fun _ => ?_) fun _ =>
    .ite (fun _ => ?_) fun _ => .of_within within_nil _
  · exact .of_within (within_upload s) _
  · refine .of_within ((within_gatewaySyncCalls (queued s)).mpr ?_) _
    simp [KernelObject.IsDetect]

/-- Besides the queue, a learn frame has calls for `Learn_Timer` and `Heart_Check_t`. -/
theorem stops_rf433RxCallback (rxMessage : Message) (rssi : Int) (buffer : List UInt8)
    (len : UInt8) (s : State) :
    Stops (rf433RxCalls rxMessage rssi buffer len s)
      (rf433RxCallback rxMessage rssi buffer len s) := by
  have hnone : ∀ t : State, Stops [] t := .of_within within_nil
  have hlearn : ∀ buf t, Within (fun o => ¬o.IsDetect) (deviceLearnCalls buf t) := fun buf t =>
    (within_deviceLearnCalls not_isDetect_rfEnMq (by simp [KernelObject.IsDetect])).mpr
      fun _ => by simp [KernelObject.IsDetect]
  refine .ite (fun _ => .ite (fun _ => .ite (fun _ => .ite (fun _ => ?_)
    fun _ => .ite (fun _ => stops_dataSolve _ _) fun _ => hnone _) fun _ => hnone _)
    fun _ => hnone _) fun _ => .ite (fun _ => .ite (fun _ => .ite (fun _ => ?_) fun _ => hnone _)
    fun _ => hnone _) fun _ => hnone _
  · exact .of_within (hlearn _ _) _
  · exact stops_gatewayCommand _ _

/-- The hour may start the Act timers, and close the valve by the offline warning. -/
theorem stops_rtcTimerEntry {pins : Pins} (hs : rtcTimerEntry pins s = some s') :
    Stops (rtcTimerEntryCalls pins s) s' := by
  rw [rtcTimerEntry_eq] at hs
  obtain ⟨t, ht, hs⟩ := Option.bind_eq_some_iff.mp hs
  unfold rtcTimerEntryCalls
  rw [ht]
  have hdetected : Within (fun o => ¬o.IsDetect)
      (if (s.rtcHours + 1) % 120 = 0 then motoDetectCalls pins s else []) :=
    within_ite.mpr ⟨fun _ => within_motoDetect pins s, fun _ => within_nil⟩
  refine Stops.mono (l := if t.rtcCounter < 24 then [] else detectAllTimeCalls t) ?_
    fun o ho hdetect => ?_
  · split at hs
    · rename_i hearly
      rw [if_pos hearly]
      exact .of_within within_nil _
    · rename_i hearly
      rw [if_neg hearly]
      obtain ⟨u, hu, rfl⟩ := Option.map_eq_some_iff.mp hs
      refine Stops.congr (s := u) ?_ rfl
      unfold detectAllTime at hu
      unfold detectAllTimeCalls
      split at hu
      · rename_i hnone
        rw [if_pos hnone]
        exact .of_within within_nil _
      · rename_i hsome
        rw [if_neg hsome]
        dsimp only at hu ⊢
        obtain ⟨st, -, rfl⟩ := Option.map_eq_some_iff.mp hu
        have hloop := within_detectLoopCalls t.searchStart (false, t) (queued _)
        refine Stops.trans (.of_within hloop (detectLoop t.searchStart (false, t)).2) ?_ ?_
        · exact .ite (fun _ => framed_warningEnableNum _ 5) fun _ => .refl _ _
        · exact .ite (fun _ => stops_warningEnableNum 5 _) fun _ => .of_within within_nil _
  · exact (List.mem_append.mp ho).resolve_left fun hmem => hdetected o hmem hdetect

private theorem within_keyOnCalls (s : State) :
    Within (fun o => ¬o.IsDetect) (keyOnCalls s) := by
  unfold keyOnCalls
  split
  · exact within_ite.mpr ⟨fun _ => within_motoOpen normalOpen s, fun _ => within_nil⟩
  · exact within_motoOpen normalOpen _
  · exact within_nil

private theorem within_stopLearn (s : State) :
    Within (fun o => ¬o.IsDetect) (stopLearnCalls s) :=
  (within_stopLearnCalls (queued s)).mpr fun _ => by simp [KernelObject.IsDetect]

private theorem within_keyLongCalls (s : State) :
    Within (fun o => ¬o.IsDetect) (keyLongCalls s) := by
  unfold keyLongCalls
  have hlearn : ¬KernelObject.IsDetect .learnTimer := by simp [KernelObject.IsDetect]
  refine within_ite.mpr ⟨fun _ => by simpa using hlearn, fun _ => within_ite.mpr
    ⟨fun _ => within_cons.mpr ⟨hlearn, within_stopLearn _⟩, fun _ => within_nil⟩⟩

/-- In factory mode the close key starts the self-test instead. -/
private theorem stops_keyOff (hasFactoryCycle : Bool) (pins : Pins) (s : State) :
    Stops (keyOffCalls hasFactoryCycle pins s) (keyOff pins s) := by
  unfold keyOffCalls keyOff
  refine .ite (fun _ => .of_within (within_append.mpr ⟨?_, within_motoDetect pins _⟩) _) fun _ => ?_
  · exact within_ite.mpr ⟨fun _ => by simp [KernelObject.IsDetect], fun _ => within_nil⟩
  · have hopened := stops_motoClose normalOff { s with lastCloseFlag := 0 }
    generalize { s with lastCloseFlag := 0 } = t at hopened ⊢
    cases s.nowStatus with
    | opened => exact hopened
    | masterLostPeak => exact (stops_motoClose normalOff s).congr rfl
    | masterWaterAlarmDeActive => exact .of_within (within_upload _) _
    | _ => exact .of_within within_nil _

/-- One key is handled in a round. -/
theorem stops_keyReponse {rom : UInt32} {sem : KeySem} {pins : Pins} {hasFactoryCycle : Bool}
    (hs : keyReponse rom sem pins s = some s')
    (hreset : ¬(sem.k0 = false ∧ sem.k1 = false ∧ sem.k0k1 = true)) :
    Stops (keyReponseCalls hasFactoryCycle sem pins s) s' := by
  unfold keyReponse at hs
  unfold keyReponseCalls
  split_ifs at hs ⊢ with h0 h1 h01 h2 h3
  · exact .of_within (within_keyOnCalls s) _
  · cases hs
    exact stops_keyOff hasFactoryCycle pins s
  · exact absurd ⟨by simpa using h0, by simpa using h1, h01⟩ hreset
  · exact .of_within within_nil _
  · exact .of_within (within_keyLongCalls s) _
  · exact .of_within within_nil _

variable {rom : UInt32} {a : Action}

/-- **Only the Act timers start the Detect timers.** -/
theorem stops_step (hs : step rom s a = some s') (hrestart : ¬Restarts a)
    (h1 : a ≠ .moto1TimerAct) (h2 : a ≠ .moto2TimerAct) :
    Stops (handlerCalls (s.factoryFlag ≠ 0) s a) s' := by
  have hnone : ∀ t : State, Stops [] t := .of_within within_nil
  have hwarn : ∀ {id : UInt8}, id = 6 ∨ id = 9 →
      Within (fun o => ¬o.IsDetect) (warningEnableNumCalls id s) := by
    rintro id (rfl | rfl)
    · exact within_ite.mpr ⟨fun _ => within_upload s, fun _ => within_nil⟩
    · exact within_ite.mpr ⟨fun _ => within_upload s, fun _ => within_nil⟩
  cases a <;> simp only [step, Option.ite_none_right_eq_some, Option.ite_none_left_eq_some,
    Option.some.injEq] at hs
  case keyReponse sem pins => exact stops_keyReponse hs hrestart
  case rf433Rx rxMessage rssi buffer len =>
    exact hs ▸ stops_rf433RxCallback rxMessage rssi buffer len s
  case rfEncode => exact .of_within (by simp [handlerCalls, KernelObject.IsDetect]) _
  case waterscanTimer pins => exact hs ▸ stops_waterscanTimerCallback pins s
  case ntcScanTimer cold warm => exact hs ▸ stops_ntcScanTimerCallback cold warm s
  case delayTimer =>
    obtain ⟨-, rfl⟩ := hs
    exact Stops.trans (l := motoCloseCalls otherOff s)
      (stops_motoClose otherOff { s with delayTimer := false })
      (queueOnly_controlUploadGW ..).framed (.of_within (within_upload _) _)
  case learnTimer => exact .of_within (within_stopLearn s) _
  case turn1Edge | turn2Edge => exact hnone _
  case moto1TimerAct => exact absurd rfl h1
  case moto2TimerAct => exact absurd rfl h2
  case moto1TimerDetect =>
    exact .of_within (within_ite.mpr ⟨fun _ => within_ite.mpr ⟨fun _ => hwarn (.inl rfl), fun _ =>
      within_nil⟩, fun _ => within_ite.mpr ⟨fun _ => within_upload s, fun _ => within_nil⟩⟩) _
  case moto2TimerDetect =>
    exact .of_within (within_ite.mpr ⟨fun _ => hwarn (.inr rfl), fun _ => within_upload s⟩) _
  case motoDetectTimer pins => exact .of_within (within_motoDetect pins s) _
  case rtcAlarm pins => exact stops_rtcTimerEntry hs
  case gatewaySyncT =>
    exact .of_within (within_ite.mpr ⟨fun _ => within_ite.mpr ⟨fun _ =>
      within_gatewayEnqueueCalls (queued s), fun _ => within_nil⟩,
      fun _ => by simp [KernelObject.IsDetect]⟩) _
  case heartCheckT => exact hnone _
  case heartTestT =>
    have hheart : ¬KernelObject.IsDetect .heartTestT := by simp [KernelObject.IsDetect]
    exact .of_within (within_ite.mpr ⟨fun _ => within_cons.mpr ⟨hheart, within_append.mpr
      ⟨within_upload s, within_powerOnUploadCalls (queued s)⟩⟩, fun _ => within_ite.mpr
      ⟨fun _ => within_upload s, fun _ => by simpa using hheart⟩⟩) _
  case factoryCycle => exact .of_within (by simp [handlerCalls, KernelObject.IsDetect]) _
  case reboot pins => exact absurd trivial hrestart

end WaterValve
