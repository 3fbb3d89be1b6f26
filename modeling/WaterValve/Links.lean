import WaterValve.Undisturbed

/-!
# WaterValve.Links

What ties the unit to its gateway while it runs: `Gateway_ID`, the flag that a
gateway was learned, and learn mode itself.  Each function of the source has one
lemma, `links_<function>`; `linked_step` is the one about a step.
-/

namespace WaterValve

/-! ## the links -/

/-- The gateway in use, whether one was learned since the list was sent, and learn
mode. -/
def links (s : State) : UInt32 × UInt8 × UInt8 := (s.gatewayID, s.gwFlag, s.learnFlag)

variable {s s' t : State} {buf : Message}

/-- A message that is sent ties nothing. -/
theorem QueueOnly.links (h : QueueOnly s s') : links s' = WaterValve.links s := by
  obtain ⟨mq, rfl⟩ := h
  rfl

theorem TestOnly.links (h : TestOnly s s') : links s' = WaterValve.links s := by
  obtain ⟨t, rfl⟩ := h
  rfl

/-- To send the device list does not say that it has been sent. -/
theorem SyncOnly.links (h : SyncOnly s s') : links s' = WaterValve.links s := by
  obtain ⟨mq, n, t, rfl⟩ := h
  rfl

theorem links_ite {b : Prop} [Decidable b] (h : b → links s = links t)
    (h' : ¬b → links s' = links t) : links (if b then s else s') = links t :=
  iteInduction (motive := fun u => links u = links t) h h'

section

variable (actFlag : UInt8) (s : State)

/-- The valve has nothing to do with the gateway, however it is moved. -/
theorem links_motoOpen : links (motoOpen actFlag s) = links s := by
  unfold motoOpen
  dsimp only
  split_ifs
  · obtain ⟨mq, hmq⟩ := queueOnly_controlUploadGW 1 0 1 1
      (writeTurns true (setLastFlag actFlag { s with nowStatus := .opened, valveStatus := 1 }))
    rw [hmq]
    rfl
  · rfl
  · rfl

theorem links_motoClose : links (motoClose actFlag s) = links s := by
  unfold motoClose
  dsimp only
  split_ifs
  · obtain ⟨mq, hmq⟩ := queueOnly_controlUploadGW 1 0 1 0
      (setLastFlag actFlag { s with nowStatus := .close, valveStatus := 0 })
    rw [hmq]
    rfl
  all_goals rfl

/-- A warning is reported to a gateway, and no gateway is chosen for it. -/
theorem links_callback (callback : WarningCallback) : links (callback.run s) = links s := by
  cases callback with
  | slaverLowBatteryWarning => rfl
  | slaverUltraLowBatteryWarning | slaverWaterAlarmWarning => exact links_motoClose otherOff s
  | masterLostPeakWarning =>
      exact (queueOnly_warUploadGW 1 0 3 1 { s with nowStatus := .masterLostPeak }).links
  | masterWaterAlarmWarning =>
      exact (queueOnly_warUploadGW 1 0 1 1 _).links.trans (links_motoClose normalOff s)
  | ntcWarningEventCallback =>
      exact (queueOnly_warUploadGW 1 0 8 1 _).links.trans (links_motoClose normalOff s)
  | offlineWarning => exact links_ite (fun _ => links_motoClose normalOff s) fun _ => rfl
  | moto1FailCallback => exact (queueOnly_warUploadGW 1 0 2 2 s).links
  | moto2FailCallback => exact (queueOnly_warUploadGW 1 0 2 3 s).links

/-- Learn mode is hidden by a warning, and goes on. -/
theorem links_warningEnable (event : WariningEvent) : links (warningEnable event s) = links s := by
  unfold warningEnable
  refine links_ite (fun _ => ?_) fun _ => rfl
  cases event.callback with
  | none => rfl
  | some callback => exact links_callback _ callback

theorem links_warningEnableNum (id : UInt8) : links (warningEnableNum id s) = links s := by
  unfold warningEnableNum
  split
  · exact links_warningEnable s _
  · rfl

theorem links_backToNormal : links (backToNormal s) = links s := rfl

theorem links_warningDisable : links (warningDisable s) = links s := rfl

end

theorem links_warningWithPeak (status : Nat) (s : State) :
    links (warningWithPeak status s) = links s := by
  unfold warningWithPeak
  split
  · split
    · have hback : links (backToNormal (warUploadGW 1 0 3 0 s)) = links s :=
        (links_backToNormal _).trans (queueOnly_warUploadGW 1 0 3 0 s).links
      exact links_ite (fun _ => hback) fun _ => (queueOnly_warUploadGW 1 0 3 0 s).links
    · exact links_warningEnableNum s 3
    · exact links_warningEnableNum s 4
    · rfl
    · exact links_warningEnableNum s 4
    · rfl
  · rfl

/-- The probe is scanned in learn mode too; what it finds waits. -/
theorem links_waterscanTimerCallback (pins : Pins) (s : State) :
    links (waterscanTimerCallback pins s) = links s := by
  have hhandled : ∀ (status : Nat) (handled : UInt8) (t : State), links t = links s →
      links (peakHandled handled (warningWithPeak status t)) = links s :=
    fun status _ t ht => (links_warningWithPeak status t).trans ht
  unfold waterscanTimerCallback
  refine links_ite (fun _ => links_ite (fun _ => ?_) fun _ => links_ite (fun _ => ?_)
    fun _ => links_ite (fun _ => ?_) fun _ => links_ite (fun _ => ?_)
    fun _ => links_ite (fun _ => ?_) fun _ => links_ite (fun _ => ?_) fun _ => rfl) fun _ => rfl
  · exact links_ite (fun _ => links_warningWithPeak 3 _) fun _ => rfl
  · exact links_ite (fun _ => rfl) fun _ => rfl
  all_goals exact links_ite (fun _ => hhandled _ _ _ rfl) fun _ => rfl

/-- A freeze does not end learn mode. -/
theorem links_ntcScanTimerCallback (cold warm : Bool) (s : State) :
    links (ntcScanTimerCallback cold warm s) = links s := by
  unfold ntcScanTimerCallback
  extract_lets t
  have ht : links t = links s :=
    links_ite (fun _ => links_warningEnableNum { s with ntcState := s.valveStatus } 8) fun _ => rfl
  have hreleased : links (warningDisable (warUploadGW 1 0 8 0 t)) = links s :=
    (links_warningDisable _).trans ((queueOnly_warUploadGW 1 0 8 0 t).links.trans ht)
  refine links_ite (fun _ => links_ite (fun _ => ?_) fun _ => ?_) fun _ => ht
  · exact (links_motoOpen normalOpen _).trans hreleased
  · exact (links_motoClose normalOff _).trans hreleased

/-! ## frames -/

/-- A node tells of its battery. -/
theorem links_handshake (buf : Message) (s : State) : links (handshake buf s) = links s := by
  have hreply : ∀ (level : UInt8) (t : State), links (handshakeReply buf level t) = links t :=
    fun level t => (queueOnly_warUploadGW ..).links.trans (queueOnly_radioEnqueue ..).links
  unfold handshake
  refine links_ite (fun _ => hreply 0 _) fun _ => links_ite (fun _ => links_ite (fun _ => ?_)
    fun _ => hreply 1 _) fun _ => links_ite (fun _ => links_ite (fun _ => ?_) fun _ => hreply 2 _)
    fun _ => links_ite (fun _ => hreply 3 _) fun _ => links_ite (fun _ => hreply 4 _) fun _ => rfl
  · exact (links_warningEnableNum _ 7).trans (hreply 1 _)
  · exact (links_warningEnableNum _ 1).trans (hreply 2 _)

/-- An alarm of a slave leaves learn mode on. -/
theorem links_slaveWater (buf : Message) (s : State) : links (slaveWater buf s) = links s := by
  have hreport : ∀ wet : UInt8, links (radioEnqueue buf.fromID.toUInt32 (toU8 buf.counter) 4 wet s
      |> warUploadGW 1 buf.fromID.toUInt32 5 wet) = links s :=
    fun wet => (queueOnly_warUploadGW ..).links.trans (queueOnly_radioEnqueue ..).links
  unfold slaveWater
  refine links_ite (fun _ => links_ite (fun _ => rfl) fun _ => hreport 0)
    fun _ => links_ite (fun _ => links_ite (fun _ => rfl) fun _ => links_ite (fun _ => ?_)
    fun _ => hreport 1) fun _ => rfl
  exact (links_warningEnableNum _ 2).trans (hreport 1)

theorem links_reportValve (buf : Message) (s : State) : links (reportValve buf s) = links s :=
  links_ite (fun _ => (queueOnly_controlUploadGW ..).links)
    fun _ => (queueOnly_controlUploadGW ..).links

theorem links_nodeOpen (buf : Message) (s : State) : links (nodeOpen buf s) = links s := by
  refine (links_reportValve buf _).trans (links_ite (fun _ => ?_) fun _ => ?_)
  · exact (links_motoOpen otherOpen _).trans (queueOnly_radioEnqueue ..).links
  · exact (queueOnly_radioEnqueue ..).links

theorem links_clearSlaveAlarm (buf : Message) (s : State) :
    links (clearSlaveAlarm buf s) = links s :=
  links_ite (fun _ => links_ite (fun _ => rfl) fun _ => rfl) fun _ => rfl

/-- The end of a warning is not the end of learn mode. -/
theorem links_nodeClose (buf : Message) (s : State) : links (nodeClose buf s) = links s := by
  have hclear := (links_clearSlaveAlarm buf _).trans
    (queueOnly_radioEnqueue buf.fromID.toUInt32 (toU8 buf.counter) 6 0 s).links
  have hdisabled : ∀ t : State, links { warningDisable t with lastCloseFlag := 1 } = links t :=
    fun _ => rfl
  refine (links_reportValve buf _).trans (links_ite (fun _ => ?_) fun _ => hclear)
  exact (links_motoClose otherOff _).trans ((hdisabled _).trans hclear)

theorem links_nodeDelay (buf : Message) (s : State) : links (nodeDelay buf s) = links s := by
  have hreply :=
    (queueOnly_radioEnqueue buf.fromID.toUInt32 (toU8 buf.counter) 8 (toU8 buf.data) s).links
  refine links_ite (fun _ => ?_) fun _ => links_ite (fun _ => links_ite (fun _ => ?_)
    fun _ => hreply) fun _ => hreply
  · exact (queueOnly_controlUploadGW 1 buf.fromID.toUInt32 3 0 _).links.trans hreply
  · exact (queueOnly_controlUploadGW ..).links.trans hreply

/-- A node command that starts learn mode. -/
def NodeStartsLearn (buf : Message) : Prop := buf.command = 3 ∧ buf.data = 3

/-- Of the commands of a node, only the one that begins learn mode ties anything. -/
theorem links_dataSolveCommand (h : ¬NodeStartsLearn buf) (s : State) :
    links (dataSolveCommand buf s) = links s := by
  unfold dataSolveCommand
  refine links_ite (fun _ => (queueOnly_radioEnqueue ..).links)
    fun _ => links_ite (fun _ => links_handshake buf s) fun _ => links_ite (fun h3 => ?_)
    fun _ => links_ite (fun _ => links_slaveWater buf s)
    fun _ => links_ite (fun _ => links_nodeOpen buf s)
    fun _ => links_ite (fun _ => links_nodeClose buf s)
    fun _ => links_ite (fun _ => links_nodeDelay buf s) fun _ => links_ite (fun _ => ?_)
    fun _ => rfl
  · have hno : ¬(buf.data = 3 ∧ checkValid buf.fromID.toUInt32 s = RT_EOK) :=
      fun hstart => h ⟨h3, hstart.1⟩
    rw [learnStart, if_neg hno]
  · exact (queueOnly_warUploadGW ..).links.trans (queueOnly_radioEnqueue ..).links

/-- Starting learn mode does not touch the gateway. -/
theorem links_learnStart (h : NodeStartsLearn buf) (s : State) :
    links (dataSolveCommand buf s) = links s ∨
      links (dataSolveCommand buf s) = (s.gatewayID, s.gwFlag, 1) := by
  have hlearn : dataSolveCommand buf s = learnStart buf s := by
    simp [dataSolveCommand, h.1]
  rw [hlearn]
  unfold learnStart startLearn
  split
  · rw [(queueOnly_radioEnqueue ..).links]
    split
    · exact .inr rfl
    · exact .inl rfl
  · exact .inl rfl

/-- What follows the `switch` of `DataSolve`. -/
theorem links_dataSolve (buf : Message) (s : State) :
    links (dataSolve buf s) = links (dataSolveCommand buf s) := by
  have hreact : ∀ t, links (offlineReact t) = links t := by
    intro t
    unfold offlineReact
    exact links_ite (fun _ => rfl) fun _ => links_ite (fun _ => rfl) fun _ =>
      links_ite (fun _ => rfl) fun _ => links_ite (fun _ => rfl) fun _ => rfl
  unfold dataSolve changeMaxPower backNormalPower
  refine (hreact _).trans ?_
  exact links_ite (fun _ => links_ite (fun _ => rfl) fun _ => rfl)
    fun _ => links_ite (fun _ => rfl) fun _ => rfl

private theorem links_learnNew {add : UInt32 → State → UInt8 × State}
    (hadd : ∀ deviceID t, links (add deviceID t).2 = links t) (buf : Message) (s : State) :
    links (learnNew add buf s) = links s :=
  links_ite (fun _ => (queueOnly_radioEnqueue ..).links.trans (hadd _ s)) fun _ => hadd _ s

/-- A learn frame, but for the confirmation of a gateway. -/
theorem links_deviceLearn (h : ¬GatewayConfirms buf s) : links (deviceLearn buf s) = links s := by
  have hdoor : ∀ deviceID t, links (addDoorDevice deviceID t).2 = links t := by
    intro deviceID t
    unfold addDoorDevice
    exact links_ite (fun _ => (queueOnly_replaceDoor _ t).links) fun _ => rfl
  unfold deviceLearn
  refine links_ite (fun h3 => links_ite (fun _ => ?_) fun _ => links_ite (fun h2 => ?_)
    fun _ => rfl) fun _ => rfl
  · refine links_ite (fun _ => links_ite (fun _ => links_learnNew (fun _ _ => rfl) buf s)
      fun _ => links_ite (fun _ => links_learnNew hdoor buf s)
      fun _ => links_ite (fun _ => links_learnNew (fun _ _ => rfl) buf s) fun _ => rfl)
      fun _ => (queueOnly_radioEnqueue ..).links
  · refine links_ite (fun _ => rfl) fun hvalid => ?_
    have hclass : ¬(40000000 ≤ buf.fromID ∧ buf.fromID < 50000000) :=
      fun hclass => h ⟨h3, h2, not_not.mp hvalid, hclass⟩
    rw [if_neg hclass]
    exact (queueOnly_gatewaySyncEnqueue ..).links.trans (queueOnly_radioEnqueue ..).links

/-- A gateway that is heard is not thereby the one in use. -/
theorem links_gatewayAct (buf : Message) (s : State) : links (gatewayAct buf s) = links s := by
  have hrefresh : links (heartRefresh buf.fromID.toUInt32 s) = links s :=
    links_ite (fun _ => rfl) fun _ => rfl
  unfold gatewayAct gatewayCommand
  refine links_ite (fun _ => links_ite (fun _ => ?_)
    fun _ => links_ite (fun _ => (queueOnly_controlUploadGW ..).links.trans hrefresh)
    fun _ => links_ite (fun _ => (syncOnly_gatewaySync _).links.trans hrefresh)
    fun _ => links_ite (fun _ => hrefresh) fun _ => links_ite (fun _ => hrefresh)
    fun _ => hrefresh) fun _ => rfl
  refine Eq.trans (links_ite (fun _ => (queueOnly_controlUploadGW ..).links.trans ?_)
    fun _ => (queueOnly_controlUploadGW ..).links) hrefresh
  exact links_ite (fun _ => links_ite (fun _ => links_motoOpen otherOpen _) fun _ => rfl)
    fun _ => links_motoClose otherOff _

/-! ## the clock, the keys and the timers -/

theorem links_detectSlot (num : Nat) (p : Bool × State) :
    links (detectSlot num p).2 = links p.2 := by
  rw [detectSlot_eq]
  split
  · exact (queueOnly_warUploadGW ..).links
  · rfl

/-- The induction is on the slots that are left. -/
theorem links_detectLoop (num : Nat) (p : Bool × State) :
    links (detectLoop num p).2 = links p.2 := by
  induction num generalizing p with
  | zero => rfl
  | succ num ih => exact (ih _).trans (links_detectSlot (num + 1) p)

theorem links_hourBegins (pins : Pins) (s : State) : links (hourBegins pins s) = links s :=
  links_ite (fun _ => (testOnly_motoDetect pins _).links) fun _ => rfl

/-- The ages of the devices are part of the registry. -/
theorem links_aged {pins : Pins} (h : aged pins s = some t) : links t = links s := by
  obtain ⟨st, -, rfl⟩ := Option.map_eq_some_iff.mp h
  exact links_hourBegins pins s

/-- An hour that passes, whatever it raises. -/
theorem links_rtcTimerEntry {pins : Pins} (hs : rtcTimerEntry pins s = some s') :
    links s' = links s := by
  rw [rtcTimerEntry_eq] at hs
  obtain ⟨t, ht, hs⟩ := Option.bind_eq_some_iff.mp hs
  rw [← links_aged ht]
  split at hs
  · cases hs
    rfl
  · obtain ⟨u, hu, rfl⟩ := Option.map_eq_some_iff.mp hs
    unfold detectAllTime at hu
    split at hu
    · cases hu
      rfl
    · dsimp only at hu
      obtain ⟨st, -, rfl⟩ := Option.map_eq_some_iff.mp hu
      exact Eq.trans (links_ite (fun _ => links_warningEnableNum _ 5) fun _ => rfl)
        (links_detectLoop t.searchStart (false, t))

/-- What a verdict writes is not among the links. -/
private theorem links_judged (fail1 fail2 alarm : UInt8) (s : State) :
    links { s with moto1FailFlag := fail1, moto2FailFlag := fail2, valveAlarmFlag := alarm } =
      links s := rfl

/-- The verdict on a motor. -/
theorem links_turn1TimerCallback (s : State) :
    links (turn1TimerCallback { s with moto1TimerDetect := false }) = links s := by
  rw [turn1TimerCallback_eq]
  have htest : links (endTest1 s) = links s := rfl
  refine links_ite (fun _ => (links_judged _ _ _ _).trans (links_ite (fun _ => ?_) fun _ => htest))
    fun _ => (links_judged _ _ _ _).trans (links_ite (fun _ => ?_) fun _ => htest)
  · exact (links_judged _ _ _ _).trans ((links_warningEnableNum _ 6).trans htest)
  · exact (links_judged _ _ _ _).trans ((queueOnly_warUploadGW 1 0 2 0 _).links.trans htest)

theorem links_turn2TimerCallback (s : State) :
    links (turn2TimerCallback { s with moto2TimerDetect := false }) = links s := by
  rw [turn2TimerCallback_eq]
  have htest : links (endTest2 s) = links s := rfl
  refine links_ite (fun _ => (links_judged _ _ _ _).trans ?_)
    fun _ => (links_judged _ _ _ _).trans ?_
  · exact (links_warningEnableNum _ 9).trans htest
  · exact (queueOnly_warUploadGW 1 0 2 1 _).links.trans htest

/-- The heartbeat is sent to the gateway in use. -/
theorem links_heartTest (s : State) : links (heartTest s) = links s := by
  unfold heartTest
  refine links_ite (fun _ => ?_) fun _ => links_ite (fun _ => ?_) fun _ => rfl
  · exact (queueOnly_powerOnUpload _).links.trans (queueOnly_controlUploadGW ..).links
  · exact (queueOnly_controlUploadGW ..).links

/-- The end of learn mode. -/
theorem links_stopLearn (s : State) : links (stopLearn s) = (s.gatewayID, 0, 0) := by
  unfold stopLearn
  dsimp only
  split
  · exact (syncOnly_gatewaySync _).links
  · rename_i hgw
    exact Prod.ext rfl (Prod.ext (not_not.mp hgw) rfl)

/-- One key alone opens or closes. -/
theorem links_keyOn (s : State) : links (keyOn s) = links s := by
  unfold keyOn
  split
  · exact links_ite (fun _ => links_motoOpen normalOpen s) fun _ => rfl
  · exact links_motoOpen normalOpen { s with nowStatus := .opened }
  · rfl

/-- In factory mode it tests the motors. -/
theorem links_keyOff (pins : Pins) (s : State) : links (keyOff pins s) = links s := by
  unfold keyOff
  refine links_ite (fun _ => (testOnly_motoDetect pins _).links) fun _ => ?_
  split
  · exact links_motoClose normalOff { s with lastCloseFlag := 0 }
  · exact links_motoClose normalOff s
  · exact (queueOnly_warUploadGW 1 0 1 0 (warningDisable { s with nowStatus := .close })).links
  · rfl

/-! ## a step -/

/-- The handler starts learn mode: a key, or a registered device that asks for
it. -/
def StartsLearn (s : State) (a : Action) : Prop :=
  (∃ sem pins, a = .keyReponse sem pins) ∨
    s.learnFlag = 0 ∧ ∃ rssi buf, event s a = .node rssi buf ∧ NodeStartsLearn buf

/-- The handler calls `Gateway_Reload`: in learn mode a gateway confirms. -/
def CallsGatewayReload (s : State) (a : Action) : Prop :=
  s.learnFlag ≠ 0 ∧ ∃ rssi buf, event s a = .node rssi buf ∧ GatewayConfirms buf s

/-- What a step makes of the links. -/
inductive Linked (s : State) (a : Action) (s' : State) : Prop
  | same (h : links s' = links s)
  | learnEnds (h : links s' = (s.gatewayID, 0, 0))
  | learnStarts (hstart : StartsLearn s a) (h : links s' = (s.gatewayID, s.gwFlag, 1))
  | reloads (hreload : CallsGatewayReload s a) (h : s'.learnFlag = s.learnFlag)

variable {rom : UInt32} {a : Action}

/-- In learn mode a frame may choose a gateway, and outside it begin learn mode. -/
private theorem linked_rf433RxCallback (rxMessage : Message) (rssi : Int) (buffer : List UInt8)
    (len : UInt8) : Linked s (.rf433Rx rxMessage rssi buffer len)
      (rf433RxCallback rxMessage rssi buffer len s) := by
  by_cases hnode : byteAt buffer 1 = 123
  · by_cases hend : nodeFrameEnd buffer len
    · rw [rf433RxCallback, if_pos hnode, normalSolve, if_pos hend]
      by_cases haccept : Accepts (scanNode rxMessage buffer).2 s
      · have hevent : event s (.rf433Rx rxMessage rssi buffer len) =
            .node rssi (scanNode rxMessage buffer).2 := by
          simp only [event, frameEvent, if_pos hnode, if_pos (And.intro hend haccept)]
        generalize (scanNode rxMessage buffer).2 = buf at haccept hevent
        have hheard : links (heardFrom rssi buf.fromID.toUInt32 s) = links s := rfl
        rw [normalAct_of_accepts haccept]
        split
        · rename_i hlearn
          by_cases hconfirms : GatewayConfirms buf s
          · obtain ⟨st, mq, timer, flag, id, recv, status, check, heq⟩ :=
              tableOnly_deviceLearn buf (heardFrom rssi buf.fromID.toUInt32 s)
            exact .reloads ⟨hlearn, rssi, buf, hevent, hconfirms⟩ (by rw [heq]; rfl)
          · have hno := mt (gatewayConfirms_heardFrom rssi buf s).mp hconfirms
            exact .same ((links_deviceLearn hno).trans hheard)
        · rename_i hlearn
          have hsolve := links_dataSolve buf (heardFrom rssi buf.fromID.toUInt32 s)
          by_cases hstart : NodeStartsLearn buf
          · obtain hsame | hstarts := links_learnStart hstart (heardFrom rssi _ s)
            · exact .same (hsolve.trans (hsame.trans hheard))
            · exact .learnStarts (.inr ⟨not_not.mp hlearn, rssi, buf, hevent, hstart⟩)
                (hsolve.trans hstarts)
          · exact .same (hsolve.trans ((links_dataSolveCommand hstart _).trans hheard))
      · rw [normalAct_of_not_accepts haccept]
        exact .same rfl
    · rw [rf433RxCallback, if_pos hnode, normalSolve, if_neg hend]
      exact .same rfl
  · rw [rf433RxCallback, if_neg hnode]
    refine .same (links_ite (fun _ => ?_) fun _ => rfl)
    unfold gatewayDataSolve
    exact links_ite (fun _ => links_gatewayAct _ s) fun _ => rfl

/-- **The links change in learn mode only**, when it starts or ends or when a
gateway confirms in it. -/
theorem linked_step (hs : step rom s a = some s') (hrestart : ¬Restarts a) : Linked s a s' := by
  cases a <;> simp only [step, Option.ite_none_right_eq_some, Option.ite_none_left_eq_some,
    Option.some.injEq] at hs
  case keyReponse sem pins =>
    unfold keyReponse at hs
    cases h0 : sem.k0 <;> cases h1 : sem.k1 <;> simp only [h0, h1] at hs
    · cases hreset : sem.k0k1 with
      | true => exact absurd ⟨h0, h1, hreset⟩ hrestart
      | false =>
          simp only [hreset] at hs
          cases hk0 : sem.k0Long <;> cases hk1 : sem.k1Long <;> simp only [hk0, hk1] at hs <;>
            obtain rfl := Option.some.inj hs
          · exact .same rfl
          · unfold keyLong
            split
            · exact .learnStarts (.inl ⟨sem, pins, rfl⟩) rfl
            · split
              · exact .learnEnds (links_stopLearn { s with learnTimer := false })
              · exact .same rfl
          · exact .same rfl
          · exact .same rfl
    · obtain rfl := Option.some.inj hs
      exact .same (links_keyOff pins s)
    all_goals
      obtain rfl := Option.some.inj hs
      exact .same (links_keyOn s)
  case rf433Rx rxMessage rssi buffer len =>
    exact hs ▸ linked_rf433RxCallback rxMessage rssi buffer len
  case waterscanTimer pins => exact hs ▸ .same (links_waterscanTimerCallback pins s)
  case ntcScanTimer cold warm => exact hs ▸ .same (links_ntcScanTimerCallback cold warm s)
  case delayTimer =>
    obtain ⟨-, rfl⟩ := hs
    exact .same ((queueOnly_controlUploadGW ..).links.trans
      (links_motoClose otherOff { s with delayTimer := false }))
  case learnTimer => exact hs.2 ▸ .learnEnds (links_stopLearn { s with learnTimer := false })
  case moto1TimerDetect => exact hs.2 ▸ .same (links_turn1TimerCallback s)
  case moto2TimerDetect => exact hs.2 ▸ .same (links_turn2TimerCallback s)
  case motoDetectTimer pins => exact hs.2 ▸ .same (testOnly_motoDetect pins _).links
  case rtcAlarm pins => exact .same (links_rtcTimerEntry hs)
  case gatewaySyncT => exact hs.2 ▸ .same (syncOnly_gatewaySyncCallback s).links
  case heartTestT => exact hs.2 ▸ .same (links_heartTest s)
  case heartCheckT => exact hs.2 ▸ .same (links_ite (fun _ => rfl) fun _ => rfl)
  case factoryCycle => exact hs.2 ▸ .same (queueOnly_radioEnqueue ..).links
  case reboot pins => exact absurd trivial hrestart
  all_goals exact hs.2 ▸ .same rfl

end WaterValve
