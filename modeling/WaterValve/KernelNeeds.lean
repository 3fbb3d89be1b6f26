import WaterValve.Interlock
import WaterValve.KernelCalls
import WaterValve.OfflineAlarm

/-!
# WaterValve.KernelNeeds

What a handler needs of the kernel objects.  Some it finds whenever it can run,
since `main` creates them before it starts the handler (`startedWith`), and the
queue it finds whenever the unit has a gateway (`Queued`).  The others are those
it needs in some states only: `Needs` lists them with the branch of the source
that uses them, and `within_handlerCalls` says that there are no more.
-/

namespace WaterValve

/-! ## calls within a set of objects -/

/-- Every object of the calls satisfies `P`. -/
def Within (P : KernelObject → Prop) (calls : List KernelObject) : Prop := ∀ o ∈ calls, P o

section

variable {P : KernelObject → Prop} {o : KernelObject} {l l' : List KernelObject}

@[simp] theorem within_nil : Within P [] := nofun

@[simp] theorem within_cons : Within P (o :: l) ↔ P o ∧ Within P l := List.forall_mem_cons

@[simp] theorem within_append : Within P (l ++ l') ↔ Within P l ∧ Within P l' :=
  List.forall_mem_append

theorem within_ite {b : Prop} [Decidable b] :
    Within P (if b then l else l') ↔ (b → Within P l) ∧ (¬b → Within P l') := by
  split <;> simp [*]

end

variable {P : KernelObject → Prop} {s s' t : State} {buf : Message}

/-- The queue is there if the unit has a gateway. -/
def Queued (P : KernelObject → Prop) (s : State) : Prop := s.gatewayID ≠ 0 → P .rfEnMq

/-- The need for the queue depends on the links only. -/
theorem Queued.congr (h : Queued P s) (hlinks : links t = links s) : Queued P t := by
  intro hgateway
  rw [show t.gatewayID = s.gatewayID from congrArg Prod.fst hlinks] at hgateway
  exact h hgateway

/-- A queue that is there meets it. -/
theorem Queued.of_created (h : P .rfEnMq) (s : State) : Queued P s := fun _ => h

/-- The motor timers are there if `Moto_Close` stops them. -/
def CanClose (P : KernelObject → Prop) (s : State) : Prop :=
  s.globalDevice.lastFlag ≠ otherOff → Within P motoTimers

/-- Whether closing needs its timer depends on the last action only. -/
theorem CanClose.congr (hlast : (ctl t).lastFlag = (ctl s).lastFlag) :
    CanClose P t ↔ CanClose P s := by
  have hlast : t.globalDevice.lastFlag = s.globalDevice.lastFlag := hlast
  rw [CanClose, CanClose, hlast]

/-! ## uploads -/

/-- An upload needs the queue. -/
theorem within_gatewayEnqueueCalls (hq : Queued P s) : Within P (gatewayEnqueueCalls s) :=
  within_ite.mpr ⟨fun h => by simpa using hq h, fun _ => within_nil⟩

theorem within_uploadCalls (hq : Queued P s) : Within P (uploadCalls s) :=
  within_ite.mpr ⟨fun _ => within_gatewayEnqueueCalls hq, fun _ => within_nil⟩

/-- The report after power-on needs no more. -/
theorem within_powerOnUploadCalls (hq : Queued P s) : Within P (powerOnUploadCalls s) := by
  have hupload := within_uploadCalls hq
  unfold powerOnUploadCalls
  split
  any_goals exact hupload
  · exact within_append.mpr ⟨within_ite.mpr ⟨fun _ => hupload, fun _ => within_nil⟩,
      within_ite.mpr ⟨fun _ => hupload, fun _ => within_nil⟩⟩
  · exact within_nil

/-- A sync needs its timer as well. -/
theorem within_gatewaySyncCalls (hq : Queued P s) :
    Within P (gatewaySyncCalls s) ↔ P .gatewaySyncT := by
  simp [gatewaySyncCalls, within_uploadCalls hq, within_powerOnUploadCalls hq]

/-- `Stop_Learn` sends the list when a gateway was learned. -/
theorem within_stopLearnCalls (hq : Queued P s) :
    Within P (stopLearnCalls s) ↔ (s.gwFlag ≠ 0 → P .gatewaySyncT) := by
  unfold stopLearnCalls
  dsimp only
  rw [within_ite]
  have hq' : Queued P { warningDisable { s with learnFlag := 0 } with gwFlag := 0 } := hq
  simp only [within_gatewaySyncCalls hq', within_nil, implies_true, and_true]
  exact Iff.rfl

/-! ## the valve and the warnings -/

section

variable {actFlag : UInt8}

/-- Opening needs the delay timer, and by the key the timer of the self-test. -/
theorem within_motoOpenCalls (hq : Queued P s) (hdelay : P .delayTimer)
    (hdetect : actFlag = normalOpen → P .motoDetectTimer) :
    Within P (motoOpenCalls actFlag s) := by
  refine within_ite.mpr ⟨fun _ => within_append.mpr ⟨within_ite.mpr ⟨fun h => ?_, fun _ =>
    within_nil⟩, by simpa using hdelay⟩, fun _ => within_nil⟩
  exact within_append.mpr ⟨within_uploadCalls hq, by simpa using hdetect h⟩

/-- Closing needs the timers of the motors unless the valve was closed remotely. -/
theorem within_motoCloseCalls (hq : Queued P s) (hdelay : P .delayTimer) :
    Within P (motoCloseCalls actFlag s) ↔ CanClose P s := by
  have hupload : Within P (if actFlag = normalOff then uploadCalls s else []) :=
    within_ite.mpr ⟨fun _ => within_uploadCalls hq, fun _ => within_nil⟩
  unfold motoCloseCalls CanClose
  split
  · rename_i hlast
    simp [hlast, hupload, hdelay]
  · rename_i hlast
    simp [hlast, within_ite, hdelay]

end

/-- The warnings that close the valve. -/
def WarningCallback.Closes (s : State) : WarningCallback → Prop
  | .slaverUltraLowBatteryWarning | .slaverWaterAlarmWarning | .masterWaterAlarmWarning
  | .ntcWarningEventCallback => True
  | .offlineWarning => s.nowStatus ≠ .offline
  | .slaverLowBatteryWarning | .masterLostPeakWarning | .moto1FailCallback
  | .moto2FailCallback => False

/-- A warning needs what its closing needs. -/
theorem within_callbackCalls (hq : Queued P s) (hdelay : P .delayTimer)
    (callback : WarningCallback) :
    Within P (callback.calls s) ↔ (callback.Closes s → CanClose P s) := by
  have hclosed : Within P (uploadCalls (motoClose normalOff s)) :=
    within_uploadCalls (hq.congr (links_motoClose normalOff s))
  cases callback with
  | slaverLowBatteryWarning => simp [WarningCallback.calls, WarningCallback.Closes]
  | slaverUltraLowBatteryWarning | slaverWaterAlarmWarning =>
      simp [WarningCallback.calls, WarningCallback.Closes, within_motoCloseCalls hq hdelay]
  | masterLostPeakWarning | moto1FailCallback | moto2FailCallback =>
      simp [WarningCallback.calls, WarningCallback.Closes, within_uploadCalls hq]
  | masterWaterAlarmWarning | ntcWarningEventCallback =>
      simp [WarningCallback.calls, WarningCallback.Closes, within_motoCloseCalls hq hdelay, hclosed]
  | offlineWarning =>
      simp [WarningCallback.calls, WarningCallback.Closes, within_ite,
        within_motoCloseCalls hq hdelay]

/-- The same of a warning by its number. -/
theorem within_warningEnableNumCalls (hq : Queued P s) (hdelay : P .delayTimer) {id : UInt8}
    {event : WariningEvent} {callback : WarningCallback} (hevent : warningEvent id = some event)
    (hcallback : event.callback = some callback) :
    Within P (warningEnableNumCalls id s) ↔
      (s.nowStatusEvent.priority ≤ event.priority → callback.Closes s → CanClose P s) := by
  simp only [warningEnableNumCalls, hevent, warningEnableCalls, hcallback, within_ite,
    within_callbackCalls hq hdelay, within_nil, implies_true, and_true]

/-! ## after `Moto_Init`

The sensors and the keys come to life when the motor timers exist. -/

/-- The objects of `Moto_Init` and those before. -/
def coreObjects : List KernelObject :=
  [.learnTimer, .delayTimer, .rfEnMq, .motoDetectTimer] ++ motoTimers

/-- What the objects of `Moto_Init` are good for. -/
structure Core (P : KernelObject → Prop) : Prop where
  queued : ∀ s, Queued P s
  delay : P .delayTimer
  learn : P .learnTimer
  detect : P .motoDetectTimer
  motors : Within P motoTimers

/-- The core objects are enough for the core handlers. -/
theorem core_of_within (h : Within P coreObjects) : Core P := by
  simp only [coreObjects, within_append, within_cons, within_nil, and_true] at h
  obtain ⟨⟨hlearn, hdelay, hqueue, hdetect⟩, hmotors⟩ := h
  exact ⟨.of_created hqueue, hdelay, hlearn, hdetect, hmotors⟩

namespace Core

variable (s : State)

theorem motoOpenCalls (h : Core P) (actFlag : UInt8) : Within P (motoOpenCalls actFlag s) :=
  within_motoOpenCalls (h.queued s) h.delay fun _ => h.detect

theorem motoCloseCalls (h : Core P) (actFlag : UInt8) : Within P (motoCloseCalls actFlag s) :=
  (within_motoCloseCalls (h.queued s) h.delay).mpr fun _ => h.motors

/-- With the core objects every warning finds what it calls. -/
theorem warningEnableNumCalls (h : Core P) (id : UInt8) :
    Within P (warningEnableNumCalls id s) := by
  unfold WaterValve.warningEnableNumCalls warningEnableCalls
  split
  · refine within_ite.mpr ⟨fun _ => ?_, fun _ => within_nil⟩
    split
    · exact (within_callbackCalls (h.queued s) h.delay _).mpr fun _ _ => h.motors
    · exact within_nil
  · exact within_nil

/-- So does a self-test. -/
theorem motoDetectCalls (h : Core P) (pins : Pins) : Within P (motoDetectCalls pins s) := by
  have hmotors := h.motors
  simp only [motoTimers, within_cons] at hmotors
  simp [WaterValve.motoDetectCalls, within_ite, hmotors.1, hmotors.2.1]

/-- So does a probe reading. -/
theorem warningWithPeakCalls (h : Core P) (status : Nat) :
    Within P (warningWithPeakCalls status s) := by
  refine within_ite.mpr ⟨fun _ => ?_, fun _ => within_nil⟩
  split
  · exact within_uploadCalls (h.queued s)
  any_goals exact h.warningEnableNumCalls s _
  exact within_nil

/-- So does a scan of the probes. -/
theorem waterscanTimerCalls (h : Core P) (pins : Pins) :
    Within P (waterscanTimerCalls pins s) := by
  unfold WaterValve.waterscanTimerCalls
  dsimp only
  repeat' split
  all_goals first
    | exact within_nil
    | exact h.warningWithPeakCalls _ _

theorem ntcReleaseCalls (h : Core P) (warm : Bool) : Within P (ntcReleaseCalls warm s) := by
  refine within_ite.mpr ⟨fun _ => within_append.mpr ⟨within_uploadCalls (h.queued s), ?_⟩,
    fun _ => within_nil⟩
  exact within_ite.mpr ⟨fun _ => h.motoOpenCalls _ _, fun _ => h.motoCloseCalls _ _⟩

/-- So does a scan of the temperature. -/
theorem ntcScanTimerCalls (h : Core P) (cold warm : Bool) :
    Within P (ntcScanTimerCalls cold warm s) :=
  within_ite.mpr ⟨fun _ => within_append.mpr ⟨h.warningEnableNumCalls _ 8,
    h.ntcReleaseCalls _ warm⟩, fun _ => h.ntcReleaseCalls s warm⟩

/-- So does the open key. -/
theorem keyOnCalls (h : Core P) : Within P (keyOnCalls s) := by
  unfold WaterValve.keyOnCalls
  split
  · exact within_ite.mpr ⟨fun _ => h.motoOpenCalls s _, fun _ => within_nil⟩
  · exact h.motoOpenCalls _ _
  · exact within_nil

/-- So does the close key, in the factory with the cycle timer. -/
theorem keyOffCalls (h : Core P) {hasFactoryCycle : Bool}
    (hcycle : hasFactoryCycle → P .factoryCycle) (pins : Pins) :
    Within P (keyOffCalls hasFactoryCycle pins s) := by
  refine within_ite.mpr ⟨fun _ => within_append.mpr ⟨within_ite.mpr ⟨fun hhas => ?_,
    fun _ => within_nil⟩, h.motoDetectCalls _ pins⟩, fun _ => ?_⟩
  · simpa using hcycle hhas
  · split
    · exact h.motoCloseCalls _ _
    · exact h.motoCloseCalls s _
    · exact within_uploadCalls (h.queued _)
    · exact within_nil

/-- The end of learn mode is all that a key can need. -/
theorem keyLongCalls (h : Core P) : Within P (keyLongCalls s) ↔
    (s.nowStatus = .learn → s.gwFlag ≠ 0 → P .gatewaySyncT) := by
  unfold WaterValve.keyLongCalls
  split
  · rename_i hnormal
    obtain hclose | hopened := hnormal
    · simp [hclose, h.learn]
    · simp [hopened, h.learn]
  · split
    · rename_i hlearn
      have hstop := within_stopLearnCalls (h.queued { s with learnTimer := false })
      simpa [hlearn, h.learn] using hstop
    · rename_i hlearn
      simp [hlearn]

end Core

/-! ## frames of a node -/

/-- A node command that is answered. -/
def NodeAnswers (buf : Message) (s : State) : Prop :=
  buf.command = 1 ∨ (buf.command = 2 ∧ buf.data ∈ [0, 1, 2, 3, 4]) ∨ NodeStartsLearn buf ∨
    (buf.command = 4 ∧ (buf.data = 0 ∨ buf.data = 1) ∧ s.getDoorID ≠ buf.fromID.toUInt32) ∨
    buf.command = 5 ∨ buf.command = 6 ∨ buf.command = 8 ∨ buf.command = 9

/-- A command that closes the valve is answered. -/
theorem NodeCloses.answers (h : NodeCloses buf s) : NodeAnswers buf s := by
  obtain ⟨h2, hdata, -⟩ | ⟨h4, hdata, hdoor, -⟩ | ⟨h6, -⟩ := h
  · exact .inr (.inl ⟨h2, by simp [hdata]⟩)
  · exact .inr (.inr (.inr (.inl ⟨h4, .inr hdata, hdoor⟩)))
  · exact .inr (.inr (.inr (.inr (.inr (.inl h6)))))

/-- A frame that is not answered calls nothing. -/
theorem dataSolveCalls_of_not_answers (h : ¬NodeAnswers buf s) : dataSolveCalls buf s = [] := by
  simp only [NodeAnswers, NodeStartsLearn, not_or, List.mem_cons, List.not_mem_nil, or_false] at h
  obtain ⟨h1, h2, h3, h4, h5, h6, h8, h9⟩ := h
  simp only [dataSolveCalls, h1, h5, h6, h8, h9, if_false]
  split
  · rename_i hcommand
    simp only [hcommand, true_and, not_or] at h2
    simp [handshakeCalls, h2]
  · split
    · rename_i hcommand
      simp only [hcommand, true_and] at h3
      simp [learnStartCalls, h3]
    · split
      · rename_i hcommand
        simp only [hcommand, true_and] at h4
        unfold slaveWaterCalls
        grind
      · rfl

/-- A frame that is answered calls the queue. -/
theorem rfEnMq_mem_dataSolveCalls (h : NodeAnswers buf s)
    (hvalid : checkValid buf.fromID.toUInt32 s = RT_EOK) : .rfEnMq ∈ dataSolveCalls buf s := by
  obtain h1 | ⟨h2, hdata⟩ | ⟨h3, hdata⟩ | ⟨h4, hdata, hdoor⟩ | h5 | h6 | h8 | h9 := h
  · simp [dataSolveCalls, h1]
  · simp only [List.mem_cons, List.not_mem_nil, or_false] at hdata
    simp only [dataSolveCalls, h2]
    unfold handshakeCalls handshakeReplyCalls
    grind
  · simp [dataSolveCalls, h3, learnStartCalls, hdata, hvalid]
  · obtain hdata | hdata := hdata <;> simp [dataSolveCalls, h4, slaveWaterCalls, hdata, hdoor]
  · have hopen : dataSolveCalls buf s = nodeOpenCalls buf s := by simp [dataSolveCalls, h5]
    rw [hopen, nodeOpenCalls]
    split <;> exact List.mem_cons_self
  · have hclose : dataSolveCalls buf s = nodeCloseCalls buf s := by simp [dataSolveCalls, h6]
    rw [hclose, nodeCloseCalls]
    dsimp only
    split <;> exact List.mem_cons_self
  · simp [dataSolveCalls, h8, nodeDelayCalls]
  · simp [dataSolveCalls, h9]

section

variable (hqueue : P .rfEnMq) (hdelay : P .delayTimer)

include hqueue hdelay

/-- An ultra-low battery is accepted as a warning. -/
theorem within_handshakeCalls : Within P (handshakeCalls buf s) ↔
    (buf.data = 2 → buf.fromID.toUInt32 ≠ s.getDoorID → s.nowStatusEvent.priority ≤ 6 →
      CanClose P s) := by
  have hreply : ∀ t, Within P (handshakeReplyCalls t) := fun t =>
    within_cons.mpr ⟨hqueue, within_uploadCalls (.of_created hqueue t)⟩
  have hlow : ∀ t, Within P (warningEnableNumCalls 7 t) := by
    intro t
    rw [within_warningEnableNumCalls (.of_created hqueue t) hdelay
      (show warningEvent 7 = some slaverLowPowerEvent from rfl) rfl]
    exact fun _ hcloses => absurd hcloses id
  unfold handshakeCalls
  extract_lets t t₁ t₂
  by_cases h2 : buf.data = 2
  · have hctl : ctl t₂ = ctl s := by simp [t₂, t, handshakeReply]
    have hpriority : t₂.nowStatusEvent.priority = s.nowStatusEvent.priority :=
      congrArg Ctl.priority hctl
    have hdoor : t₂.getDoorID = s.getDoorID := by
      have honly : OnlyDevice buf.fromID.toUInt32 _ s.toStorage t.toStorage :=
        onlyDevice_updateDeviceBat _
      have hst : t₂.toStorage = t.toStorage := by simp [t₂, handshakeReply]
      rw [hst]
      exact honly.getDoorID
    have hultra := within_warningEnableNumCalls (.of_created hqueue t₂) hdelay
      (show warningEvent 1 = some slaverUltraLowPowerEvent from rfl) rfl
    have hcloses : WarningCallback.Closes t₂ .slaverUltraLowBatteryWarning := trivial
    rw [hpriority, CanClose.congr (congrArg Ctl.lastFlag hctl)] at hultra
    simp only [h2, within_append, hreply, within_ite, hdoor, hultra, hcloses]
    simp [slaverUltraLowPowerEvent]
  · simp [h2, within_ite, hreply, hlow]

/-- Water at a slave is accepted as a warning. -/
theorem within_slaveWaterCalls : Within P (slaveWaterCalls buf s) ↔
    (buf.data = 1 → s.getDoorID ≠ buf.fromID.toUInt32 → s.nowStatus ≠ .slaverWaterAlarmActive →
      s.nowStatusEvent.priority ≤ 8 → CanClose P s) := by
  have hreport : ∀ t, Within P (.rfEnMq :: uploadCalls t) := fun t =>
    within_cons.mpr ⟨hqueue, within_uploadCalls (.of_created hqueue t)⟩
  unfold slaveWaterCalls
  extract_lets t u
  by_cases h1 : buf.data = 1
  · have hctl : ctl u = { ctl s with alarm := u.flashGetSlaveAlarmFlag ≠ 0 } := by
      rw [ctl_flashSetSlaveAlarmFlag buf.fromID.toUInt32 1 t]
      simp [t, u]
    clear_value u
    have hstatus : u.nowStatus = s.nowStatus := congrArg Ctl.status hctl
    have hpriority : u.nowStatusEvent.priority = s.nowStatusEvent.priority :=
      congrArg Ctl.priority hctl
    have hwater := within_warningEnableNumCalls (.of_created hqueue u) hdelay
      (show warningEvent 2 = some slaverWaterAlarmActiveEvent from rfl) rfl
    have hcloses : WarningCallback.Closes u .slaverWaterAlarmWarning := trivial
    have hlast : (ctl u).lastFlag = (ctl s).lastFlag := by rw [hctl]
    rw [hpriority, CanClose.congr hlast] at hwater
    simp only [h1, within_append, within_ite, hstatus, hwater, hcloses]
    simp [slaverWaterAlarmActiveEvent, hqueue, within_uploadCalls (.of_created hqueue s)]
  · simp [h1, within_ite, hreport]

/-- A close, in the normal status. -/
theorem within_nodeCloseCalls : Within P (nodeCloseCalls buf s) ↔
    ((clearSlaveAlarm buf s).nowStatus = .opened ∨ (clearSlaveAlarm buf s).nowStatus = .close →
      CanClose P s) := by
  have hupload : ∀ t, Within P (uploadCalls t) := fun t =>
    within_uploadCalls (.of_created hqueue t)
  have hreply := queueOnly_radioEnqueue buf.fromID.toUInt32 (toU8 buf.counter) 6 0 s
  have hlast : (ctl (clearSlaveAlarm buf (radioEnqueue buf.fromID.toUInt32 (toU8 buf.counter) 6 0
      s))).lastFlag = (ctl s).lastFlag := by
    rw [← hreply.ctl]
    obtain h | ⟨-, h⟩ := ctl_clearSlaveAlarm buf
      (radioEnqueue buf.fromID.toUInt32 (toU8 buf.counter) 6 0 s) <;> rw [h]
    rfl
  unfold nodeCloseCalls
  rw [← nowStatus_clearSlaveAlarm hreply, ← CanClose.congr hlast]
  generalize clearSlaveAlarm buf (radioEnqueue buf.fromID.toUInt32 (toU8 buf.counter) 6 0 s) = t
  have hclose : Within P (motoCloseCalls otherOff { warningDisable t with lastCloseFlag := 1 }) ↔
      CanClose P t := within_motoCloseCalls (.of_created hqueue _) hdelay
  simp only [within_ite, within_cons, within_append, hqueue, hupload, hclose, and_true, true_and,
    implies_true]

theorem within_nodeOpenCalls : Within P (nodeOpenCalls buf s) := by
  have hupload : ∀ t, Within P (uploadCalls t) := fun t =>
    within_uploadCalls (.of_created hqueue t)
  refine within_ite.mpr ⟨fun _ => ?_, fun _ => within_cons.mpr ⟨hqueue, hupload s⟩⟩
  refine within_cons.mpr ⟨hqueue, within_append.mpr ⟨?_, hupload _⟩⟩
  exact within_motoOpenCalls (.of_created hqueue _) hdelay fun h => absurd h (by decide)

theorem within_nodeDelayCalls : Within P (nodeDelayCalls buf s) := by
  have hupload := within_uploadCalls (.of_created hqueue s)
  simp [nodeDelayCalls, within_ite, hqueue, hdelay, hupload]

end

/-- **A node command** needs the queue to answer, and the motor timers to
close. -/
theorem within_dataSolveCalls (hdelay : P .delayTimer) (hlearn : P .learnTimer)
    (hvalid : checkValid buf.fromID.toUInt32 s = RT_EOK) :
    Within P (dataSolveCalls buf s) ↔
      (NodeAnswers buf s → P .rfEnMq) ∧ (NodeCloses buf s → CanClose P s) := by
  by_cases hqueue : P .rfEnMq
  · have hupload := within_uploadCalls (.of_created hqueue s)
    simp only [hqueue, implies_true, true_and, dataSolveCalls, NodeCloses]
    by_cases h2 : buf.command = 2
    · simp [h2, within_handshakeCalls hqueue hdelay]
    by_cases h3 : buf.command = 3
    · simp [h3, learnStartCalls, within_ite, hqueue, hlearn]
    by_cases h4 : buf.command = 4
    · simp [h4, within_slaveWaterCalls hqueue hdelay]
    by_cases h5 : buf.command = 5
    · simp [h5, within_nodeOpenCalls hqueue hdelay]
    by_cases h6 : buf.command = 6
    · simp [h6, within_nodeCloseCalls hqueue hdelay]
    by_cases h8 : buf.command = 8
    · simp [h8, within_nodeDelayCalls hqueue hdelay]
    · simp [h2, h3, h4, h5, h6, h8, within_ite, hqueue, hupload]
  · by_cases hanswers : NodeAnswers buf s
    · refine iff_of_false (fun h => hqueue ?_) fun h => hqueue (h.1 hanswers)
      exact h _ (rfEnMq_mem_dataSolveCalls hanswers hvalid)
    · rw [dataSolveCalls_of_not_answers hanswers]
      exact iff_of_true within_nil
        ⟨fun h => absurd h hanswers, fun h => absurd h.answers hanswers⟩

/-- **In learn mode** a gateway that confirms needs its timer. -/
theorem within_deviceLearnCalls (hqueue : P .rfEnMq) (hlearn : P .learnTimer) :
    Within P (deviceLearnCalls buf s) ↔ (GatewayConfirms buf s → P .heartCheckT) := by
  have henqueue : ∀ t, Within P (gatewayEnqueueCalls t) := fun t =>
    within_gatewayEnqueueCalls (.of_created hqueue t)
  have hnew : ∀ add, Within P (learnNewCalls add buf s) := by
    intro add
    simp [learnNewCalls, within_ite, hqueue]
  unfold deviceLearnCalls GatewayConfirms
  by_cases h3 : buf.command = 3
  · by_cases h1 : buf.data = 1
    · simp [h3, h1, learnRequestCalls, within_ite, hqueue, hlearn, henqueue, hnew]
    · by_cases h2 : buf.data = 2
      · have hcheck : checkValid buf.fromID.toUInt32 s =
            s.flashGetKeyValid buf.fromID.toUInt32 := rfl
        simp [h3, h2, learnConfirmCalls, within_ite, hqueue, hlearn, henqueue, hcheck]
      · simp [h3, h1, h2, hlearn]
  · simp [h3]

/-! ## frames of the gateway -/

/-- What a gateway command needs. -/
theorem within_gatewayCommandCalls (hq : Queued P s) (hdelay : P .delayTimer) :
    Within P (gatewayCommandCalls buf s) ↔
      (GatewayCloses buf s → CanClose P s) ∧ (buf.command = 4 → P .gatewaySyncT) := by
  have hupload := within_uploadCalls hq
  have hopened := within_uploadCalls (hq.congr (links_motoOpen otherOpen s))
  have hclosed := within_uploadCalls (hq.congr (links_motoClose otherOff s))
  have hopen : Within P (motoOpenCalls otherOpen s) :=
    within_motoOpenCalls hq hdelay fun h => absurd h (by decide)
  unfold gatewayCommandCalls GatewayCloses
  by_cases h2 : buf.command = 2
  · by_cases hdata : buf.data = 0
    · simp [h2, hdata, gatewayValveCalls, within_ite, within_motoCloseCalls hq hdelay, hupload,
        hclosed]
    · simp [h2, hdata, gatewayValveCalls, within_ite, hupload, hopened, hopen]
  · by_cases h4 : buf.command = 4
    · simp [h4, within_gatewaySyncCalls hq]
    · simp [h2, h4, within_ite, hupload]

/-! ## the clock -/

/-- A device other than the door and the gateway has not been heard for a day,
the hour that begins included. -/
def Overdue (s : State) (i : Nat) : Prop :=
  Watched s i ∧ s.globalDevice.id i ≠ 0 ∧ s.globalDevice.getMesssage i = 0 ∧
    (s.globalDevice.idTime i = 24 ∨ s.globalDevice.idTime i = 25)

/-- The hour in which the offline warning closes the valve. -/
def HourCloses (s : State) : Prop :=
  ¬s.rtcCounter < 24 ∧ (∃ i, Overdue s i) ∧ s.nowStatusEvent.priority ≤ 5 ∧ s.nowStatus ≠ .offline

/-- The hour in which the valve is exercised. -/
def HourTests (s : State) : Prop := (s.rtcHours + 1) % 120 = 0 ∧ s.valveStatus = 1

/-- Reporting silent devices needs the queue. -/
theorem within_detectLoopCalls (n : Nat) (p : Bool × State) (hq : Queued P p.2) :
    Within P (detectLoopCalls n p) := by
  induction n generalizing p with
  | zero => exact within_nil
  | succ n ih =>
      refine within_append.mpr ⟨within_ite.mpr ⟨fun _ => within_uploadCalls hq, fun _ =>
        within_nil⟩, ih _ (hq.congr (links_detectSlot (n + 1) p))⟩

/-- After the hour has been counted a device is silent if it was overdue. -/
theorem treatsOffline_aged {pins : Pins} (hwf : s.Wf) (h : aged pins s = some t) (i : Nat) :
    (0 < i ∧ i ≤ t.searchStart ∧ TreatsOffline i t ∧ i ≠ t.globalDevice.doorNum) ↔
      Overdue s i := by
  have htimes := onlyTimes_updateAllTime hwf (updateAllTime_of_aged h)
  have hsame := htimes.same
  have hslot := slot_aged hwf h i
  have hnum : t.searchStart = s.globalDevice.num := by
    rw [← hwf.searchStart_eq, Storage.searchStart, Storage.searchStart, hsame.num]
  have htime : (t.globalDevice.idTime i = 25) = ((t.slot i).idTime = 25) := rfl
  have hmessage : t.globalDevice.getMesssage i = s.globalDevice.getMesssage i := by
    have hkeep : (s.slot i).age.getMesssage = (s.slot i).getMesssage := by
      unfold Slot.age
      split <;> rfl
    show (t.slot i).getMesssage = (s.slot i).getMesssage
    rw [hslot]
    split
    · exact hkeep
    · rfl
  have hold : (s.slot i).idTime = s.globalDevice.idTime i := rfl
  rw [TreatsOffline, Overdue, Watched, hnum, hsame.id, hsame.doorNum, hsame.gatewayNum, hmessage,
    htime, hslot]
  by_cases hin : 0 < i ∧ i ≤ s.globalDevice.num
  · rw [if_pos hin, Slot.age_idTime_eq, hold]
    tauto
  · tauto

/-- Ageing does not touch the valve. -/
theorem ctl_aged {pins : Pins} (hwf : s.Wf) (h : aged pins s = some t) : ctl t = ctl s := by
  have htimes := onlyTimes_updateAllTime hwf (updateAllTime_of_aged h)
  obtain ⟨st, -, rfl⟩ := Option.map_eq_some_iff.mp h
  have hbegins : ctl (hourBegins pins s) = ctl s := by
    unfold hourBegins
    dsimp only
    split
    · exact ctl_motoDetect _ _
    · rfl
  rw [← hourBegins_toStorage pins s] at htimes
  exact (ctl_onlyTimes htimes).trans hbegins

/-- `Detect_All_Time` needs the motor timers when the offline warning closes. -/
theorem within_detectAllTimeCalls {pins : Pins} (hr : registryMachine.Reachable s)
    (h : aged pins s = some t) (hq : Queued P s) (hdelay : P .delayTimer)
    (hcounter : ¬s.rtcCounter < 24) :
    Within P (detectAllTimeCalls t) ↔ (HourCloses s → CanClose P s) := by
  have hwf := registryMachine_wf hr
  have hqt : Queued P t := hq.congr (links_aged h)
  have hsilent := detectLoop_fst t.searchStart (false, t) (registryMachine_wf (reach_aged hr h))
  simp only [Bool.false_eq_true, false_or, treatsOffline_aged hwf h] at hsilent
  have hcalls := within_detectLoopCalls t.searchStart (false, t) hqt
  have hctl := (ctl_detectLoop t.searchStart (false, t)).trans (ctl_aged hwf h)
  have hqueued := hqt.congr (links_detectLoop t.searchStart (false, t))
  unfold detectAllTimeCalls
  split
  · rename_i hnone
    have hfew : ¬∃ i, Overdue s i := by
      rintro ⟨i, hi⟩
      obtain ⟨h0, hle, -⟩ := (treatsOffline_aged hwf h i).mpr hi
      omega
    exact iff_of_true within_nil fun hclose => absurd hclose.2.1 hfew
  · dsimp only
    generalize detectLoop t.searchStart (false, t) = p at hsilent hctl hqueued
    have hstatus : p.2.nowStatus = s.nowStatus := congrArg Ctl.status hctl
    have hpriority : p.2.nowStatusEvent.priority = s.nowStatusEvent.priority :=
      congrArg Ctl.priority hctl
    have hoffline := within_warningEnableNumCalls hqueued hdelay
      (show warningEvent 5 = some offlineEvent from rfl) rfl
    rw [hpriority, CanClose.congr (congrArg Ctl.lastFlag hctl)] at hoffline
    simp only [within_append, hcalls, true_and, within_ite, hsilent, hoffline, within_nil,
      implies_true, and_true, WarningCallback.Closes, hstatus]
    exact ⟨fun hwarn hclose => hwarn hclose.2.1 hclose.2.2.1 hclose.2.2.2,
      fun hwarn hover hle hshown => hwarn ⟨hcounter, hover, hle, hshown⟩⟩

/-- **An hour** needs the Act timers to exercise the valve, and the motor timers
when the offline warning closes it. -/
theorem within_rtcTimerEntryCalls {pins : Pins} (hr : registryMachine.Reachable s)
    (hs : rtcTimerEntry pins s = some s') (hq : Queued P s) (hdelay : P .delayTimer) :
    Within P (rtcTimerEntryCalls pins s) ↔
      (HourTests s → (pins.senor1 → P .moto1TimerAct) ∧ (pins.senor2 → P .moto2TimerAct)) ∧
        (HourCloses s → CanClose P s) := by
  rw [rtcTimerEntry_eq] at hs
  obtain ⟨t, ht, -⟩ := Option.bind_eq_some_iff.mp hs
  have hcounter : t.rtcCounter = s.rtcCounter :=
    (registryOnly_aged (registryMachine_wf hr) ht).rtcCounter
  have htest : Within P (if (s.rtcHours + 1) % 120 = 0 then motoDetectCalls pins s else []) ↔
      (HourTests s → (pins.senor1 → P .moto1TimerAct) ∧ (pins.senor2 → P .moto2TimerAct)) := by
    simp [HourTests, motoDetectCalls, within_ite]
  unfold rtcTimerEntryCalls
  rw [within_append, htest, ht]
  refine and_congr_right fun _ => ?_
  dsimp only
  rw [hcounter]
  split
  · rename_i hlt
    exact iff_of_true within_nil fun hclose => absurd hlt hclose.1
  · rename_i hlt
    exact within_detectAllTimeCalls hr ht hq hdelay hlt

/-! ## what the handlers need -/

/-- The objects `main` has created before a handler can run. -/
def startedWith : Action → List KernelObject
  | .keyReponse .. | .waterscanTimer _ | .ntcScanTimer .. => coreObjects
  | .rf433Rx .. | .rtcAlarm _ => [.learnTimer, .delayTimer]
  | .rfEncode => [.rf433SendTimer]
  | .delayTimer | .moto1TimerDetect | .moto2TimerDetect => [.delayTimer]
  | .motoDetectTimer _ => [.moto1TimerAct, .moto2TimerAct]
  | .gatewaySyncT => [.gatewaySyncT]
  | .heartTestT => [.heartTestT]
  | .factoryCycle => [.rfEnMq]
  | .learnTimer | .turn1Edge | .turn2Edge | .moto1TimerAct | .moto2TimerAct | .heartCheckT
  | .reboot _ => []

/-- A handler that can run before `Moto_Init` closes the valve. -/
def ClosesEarly (s : State) (a : Action) : Prop :=
  ¬Restarts a ∧ ClosesRemotely s a ∨ (∃ pins, a = .rtcAlarm pins) ∧ HourCloses s

/-- What else a handler needs: the queue to answer a node, the timers `Moto_Close`
stops if it carries out, the timers of a self-test, and those of the gateway. -/
inductive Needs (s : State) (a : Action) : KernelObject → Prop
  | queue {rssi : Int} {buf : Message} (hevent : event s a = .node rssi buf)
      (hlearn : s.learnFlag = 0) (h : NodeAnswers buf s) : Needs s a .rfEnMq
  | motors {o : KernelObject} (h : ClosesEarly s a) (hlast : s.globalDevice.lastFlag ≠ otherOff)
      (ho : o ∈ motoTimers) : Needs s a o
  | act1 {pins : Pins} (ha : a = .rtcAlarm pins) (h : HourTests s) (hsenor : pins.senor1) :
      Needs s a .moto1TimerAct
  | act2 {pins : Pins} (ha : a = .rtcAlarm pins) (h : HourTests s) (hsenor : pins.senor2) :
      Needs s a .moto2TimerAct
  | detect1 (ha : a = .moto1TimerAct) : Needs s a .moto1TimerDetect
  | detect2 (ha : a = .moto2TimerAct) : Needs s a .moto2TimerDetect
  | reload (h : CallsGatewayReload s a) : Needs s a .heartCheckT
  | sync (h : CallsGatewaySync s a) : Needs s a .gatewaySyncT

/-- The needs of an action, case by case. -/
theorem forall_needs_iff {a : Action} : (∀ o, Needs s a o → P o) ↔
    (∀ rssi buf, event s a = .node rssi buf → s.learnFlag = 0 → NodeAnswers buf s → P .rfEnMq) ∧
      (ClosesEarly s a → CanClose P s) ∧
      (∀ pins, a = .rtcAlarm pins → HourTests s →
        (pins.senor1 → P .moto1TimerAct) ∧ (pins.senor2 → P .moto2TimerAct)) ∧
      (a = .moto1TimerAct → P .moto1TimerDetect) ∧ (a = .moto2TimerAct → P .moto2TimerDetect) ∧
      (CallsGatewayReload s a → P .heartCheckT) ∧ (CallsGatewaySync s a → P .gatewaySyncT) := by
  constructor
  · intro h
    exact ⟨fun _ _ hevent hlearn hanswers => h _ (.queue hevent hlearn hanswers),
      fun hclose hlast o ho => h _ (.motors hclose hlast ho),
      fun _ ha htests => ⟨fun h1 => h _ (.act1 ha htests h1), fun h2 => h _ (.act2 ha htests h2)⟩,
      fun ha => h _ (.detect1 ha), fun ha => h _ (.detect2 ha),
      fun hreload => h _ (.reload hreload), fun hsync => h _ (.sync hsync)⟩
  · rintro ⟨hqueue, hmotors, hact, hdetect1, hdetect2, hreload, hsync⟩ o hneeds
    cases hneeds with
    | queue hevent hlearn h => exact hqueue _ _ hevent hlearn h
    | motors h hlast ho => exact hmotors h hlast o ho
    | act1 ha h hsenor => exact (hact _ ha h).1 hsenor
    | act2 ha h hsenor => exact (hact _ ha h).2 hsenor
    | detect1 ha => exact hdetect1 ha
    | detect2 ha => exact hdetect2 ha
    | reload h => exact hreload h
    | sync h => exact hsync h

/-! ## received frames -/

/-- An accepted node frame is learned in learn mode and answered outside it. -/
theorem normalActCalls_of_accepts (h : Accepts buf s) (rssi : Int) : normalActCalls rssi buf s =
    if s.learnFlag ≠ 0 then deviceLearnCalls buf (heardFrom rssi buf.fromID.toUInt32 s)
    else dataSolveCalls buf (heardFrom rssi buf.fromID.toUInt32 s) := by
  unfold normalActCalls
  rw [if_pos h.1]
  split
  · rfl
  · rename_i hlearn
    rw [if_pos (h.2.resolve_left hlearn)]

/-- A node frame that is not accepted calls nothing. -/
theorem normalActCalls_of_not_accepts (h : ¬Accepts buf s) (rssi : Int) :
    normalActCalls rssi buf s = [] := by
  unfold Accepts at h
  unfold normalActCalls
  split
  · split
    · tauto
    · split
      · tauto
      · rfl
  · rfl

/-- The same of a gateway frame. -/
theorem gatewayActCalls_eq (buf : Message) (s : State) : gatewayActCalls buf s =
    if GatewayAccepts buf s then gatewayCommandCalls buf (heartRefresh buf.fromID.toUInt32 s)
    else [] := rfl

/-- The calls of a handler of frames. -/
def frameCalls (s : State) : Event → List KernelObject
  | .node rssi buf =>
    if s.learnFlag ≠ 0 then deviceLearnCalls buf (heardFrom rssi buf.fromID.toUInt32 s)
    else dataSolveCalls buf (heardFrom rssi buf.fromID.toUInt32 s)
  | .gateway buf => gatewayCommandCalls buf (heartRefresh buf.fromID.toUInt32 s)
  | _ => []

/-- What a received buffer calls depends on the frame found in it. -/
theorem rf433RxCalls_eq (rxMessage : Message) (rssi : Int) (buffer : List UInt8) (len : UInt8)
    (s : State) : rf433RxCalls rxMessage rssi buffer len s =
      frameCalls s (frameEvent rxMessage rssi buffer len s) := by
  unfold rf433RxCalls frameEvent
  split
  · by_cases hend : nodeFrameEnd buffer len
    · by_cases haccept : Accepts (scanNode rxMessage buffer).2 s
      · rw [if_pos hend, if_pos ⟨hend, haccept⟩, normalActCalls_of_accepts haccept]
        rfl
      · rw [if_pos hend, if_neg (fun h => haccept h.2), normalActCalls_of_not_accepts haccept]
        rfl
    · rw [if_neg hend, if_neg (fun h => hend h.1)]
      rfl
  · split
    · by_cases hend : gatewayFrameEnd buffer len
      · by_cases haccept : GatewayAccepts (scanGateway rxMessage buffer).2 s
        · rw [if_pos hend, if_pos ⟨hend, haccept⟩, gatewayActCalls_eq, if_pos haccept]
          rfl
        · rw [if_pos hend, if_neg (fun h => haccept h.2), gatewayActCalls_eq, if_neg haccept]
          rfl
      · rw [if_neg hend, if_neg (fun h => hend h.1)]
        rfl
    · rfl

/-- A sync is asked for by a gateway frame with command 4. -/
theorem asksForSync_iff (rxMessage : Message) (rssi : Int) (buffer : List UInt8) (len : UInt8) :
    AsksForSync s (.rf433Rx rxMessage rssi buffer len) ↔
      ∃ buf, frameEvent rxMessage rssi buffer len s = .gateway buf ∧ buf.command = 4 := by
  unfold AsksForSync frameEvent
  constructor
  · rintro ⟨hbyte, hend, haccepts, h4⟩
    have hnode : ¬byteAt buffer 1 = 123 := by
      rw [hbyte]
      decide
    exact ⟨_, by rw [if_neg hnode, if_pos hbyte, if_pos ⟨hend, haccepts⟩], h4⟩
  · rintro ⟨buf, hevent, h4⟩
    split at hevent
    · split at hevent <;> cases hevent
    · split at hevent
      · rename_i hbyte
        split at hevent
        · rename_i hgateway
          exact ⟨hbyte, hgateway.1, hgateway.2, Event.gateway.inj hevent ▸ h4⟩
        · cases hevent
      · cases hevent

/-- A buffer is an accepted node frame, a gateway frame or neither. -/
theorem frameEvent_cases (rxMessage : Message) (rssi : Int) (buffer : List UInt8) (len : UInt8)
    (s : State) :
    (∃ buf, frameEvent rxMessage rssi buffer len s = .node rssi buf ∧ Accepts buf s) ∨
      (∃ buf, frameEvent rxMessage rssi buffer len s = .gateway buf) ∨
      frameEvent rxMessage rssi buffer len s = .quiet := by
  unfold frameEvent
  repeat' split
  · rename_i h
    exact .inl ⟨_, rfl, h.2⟩
  · exact .inr (.inr rfl)
  · exact .inr (.inl ⟨_, rfl⟩)
  · exact .inr (.inr rfl)
  · exact .inr (.inr rfl)

/-- **A frame** needs what `Needs` says. -/
theorem within_rf433RxCalls {rxMessage : Message} {rssi : Int} {buffer : List UInt8} {len : UInt8}
    (hdelay : P .delayTimer) (hlearn : P .learnTimer) (hq : Queued P s)
    (hlearning : s.learnFlag ≠ 0 → P .rfEnMq) :
    Within P (rf433RxCalls rxMessage rssi buffer len s) ↔
      ∀ o, Needs s (.rf433Rx rxMessage rssi buffer len) o → P o := by
  rw [rf433RxCalls_eq, forall_needs_iff]
  simp only [event, ClosesEarly, ClosesRemotely, CallsGatewayReload, CallsGatewaySync,
    asksForSync_iff, Restarts, EndsLearn]
  obtain ⟨buf, hevent, haccept⟩ | ⟨buf, hevent⟩ | hevent :=
      frameEvent_cases rxMessage rssi buffer len s <;> rw [hevent]
  · have honly := onlyDevice_heardFrom rssi buf.fromID.toUInt32 s
    have hlast := congrArg Ctl.lastFlag (ctl_heardFrom rssi buf.fromID.toUInt32 s)
    by_cases hflag : s.learnFlag = 0
    · have hvalid : checkValid buf.fromID.toUInt32 (heardFrom rssi buf.fromID.toUInt32 s) =
          RT_EOK :=
        (honly.flashGetKeyValid _).trans (haccept.2.resolve_left (not_not.mpr hflag))
      have hanswers : NodeAnswers buf (heardFrom rssi buf.fromID.toUInt32 s) ↔
          NodeAnswers buf s := by
        rw [NodeAnswers, NodeAnswers, honly.getDoorID]
      simp [frameCalls, hflag, within_dataSolveCalls hdelay hlearn hvalid, CanClose.congr hlast,
        hanswers, Event.Closes]
    · simp [frameCalls, hflag, within_deviceLearnCalls (hlearning hflag) hlearn,
        gatewayConfirms_heardFrom, Event.Closes]
  · have hlinks : links (heartRefresh buf.fromID.toUInt32 s) = links s :=
      links_ite (fun _ => rfl) fun _ => rfl
    have hctl : ctl (heartRefresh buf.fromID.toUInt32 s) = ctl s := by
      unfold heartRefresh
      split <;> rfl
    have hcloses :
        GatewayCloses buf (heartRefresh buf.fromID.toUInt32 s) ↔ GatewayCloses buf s := by
      rw [GatewayCloses, GatewayCloses, ← ctl_status, hctl, ctl_status]
    have hcalls : Within P (gatewayCommandCalls buf (heartRefresh buf.fromID.toUInt32 s)) ↔ _ :=
      within_gatewayCommandCalls (hq.congr hlinks) hdelay
    rw [hcloses, CanClose.congr (congrArg Ctl.lastFlag hctl)] at hcalls
    simp [frameCalls, hcalls, Event.Closes]
  · simp [frameCalls, Event.Closes]

/-- **A key** needs the timer of the list when it ends learn mode. -/
theorem within_keyReponseCalls {hasFactoryCycle : Bool} {sem : KeySem} {pins : Pins}
    (h : Core P) (hcycle : hasFactoryCycle → P .factoryCycle) :
    Within P (keyReponseCalls hasFactoryCycle sem pins s) ↔
      ∀ o, Needs s (.keyReponse sem pins) o → P o := by
  have hnode : ∀ rssi buf, event s (.keyReponse sem pins) ≠ .node rssi buf := by
    intro rssi buf
    rw [event]
    split <;> simp
  have hclose : ¬ClosesEarly s (.keyReponse sem pins) := by
    rintro (⟨hrun, hclose⟩ | ⟨⟨_, ha⟩, -⟩)
    · rw [ClosesRemotely, event, if_neg (by simpa [Restarts] using hrun)] at hclose
      exact hclose
    · cases ha
  have hkeys : (∀ o, Needs s (.keyReponse sem pins) o → P o) ↔
      (EndsLearn s (.keyReponse sem pins) → s.gwFlag ≠ 0 → P .gatewaySyncT) := by
    rw [forall_needs_iff]
    simp [hnode, hclose, CallsGatewayReload, CallsGatewaySync, AsksForSync]
  rw [hkeys]
  cases hk0 : sem.k0 with
  | true => simp [keyReponseCalls, EndsLearn, hk0, h.keyOnCalls s]
  | false =>
      cases hk1 : sem.k1 with
      | true => simp [keyReponseCalls, EndsLearn, hk0, hk1, h.keyOffCalls s hcycle pins]
      | false =>
          have herased := within_gatewayEnqueueCalls (h.queued s)
          cases hreset : sem.k0k1 <;> cases hk0Long : sem.k0Long <;>
            cases hk1Long : sem.k1Long <;>
            simp [keyReponseCalls, EndsLearn, hk0, hk1, hreset, hk0Long, hk1Long, h.keyLongCalls s,
              herased]

/-- The other handlers need nothing else. -/
theorem needs_nothing {a : Action} (hevent : event s a = .quiet ∨ event s a = .sent)
    (h1 : a ≠ .moto1TimerAct) (h2 : a ≠ .moto2TimerAct) (hsync : ¬AsksForSync s a)
    (hlearn : ¬EndsLearn s a) : ∀ o, Needs s a o → P o := by
  have hclose : ¬(event s a).Closes s := by
    obtain h | h := hevent <;> rw [h] <;> exact id
  intro o hneeds
  cases hneeds with
  | queue h => simp [h] at hevent
  | motors h =>
      obtain ⟨-, h⟩ | ⟨⟨pins, rfl⟩, -⟩ := h
      · exact absurd h hclose
      · simp [event] at hevent
  | act1 ha => simp [ha, event] at hevent
  | act2 ha => simp [ha, event] at hevent
  | detect1 ha => exact absurd ha h1
  | detect2 ha => exact absurd ha h2
  | reload h =>
      obtain ⟨-, _, _, h, -⟩ := h
      simp [h] at hevent
  | sync h => exact (h.elim hsync fun h => hlearn h.1).elim

/-- **What a handler can ask for** is what it always finds, the queue when the
unit has a gateway or is in learn mode, and what `Needs` says. -/
theorem within_handlerCalls {a : Action} {hasFactoryCycle : Bool}
    (hhour : ∀ pins, a = .rtcAlarm pins →
      registryMachine.Reachable s ∧ ∃ s', rtcTimerEntry pins s = some s')
    (hcycle : hasFactoryCycle → P .factoryCycle) (hstarted : Within P (startedWith a))
    (hq : Queued P s) (hlearning : s.learnFlag ≠ 0 → P .rfEnMq) :
    Within P (handlerCalls hasFactoryCycle s a) ↔ ∀ o, Needs s a o → P o := by
  have hupload := within_uploadCalls hq
  cases a with
  | keyReponse sem pins => exact within_keyReponseCalls (core_of_within hstarted) hcycle
  | rf433Rx rxMessage rssi buffer len =>
      simp only [startedWith, within_cons] at hstarted
      exact within_rf433RxCalls hstarted.2.1 hstarted.1 hq hlearning
  | rfEncode => exact iff_of_true hstarted (needs_nothing (.inr rfl) (by simp) (by simp) id id)
  | waterscanTimer pins =>
      have hcore := core_of_within hstarted
      exact iff_of_true (hcore.waterscanTimerCalls s pins)
        (needs_nothing (.inl rfl) (by simp) (by simp) id id)
  | ntcScanTimer cold warm =>
      have hcore := core_of_within hstarted
      exact iff_of_true (hcore.ntcScanTimerCalls s cold warm)
        (needs_nothing (.inl rfl) (by simp) (by simp) id id)
  | delayTimer =>
      have hclosed := within_uploadCalls (hq.congr (links_motoClose otherOff s))
      simp only [startedWith, within_cons] at hstarted
      simp [handlerCalls, within_motoCloseCalls hq hstarted.1, hclosed, forall_needs_iff, event,
        ClosesEarly, ClosesRemotely, Event.Closes, Restarts, CallsGatewayReload, CallsGatewaySync,
        AsksForSync, EndsLearn]
  | learnTimer =>
      simp [handlerCalls, within_stopLearnCalls hq, forall_needs_iff, event, ClosesEarly,
        ClosesRemotely, Event.Closes, CallsGatewayReload, CallsGatewaySync, AsksForSync, EndsLearn]
  | turn1Edge | turn2Edge | heartCheckT =>
      exact iff_of_true within_nil (needs_nothing (.inl rfl) (by simp) (by simp) id id)
  | moto1TimerAct | moto2TimerAct =>
      simp [handlerCalls, forall_needs_iff, event, ClosesEarly, ClosesRemotely, Event.Closes,
        CallsGatewayReload, CallsGatewaySync, AsksForSync, EndsLearn]
  | moto1TimerDetect =>
      simp only [startedWith, within_cons] at hstarted
      have hwarn : Within P (warningEnableNumCalls 6 s) :=
        (within_warningEnableNumCalls hq hstarted.1 (show _ = some moto1FailEvent from rfl) rfl).mpr
          fun _ hclose => absurd hclose id
      refine iff_of_true ?_ (needs_nothing (.inl rfl) (by simp) (by simp) id id)
      simp [handlerCalls, turn1TimerCalls, within_ite, hwarn, hupload]
  | moto2TimerDetect =>
      simp only [startedWith, within_cons] at hstarted
      have hwarn : Within P (warningEnableNumCalls 9 s) :=
        (within_warningEnableNumCalls hq hstarted.1 (show _ = some moto2FailEvent from rfl) rfl).mpr
          fun _ hclose => absurd hclose id
      refine iff_of_true ?_ (needs_nothing (.inl rfl) (by simp) (by simp) id id)
      simp [handlerCalls, turn2TimerCalls, within_ite, hwarn, hupload]
  | motoDetectTimer pins =>
      simp only [startedWith, within_cons] at hstarted
      refine iff_of_true ?_ (needs_nothing (.inl rfl) (by simp) (by simp) id id)
      simp [handlerCalls, motoDetectCalls, within_ite, hstarted]
  | rtcAlarm pins =>
      obtain ⟨hr, s', hs⟩ := hhour pins rfl
      simp only [startedWith, within_cons] at hstarted
      rw [forall_needs_iff, handlerCalls, within_rtcTimerEntryCalls hr hs hq hstarted.2.1]
      simp [event, ClosesEarly, ClosesRemotely, Event.Closes, CallsGatewayReload,
        CallsGatewaySync, AsksForSync, EndsLearn, and_comm]
  | gatewaySyncT =>
      refine iff_of_true ?_ (needs_nothing (.inl rfl) (by simp) (by simp) id id)
      have hreport := within_gatewayEnqueueCalls hq
      exact within_ite.mpr ⟨fun _ => within_ite.mpr ⟨fun _ => hreport, fun _ => within_nil⟩,
        fun _ => hstarted⟩
  | heartTestT =>
      have hpower := within_powerOnUploadCalls hq
      simp only [startedWith, within_cons] at hstarted
      refine iff_of_true ?_ (needs_nothing (.inl rfl) (by simp) (by simp) id id)
      simp [handlerCalls, heartTestCalls, within_ite, hstarted, hupload, hpower]
  | factoryCycle => exact iff_of_true hstarted (needs_nothing (.inl rfl) (by simp) (by simp) id id)
  | reboot pins =>
      simp [handlerCalls, forall_needs_iff, event, ClosesEarly, Restarts, CallsGatewayReload,
        CallsGatewaySync, AsksForSync, EndsLearn]

end WaterValve
