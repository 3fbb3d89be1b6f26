import WaterValve.Work

/-!
# WaterValve.Gateway

Offline detection: the functions of `flashwork.c` that raise or clear the
offline warning, and the hourly tick of `RTCWork.c` that drives them.  And
`gateway.c`: the device list sent on request, the heartbeat, and what happens
when a gateway is learned or the unit starts.
-/

namespace WaterValve

/-! ## offline detection -/

/-- `Device_AliveChange` and its like, on the whole state: the return value is
dropped by every caller in this file. -/
def State.withStorage (f : Storage → UInt8 × Storage) (s : State) : State :=
  { s with toStorage := (f s.toStorage).2 }

/-- One round of the loop of `Detect_All_Time`; the `Bool` is `WarnFlag`. -/
def detectSlot (num : Nat) (p : Bool × State) : Bool × State :=
  let (warnFlag, s) := p
  let d := s.globalDevice
  if d.idTime num = 25 ∧ d.getMesssage num = 0 ∧ d.id num ≠ 0 then
    if num = d.doorNum then
      (warnFlag, (warUploadGW 1 (d.id num) 4 1 s).withStorage (·.deviceAliveChange (d.id num) 0))
    else if num = d.gatewayNum then (warnFlag, s)
    else (true, (warUploadGW 1 (d.id num) 4 1 s).withStorage (·.deviceAliveChange (d.id num) 0))
  else p

/-- `while(num) { ..; num--; }` of `Detect_All_Time`. -/
def detectLoop : Nat → Bool × State → Bool × State
  | 0, p => p
  | num + 1, p => detectLoop num (detectSlot (num + 1) p)

def detectAllTime (s : State) : Option State :=
  if s.searchStart = 0 then some s
  else
    let (warnFlag, s) := detectLoop s.searchStart (false, s)
    let s := if warnFlag then warningEnableNum 5 s else s
    s.clearAllTime.map fun st => { s with toStorage := st }

/-- `Offline_React`: leave the offline warning once every device other than
the door and the gateway has been heard. -/
def offlineReact (s : State) : State :=
  if s.nowStatus ≠ .offline then s
  else if s.searchStart = 0 then s
  else
    let d := s.globalDevice
    let warnFlag := (List.range' 1 s.searchStart).any fun num =>
      d.alive num = 0 && num ≠ d.doorNum && num ≠ d.gatewayNum
    if warnFlag then s else offlineDisableWarning s

/-- One alarm of the clock: `HAL_RTC_AlarmAEventCallback` counts the hour, then
`RTC_Timer_Entry` runs its round. -/
def rtcTimerEntry (pins : Pins) (s : State) : Option State :=
  let s := { s with rtcHours := s.rtcHours + 1 }
  let s := if s.rtcHours % 120 = 0 then motoDetect pins s else s
  s.updateAllTime.bind fun st =>
    let s := { s with toStorage := st }
    if s.rtcCounter < 24 then some { s with rtcCounter := s.rtcCounter + 1 }
    else (detectAllTime s).map fun s => { s with rtcCounter := 0 }

/-! ## the gateway -/

/-- `Gateway_Sync_Callback`, periodic while `Gateway_Sync_t` runs. -/
def gatewaySyncCallback (s : State) : State :=
  let n := s.gatewaySyncNum.toNat
  let d := s.globalDevice
  if n ≤ d.num then
    let s := if d.id n < 40000000 ∧ 0 < d.id n then
        if d.alive n ≠ 0 then gatewaySyncEnqueue 1 3 (d.id n) (d.rssi n) (d.bat n) s
        else gatewaySyncEnqueue 1 5 (d.id n) (d.rssi n) (d.bat n) s
      else s
    { s with gatewaySyncNum := s.gatewaySyncNum + 1 }
  else { s with gatewaySyncNum := 1, gatewaySyncT := false }

def powerOnUpload (s : State) : State :=
  match s.nowStatus with
  | .opened => warUploadGW 1 0 7 0 s
  | .close => warUploadGW 1 0 7 0 s
  | .masterLostPeak => warUploadGW 1 0 3 1 s
  | .masterWaterAlarmActive => warUploadGW 1 0 1 1 s
  | .masterWaterAlarmDeActive => warUploadGW 1 0 1 1 s
  | .ntcWarning => warUploadGW 1 0 8 1 s
  | .motoFail =>
    let s := if s.moto1FailFlag ≠ 0 then warUploadGW 1 0 2 2 s else s
    if s.moto2FailFlag ≠ 0 then warUploadGW 1 0 2 3 s else s
  | _ => s

def gatewaySync (s : State) : State :=
  { powerOnUpload (controlUploadGW 1 0 5 s.valveStatus s) with
    gatewaySyncNum := 1, gatewaySyncT := true }

def heartRefresh (id : UInt32) (s : State) : State :=
  if id = s.gatewayID then { s with heartRecvFlag := 1, heartStatus := 1 } else s

def heartCheck (s : State) : State :=
  if s.heartRecvFlag ≠ 0 then { s with heartRecvFlag := 0 } else { s with heartStatus := 0 }

def heartTest (s : State) : State :=
  if s.heartRecvFlag ≠ 0 then
    powerOnUpload (controlUploadGW 1 0 5 s.valveStatus { s with heartTestT := false })
  else if s.heartCheckCount < 3 then
    controlUploadGW 0 0 5 s.valveStatus { s with heartCheckCount := s.heartCheckCount + 1 }
  else { s with heartTestT := false }

def heartTestStart (s : State) : State := { s with heartCheckCount := 0, heartTestT := true }

def gatewayReload (s : State) : State :=
  let s := { s with gwFlag := 1, gatewayID := s.globalDevice.id s.globalDevice.gatewayNum }
  { heartRefresh s.gatewayID s with heartCheckT := true }

def gatewayInit (s : State) : State :=
  let s := { s with gatewayID := s.globalDevice.id s.globalDevice.gatewayNum }
  let s := controlUploadGW 0 0 5 s.valveStatus s
  if s.gatewayID = 0 then s else { heartTestStart s with heartCheckT := true }

/-! ## what these leave alone -/

/-- The report after power-on changes the queue and nothing else. -/
theorem queueOnly_powerOnUpload (s : State) : QueueOnly s (powerOnUpload s) := by
  unfold powerOnUpload
  dsimp only
  split
  case h_7 =>
    have hsecond : ∀ t, QueueOnly t (if t.moto2FailFlag ≠ 0 then warUploadGW 1 0 2 3 t else t) := by
      intro t
      split
      · exact queueOnly_warUploadGW ..
      · exact .refl t
    split
    · exact (queueOnly_warUploadGW ..).trans (hsecond _)
    · exact hsecond s
  case h_8 => exact .refl s
  all_goals exact queueOnly_warUploadGW ..

/-- `s'` is `s` up to the transmit queue and the list of devices being sent. -/
def SyncOnly (s s' : State) : Prop :=
  ∃ mq n t, s' = { s with rfEnMq := mq, gatewaySyncNum := n, gatewaySyncT := t }

/-- A sync starts its count and its timer, and sends. -/
theorem syncOnly_gatewaySync (s : State) : SyncOnly s (gatewaySync s) := by
  have hqueue := (queueOnly_controlUploadGW 1 0 5 s.valveStatus s).trans (queueOnly_powerOnUpload _)
  obtain ⟨mq, hmq⟩ := hqueue
  exact ⟨mq, 1, true, by rw [gatewaySync, hmq]⟩

/-- What a tick of the list queues for slot `n`: code 3 for a device that is
there, 5 for one that is not. -/
def syncSlot (n : Nat) (s : State) : State :=
  let d := s.globalDevice
  if d.id n < 40000000 ∧ 0 < d.id n then
    if d.alive n ≠ 0 then gatewaySyncEnqueue 1 3 (d.id n) (d.rssi n) (d.bat n) s
    else gatewaySyncEnqueue 1 5 (d.id n) (d.rssi n) (d.bat n) s
  else s

/-- Sending one slot changes the queue and nothing else. -/
theorem queueOnly_syncSlot (n : Nat) (s : State) : QueueOnly s (syncSlot n s) := by
  unfold syncSlot
  dsimp only
  repeat' split
  · exact queueOnly_gatewaySyncEnqueue ..
  · exact queueOnly_gatewaySyncEnqueue ..
  · exact .refl s

/-- A tick queues what slot `Gateway_Sync_Num` needs and moves on, or finds that
it was the last and stops the timer. -/
theorem gatewaySyncCallback_eq (s : State) : gatewaySyncCallback s =
    if s.gatewaySyncNum.toNat ≤ s.globalDevice.num then
      { syncSlot s.gatewaySyncNum.toNat s with gatewaySyncNum := s.gatewaySyncNum + 1 }
    else { s with gatewaySyncNum := 1, gatewaySyncT := false } := by
  obtain ⟨mq, hmq⟩ := queueOnly_syncSlot s.gatewaySyncNum.toNat s
  have hcursor : (syncSlot s.gatewaySyncNum.toNat s).gatewaySyncNum = s.gatewaySyncNum := by
    rw [hmq]
  have hnext := congrArg (fun n : UInt8 =>
    { syncSlot s.gatewaySyncNum.toNat s with gatewaySyncNum := n + 1 }) hcursor
  dsimp only at hnext
  rw [← hnext]
  rfl

/-- A round of the sync goes on in its count and sends. -/
theorem syncOnly_gatewaySyncCallback (s : State) : SyncOnly s (gatewaySyncCallback s) := by
  rw [gatewaySyncCallback_eq]
  split
  · obtain ⟨mq, hmq⟩ := queueOnly_syncSlot s.gatewaySyncNum.toNat s
    exact ⟨mq, s.gatewaySyncNum + 1, s.gatewaySyncT, by rw [hmq]⟩
  · exact ⟨s.rfEnMq, 1, false, rfl⟩

end WaterValve
