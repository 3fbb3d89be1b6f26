import WaterValve.FlashWork

/-!
# WaterValve.Encoder

`Radio_Encoder.c` and the upload half of `gateway.c`: the transmit queue, the
functions that queue messages, and `SendPrepare`, which prints a message.

The queue is an RT-Thread message queue of ten entries: a full queue drops the
message.  Nothing here touches any other part of the state; `QueueOnly` says
so once for every upload.
-/

namespace WaterValve

open CText

/-! ## the transmit queue -/

/-- The capacity `rt_mq_create` gives `rf_en_mq`. -/
def rfEnMqSize : Nat := 10

/-- `rt_mq_send`: append, unless the queue is full. -/
def rtMqSend (msg : RadioNormalFormat) (s : State) : State :=
  if s.rfEnMq.length < rfEnMqSize then { s with rfEnMq := s.rfEnMq ++ [msg] } else s

/-- `rt_mq_urgent`: prepend, unless the queue is full. -/
def rtMqUrgent (msg : RadioNormalFormat) (s : State) : State :=
  if s.rfEnMq.length < rfEnMqSize then { s with rfEnMq := msg :: s.rfEnMq } else s

def radioEnqueue (tagetId : UInt32) (counter command data : UInt8) (s : State) : State :=
  rtMqUrgent { type := 0, ack := 0, tagetID := tagetId, counter, command, data } s

def gatewaySyncEnqueue (ack command : UInt8) (deviceId : UInt32) (rssi bat : UInt8) (s : State) :
    State :=
  if s.gatewayID ≠ 0 then
    rtMqSend { type := 1, ack, command, payloadID := deviceId, rssi, data := bat } s
  else s

def gatewayWarningEnqueue (ack : UInt8) (deviceId : UInt32) (rssi warnId value : UInt8)
    (s : State) : State :=
  if s.gatewayID ≠ 0 then
    rtMqSend { type := 2, ack, payloadID := deviceId, rssi, command := warnId, data := value } s
  else s

def gatewayControlEnqueue (ack : UInt8) (deviceId : UInt32) (rssi control value : UInt8)
    (s : State) : State :=
  if s.gatewayID ≠ 0 then
    rtMqSend { type := 3, ack, payloadID := deviceId, rssi, command := control, data := value } s
  else s

/-! ## uploads -/

/-- `WarUpload_GW`. -/
def warUploadGW (ack : UInt8) (deviceId : UInt32) (warnId value : UInt8) (s : State) : State :=
  if s.getGatewayID ≠ 0 then
    gatewayWarningEnqueue ack deviceId (s.flashGetRssi deviceId) warnId value s
  else s

/-- `ControlUpload_GW`. -/
def controlUploadGW (ack : UInt8) (deviceId : UInt32) (controlId value : UInt8) (s : State) :
    State :=
  if s.getGatewayID ≠ 0 then
    gatewayControlEnqueue ack deviceId (s.flashGetRssi deviceId) controlId value s
  else s

def replaceDoor (old : UInt32) (s : State) : State :=
  gatewayWarningEnqueue 1 old (s.flashGetRssi old) 4 0 s

def gatewayRemoteDelete (s : State) : State := gatewaySyncEnqueue 1 4 0 0 0 s

/-! ## an upload changes the queue and nothing else -/

/-- `s'` is `s` up to the transmit queue. -/
def QueueOnly (s s' : State) : Prop := ∃ mq, s' = { s with rfEnMq := mq }

theorem QueueOnly.refl (s : State) : QueueOnly s s := ⟨s.rfEnMq, rfl⟩

theorem QueueOnly.trans {s s' s'' : State} (h : QueueOnly s s') (h' : QueueOnly s' s'') :
    QueueOnly s s'' := by
  obtain ⟨mq, rfl⟩ := h
  obtain ⟨mq', rfl⟩ := h'
  exact ⟨mq', rfl⟩

/-- Sending a message changes the queue and nothing else, also when it is full. -/
theorem queueOnly_rtMqSend (msg : RadioNormalFormat) (s : State) :
    QueueOnly s (rtMqSend msg s) := by
  unfold rtMqSend
  split
  · exact ⟨_, rfl⟩
  · exact .refl s

/-- A frame to a node changes the queue and nothing else. -/
theorem queueOnly_radioEnqueue (tagetId : UInt32) (counter command data : UInt8) (s : State) :
    QueueOnly s (radioEnqueue tagetId counter command data s) := by
  unfold radioEnqueue rtMqUrgent
  split
  · exact ⟨_, rfl⟩
  · exact .refl s

theorem queueOnly_gatewaySyncEnqueue (ack command : UInt8) (deviceId : UInt32) (rssi bat : UInt8)
    (s : State) : QueueOnly s (gatewaySyncEnqueue ack command deviceId rssi bat s) := by
  unfold gatewaySyncEnqueue
  split
  · exact queueOnly_rtMqSend _ s
  · exact .refl s

theorem queueOnly_gatewayWarningEnqueue (ack : UInt8) (deviceId : UInt32)
    (rssi warnId value : UInt8) (s : State) :
    QueueOnly s (gatewayWarningEnqueue ack deviceId rssi warnId value s) := by
  unfold gatewayWarningEnqueue
  split
  · exact queueOnly_rtMqSend _ s
  · exact .refl s

theorem queueOnly_gatewayControlEnqueue (ack : UInt8) (deviceId : UInt32)
    (rssi control value : UInt8) (s : State) :
    QueueOnly s (gatewayControlEnqueue ack deviceId rssi control value s) := by
  unfold gatewayControlEnqueue
  split
  · exact queueOnly_rtMqSend _ s
  · exact .refl s

/-- A warning report changes the queue and nothing else. -/
theorem queueOnly_warUploadGW (ack : UInt8) (deviceId : UInt32) (warnId value : UInt8)
    (s : State) : QueueOnly s (warUploadGW ack deviceId warnId value s) := by
  unfold warUploadGW
  split
  · exact queueOnly_gatewayWarningEnqueue _ _ _ _ _ s
  · exact .refl s

/-- A control report changes the queue and nothing else. -/
theorem queueOnly_controlUploadGW (ack : UInt8) (deviceId : UInt32) (controlId value : UInt8)
    (s : State) : QueueOnly s (controlUploadGW ack deviceId controlId value s) := by
  unfold controlUploadGW
  split
  · exact queueOnly_gatewayControlEnqueue _ _ _ _ _ s
  · exact .refl s

/-- The report of a new door changes the queue and nothing else. -/
theorem queueOnly_replaceDoor (old : UInt32) (s : State) : QueueOnly s (replaceDoor old s) :=
  queueOnly_gatewayWarningEnqueue _ _ _ _ _ s

/-- An upload leaves the registry and the flash alone. -/
theorem QueueOnly.toStorage {s s' : State} (h : QueueOnly s s') : s'.toStorage = s.toStorage := by
  obtain ⟨mq, rfl⟩ := h
  rfl

section

variable (ack counter command data rssi warnId value : UInt8) (deviceId : UInt32) (s : State)

@[simp] theorem radioEnqueue_toStorage :
    (radioEnqueue deviceId counter command data s).toStorage = s.toStorage :=
  (queueOnly_radioEnqueue ..).toStorage

@[simp] theorem gatewaySyncEnqueue_toStorage :
    (gatewaySyncEnqueue ack command deviceId rssi data s).toStorage = s.toStorage :=
  (queueOnly_gatewaySyncEnqueue ..).toStorage

@[simp] theorem warUploadGW_toStorage :
    (warUploadGW ack deviceId warnId value s).toStorage = s.toStorage :=
  (queueOnly_warUploadGW ..).toStorage

@[simp] theorem controlUploadGW_toStorage :
    (controlUploadGW ack deviceId command value s).toStorage = s.toStorage :=
  (queueOnly_controlUploadGW ..).toStorage

@[simp] theorem replaceDoor_toStorage : (replaceDoor deviceId s).toStorage = s.toStorage :=
  (queueOnly_replaceDoor ..).toStorage

end

/-! ## `SendPrepare` -/

/-- The checksum digit of a nibble. -/
def hexDigit (nibble : UInt8) : UInt8 := if nibble < 10 then nibble + 48 else nibble - 10 + 65

/-- Write bytes into the send buffer at an offset. -/
def poke (offset : Nat) (bytes buf : List UInt8) : List UInt8 :=
  buf.take offset ++ bytes ++ buf.drop (offset + bytes.length)

/-- `sizeof(radio_send_buf)`. -/
def radioSendBufSize : Nat := 255

/-- `rt_memset` and `rt_sprintf` into `radio_send_buf`. -/
def sprintfBuf (text : List UInt8) : List UInt8 :=
  poke 0 text (List.replicate radioSendBufSize 0)

/-- A `uint32_t` argument of a `%0<width>ld`. -/
def fmtLd (width : Nat) (value : UInt32) : List UInt8 := fmtInt width value.toInt32.toInt

/-- A `uint8_t` argument of a `%0<width>d`. -/
def fmtD (width : Nat) (value : UInt8) : List UInt8 := fmtInt width value.toNat

/-- `"{%08ld,%08ld,%03d,%02d,%d}"`. -/
def nodeText (tagetID radioID : UInt32) (counter command data : UInt8) : List UInt8 :=
  ascii "\x7b" ++ fmtLd 8 tagetID ++ ascii "," ++ fmtLd 8 radioID ++ ascii "," ++ fmtD 3 counter ++
    ascii "," ++ fmtD 2 command ++ ascii "," ++ fmtD 0 data ++ ascii "\x7d"

/-- `"A{%02d,%02d,%08ld,%08ld,%08ld,%03d,%02d}A"`. -/
def syncText (send : RadioNormalFormat) (gatewayID radioID : UInt32) : List UInt8 :=
  ascii "A\x7b" ++ fmtD 2 send.ack ++ ascii "," ++ fmtD 2 send.command ++ ascii "," ++
    fmtLd 8 gatewayID ++ ascii "," ++ fmtLd 8 radioID ++ ascii "," ++ fmtLd 8 send.payloadID ++
    ascii "," ++ fmtD 3 send.rssi ++ ascii "," ++ fmtD 2 send.data ++ ascii "\x7dA"

/-- `"B{%02d,%08ld,%08ld,%08ld,%03d,%03d,%02d}B"`, and the same with `C`. -/
def uploadText (letter : List UInt8) (send : RadioNormalFormat) (gatewayID radioID : UInt32) :
    List UInt8 :=
  letter ++ ascii "\x7b" ++ fmtD 2 send.ack ++ ascii "," ++ fmtLd 8 gatewayID ++ ascii "," ++
    fmtLd 8 radioID ++ ascii "," ++ fmtLd 8 send.payloadID ++ ascii "," ++ fmtD 3 send.rssi ++
    ascii "," ++ fmtD 3 send.command ++ ascii "," ++ fmtD 2 send.data ++ ascii "\x7d" ++ letter

/-- The bytes 28 to 31 of a node frame: the two digits of the byte sum of the
first 28 bytes, then CR LF, wherever the printed text ended. -/
def nodeTrailer (buf : List UInt8) : List UInt8 :=
  let check := (buf.take 28).foldl (· + ·) (0 : UInt8)
  [hexDigit (check >>> 4), hexDigit (check &&& 0xf), 13, 10]

/-- `SendPrepare`: the content of `radio_send_buf`. -/
def sendPrepare (send : RadioNormalFormat) (gatewayID radioID : UInt32) : List UInt8 :=
  if send.type = 0 then
    -- `Send.Counter++ <= 255 ? Send.Counter : 0;` only increments the `uint8_t`
    let buf := sprintfBuf (nodeText send.tagetID radioID (send.counter + 1) send.command send.data)
    poke 28 (nodeTrailer buf) buf
  else if send.type = 1 then sprintfBuf (syncText send gatewayID radioID)
  else if send.type = 2 then sprintfBuf (uploadText (ascii "B") send gatewayID radioID)
  else if send.type = 3 then sprintfBuf (uploadText (ascii "C") send gatewayID radioID)
  else List.replicate radioSendBufSize 0

/-- What `RF_Send` transmits: `rt_strlen(radio_send_buf)` bytes. -/
def sentString (buf : List UInt8) : List UInt8 := buf.takeWhile (· ≠ 0)

end WaterValve
