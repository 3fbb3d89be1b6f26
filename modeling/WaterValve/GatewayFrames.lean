import WaterValve.Frames

/-!
# WaterValve.GatewayFrames

The frames for the gateway.  Unlike a node frame they carry no checksum, and
their seven fields are printed one after the other between a letter that names
the type.  `rt_sscanf` with the same skeleton reads all of them back, whatever
they hold (`gateway_frame_roundtrip`), so a frame determines its message
(`gateway_frame_inj`).
-/

namespace WaterValve

open CText

/-! ## lists of fields -/

/-- Numbers printed to their widths, with commas between them. -/
def fieldsText : List (Nat × Int) → List UInt8
  | [] => []
  | [(width, n)] => fmtInt width n
  | (width, n) :: field :: fields => fmtInt width n ++ 44 :: fieldsText (field :: fields)

/-- `%d` as often, with commas between them. -/
def fieldsFormat : Nat → List UInt8
  | 0 => []
  | 1 => [37, 100]
  | count + 2 => 37 :: 100 :: 44 :: fieldsFormat (count + 1)

/-- The values `%d` stores for printed fields. -/
def fieldsValues (fields : List (Nat × Int)) : List Int32 := fields.map fun field =>
  Int32.ofInt field.2

/-- **A list of fields reads back** over anything that does not continue the
last of them. -/
theorem rtSscanf_fieldsText {fields : List (Nat × Int)} (hlong : ∀ field ∈ fields, IsLong field.2)
    {rest fp : List UInt8} (hrest : NoDigitHead rest) {ap : List Int32}
    (hap : ap.length = fields.length) :
    rtSscanf (fieldsText fields ++ rest) (fieldsFormat fields.length ++ fp) ap =
      (fields.length + (rtSscanf rest fp []).1,
        fieldsValues fields ++ (rtSscanf rest fp []).2) := by
  induction fields generalizing ap with
  | nil =>
      obtain rfl := List.eq_nil_of_length_eq_zero hap
      simp [fieldsText, fieldsFormat, fieldsValues]
  | cons field fields ih =>
      obtain ⟨v, ap, rfl⟩ := List.exists_cons_of_length_eq_add_one hap
      have hap' : ap.length = fields.length := Nat.succ.inj hap
      obtain ⟨hl, hu⟩ := hlong field List.mem_cons_self
      cases fields with
      | nil =>
          obtain rfl := List.eq_nil_of_length_eq_zero hap'
          simp [fieldsText, fieldsFormat, fieldsValues, rtSscanf_fmtInt hl hu hrest, Nat.add_comm]
      | cons field' fields =>
          have hcomma : ∀ s, NoDigitHead (44 :: s) := fun s =>
            (noDigitHead_cons 44 s).mpr (by decide)
          have hih := ih (fun f hf => hlong f (List.mem_cons_of_mem _ hf)) hap'
          simp only [List.length_cons] at hih ⊢
          simp only [fieldsText, fieldsFormat, List.append_assoc, List.cons_append,
            rtSscanf_fmtInt hl hu (hcomma _), rtSscanf_match (by decide : isspace 44 = false)
              (by decide : (44 : UInt8) ≠ 37), hih]
          simp [fieldsValues]
          omega

theorem ne_zero_of_mem_fieldsText {fields : List (Nat × Int)} {c : UInt8}
    (h : c ∈ fieldsText fields) : c ≠ 0 := by
  induction fields with
  | nil => simp [fieldsText] at h
  | cons field fields ih =>
      cases fields with
      | nil => exact ne_zero_of_mem_fmtInt h
      | cons field' fields =>
          simp only [fieldsText, List.mem_append, List.mem_cons] at h
          obtain h | rfl | h := h
          · exact ne_zero_of_mem_fmtInt h
          · decide
          · exact ih h

/-- Each field takes at most its width and twelve bytes more. -/
theorem length_fieldsText_le {fields : List (Nat × Int)}
    (hlong : ∀ field ∈ fields, IsLong field.2) :
    (fieldsText fields).length ≤ (fields.map fun field => field.1 + 12).sum := by
  induction fields with
  | nil => simp [fieldsText]
  | cons field fields ih =>
      have hfield : (fmtInt field.1 field.2).length ≤ field.1 + 11 := by
        refine length_fmtInt_le field.1 ?_
        have hl := hlong field List.mem_cons_self
        simp only [IsLong, LONG_MIN, LONG_MAX] at hl
        omega
      have hih := ih fun f hf => hlong f (List.mem_cons_of_mem _ hf)
      cases fields with
      | nil =>
          simp only [fieldsText, List.map_cons, List.map_nil, List.sum_cons, List.sum_nil]
          omega
      | cons field' fields =>
          simp only [fieldsText, List.length_append, List.length_cons, List.map_cons,
            List.sum_cons] at hih ⊢
          omega

/-! ## the frames -/

/-- The fields of a message for the gateway, in the order `SendPrepare` prints
them: the command comes second in a frame of type 1, else last but one. -/
def gatewayFrameFields (send : RadioNormalFormat) (gatewayID radioID : UInt32) :
    List (Nat × Int) :=
  let ids := [(8, gatewayID.toInt32.toInt), (8, radioID.toInt32.toInt),
    (8, send.payloadID.toInt32.toInt), (3, (send.rssi.toNat : Int))]
  if send.type = 1 then
    (2, (send.ack.toNat : Int)) :: (2, (send.command.toNat : Int)) :: ids ++
      [(2, (send.data.toNat : Int))]
  else
    (2, (send.ack.toNat : Int)) :: ids ++
      [(3, (send.command.toNat : Int)), (2, (send.data.toNat : Int))]

/-- `A`, `B` and `C` for the types 1, 2 and 3. -/
def typeLetter (type : UInt8) : UInt8 := 64 + type

/-- `"A{%d,%d,%d,%d,%d,%d,%d}A"`, and the same with the other letters. -/
def gatewayFrameFormat (type : UInt8) : List UInt8 :=
  typeLetter type :: ascii "\x7b%d,%d,%d,%d,%d,%d,%d\x7d" ++ [typeLetter type]

/-- The types of the messages for the gateway. -/
def IsGatewayType (type : UInt8) : Prop := type = 1 ∨ type = 2 ∨ type = 3

section

variable {send : RadioNormalFormat} (gatewayID radioID : UInt32)

/-- What is printed. -/
def gatewayFrame (send : RadioNormalFormat) (gatewayID radioID : UInt32) : List UInt8 :=
  typeLetter send.type :: 123 :: fieldsText (gatewayFrameFields send gatewayID radioID) ++
    [125, typeLetter send.type]

private theorem isLong_gatewayFrameFields :
    ∀ field ∈ gatewayFrameFields send gatewayID radioID, IsLong field.2 := by
  intro field hf
  unfold gatewayFrameFields at hf
  split at hf <;>
    simp only [List.cons_append, List.nil_append, List.mem_cons, List.not_mem_nil,
      or_false] at hf <;>
    obtain rfl | rfl | rfl | rfl | rfl | rfl | rfl := hf <;>
    first | exact isLong_toInt _ | exact isLong_toNat _

theorem length_gatewayFrameFields : (gatewayFrameFields send gatewayID radioID).length = 7 := by
  unfold gatewayFrameFields
  split <;> rfl

theorem length_gatewayFrame_lt :
    (gatewayFrame send gatewayID radioID).length < radioSendBufSize := by
  have hwidths : ((gatewayFrameFields send gatewayID radioID).map fun field => field.1 + 12).sum ≤
      118 := by
    unfold gatewayFrameFields
    split <;> simp
  have hle := length_fieldsText_le (@isLong_gatewayFrameFields send gatewayID radioID)
  simp only [gatewayFrame, List.length_append, List.length_cons, List.length_nil, radioSendBufSize]
  omega

end

/-- A printed text that fits the buffer is sent whole. -/
theorem sentString_sprintfBuf {text : List UInt8} (hlen : text.length < radioSendBufSize)
    (h0 : ∀ c ∈ text, c ≠ 0) : sentString (sprintfBuf text) = text := by
  have hbuf : sprintfBuf text = text ++ List.replicate (radioSendBufSize - text.length) 0 := by
    simp [sprintfBuf, poke]
  obtain ⟨k, hk⟩ := Nat.exists_eq_add_of_lt (Nat.sub_pos_of_lt hlen)
  rw [hbuf, sentString, List.takeWhile_append_of_pos fun c hc => decide_eq_true (h0 c hc), hk]
  simp [List.replicate_succ]

private theorem syncText_eq {send : RadioNormalFormat} (htype : send.type = 1)
    (gatewayID radioID : UInt32) :
    syncText send gatewayID radioID =
      65 :: 123 :: fieldsText (gatewayFrameFields send gatewayID radioID) ++ [125, 65] := by
  rw [gatewayFrameFields, if_pos htype]
  simp only [syncText, fmtLd, fmtD, show ascii "A\x7b" = [65, 123] from rfl,
    show ascii "\x7dA" = [125, 65] from rfl, show ascii "," = [44] from rfl, fieldsText,
    List.append_assoc, List.cons_append, List.nil_append]

private theorem uploadText_eq {send : RadioNormalFormat} (htype : send.type ≠ 1) (letter : UInt8)
    (gatewayID radioID : UInt32) :
    uploadText [letter] send gatewayID radioID =
      letter :: 123 :: fieldsText (gatewayFrameFields send gatewayID radioID) ++ [125, letter] := by
  rw [gatewayFrameFields, if_neg htype]
  simp only [uploadText, fmtLd, fmtD, show ascii "\x7b" = [123] from rfl,
    show ascii "\x7d" = [125] from rfl, show ascii "," = [44] from rfl, fieldsText,
    List.append_assoc, List.cons_append, List.nil_append]

/-- **What `SendPrepare` prints** for a message to the gateway. -/
theorem sendPrepare_gateway {send : RadioNormalFormat} (htype : IsGatewayType send.type)
    (gatewayID radioID : UInt32) :
    sendPrepare send gatewayID radioID = sprintfBuf (gatewayFrame send gatewayID radioID) := by
  unfold sendPrepare gatewayFrame
  obtain htype | htype | htype := htype
  · rw [if_neg (by simp [htype]), if_pos htype, syncText_eq htype, htype]
    rfl
  · rw [if_neg (by simp [htype]), if_neg (by simp [htype]), if_pos htype,
      show ascii "B" = [66] from rfl, uploadText_eq (by simp [htype]), htype]
    rfl
  · rw [if_neg (by simp [htype]), if_neg (by simp [htype]), if_neg (by simp [htype]),
      if_pos htype, show ascii "C" = [67] from rfl, uploadText_eq (by simp [htype]), htype]
    rfl

private theorem typeLetter_ne {type : UInt8} (htype : IsGatewayType type) :
    typeLetter type ≠ 0 ∧ typeLetter type ≠ 37 ∧ isspace (typeLetter type) = false := by
  obtain rfl | rfl | rfl := htype <;> decide

theorem sentString_gateway {send : RadioNormalFormat} (htype : IsGatewayType send.type)
    (gatewayID radioID : UInt32) :
    sentString (sendPrepare send gatewayID radioID) = gatewayFrame send gatewayID radioID := by
  rw [sendPrepare_gateway htype]
  refine sentString_sprintfBuf (length_gatewayFrame_lt gatewayID radioID) fun c hc => ?_
  simp only [gatewayFrame, List.mem_append, List.mem_cons, List.not_mem_nil, or_false] at hc
  obtain (rfl | rfl | hc) | rfl | rfl := hc
  · exact (typeLetter_ne htype).1
  · decide
  · exact ne_zero_of_mem_fieldsText hc
  · decide
  · exact (typeLetter_ne htype).1

/-- The skeleton reads a frame of its type back. -/
theorem rtSscanf_gatewayFrame {send : RadioNormalFormat} (htype : IsGatewayType send.type)
    (gatewayID radioID : UInt32) {ap : List Int32} (hap : ap.length = 7) :
    rtSscanf (gatewayFrame send gatewayID radioID) (gatewayFrameFormat send.type) ap =
      (7, fieldsValues (gatewayFrameFields send gatewayID radioID)) := by
  obtain ⟨-, h37, hspace⟩ := typeLetter_ne htype
  have hlength := @length_gatewayFrameFields send gatewayID radioID
  have hformat : gatewayFrameFormat send.type =
      typeLetter send.type :: 123 :: (fieldsFormat 7 ++ [125, typeLetter send.type]) := rfl
  have hrest : NoDigitHead [125, typeLetter send.type] := (noDigitHead_cons ..).mpr (by decide)
  have hread := @rtSscanf_fieldsText _ (@isLong_gatewayFrameFields send gatewayID radioID) _
    [125, typeLetter send.type] hrest _ (hap.trans hlength.symm)
  have hend : rtSscanf [125, typeLetter send.type] [125, typeLetter send.type] [] = (0, []) := by
    rw [rtSscanf_match (by decide) (by decide), rtSscanf_match hspace h37, rtSscanf_end]
  rw [hlength, hend, List.append_nil] at hread
  rw [hformat, gatewayFrame, List.cons_append, List.cons_append, rtSscanf_match hspace h37,
    rtSscanf_match (by decide) (by decide)]
  exact hread

/-! ## the round trip -/

/-- The integers a message for the gateway is sent as. -/
def gatewayFrameValues (send : RadioNormalFormat) (gatewayID radioID : UInt32) : List Int32 :=
  if send.type = 1 then
    [Int32.ofInt send.ack.toNat, Int32.ofInt send.command.toNat, gatewayID.toInt32,
      radioID.toInt32, send.payloadID.toInt32, Int32.ofInt send.rssi.toNat,
      Int32.ofInt send.data.toNat]
  else
    [Int32.ofInt send.ack.toNat, gatewayID.toInt32, radioID.toInt32, send.payloadID.toInt32,
      Int32.ofInt send.rssi.toNat, Int32.ofInt send.command.toNat, Int32.ofInt send.data.toNat]

theorem fieldsValues_gatewayFrameFields (send : RadioNormalFormat) (gatewayID radioID : UInt32) :
    fieldsValues (gatewayFrameFields send gatewayID radioID) =
      gatewayFrameValues send gatewayID radioID := by
  unfold gatewayFrameFields gatewayFrameValues
  split <;> simp [fieldsValues]

/-- **A gateway frame reads back**, whatever its fields hold: it fits its
buffer, its first byte names its type, and `rt_sscanf` finds all seven values,
the ids as the 32-bit integers they are printed as. -/
theorem gateway_frame_roundtrip {send : RadioNormalFormat} (htype : IsGatewayType send.type)
    (gatewayID radioID : UInt32) {ap : List Int32} (hap : ap.length = 7) :
    (sentString (sendPrepare send gatewayID radioID)).length < radioSendBufSize ∧
      (∀ type, IsGatewayType type →
        ((sentString (sendPrepare send gatewayID radioID)).head? = some (typeLetter type) ↔
          type = send.type)) ∧
      rtSscanf (sentString (sendPrepare send gatewayID radioID)) (gatewayFrameFormat send.type) ap =
        (7, gatewayFrameValues send gatewayID radioID) := by
  rw [sentString_gateway htype gatewayID radioID]
  refine ⟨length_gatewayFrame_lt gatewayID radioID, fun type _ => ?_, ?_⟩
  · have hhead : (gatewayFrame send gatewayID radioID).head? = some (typeLetter send.type) := rfl
    rw [hhead, Option.some.injEq, typeLetter, typeLetter, UInt8.add_right_inj]
    exact eq_comm
  · rw [rtSscanf_gatewayFrame htype gatewayID radioID hap, fieldsValues_gatewayFrameFields]

/-- A water alarm reported with the largest ids there are. -/
theorem gateway_frame_roundtrip_alarm :
    rtSscanf
        (sentString (sendPrepare ⟨1, 2, 0, 1, 255, 0, 200, 0, 0xFFFFFFFF⟩ 0x80000000 0xFFFFFFFE))
        (gatewayFrameFormat 2) (List.replicate 7 0) =
      (7, [1, -2147483648, -2, -1, 255, 1, 200]) :=
  (@gateway_frame_roundtrip ⟨1, 2, 0, 1, 255, 0, 200, 0, 0xFFFFFFFF⟩ (.inr (.inl rfl))
    0x80000000 0xFFFFFFFE (List.replicate 7 0) rfl).2.2

/-- **A frame determines its message**: its type, its seven fields, and so who
sent it to whom. -/
theorem gateway_frame_inj {send send' : RadioNormalFormat}
    {gatewayID gatewayID' radioID radioID' : UInt32}
    (htype : IsGatewayType send.type) (htype' : IsGatewayType send'.type)
    (h : sentString (sendPrepare send gatewayID radioID) =
      sentString (sendPrepare send' gatewayID' radioID')) :
    send.type = send'.type ∧
      gatewayFrameValues send gatewayID radioID = gatewayFrameValues send' gatewayID' radioID' := by
  rw [sentString_gateway htype gatewayID radioID,
    sentString_gateway htype' gatewayID' radioID'] at h
  have hhead : typeLetter send.type = typeLetter send'.type := (List.cons.inj h).1
  rw [typeLetter, typeLetter, UInt8.add_right_inj] at hhead
  have hap : (List.replicate 7 (0 : Int32)).length = 7 := rfl
  have hread := rtSscanf_gatewayFrame htype gatewayID radioID hap
  have hread' := rtSscanf_gatewayFrame htype' gatewayID' radioID' hap
  rw [h, hhead, hread', Prod.mk.injEq] at hread
  rw [← fieldsValues_gatewayFrameFields, ← fieldsValues_gatewayFrameFields]
  exact ⟨hhead, hread.2.symm⟩

end WaterValve
