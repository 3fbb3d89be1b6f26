import WaterValve.Decoder

/-!
# WaterValve.Frames

The text of the two frame formats.

`rt_sscanf` fills its outputs in order and stops where the text departs from
the format (`rtSscanf_fills`), so a received buffer determines a list of
fields, `nodeFields` or `gatewayFields`, and `Rx_message` keeps what it held
beyond them (`scanNode_eq`, `scanGateway_eq`).

A node frame as `SendPrepare` builds it ends in a checksum at a fixed offset.
`node_frame_roundtrip` says for which messages it reads back.
-/

namespace WaterValve

open CText

/-! ## `rt_sscanf` step by step -/

section

variable {rp fp : List UInt8} {fc : UInt8} {ap ap' : List Int32}

/-- At the end of the text the scan stops. -/
theorem rtSscanf_end (fp : List UInt8) (ap : List Int32) : rtSscanf [] fp ap = (0, ap) := by
  cases fp <;> simp [rtSscanf.eq_def]

/-- White space in the format is passed over. -/
theorem rtSscanf_space (hrp : rp ≠ []) (hsp : isspace fc = true) :
    rtSscanf rp (fc :: fp) ap = rtSscanf rp fp ap := by
  rw [rtSscanf.eq_def]
  simp [hrp, hsp]

/-- A literal skips white space of the text and must be there. -/
theorem rtSscanf_literal (hsp : isspace fc = false) (hfc : fc ≠ 37) :
    rtSscanf rp (fc :: fp) ap =
      match rp.dropWhile isspace with
      | [] => (0, ap)
      | c :: rp => if fc ≠ c then (0, ap) else rtSscanf rp fp ap := by
  cases rp with
  | nil => rw [rtSscanf_end]; rfl
  | cons c rp =>
      rw [rtSscanf.eq_def]
      have hsp' : ¬isspace fc = true := by simp [hsp]
      exact (if_neg (List.cons_ne_nil c rp)).trans ((if_neg hsp').trans (if_pos hfc))

/-- A conversion, `%d` or `%x`. -/
theorem rtSscanf_int {conv : UInt8} {base : Nat}
    (hconv : conv = 100 ∧ base = 10 ∨ conv = 120 ∧ base = 16) (v : Int32) :
    rtSscanf rp (37 :: conv :: fp) (v :: ap) =
      match strtol base rp with
      | none => (0, v :: ap)
      | some (n, rp) => ((rtSscanf rp fp ap).1 + 1, Int32.ofInt n :: (rtSscanf rp fp ap).2) := by
  cases rp with
  | nil =>
      rw [rtSscanf_end]
      obtain ⟨rfl, rfl⟩ | ⟨rfl, rfl⟩ := hconv <;> rfl
  | cons c rp =>
      rw [rtSscanf.eq_def]
      have hsp : ¬isspace 37 = true := by decide
      obtain ⟨rfl, rfl⟩ | ⟨rfl, rfl⟩ := hconv <;>
        exact (if_neg (List.cons_ne_nil c rp)).trans ((if_neg hsp).trans (if_neg (by decide)))

/-- A `%` that no conversion or no output follows. -/
private theorem rtSscanf_skip {c : UInt8} (h : ap = [] ∨ c ≠ 100 ∧ c ≠ 120) :
    rtSscanf rp (37 :: c :: fp) ap = rtSscanf rp fp ap := by
  cases rp with
  | nil => rw [rtSscanf_end, rtSscanf_end]
  | cons c' rp =>
      rw [rtSscanf.eq_def]
      obtain rfl | ⟨hd, hx⟩ := h
      · simp [isspace]
      · cases ap <;> simp [isspace, hd, hx]

/-! ## what a scan fills -/

/-- Two results of scanning one text: the same fields are filled with the same
values, and the others keep what they held. -/
structure Fills (ap ap' : List Int32) (p p' : Nat × List Int32) : Prop where
  count : p'.1 = p.1
  count_le : p.1 ≤ ap.length
  length : p.2.length = ap.length
  fields : p'.2 = p.2.take p.1 ++ ap'.drop p.1

/-- Two scans that stop at once. -/
theorem fills_stop (ap ap' : List Int32) : Fills ap ap' (0, ap) (0, ap') :=
  ⟨rfl, Nat.zero_le _, rfl, rfl⟩

/-- Two scans that store the same number. -/
theorem Fills.cons {p p' : Nat × List Int32} (h : Fills ap ap' p p') (v v' n : Int32) :
    Fills (v :: ap) (v' :: ap') (p.1 + 1, n :: p.2) (p'.1 + 1, n :: p'.2) where
  count := congrArg Nat.succ h.count
  count_le := Nat.succ_le_succ h.count_le
  length := congrArg Nat.succ h.length
  fields := by simp [h.fields]

/-- What is read does not depend on what the outputs held. -/
theorem rtSscanf_fills (rp fp : List UInt8) (ap ap' : List Int32) (hlen : ap'.length = ap.length) :
    Fills ap ap' (rtSscanf rp fp ap) (rtSscanf rp fp ap') := by
  induction rp, fp, ap using rtSscanf.induct generalizing ap' with
  | case1 rp ap => simpa [rtSscanf] using fills_stop ap ap'
  | case2 fc fp ap =>
      rw [rtSscanf_end, rtSscanf_end]
      exact fills_stop ap ap'
  | case3 rp fc fp ap hrp hsp ih =>
      rw [rtSscanf_space hrp hsp, rtSscanf_space hrp hsp]
      exact ih ap' hlen
  | case4 rp fc fp ap hrp hsp hfc hnil =>
      rw [rtSscanf_literal (by simpa using hsp) hfc, rtSscanf_literal (by simpa using hsp) hfc,
        hnil]
      exact fills_stop ap ap'
  | case5 rp fc fp ap hrp hsp hfc c rp₁ hcons hne =>
      rw [rtSscanf_literal (by simpa using hsp) hfc, rtSscanf_literal (by simpa using hsp) hfc,
        hcons]
      simpa [hne] using fills_stop ap ap'
  | case6 rp fc fp ap hrp hsp hfc c rp₁ hcons heq ih =>
      rw [rtSscanf_literal (by simpa using hsp) hfc, rtSscanf_literal (by simpa using hsp) hfc,
        hcons]
      simpa [heq] using ih ap' hlen
  | case7 rp fc hrp hsp hfc ap =>
      simpa [rtSscanf, hrp, hsp, hfc] using fills_stop ap ap'
  | case8 rp fc hrp hsp hfc fp v ap hnone =>
      obtain ⟨v', ap', rfl⟩ := List.exists_cons_of_length_eq_add_one hlen
      obtain rfl := not_not.mp hfc
      rw [rtSscanf_int (Or.inl ⟨rfl, rfl⟩), rtSscanf_int (Or.inl ⟨rfl, rfl⟩), hnone]
      exact fills_stop (v :: ap) (v' :: ap')
  | case9 rp fc hrp hsp hfc fp v ap n rp₁ hsome ret ap₁ hrec ih =>
      obtain ⟨v', ap', rfl⟩ := List.exists_cons_of_length_eq_add_one hlen
      obtain rfl := not_not.mp hfc
      rw [rtSscanf_int (Or.inl ⟨rfl, rfl⟩), rtSscanf_int (Or.inl ⟨rfl, rfl⟩), hsome]
      exact (ih ap' (Nat.succ.inj hlen)).cons v v' (Int32.ofInt n)
  | case10 rp fc hrp hsp hfc fp v ap hnone =>
      obtain ⟨v', ap', rfl⟩ := List.exists_cons_of_length_eq_add_one hlen
      obtain rfl := not_not.mp hfc
      rw [rtSscanf_int (Or.inr ⟨rfl, rfl⟩), rtSscanf_int (Or.inr ⟨rfl, rfl⟩), hnone]
      exact fills_stop (v :: ap) (v' :: ap')
  | case11 rp fc hrp hsp hfc fp v ap n rp₁ hsome ret ap₁ hrec ih =>
      obtain ⟨v', ap', rfl⟩ := List.exists_cons_of_length_eq_add_one hlen
      obtain rfl := not_not.mp hfc
      rw [rtSscanf_int (Or.inr ⟨rfl, rfl⟩), rtSscanf_int (Or.inr ⟨rfl, rfl⟩), hsome]
      exact (ih ap' (Nat.succ.inj hlen)).cons v v' (Int32.ofInt n)
  | case12 rp fc hrp hsp hfc c fp ap hd hx ih =>
      obtain rfl := not_not.mp hfc
      have hskip : ap = [] ∨ c ≠ 100 ∧ c ≠ 120 := by
        cases ap with
        | nil => exact Or.inl rfl
        | cons v ap => exact Or.inr ⟨fun h => hd v ap rfl h, fun h => hx v ap rfl h⟩
      have hskip' : ap' = [] ∨ c ≠ 100 ∧ c ≠ 120 :=
        hskip.imp_left fun h => List.eq_nil_of_length_eq_zero (by rw [hlen, h]; rfl)
      rw [rtSscanf_skip hskip, rtSscanf_skip hskip']
      exact ih ap' hlen

end

/-! ## the fields of a received buffer -/

/-- The first `count` outputs of a scan that starts from zeroed outputs. -/
def scanFields (rp fp : List UInt8) (count : Nat) : List Int32 :=
  let p := rtSscanf rp fp (List.replicate count 0)
  p.2.take p.1

/-- The integers a buffer gives `NormalSolve`. -/
def nodeFields (rxBuffer : List UInt8) : List Int32 := scanFields (cString rxBuffer) nodeFormat 5

/-- The integers a buffer gives `GatewayDataSolve`. -/
def gatewayFields (rxBuffer : List UInt8) : List Int32 :=
  scanFields (cString rxBuffer) gatewayFormat 6

/-- A scan fills at most the outputs it has. -/
theorem length_scanFields_le (rp fp : List UInt8) (count : Nat) :
    (scanFields rp fp count).length ≤ count := by
  have h := rtSscanf_fills rp fp (List.replicate count 0) (List.replicate count 0) rfl
  have hle := h.count_le
  rw [List.length_replicate] at hle
  exact (List.length_take_le _ _).trans hle

/-- The fields come first, and the outputs beyond them keep what they held. -/
theorem rtSscanf_fill (rp fp : List UInt8) (ap : List Int32) :
    rtSscanf rp fp ap = ((scanFields rp fp ap.length).length,
      scanFields rp fp ap.length ++ ap.drop (scanFields rp fp ap.length).length) := by
  have h := rtSscanf_fills rp fp (List.replicate ap.length 0) ap (by simp)
  have hlen : (scanFields rp fp ap.length).length =
      (rtSscanf rp fp (List.replicate ap.length 0)).1 := by
    have hle := h.count_le
    rw [← h.length] at hle
    simp [scanFields, hle]
  rw [hlen]
  exact Prod.ext h.count h.fields

/-- `Rx_message` after the scan of a node frame. -/
theorem scanNode_eq (rxMessage : Message) (rxBuffer : List UInt8) :
    scanNode rxMessage rxBuffer = ((nodeFields rxBuffer).length,
      { targetID := (nodeFields rxBuffer).getD 0 rxMessage.targetID
        fromID := (nodeFields rxBuffer).getD 1 rxMessage.fromID
        deviceID := rxMessage.deviceID
        counter := (nodeFields rxBuffer).getD 2 rxMessage.counter
        command := (nodeFields rxBuffer).getD 3 rxMessage.command
        data := (nodeFields rxBuffer).getD 4 rxMessage.data }) := by
  have hfill := rtSscanf_fill (cString rxBuffer) nodeFormat [rxMessage.targetID, rxMessage.fromID,
    rxMessage.counter, rxMessage.command, rxMessage.data]
  have hle : (nodeFields rxBuffer).length ≤ 5 := length_scanFields_le ..
  simp only [List.length_cons, List.length_nil, Nat.zero_add, Nat.reduceAdd] at hfill
  rw [← nodeFields] at hfill
  rw [scanNode, hfill]
  generalize nodeFields rxBuffer = fields at hle
  match fields, hle with
  | [], _ | [_], _ | [_, _], _ | [_, _, _], _ | [_, _, _, _], _ | [_, _, _, _, _], _ => rfl

/-- `Rx_message` after the scan of a gateway frame. -/
theorem scanGateway_eq (rxMessage : Message) (rxBuffer : List UInt8) :
    scanGateway rxMessage rxBuffer = ((gatewayFields rxBuffer).length,
      { targetID := (gatewayFields rxBuffer).getD 0 rxMessage.targetID
        fromID := (gatewayFields rxBuffer).getD 1 rxMessage.fromID
        deviceID := (gatewayFields rxBuffer).getD 2 rxMessage.deviceID
        counter := (gatewayFields rxBuffer).getD 3 rxMessage.counter
        command := (gatewayFields rxBuffer).getD 4 rxMessage.command
        data := (gatewayFields rxBuffer).getD 5 rxMessage.data }) := by
  have hfill := rtSscanf_fill (cString rxBuffer) gatewayFormat [rxMessage.targetID,
    rxMessage.fromID, rxMessage.deviceID, rxMessage.counter, rxMessage.command, rxMessage.data]
  have hle : (gatewayFields rxBuffer).length ≤ 6 := length_scanFields_le ..
  simp only [List.length_cons, List.length_nil, Nat.zero_add, Nat.reduceAdd] at hfill
  rw [← gatewayFields] at hfill
  rw [scanGateway, hfill]
  generalize gatewayFields rxBuffer = fields at hle
  match fields, hle with
  | [], _ | [_], _ | [_, _], _ | [_, _, _], _ | [_, _, _, _], _ | [_, _, _, _, _], _
  | [_, _, _, _, _, _], _ => rfl

/-! ## reading a printed frame -/

section

variable {rp fp : List UInt8} {ap : List Int32}

/-- A literal that is there. -/
theorem rtSscanf_match {c : UInt8} (hsp : isspace c = false) (hc : c ≠ 37) :
    rtSscanf (c :: rp) (c :: fp) ap = rtSscanf rp fp ap := by
  rw [rtSscanf_literal hsp hc]
  simp [hsp]

/-- A printed number is read back. -/
theorem rtSscanf_fmtInt {width : Nat} {n : Int} (hl : LONG_MIN ≤ n) (hu : n ≤ LONG_MAX)
    (hrp : NoDigitHead rp) (v : Int32) :
    rtSscanf (fmtInt width n ++ rp) (37 :: 100 :: fp) (v :: ap) =
      ((rtSscanf rp fp ap).1 + 1, Int32.ofInt n :: (rtSscanf rp fp ap).2) := by
  rw [rtSscanf_int (Or.inl ⟨rfl, rfl⟩), strtol_fmtInt_append width hl hu hrp]

end

/-- The numbers `%d` reads whole. -/
def IsLong (n : Int) : Prop := LONG_MIN ≤ n ∧ n ≤ LONG_MAX

/-- A node frame up to its last field. -/
def nodeHead (tagetID radioID : UInt32) (counter command : UInt8) : List UInt8 :=
  ascii "\x7b" ++ fmtLd 8 tagetID ++ ascii "," ++ fmtLd 8 radioID ++ ascii "," ++ fmtD 3 counter ++
    ascii "," ++ fmtD 2 command ++ ascii ","

/-- A node frame is its head, the data and the brace. -/
theorem nodeText_eq (tagetID radioID : UInt32) (counter command data : UInt8) :
    nodeText tagetID radioID counter command data =
      nodeHead tagetID radioID counter command ++ (fmtD 0 data ++ ascii "\x7d") := by
  rw [nodeText, nodeHead, List.append_assoc]

/-- An id is in the range of `strtol`. -/
theorem isLong_toInt (n : Int32) : IsLong n.toInt := by
  have hl := n.le_toInt
  have hu := n.toInt_lt
  unfold IsLong LONG_MIN LONG_MAX
  omega

/-- So is a byte. -/
theorem isLong_toNat (n : UInt8) : IsLong n.toNat := by
  have := n.toNat_lt
  unfold IsLong LONG_MIN LONG_MAX
  omega

/-- The first four fields read back over any digits that follow. -/
theorem rtSscanf_nodeHead (tagetID radioID : UInt32) (counter command : UInt8) (last : List UInt8)
    {n : Int} {rest : List UInt8} (hlast : strtol 10 last = some (n, rest)) :
    rtSscanf (nodeHead tagetID radioID counter command ++ last) nodeFormat
        (List.replicate 5 0) =
      (5, [tagetID.toInt32, radioID.toInt32, Int32.ofInt counter.toNat, Int32.ofInt command.toNat,
        Int32.ofInt n]) := by
  have hcomma : ∀ s, NoDigitHead (44 :: s) := fun s => (noDigitHead_cons 44 s).mpr (by decide)
  have htext : nodeHead tagetID radioID counter command ++ last =
      123 :: (fmtInt 8 tagetID.toInt32.toInt ++ (44 :: (fmtInt 8 radioID.toInt32.toInt ++
        (44 :: (fmtInt 3 counter.toNat ++
          (44 :: (fmtInt 2 command.toNat ++ (44 :: last)))))))) := by
    have hopen : ascii "\x7b" = [123] := rfl
    have hsep : ascii "," = [44] := rfl
    simp only [nodeHead, fmtLd, fmtD, hopen, hsep, List.append_assoc, List.cons_append,
      List.nil_append]
  have hformat : nodeFormat = [123, 37, 100, 44, 37, 100, 44, 37, 100, 44, 37, 100, 44, 37, 100,
    125] := rfl
  have hend : ∀ s, rtSscanf s [125] [] = (0, []) := by
    intro s
    rw [rtSscanf_literal (by decide) (by decide)]
    split
    · rfl
    · split
      · rfl
      · simp [rtSscanf]
  rw [htext, hformat, rtSscanf_match (by decide) (by decide)]
  simp only [List.replicate]
  rw [rtSscanf_fmtInt (isLong_toInt _).1 (isLong_toInt _).2 (hcomma _),
    rtSscanf_match (by decide) (by decide),
    rtSscanf_fmtInt (isLong_toInt _).1 (isLong_toInt _).2 (hcomma _),
    rtSscanf_match (by decide) (by decide),
    rtSscanf_fmtInt (isLong_toNat _).1 (isLong_toNat _).2 (hcomma _),
    rtSscanf_match (by decide) (by decide),
    rtSscanf_fmtInt (isLong_toNat _).1 (isLong_toNat _).2 (hcomma _),
    rtSscanf_match (by decide) (by decide), rtSscanf_int (Or.inl ⟨rfl, rfl⟩), hlast]
  simp only [hend, Int32.ofInt_toInt, Nat.zero_add, Nat.reduceAdd]

/-! ## the frame `SendPrepare` builds -/

/-- The two bytes after the head that the trailer leaves: a digit and the
brace, or the first two digits. -/
def nodeBody (data : UInt8) : List UInt8 := (fmtD 0 data ++ ascii "\x7d").take 2

/-- A node frame with the trailer at its offset. -/
def nodeFrame (tagetID radioID : UInt32) (counter command data : UInt8) : List UInt8 :=
  let text := nodeHead tagetID radioID counter command ++ nodeBody data
  text ++ nodeTrailer text

/-- An id of at most eight digits prints without a sign. -/
private theorem fmtLd_of_lt {width : Nat} {value : UInt32} (h : value.toNat < 10 ^ 8) :
    fmtLd width value = fmtInt width value.toNat := by
  have hint : value.toInt32.toInt = value.toNat := by
    show value.toBitVec.toInt = value.toBitVec.toNat
    rw [BitVec.toInt_eq_toNat_of_lt]
    show 2 * value.toNat < 2 ^ 32
    omega
  rw [fmtLd, hint]

section

variable {tagetID radioID : UInt32} {counter command data : UInt8}
  (ht : tagetID.toNat < 10 ^ 8) (hr : radioID.toNat < 10 ^ 8) (hc : command.toNat < 10 ^ 2)

include ht hr hc

/-- The head has 26 characters. -/
theorem length_nodeHead : (nodeHead tagetID radioID counter command).length = 26 := by
  have hcounter : counter.toNat < 10 ^ 3 := Nat.lt_trans counter.toNat_lt (by decide)
  simp only [nodeHead, fmtLd_of_lt ht, fmtLd_of_lt hr, fmtD, List.length_append,
    length_fmtInt_natCast (by decide : 0 < 8) ht, length_fmtInt_natCast (by decide : 0 < 8) hr,
    length_fmtInt_natCast (by decide : 0 < 3) hcounter,
    length_fmtInt_natCast (by decide : 0 < 2) hc]
  rfl

/-- The byte sum of the head: its digits over a constant. -/
theorem byteSum_nodeHead :
    ((nodeHead tagetID radioID counter command).map UInt8.toNat).sum =
      1307 + digitSum tagetID.toNat + digitSum radioID.toNat + digitSum counter.toNat +
        digitSum command.toNat := by
  have hcounter : counter.toNat < 10 ^ 3 := Nat.lt_trans counter.toNat_lt (by decide)
  have hopen : ((ascii "\x7b").map UInt8.toNat).sum = 123 := rfl
  have hsep : ((ascii ",").map UInt8.toNat).sum = 44 := rfl
  simp only [nodeHead, fmtLd_of_lt ht, fmtLd_of_lt hr, fmtD, List.map_append, List.sum_append,
    byteSum_fmtInt (by decide : 0 < 8) ht, byteSum_fmtInt (by decide : 0 < 8) hr,
    byteSum_fmtInt (by decide : 0 < 3) hcounter, byteSum_fmtInt (by decide : 0 < 2) hc, hopen, hsep]
  omega

end

/-- The head has no NUL. -/
theorem ne_zero_of_mem_nodeHead {tagetID radioID : UInt32} {counter command c : UInt8}
    (h : c ∈ nodeHead tagetID radioID counter command) : c ≠ 0 := by
  have hopen : ascii "\x7b" = [123] := rfl
  have hsep : ascii "," = [44] := rfl
  simp only [nodeHead, fmtLd, fmtD, hopen, hsep, List.mem_append, List.mem_singleton] at h
  rcases h with (((((((rfl | h) | rfl) | h) | rfl) | h) | rfl) | h) | rfl
  all_goals first | decide | exact ne_zero_of_mem_fmtInt h

/-! The last field: one digit with its brace, or the two leading digits. -/

/-- The leading two digits of a field that has them. -/
def leadingDigits (data : Nat) : Nat := if data < 100 then data else data / 10

/-- One digit is followed by the brace. -/
theorem nodeBody_of_lt {data : UInt8} (h : data.toNat < 10) :
    nodeBody data = [UInt8.ofNat (48 + data.toNat), 125] := by
  have hdec : fmtD 0 data = [UInt8.ofNat (48 + data.toNat)] := by
    rw [fmtD, fmtInt_natCast, decimal_eq, if_pos h, Nat.mod_eq_of_lt h]
    rfl
  rw [nodeBody, hdec]
  rfl

/-- More digits leave the first two. -/
theorem nodeBody_of_le {data : UInt8} (h : 10 ≤ data.toNat) :
    nodeBody data = decimal (leadingDigits data.toNat) := by
  have hlt := data.toNat_lt
  have htwo : ∀ n, 10 ≤ n → n < 100 → (decimal n).length = 2 := by
    intro n h10 h100
    have hle := (length_decimal_le_iff (by decide : 0 < 2)).mpr h100
    have hgt := mt (length_decimal_le_iff (n := n) (by decide : 0 < 1)).mp (by omega)
    omega
  have hfmt : fmtD 0 data = decimal data.toNat := by
    rw [fmtD, fmtInt_natCast, Nat.zero_sub]
    rfl
  rw [nodeBody, hfmt, leadingDigits]
  split
  · rename_i h100
    exact List.take_left' (htwo _ h h100)
  · rw [decimal_eq data.toNat, if_neg (by omega), List.append_assoc]
    exact List.take_left' (htwo _ (by omega) (by omega))

/-- Either way two characters are left. -/
theorem length_nodeBody (data : UInt8) : (nodeBody data).length = 2 := by
  by_cases h : data.toNat < 10
  · rw [nodeBody_of_lt h]; rfl
  · have hlt := data.toNat_lt
    have hpos := length_decimal_pos data.toNat
    rw [nodeBody, List.length_take, fmtD, fmtInt_natCast, List.length_append, List.length_append]
    show min 2 (_ + (decimal data.toNat).length + 1) = 2
    omega

/-- Neither is a NUL. -/
theorem ne_zero_of_mem_nodeBody {data c : UInt8} (h : c ∈ nodeBody data) : c ≠ 0 := by
  have hmem := List.mem_of_mem_take h
  have hclose : ascii "\x7d" = [125] := rfl
  rw [fmtD, hclose, List.mem_append, List.mem_singleton] at hmem
  obtain hmem | rfl := hmem
  · exact ne_zero_of_mem_fmtInt hmem
  · decide

/-- A hexadecimal digit is no NUL. -/
theorem hexDigit_ne_zero (nibble : UInt8) (h : nibble.toNat < 16) : hexDigit nibble ≠ 0 := by
  have key : ∀ n : Fin 16, hexDigit (UInt8.ofNat n) ≠ 0 := by decide
  have hn := key ⟨nibble.toNat, h⟩
  rwa [UInt8.ofNat_toNat] at hn

/-- The checksum of a frame, as `SendPrepare` sums it. -/
def byteCheck (text : List UInt8) : UInt8 := text.foldl (· + ·) 0

/-- The two halves of the check sum. -/
theorem nibbles_lt (check : UInt8) :
    (check >>> 4).toNat = check.toNat / 16 ∧ (check &&& 0xf).toNat = check.toNat % 16 := by
  constructor
  · rw [UInt8.toNat_shiftRight, Nat.shiftRight_eq_div_pow]
    rfl
  · rw [UInt8.toNat_and]
    exact Nat.and_two_pow_sub_one_eq_mod check.toNat 4

/-- The trailer is the check sum of the first 28 characters and CR LF. -/
private theorem nodeTrailer_eq {text buf : List UInt8} (h : buf.take 28 = text) :
    nodeTrailer buf =
      [hexDigit (byteCheck text >>> 4), hexDigit (byteCheck text &&& 0xf), 13, 10] := by
  rw [nodeTrailer, h]
  rfl

/-- The trailer has no NUL. -/
private theorem ne_zero_of_mem_nodeTrailer {buf : List UInt8} {c : UInt8}
    (h : c ∈ nodeTrailer buf) : c ≠ 0 := by
  rw [nodeTrailer_eq rfl] at h
  have hlt := (byteCheck (buf.take 28)).toNat_lt
  have hnib := nibbles_lt (byteCheck (buf.take 28))
  simp only [List.mem_cons, List.not_mem_nil, or_false] at h
  obtain rfl | rfl | rfl | rfl := h
  · exact hexDigit_ne_zero _ (by omega)
  · exact hexDigit_ne_zero _ (by omega)
  · decide
  · decide

section

variable {send : RadioNormalFormat} {radioID : UInt32} (ht : send.tagetID.toNat < 10 ^ 8)
  (hr : radioID.toNat < 10 ^ 8) (hc : send.command.toNat < 10 ^ 2)

include ht hr hc

/-- A frame is 30 bytes and CR LF. -/
theorem nodeFrame_crlf (counter data : UInt8) : ∃ front : List UInt8, front.length = 30 ∧
    nodeFrame send.tagetID radioID counter send.command data = front ++ [13, 10] := by
  let text := nodeHead send.tagetID radioID counter send.command ++ nodeBody data
  let check := byteCheck (text.take 28)
  refine ⟨text ++ [hexDigit (check >>> 4), hexDigit (check &&& 0xf)], ?_, ?_⟩
  · simp [text, length_nodeHead ht hr hc, length_nodeBody]
  · rw [List.append_assoc]
    rfl

/-- **What goes on the air** for a node message. -/
theorem sentString_sendPrepare (htype : send.type = 0) (gatewayID : UInt32) :
    sentString (sendPrepare send gatewayID radioID) =
      nodeFrame send.tagetID radioID (send.counter + 1) send.command send.data := by
  let head := nodeHead send.tagetID radioID (send.counter + 1) send.command
  let field := fmtD 0 send.data ++ ascii "\x7d"
  let buf := sprintfBuf (head ++ field)
  have hhead : head.length = 26 := length_nodeHead ht hr hc
  have hfield : 2 ≤ field.length ∧ field.length ≤ 4 := by
    have hpos := length_decimal_pos send.data.toNat
    have hle : (decimal send.data.toNat).length ≤ 3 := (length_decimal_le_iff (by decide)).mpr
      (Nat.lt_trans send.data.toNat_lt (by decide))
    have hlen : field.length = (decimal send.data.toNat).length + 1 := by
      simp only [field, fmtD, fmtInt_natCast, Nat.zero_sub, List.replicate_zero, List.nil_append,
        List.length_append]
      rfl
    omega
  have hbuf :
      buf = head ++ (field ++ List.replicate (radioSendBufSize - (head ++ field).length) 0) := by
    simp [buf, sprintfBuf, poke]
  have htake : buf.take 28 = head ++ nodeBody send.data := by
    rw [hbuf, List.take_append, List.take_of_length_le (by omega), hhead,
      List.take_append_of_le_length hfield.1]
    rfl
  have hdrop : ∀ c ∈ buf.drop 32, c = 0 := by
    intro c hmem
    rw [hbuf, ← List.append_assoc, List.drop_append,
      List.drop_eq_nil_of_le (by rw [List.length_append]; omega), List.nil_append] at hmem
    exact List.eq_of_mem_replicate (List.mem_of_mem_drop hmem)
  have htrailer : nodeTrailer buf = nodeTrailer (head ++ nodeBody send.data) := by
    rw [nodeTrailer_eq htake, nodeTrailer_eq]
    exact List.take_of_length_le (by rw [List.length_append, hhead, length_nodeBody])
  have hsent : ∀ c ∈ head ++ nodeBody send.data ++ nodeTrailer (head ++ nodeBody send.data),
      decide (c ≠ 0) = true := by
    intro c hmem
    rw [decide_eq_true_iff]
    simp only [List.mem_append] at hmem
    obtain (hmem | hmem) | hmem := hmem
    · exact ne_zero_of_mem_nodeHead hmem
    · exact ne_zero_of_mem_nodeBody hmem
    · exact ne_zero_of_mem_nodeTrailer hmem
  rw [sendPrepare, if_pos htype, nodeText_eq]
  show sentString (buf.take 28 ++ nodeTrailer buf ++ buf.drop 32) =
    head ++ nodeBody send.data ++ nodeTrailer (head ++ nodeBody send.data)
  have hzeros : (buf.drop 32).takeWhile (fun c => decide (c ≠ 0)) = [] := by
    cases hd : buf.drop 32 with
    | nil => rfl
    | cons c cs =>
        have h0 : c = 0 := hdrop c (by rw [hd]; exact List.mem_cons_self)
        simp [h0]
  rw [htake, htrailer, sentString, List.takeWhile_append_of_pos hsent, hzeros, List.append_nil]

end

/-! ## the round trip -/

/-- What a receiver reads back as the last field: the leading digits, run
together with the digits of the checksum that follow them. -/
def readBack (data check : Nat) : Nat :=
  if data < 10 then data
  else if 10 ≤ check / 16 then leadingDigits data
  else if 10 ≤ check % 16 then leadingDigits data * 10 + check / 16
  else leadingDigits data * 100 + check / 16 * 10 + check % 16

/-- A half of the check sum below 10 prints as a digit. -/
private theorem hexDigit_digit {nibble : UInt8} (h : nibble.toNat < 10) :
    isDigit (hexDigit nibble) = true ∧ (hexDigit nibble).toNat - 48 = nibble.toNat := by
  have key : ∀ n : Fin 10, isDigit (hexDigit (UInt8.ofNat n)) = true ∧
      (hexDigit (UInt8.ofNat n)).toNat - 48 = n := by decide
  have hn := key ⟨nibble.toNat, h⟩
  rwa [UInt8.ofNat_toNat] at hn

/-- One from 10 on prints as a letter. -/
private theorem hexDigit_letter {nibble : UInt8} (h : 10 ≤ nibble.toNat) (h16 : nibble.toNat < 16) :
    isDigit (hexDigit nibble) = false := by
  have key : ∀ n : Fin 16, 10 ≤ n.val → isDigit (hexDigit (UInt8.ofNat n)) = false := by decide
  have hn := key ⟨nibble.toNat, h16⟩ h
  rwa [UInt8.ofNat_toNat] at hn

/-- `strtol` on the end of a frame. -/
theorem strtol_nodeBody (data check : UInt8) (rest : List UInt8) :
    ∃ rest', strtol 10 (nodeBody data ++
      (hexDigit (check >>> 4) :: hexDigit (check &&& 0xf) :: 13 :: rest)) =
        some ((readBack data.toNat check.toNat : Int), rest') := by
  obtain ⟨hhi, hlo⟩ := nibbles_lt check
  have hlt := check.toNat_lt
  have hdata := data.toNat_lt
  have hsat : ∀ n : Nat, n < 100000 → saturate n = n := by
    intro n hn
    refine saturate_of_mem ?_ ?_ <;> simp only [LONG_MIN, LONG_MAX] <;> omega
  have hlead : leadingDigits data.toNat < 100 := by unfold leadingDigits; split <;> omega
  have hread : ∀ {ds rest : List UInt8} {n : Nat}, ds ≠ [] → (∀ c ∈ ds, isDigit c = true) →
      NoDigitHead rest → decVal ds = n → n < 100000 →
      strtol 10 (ds ++ rest) = some ((n : Int), rest) := by
    intro ds rest n hne hdig hrest hval hn
    rw [strtol_digits_append hne hdig hrest, hval, hsat n hn]
  unfold readBack
  split
  · rename_i h10
    have hbody : nodeBody data = decimal data.toNat ++ [125] := by
      rw [nodeBody_of_lt h10, decimal_eq, if_pos h10, Nat.mod_eq_of_lt h10]
      rfl
    rw [hbody, List.append_assoc]
    exact ⟨_, hread (decimal_ne_nil _) (fun c hc => isDigit_of_mem_decimal hc)
      ((noDigitHead_cons _ _).mpr (by decide)) (decVal_decimal _) (by omega)⟩
  · rename_i h10
    rw [nodeBody_of_le (by omega)]
    split
    · rename_i hhi10
      refine ⟨_, hread (decimal_ne_nil _) (fun c hc => isDigit_of_mem_decimal hc) ?_
        (decVal_decimal _) (by omega)⟩
      exact (noDigitHead_cons _ _).mpr (hexDigit_letter (by omega) (by omega))
    · rename_i hhi10
      obtain ⟨hd, hv⟩ := hexDigit_digit (show (check >>> 4).toNat < 10 by omega)
      split
      · rename_i hlo10
        refine ⟨hexDigit (check &&& 0xf) :: 13 :: rest, ?_⟩
        rw [List.append_cons]
        refine hread (by simp) ?_ ((noDigitHead_cons _ _).mpr
          (hexDigit_letter (by omega) (by omega))) ?_ (by omega)
        · intro c hc
          rw [List.mem_append, List.mem_singleton] at hc
          obtain hc | rfl := hc
          · exact isDigit_of_mem_decimal hc
          · exact hd
        · rw [decVal_append_singleton, decVal_decimal, hv, hhi]
      · rename_i hlo10
        obtain ⟨hd', hv'⟩ := hexDigit_digit (show (check &&& 0xf).toNat < 10 by omega)
        refine ⟨13 :: rest, ?_⟩
        rw [List.append_cons, List.append_cons]
        refine hread (by simp) ?_ ((noDigitHead_cons _ _).mpr (by decide)) ?_ (by omega)
        · intro c hc
          simp only [List.mem_append, List.mem_singleton] at hc
          obtain (hc | rfl) | rfl := hc
          · exact isDigit_of_mem_decimal hc
          · exact hd
          · exact hd'
        · rw [decVal_append_singleton, decVal_append_singleton, decVal_decimal, hv, hv', hhi, hlo]
          omega

/-- The field survives when it has one digit, or when what follows its leading
digits does not change it. -/
theorem readBack_eq_iff {data check : Nat} (hd : data < 256) (hc : check < 256) :
    readBack data check = data ↔ data < 10 ∨ (data < 100 ∧ 10 ≤ check / 16) ∨
      (100 ≤ data ∧ check / 16 = data % 10 ∧ 10 ≤ check % 16) := by
  unfold readBack leadingDigits
  repeat' split
  all_goals omega

/-- The buffer a receiver gets: the length byte, the frame, and whatever the
buffer held behind it. -/
def received (frame rest : List UInt8) : List UInt8 := UInt8.ofNat frame.length :: (frame ++ rest)

/-- CR LF at the end of the frame is the frame end. -/
theorem nodeFrameEnd_received {front : List UInt8} (h : front.length + 2 < 256)
    (rest : List UInt8) :
    nodeFrameEnd (received (front ++ [13, 10]) rest) (UInt8.ofNat (front.length + 2)) := by
  have hat : ∀ k, (received (front ++ [13, 10]) rest).getD (front.length + 1 + k) 0 =
      (13 :: 10 :: rest).getD k 0 := by
    intro k
    rw [received, List.append_assoc, Nat.add_right_comm, List.getD_cons_succ,
      List.getD_eq_getElem?_getD, List.getElem?_append_right (by omega), Nat.add_sub_cancel_left,
      List.getD_eq_getElem?_getD]
    rfl
  have hlen : (UInt8.ofNat (front.length + 2)).toNat = front.length + 2 :=
    UInt8.toNat_ofNat_of_lt' h
  have hpred : ((front.length + 2 : Nat) : Int) - 1 = ((front.length + 1 : Nat) : Int) := by omega
  rw [nodeFrameEnd, hlen, hpred, byteAt_natCast, byteAt_natCast]
  exact ⟨hat 1, hat 0⟩

/-- The frame of a node message has 32 bytes, ends in CR LF, is accepted, and
reads back as the message. -/
structure RoundTrips (send : RadioNormalFormat) (gatewayID radioID : UInt32) : Prop where
  length : (sentString (sendPrepare send gatewayID radioID)).length = 32
  crlf : (sentString (sendPrepare send gatewayID radioID)).drop 30 = [13, 10]
  accepted : ∀ rest,
    nodeFrameEnd (received (sentString (sendPrepare send gatewayID radioID)) rest) 32
  readsBack : ∀ rest rxMessage,
    scanNode rxMessage (received (sentString (sendPrepare send gatewayID radioID)) rest) =
      (5, { rxMessage with
        targetID := send.tagetID.toInt32
        fromID := radioID.toInt32
        counter := Int32.ofNat ((send.counter.toNat + 1) % 256)
        command := Int32.ofNat send.command.toNat
        data := Int32.ofNat send.data.toNat })

/-- The checksum of a frame whose last field has two or three digits, from the
digits of the message. -/
def nodeChecksum (send : RadioNormalFormat) (radioID : UInt32) : Nat :=
  (123 + digitSum send.tagetID.toNat + digitSum radioID.toNat +
    digitSum ((send.counter.toNat + 1) % 256) + digitSum send.command.toNat +
    digitSum (leadingDigits send.data.toNat)) % 256

/-- One digit, or digits the checksum does not run into: with two digits its
first is a letter, with three it is the third digit and the second a letter. -/
def FieldSurvives (send : RadioNormalFormat) (radioID : UInt32) : Prop :=
  send.data.toNat < 10 ∨
  (send.data.toNat < 100 ∧ 10 ≤ nodeChecksum send radioID / 16) ∨
  (100 ≤ send.data.toNat ∧ nodeChecksum send radioID / 16 = send.data.toNat % 10 ∧
    10 ≤ nodeChecksum send radioID % 16)

section

variable {send : RadioNormalFormat} {radioID : UInt32} (ht : send.tagetID.toNat < 10 ^ 8)
  (hr : radioID.toNat < 10 ^ 8) (hc : send.command.toNat < 10 ^ 2)

include ht hr hc

/-- The checksum `SendPrepare` writes is that of the digits. -/
theorem byteCheck_toNat (hdata : 10 ≤ send.data.toNat) :
    (byteCheck (nodeHead send.tagetID radioID (send.counter + 1) send.command ++
      nodeBody send.data)).toNat = nodeChecksum send radioID := by
  have hlt := send.data.toNat_lt
  have hlead : leadingDigits send.data.toNat < 10 ^ 2 := by unfold leadingDigits; split <;> omega
  have hlen : (decimal (leadingDigits send.data.toNat)).length = 2 := by
    rw [← nodeBody_of_le hdata, length_nodeBody]
  have hcounter : (send.counter + 1).toNat = (send.counter.toNat + 1) % 256 := by
    rw [UInt8.toNat_add]; rfl
  rw [byteCheck, foldl_add_toNat, List.map_append, List.sum_append, byteSum_nodeHead ht hr hc,
    nodeBody_of_le hdata, byteSum_decimal, hlen, hcounter, nodeChecksum]
  simp only [show (0 : UInt8).toNat = 0 from rfl]
  omega

/-- What a receiver gets from a frame. -/
theorem scanNode_nodeFrame (htype : send.type = 0) (gatewayID : UInt32) (rest : List UInt8)
    (rxMessage : Message) :
    ∃ check, (10 ≤ send.data.toNat → check = nodeChecksum send radioID) ∧ check < 256 ∧
      scanNode rxMessage (received (sentString (sendPrepare send gatewayID radioID)) rest) =
        (5, { rxMessage with
          targetID := send.tagetID.toInt32
          fromID := radioID.toInt32
          counter := Int32.ofNat ((send.counter.toNat + 1) % 256)
          command := Int32.ofNat send.command.toNat
          data := Int32.ofNat (readBack send.data.toNat check) }) := by
  let text := nodeHead send.tagetID radioID (send.counter + 1) send.command ++ nodeBody send.data
  refine ⟨(byteCheck text).toNat, byteCheck_toNat ht hr hc, (byteCheck text).toNat_lt, ?_⟩
  have hlen : text.length = 28 := by
    rw [List.length_append, length_nodeHead ht hr hc, length_nodeBody]
  have htrailer := nodeTrailer_eq (List.take_of_length_le (l := text) (i := 28) (by omega))
  obtain ⟨rest', hlast⟩ := strtol_nodeBody send.data (byteCheck text) (10 :: rest.takeWhile (· ≠ 0))
  have hframe := sentString_sendPrepare ht hr hc htype gatewayID
  have hcstring : cString (received (sentString (sendPrepare send gatewayID radioID)) rest) =
      nodeHead send.tagetID radioID (send.counter + 1) send.command ++ (nodeBody send.data ++
        (hexDigit (byteCheck text >>> 4) :: hexDigit (byteCheck text &&& 0xf) :: 13 :: 10 ::
          rest.takeWhile (· ≠ 0))) := by
    have hsent : ∀ c ∈ nodeFrame send.tagetID radioID (send.counter + 1) send.command send.data,
        decide (c ≠ 0) = true := by
      intro c hmem
      rw [← hframe] at hmem
      exact List.all_eq_true.mp List.all_takeWhile c hmem
    rw [cString, received, List.drop_one, List.tail_cons, hframe,
      List.takeWhile_append_of_pos hsent, nodeFrame]
    show text ++ nodeTrailer text ++ _ = _
    rw [htrailer]
    simp [text]
  have hfields : nodeFields (received (sentString (sendPrepare send gatewayID radioID)) rest) =
      [send.tagetID.toInt32, radioID.toInt32, Int32.ofInt (send.counter + 1).toNat,
        Int32.ofInt send.command.toNat,
        Int32.ofInt (readBack send.data.toNat (byteCheck text).toNat)] := by
    rw [nodeFields, scanFields, hcstring, rtSscanf_nodeHead _ _ _ _ _ hlast]
    rfl
  have hcounter : (send.counter + 1).toNat = (send.counter.toNat + 1) % 256 := by
    rw [UInt8.toNat_add]; rfl
  rw [scanNode_eq, hfields, hcounter]
  rfl

/-- **A node frame reads back** exactly when its last field survives the
checksum at its fixed offset. -/
theorem node_frame_roundtrip (htype : send.type = 0) (gatewayID : UInt32) :
    RoundTrips send gatewayID radioID ↔ FieldSurvives send radioID := by
  have hframe := sentString_sendPrepare ht hr hc htype gatewayID
  have hd : send.data.toNat < 256 := send.data.toNat_lt
  have hsurvives : ∀ check, (10 ≤ send.data.toNat → check = nodeChecksum send radioID) →
      check < 256 → (readBack send.data.toNat check = send.data.toNat ↔
        FieldSurvives send radioID) := by
    intro check hcheck hlt
    rw [readBack_eq_iff hd hlt, FieldSurvives]
    by_cases h10 : send.data.toNat < 10
    · simp only [h10, true_or]
    · rw [hcheck (by omega)]
  constructor
  · rintro ⟨-, -, -, hback⟩
    obtain ⟨check, hcheck, hlt, hscan⟩ :=
      scanNode_nodeFrame ht hr hc htype gatewayID [] ⟨0, 0, 0, 0, 0, 0⟩
    have hdata := congrArg (fun p : Nat × Message => p.2.data.toInt) (hscan.symm.trans (hback [] _))
    dsimp only at hdata
    refine (hsurvives check hcheck hlt).mp ?_
    have hread : readBack send.data.toNat check < 10000 := by
      unfold readBack leadingDigits
      repeat' split
      all_goals omega
    rw [Int32.toInt_ofNat_of_lt (by omega), Int32.toInt_ofNat_of_lt (by omega)] at hdata
    omega
  · intro hfield
    obtain ⟨front, hfront, hcrlf⟩ := nodeFrame_crlf ht hr hc (send.counter + 1) send.data
    rw [← hframe] at hcrlf
    refine ⟨by simp [hcrlf, hfront], by rw [hcrlf, List.drop_left' hfront], ?_, ?_⟩
    · intro rest
      have hlast := nodeFrameEnd_received (show front.length + 2 < 256 by omega) rest
      rw [hfront] at hlast
      rw [hcrlf]
      exact hlast
    · intro rest rxMessage
      obtain ⟨check, hcheck, hlt, hscan⟩ :=
        scanNode_nodeFrame ht hr hc htype gatewayID rest rxMessage
      rw [hscan, (hsurvives check hcheck hlt).mpr hfield]

end

/-- An answer to command `command` with this data, after 255 frames. -/
def answer (command data : UInt8) : RadioNormalFormat where
  tagetID := 10000001
  counter := 255
  command := command
  data := data

/-- The ids of an answer have at most eight digits. -/
private theorem answer_small (command data : UInt8) :
    (answer command data).tagetID.toNat < 10 ^ 8 ∧ (10000000 : UInt32).toNat < 10 ^ 8 := by
  show (10000001 : UInt32).toNat < 10 ^ 8 ∧ (10000000 : UInt32).toNat < 10 ^ 8
  decide +kernel

/-- The answer to an open command. -/
theorem node_frame_roundtrip_open : RoundTrips (answer 5 1) 0 10000000 :=
  (node_frame_roundtrip (answer_small 5 1).1 (answer_small 5 1).2 (by decide +kernel) rfl 0).mpr
    (Or.inl (by decide +kernel))

/-- Data 10 echoed to command 8 reads back as 1087. -/
theorem not_node_frame_roundtrip : ¬∀ (send : RadioNormalFormat) (gatewayID radioID : UInt32),
    send.type = 0 → send.tagetID.toNat < 10 ^ 8 → radioID.toNat < 10 ^ 8 →
      send.command.toNat < 10 ^ 2 → RoundTrips send gatewayID radioID := by
  intro hall
  have hback := (hall (answer 8 10) 0 10000000 rfl (answer_small 8 10).1
    (answer_small 8 10).2 (by decide +kernel)).readsBack [] ⟨0, 0, 0, 0, 0, 0⟩
  have hread : (scanNode ⟨0, 0, 0, 0, 0, 0⟩
      (received (sentString (sendPrepare (answer 8 10) 0 10000000)) [])).2.data ≠
        Int32.ofNat (answer 8 10).data.toNat := by decide +kernel
  exact hread (congrArg (fun p : Nat × Message => p.2.data) hback)

/-! ## a frame from any sender -/

/-- A broadcast from a sender, its fields in decimal. -/
def broadcast (fromID : Int32) (command data : UInt8) : List UInt8 :=
  nodeText 99999999 fromID.toUInt32 1 command data ++ [13, 10]

/-- What a receiver finds in it. -/
def broadcastMessage (deviceID fromID : Int32) (command data : UInt8) : Message where
  targetID := 99999999
  fromID := fromID
  deviceID := deviceID
  counter := 1
  command := Int32.ofNat command.toNat
  data := Int32.ofNat data.toNat

section

variable (fromID : Int32) (command data : UInt8)

/-- The broadcast is a head, the data and the end of the frame. -/
private theorem broadcast_eq : broadcast fromID command data =
    nodeHead 99999999 fromID.toUInt32 1 command ++ (fmtD 0 data ++ [125, 13, 10]) := by
  have hclose : ascii "\x7d" = [125] := rfl
  rw [broadcast, nodeText_eq, hclose]
  simp

/-- The buffer holds the broadcast and nothing behind it. -/
private theorem cString_broadcast :
    cString (received (broadcast fromID command data) []) = broadcast fromID command data := by
  have hnul : ∀ c ∈ broadcast fromID command data, decide (c ≠ 0) = true := by
    intro c hc
    rw [decide_eq_true_iff]
    rw [broadcast_eq, List.mem_append, List.mem_append] at hc
    obtain hc | hc | hc := hc
    · exact ne_zero_of_mem_nodeHead hc
    · exact ne_zero_of_mem_fmtInt hc
    · simp only [List.mem_cons, List.not_mem_nil, or_false] at hc
      obtain rfl | rfl | rfl := hc <;> decide
  have htake : (broadcast fromID command data ++ []).takeWhile (fun c => decide (c ≠ 0)) = _ :=
    List.takeWhile_append_of_pos hnul
  rw [List.append_nil] at htake
  rw [cString, received, List.drop_one, List.tail_cons, List.append_nil, htake]
  exact List.append_nil _

/-- `NormalSolve` reads all five fields of it. -/
theorem scanNode_broadcast (rxMessage : Message) :
    scanNode rxMessage (received (broadcast fromID command data) []) =
      (5, broadcastMessage rxMessage.deviceID fromID command data) := by
  have hlast : strtol 10 (fmtD 0 data ++ (125 :: [13, 10])) =
      some ((data.toNat : Int), [125, 13, 10]) :=
    strtol_fmtInt_append 0 (isLong_toNat data).1 (isLong_toNat data).2
      ((noDigitHead_cons 125 _).mpr (by decide))
  have hfields : nodeFields (received (broadcast fromID command data) []) =
      [(99999999 : UInt32).toInt32, fromID.toUInt32.toInt32, Int32.ofInt (1 : UInt8).toNat,
        Int32.ofInt command.toNat, Int32.ofInt data.toNat] := by
    rw [nodeFields, scanFields, cString_broadcast, broadcast_eq, rtSscanf_nodeHead _ _ _ _ _ hlast]
    rfl
  rw [scanNode_eq, hfields]
  rfl

/-- Its length byte. -/
def broadcastLen : UInt8 := UInt8.ofNat (broadcast fromID command data).length

/-- It has its frame end. -/
theorem nodeFrameEnd_broadcast :
    nodeFrameEnd (received (broadcast fromID command data) [])
      (broadcastLen fromID command data) := by
  have hint : ∀ n : Int, IsLong n → n.natAbs < 10 ^ 10 := by
    intro n hn
    unfold IsLong LONG_MIN LONG_MAX at hn
    omega
  have hshort : (nodeText 99999999 fromID.toUInt32 1 command data).length + 2 < 256 := by
    have h1 := length_fmtInt_le 8 (hint _ (isLong_toInt (99999999 : UInt32).toInt32))
    have h2 := length_fmtInt_le 8 (hint _ (isLong_toInt fromID.toUInt32.toInt32))
    have h3 := length_fmtInt_le 3 (hint _ (isLong_toNat 1))
    have h4 := length_fmtInt_le 2 (hint _ (isLong_toNat command))
    have h5 := length_fmtInt_le 0 (hint _ (isLong_toNat data))
    have hopen : (ascii "\x7b").length = 1 := rfl
    have hsep : (ascii ",").length = 1 := rfl
    have hclose : (ascii "\x7d").length = 1 := rfl
    simp only [nodeText, fmtLd, fmtD, List.length_append, hopen, hsep, hclose]
    omega
  have hend := nodeFrameEnd_received hshort []
  rwa [broadcastLen, broadcast, List.length_append]

theorem byteAt_broadcast : byteAt (received (broadcast fromID command data) []) 1 = 123 := by
  rw [broadcast_eq]
  rfl

end

end WaterValve
