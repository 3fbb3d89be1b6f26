import WaterValve.Receive

/-!
# WaterValve.ReceiveBounds

The elements of `RXBuff` that the receive path uses: `ReceiveData` writes them,
`rf433_rx_callback`, `NormalSolve` and `GatewayDataSolve` read them.  All lie
in the buffer but one: `rx_buffer[rx_len-1]` of `NormalSolve` is element -1
after a frame of one byte.  Which chunks lead there is `accesses_inBounds_iff`.
-/

namespace WaterValve

/-! ## the accesses of the callback -/

/-- The elements `rt_sscanf` may read from `rx_buffer[1]` on: up to the first
NUL, with it. -/
def scanIndices (rxBuffer : List UInt8) : List Int :=
  (List.range ((cString rxBuffer).length + 1)).map fun i : Nat => (i : Int) + 1

/-- The elements `NormalSolve` reads; `&&` reads the second one only after the
first. -/
def normalSolveIndices (rxBuffer : List UInt8) (rxLen : UInt8) : List Int :=
  (rxLen.toNat : Int) ::
    if byteAt rxBuffer rxLen.toNat = 0x0A then
      ((rxLen.toNat : Int) - 1) ::
        if byteAt rxBuffer (rxLen.toNat - 1) = 0x0D then scanIndices rxBuffer else []
    else []

/-- The elements `GatewayDataSolve` reads. -/
def gatewayDataSolveIndices (rxBuffer : List UInt8) (rxLen : UInt8) : List Int :=
  (rxLen.toNat : Int) :: if byteAt rxBuffer rxLen.toNat = 71 then scanIndices rxBuffer else []

/-- The elements `rf433_rx_callback` reads. -/
def rf433RxCallbackIndices (buffer : List UInt8) (len : UInt8) : List Int :=
  1 :: if byteAt buffer 1 = 123 then normalSolveIndices buffer len
    else if byteAt buffer 1 = 71 then gatewayDataSolveIndices buffer len
    else []

/-- The elements that `rf_433_task_callback` has the callback read after
`ReceiveData`. -/
def Ax5043.rxReads (dev : Ax5043) : List Int :=
  if dev.rxLen ≠ 0 then rf433RxCallbackIndices dev.rxBuff (dev.rxLen - 1) else []

/-- An element of `RXBuff`. -/
def InRxBuff (i : Int) : Prop := 0 ≤ i ∧ i < rxBuffSize

instance (i : Int) : Decidable (InRxBuff i) := inferInstanceAs (Decidable (_ ∧ _))

/-- No access after which the radio is in this state leaves `RXBuff`. -/
def Ax5043.AccessesInBounds (dev : Ax5043) : Prop :=
  (∀ i ∈ dev.rxIndices, InRxBuff i) ∧ ∀ i ∈ dev.rxReads, InRxBuff i

instance (dev : Ax5043) : Decidable dev.AccessesInBounds := inferInstanceAs (Decidable (_ ∧ _))

/-! ## nothing else is read -/

section

variable {buffer buffer' : List UInt8} {len : UInt8}

/-- Strings are equal that agree up to the NUL of the first. -/
theorem takeWhile_ne_zero_congr {bytes bytes' : List UInt8}
    (h : ∀ i ≤ (bytes.takeWhile (· ≠ 0)).length, bytes.getD i 0 = bytes'.getD i 0) :
    bytes.takeWhile (· ≠ 0) = bytes'.takeWhile (· ≠ 0) := by
  induction bytes generalizing bytes' with
  | nil =>
      have h0 := h 0 (Nat.zero_le _)
      cases bytes' with
      | nil => rfl
      | cons b' bytes' =>
          have hb' : b' = 0 := by simpa using h0.symm
          simp [hb']
  | cons b bytes ih =>
      have h0 := h 0 (Nat.zero_le _)
      cases bytes' with
      | nil =>
          have hb : b = 0 := by simpa using h0
          simp [hb]
      | cons b' bytes' =>
          have hbb' : b = b' := by simpa using h0
          subst hbb'
          by_cases hb : b = 0
          · simp [hb]
          · rw [List.takeWhile_cons_of_pos (by simpa using hb)] at h ⊢
            rw [List.takeWhile_cons_of_pos (by simpa using hb)]
            rw [ih fun i hi => by simpa using h (i + 1) (by simpa using hi)]

/-- A string depends on the bytes the scan visits. -/
theorem cString_congr (h : ∀ i ∈ scanIndices buffer, byteAt buffer i = byteAt buffer' i) :
    cString buffer = cString buffer' := by
  apply takeWhile_ne_zero_congr
  intro i hi
  have hmem : ((i : Int) + 1) ∈ scanIndices buffer :=
    List.mem_map.mpr ⟨i, List.mem_range.mpr (Nat.lt_succ_of_le hi), rfl⟩
  have hread := h _ hmem
  rw [← Nat.cast_succ, byteAt_natCast, byteAt_natCast] at hread
  simpa [List.getD_eq_getElem?_getD, Nat.add_comm] using hread

/-- `NormalSolve` depends on the bytes it reads. -/
theorem normalSolve_congr (h : ∀ i ∈ normalSolveIndices buffer len,
    byteAt buffer i = byteAt buffer' i) (rxMessage : Message) (rssi : Int) (s : State) :
    normalSolve rxMessage rssi buffer len s = normalSolve rxMessage rssi buffer' len s := by
  have hlen := h _ List.mem_cons_self
  unfold normalSolve
  by_cases ha : byteAt buffer len.toNat = 0x0A
  · rw [normalSolveIndices, if_pos ha] at h
    have hprev := h _ (List.mem_cons_of_mem _ List.mem_cons_self)
    by_cases hd : byteAt buffer (len.toNat - 1) = 0x0D
    · rw [if_pos hd] at h
      have hscan : scanNode rxMessage buffer = scanNode rxMessage buffer' := by
        unfold scanNode
        rw [cString_congr fun i hi => h i (List.mem_cons_of_mem _ (List.mem_cons_of_mem _ hi))]
      have hend : nodeFrameEnd buffer len := ⟨ha, hd⟩
      have hend' : nodeFrameEnd buffer' len := ⟨hlen ▸ ha, hprev ▸ hd⟩
      rw [if_pos hend, if_pos hend', hscan]
    · have hend : ¬nodeFrameEnd buffer len := fun hend => hd hend.2
      have hend' : ¬nodeFrameEnd buffer' len := fun hend => hd (hprev.trans hend.2)
      rw [if_neg hend, if_neg hend']
  · have hend : ¬nodeFrameEnd buffer len := fun hend => ha hend.1
    have hend' : ¬nodeFrameEnd buffer' len := fun hend => ha (hlen.trans hend.1)
    rw [if_neg hend, if_neg hend']

/-- So does `GatewayDataSolve`. -/
theorem gatewayDataSolve_congr (h : ∀ i ∈ gatewayDataSolveIndices buffer len,
    byteAt buffer i = byteAt buffer' i) (rxMessage : Message) (s : State) :
    gatewayDataSolve rxMessage buffer len s = gatewayDataSolve rxMessage buffer' len s := by
  have hlen := h _ List.mem_cons_self
  unfold gatewayDataSolve
  by_cases hG : byteAt buffer len.toNat = 71
  · have hend : gatewayFrameEnd buffer len := hG
    have hend' : gatewayFrameEnd buffer' len := hlen.symm.trans hG
    have hscan : scanGateway rxMessage buffer = scanGateway rxMessage buffer' := by
      unfold scanGateway
      rw [gatewayDataSolveIndices, if_pos hG] at h
      rw [cString_congr fun i hi => h i (List.mem_cons_of_mem _ hi)]
    rw [if_pos hend, if_pos hend', hscan]
  · have hend : ¬gatewayFrameEnd buffer len := hG
    have hend' : ¬gatewayFrameEnd buffer' len := fun hG' => hG (hlen.trans hG')
    rw [if_neg hend, if_neg hend']

/-- **What the callback does depends on the listed elements** and on no other
byte of the buffer. -/
theorem rf433RxCallback_congr (h : ∀ i ∈ rf433RxCallbackIndices buffer len,
    byteAt buffer i = byteAt buffer' i) (rxMessage : Message) (rssi : Int) (s : State) :
    rf433RxCallback rxMessage rssi buffer len s = rf433RxCallback rxMessage rssi buffer' len s := by
  have h1 := h _ List.mem_cons_self
  unfold rf433RxCallback
  rw [← h1]
  by_cases hnode : byteAt buffer 1 = 123
  · rw [rf433RxCallbackIndices, if_pos hnode] at h
    rw [if_pos hnode, if_pos hnode]
    exact normalSolve_congr (fun i hi => h i (List.mem_cons_of_mem _ hi)) rxMessage rssi s
  · rw [rf433RxCallbackIndices, if_neg hnode] at h
    rw [if_neg hnode, if_neg hnode]
    by_cases hgateway : byteAt buffer 1 = 71
    · rw [if_pos hgateway] at h
      rw [if_pos hgateway, if_pos hgateway]
      exact gatewayDataSolve_congr (fun i hi => h i (List.mem_cons_of_mem _ hi)) rxMessage s
    · rw [if_neg hgateway, if_neg hgateway]

end

/-! ## the accesses after the chunks -/

/-- A string ends before any NUL. -/
theorem length_takeWhile_ne_zero_le {bytes : List UInt8} {k : Nat} (h : bytes[k]? = some 0) :
    (bytes.takeWhile (· ≠ 0)).length ≤ k := by
  induction bytes generalizing k with
  | nil => simp at h
  | cons b bytes ih =>
      by_cases hb : b = 0
      · simp [hb]
      · cases k with
        | zero => exact absurd (by simpa using h) hb
        | succ k =>
            have hle := ih (by simpa using h)
            rw [List.takeWhile_cons_of_pos (by simpa using hb), List.length_cons]
            omega

/-- A NUL in the last element ends every scan in the buffer. -/
theorem inRxBuff_of_mem_scanIndices {buffer : List UInt8} (h : buffer[254]? = some 0) {i : Int}
    (hi : i ∈ scanIndices buffer) : InRxBuff i := by
  obtain ⟨k, hk, rfl⟩ := List.mem_map.mp hi
  have hle : (cString buffer).length ≤ 253 :=
    length_takeWhile_ne_zero_le (by rw [List.getElem?_drop]; exact h)
  have hlt := List.mem_range.mp hk
  constructor
  · omega
  · simp only [rxBuffSize]
    omega

/-- The one element outside `RXBuff` that the callback reads: `rx_buffer[-1]`. -/
theorem rf433RxCallbackIndices_inRxBuff_iff {buffer : List UInt8} {len : UInt8}
    (h : buffer[254]? = some 0) (hlen : len.toNat < rxBuffSize) :
    (∀ i ∈ rf433RxCallbackIndices buffer len, InRxBuff i) ↔
      ¬(len = 0 ∧ byteAt buffer 1 = 123 ∧ byteAt buffer 0 = 0x0A) := by
  have hhere : InRxBuff len.toNat := ⟨Int.natCast_nonneg _, by exact_mod_cast hlen⟩
  have hscan : ∀ i ∈ scanIndices buffer, InRxBuff i := fun i => inRxBuff_of_mem_scanIndices h
  constructor
  · rintro hall ⟨rfl, hnode, hend⟩
    have hmem : (-1 : Int) ∈ rf433RxCallbackIndices buffer 0 := by
      rw [rf433RxCallbackIndices, if_pos hnode, normalSolveIndices]
      simp [hend]
    exact absurd (hall _ hmem).1 (by decide)
  · intro hne i hi
    obtain rfl | hi := List.mem_cons.mp hi
    · decide
    split at hi
    · rename_i hnode
      obtain rfl | hi := List.mem_cons.mp hi
      · exact hhere
      split at hi
      · rename_i hend
        obtain rfl | hi := List.mem_cons.mp hi
        · have hpos : len.toNat ≠ 0 := by
            intro h0
            have hlen0 : len = 0 := UInt8.toNat_inj.mp h0
            subst hlen0
            exact hne ⟨rfl, hnode, hend⟩
          exact ⟨by omega, by have := hhere.2; omega⟩
        · split at hi
          · exact hscan i hi
          · simp at hi
      · simp at hi
    split at hi
    · obtain rfl | hi := List.mem_cons.mp hi
      · exact hhere
      split at hi
      · exact hscan i hi
      · simp at hi
    · simp at hi

/-- A buffer after its first bytes were written. -/
theorem getElem?_poke_zero (bytes buf : List UInt8) (i : Nat) :
    (poke 0 bytes buf)[i]? = if i < bytes.length then bytes[i]? else buf[i]? := by
  rw [poke, List.take_zero, List.nil_append, List.getElem?_append]
  split
  · rfl
  · rw [List.getElem?_drop]
    congr 1
    omega

namespace Chunk

variable (rssiOffset : Int8) (cs : List Chunk) (dev : Ax5043)

/-- The second byte of the last `DATA` chunk that has one: what `RXBuff[1]` is
after the chunks. -/
def secondByte (cs : List Chunk) : UInt8 :=
  (lastSome (fun c => c.data?.bind (·[1]?)) cs).getD 0

private theorem getElem?_rxBuff_cleared {i : Nat} (hi : i < rxBuffSize) :
    dev.cleared.rxBuff[i]? = some 0 := by
  simp only [Ax5043.cleared, List.getElem?_replicate, if_pos hi]

/-- The indices of a reception are in the buffer. -/
theorem rxIndices_receivedAll {i : Nat}
    (hi : i ∈ (receivedAll rssiOffset cs dev.cleared).rxIndices) : i < rxBuffSize := by
  induction cs using List.reverseRecOn with
  | nil =>
      simp only [receivedAll_nil, Ax5043.cleared, List.mem_range] at hi
      exact hi
  | append_singleton cs c ih =>
      rw [receivedAll_concat, received] at hi
      cases hdata : c.data? with
      | some data =>
          rw [hdata] at hi
          obtain hi | hi := List.mem_append.mp hi
          · exact ih hi
          · exact (List.mem_range.mp hi).trans (length_data?_lt hdata)
      | none =>
          rw [hdata] at hi
          cases hrssi : c.rssi? <;> rw [hrssi] at hi <;> exact ih hi

/-- No data reaches the last element: `memset` leaves it 0. -/
theorem last_rxBuff_receivedAll :
    (receivedAll rssiOffset cs dev.cleared).rxBuff[254]? = some 0 := by
  induction cs using List.reverseRecOn with
  | nil => exact getElem?_rxBuff_cleared dev (by decide)
  | append_singleton cs c ih =>
      rw [receivedAll_concat, received]
      cases hdata : c.data? with
      | some data =>
          have hlt := length_data?_lt hdata
          rw [rxBuffSize] at hlt
          dsimp only
          rw [getElem?_poke_zero, if_neg (by omega), ih]
      | none => cases c.rssi? <;> exact ih

/-- The second byte of the buffer after a reception. -/
theorem second_rxBuff_receivedAll :
    (receivedAll rssiOffset cs dev.cleared).rxBuff[1]? = some (secondByte cs) := by
  induction cs using List.reverseRecOn with
  | nil => exact getElem?_rxBuff_cleared dev (by decide)
  | append_singleton cs c ih =>
      rw [receivedAll_concat, received, secondByte, lastSome_concat]
      cases hdata : c.data? with
      | some data =>
          dsimp only
          rw [getElem?_poke_zero, Option.bind_some]
          split
          · rename_i hlen
            rw [List.getElem?_eq_getElem hlen]
            rfl
          · rename_i hlen
            rw [List.getElem?_eq_none (Nat.le_of_not_lt hlen), Option.none_or, ih, secondByte]
      | none => cases c.rssi? <;> exact ih

/-- The reads that follow a reception leave the buffer for one kind of chunk only. -/
theorem inRxBuff_rxReads_iff :
    (∀ i ∈ (receivedAll rssiOffset cs dev.cleared).rxReads, InRxBuff i) ↔
      ¬(lastData cs = [0x0A] ∧ secondByte cs = 123) := by
  have hlast := last_rxBuff_receivedAll rssiOffset cs dev
  have hsecond := second_rxBuff_receivedAll rssiOffset cs dev
  have htake := take_rxBuff_receivedAll rssiOffset cs dev
  have hlt := length_lastData_lt cs
  rw [Ax5043.rxReads, rxLen_receivedAll]
  cases hdata : lastData cs with
  | nil => simp
  | cons b data =>
      rw [hdata, List.length_cons] at hlt htake
      have hdlt : data.length < 256 := by
        rw [rxBuffSize] at hlt
        omega
      have hne : UInt8.ofNat (b :: data).length ≠ 0 := by
        rw [← hdata, Ne, ← UInt8.toNat_inj, toNat_length_lastData, hdata]
        simp
      have h0 : UInt8.ofNat data.length = 0 ↔ data = [] := by
        rw [← UInt8.toNat_inj, UInt8.toNat_ofNat_of_lt' hdlt, ← List.length_eq_zero_iff]
        rfl
      have hbyte0 : byteAt (receivedAll rssiOffset cs dev.cleared).rxBuff 0 = b := by
        have hfirst := congrArg (·[0]?) htake
        simp only [List.getElem?_take_of_lt (Nat.succ_pos _), List.getElem?_cons_zero] at hfirst
        rw [← Nat.cast_zero, byteAt_natCast, List.getD_eq_getElem?_getD, hfirst, Option.getD_some]
      have hbyte1 : byteAt (receivedAll rssiOffset cs dev.cleared).rxBuff 1 = secondByte cs := by
        rw [← Nat.cast_one, byteAt_natCast, List.getD_eq_getElem?_getD, hsecond, Option.getD_some]
      rw [if_pos hne, List.length_cons, ofNat_succ_sub_one,
        rf433RxCallbackIndices_inRxBuff_iff hlast
          (by rw [UInt8.toNat_ofNat_of_lt' hdlt]; omega), h0, hbyte0, hbyte1]
      simp only [List.cons.injEq]
      tauto

/-- **Where the accesses stay in `RXBuff`**: everywhere but after a frame of the
one byte LF in whose call an earlier `DATA` chunk has left `{` in
`RXBuff[1]`. -/
theorem accesses_inBounds_iff :
    ∃ dev', (dev.setFifo (cs.flatMap bytes)).receiveData rssiOffset = some dev' ∧
      (dev'.AccessesInBounds ↔ ¬(lastData cs = [0x0A] ∧ secondByte cs = 123)) := by
  refine ⟨_, receiveData_bytes rssiOffset cs dev, ?_⟩
  rw [← inRxBuff_rxReads_iff rssiOffset cs dev]
  constructor
  · exact fun h => h.2
  · intro h
    refine ⟨fun i hi => ⟨Int.natCast_nonneg i, ?_⟩, h⟩
    exact_mod_cast rxIndices_receivedAll rssiOffset cs dev hi

/-- Two `DATA` chunks: the data of the first is a NUL and a brace, that of the
second is LF. -/
def strayLineFeed : List Chunk :=
  [⟨AX5043_FIFOCMD_DATA, false, [3, 0, 123], by decide, by decide⟩,
    ⟨AX5043_FIFOCMD_DATA, false, [3, 0x0A], by decide, by decide⟩]

/-- After these chunks `NormalSolve` reads element -1. -/
theorem accesses_inBounds_fails :
    ∃ dev', (Ax5043.setFifo (strayLineFeed.flatMap bytes) ⟨0, [], 0, 0, [], []⟩).receiveData 64 =
        some dev' ∧
      dev'.rxReads = [1, 0, -1] ∧ ¬dev'.AccessesInBounds := by
  refine ⟨_, receiveData_bytes 64 strayLineFeed _, ?_, ?_⟩
  · decide +kernel
  · decide +kernel

end Chunk

end WaterValve
