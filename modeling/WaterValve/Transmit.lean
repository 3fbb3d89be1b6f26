import WaterValve.Lib.Machine
import WaterValve.Receive

/-!
# WaterValve.Transmit

The transmit side of `Radio_Common.c` and `Radio_433.c`: `RF_Send`,
`TransmitData`, which fills the FIFO of the radio chip and stops where the chip
has no room, the radio task that dispatches an interrupt on `ubRFState`, and
the timer that watches over a transmission.

What the chip answers is a parameter of each interrupt; `TransmitData` reads
the free space of the FIFO once a round.  A transmission that stops half-way
is never resumed (`transmission_resumes_iff`), and a transmission that is not
done when the radio controller interrupts loses its timer
(`send_timer_covers`).
-/

namespace WaterValve

/-! ## the radio -/

/-- `ubRFState`. -/
inductive TrxState
  | off
  | rx
  | rxwor
  | waitXtal
  | xtalReady
  | pllRanging
  | pllRangingDone
  | pllSettling
  | pllSettled
  | txXtalwait
  | txLongpreamble
  | txShortpreamble
  | txPacket
  | txWaitdone
  | txcwXtalwait
  | txstreamXtalwait
  | txstream
deriving DecidableEq, Repr

/-- The registers the transmit side writes. -/
inductive Register
  | irqMask1
  | irqMask0
  | radioEventMask0
  | fifoStat
  | fifoData
deriving DecidableEq, Repr

/-- What `TransmitData` uses of `struct ax5043_config`. -/
structure Ax5043Config where
  preambleLen : UInt8
  preambleByte : UInt8
  preambleFlags : UInt8
  preambleAppendbits : UInt8
  preambleAppendpattern : UInt8
  framingSynclen : UInt8
  framingSyncflags : UInt8
  framingSyncword : List UInt8
deriving DecidableEq, Repr

/-- `rf_433_config_init`. -/
def rf433ConfigInit : Ax5043Config where
  preambleLen := 32
  preambleByte := 0x55
  preambleFlags := 0x38
  preambleAppendbits := 0
  preambleAppendpattern := 0x00
  framingSynclen := 32
  framingSyncflags := 0x38
  framingSyncword := [0xcc, 0xaa, 0xcc, 0xaa]

/-- `rf_433` as far as transmission uses it, `rf_433_send_timer` and
`rf_txdone_sem`.  `spi` lists the register writes. -/
structure Radio where
  config : Ax5043Config
  ubRFState : TrxState
  axradioTxbufferCnt : UInt32
  txLen : UInt8
  txBuff : List UInt8
  sendTimer : Bool
  txdoneSem : Bool
  spi : List (Register × UInt8)
deriving DecidableEq, Repr

/-- What the chip answers in one round of `TransmitData`. -/
structure RoundReadings where
  fifoFree0 : UInt8
  fifoFree1 : UInt8
  framing : UInt8
  pktAddrCfg : UInt8

/-- What the chip answers during one interrupt. -/
structure Readings where
  modulation : UInt8
  radioState : UInt8
  round : Nat → RoundReadings

/-- The registers that `InitAx5043REG` and `rf_startup` set read back what they
were set to; the free space of the FIFO is up to the chip. -/
def Readings.shipped (radioState : UInt8) (fifoFree : Nat → UInt8 × UInt8) : Readings where
  modulation := 0x08
  radioState
  round k := ⟨(fifoFree k).1, (fifoFree k).2, 0x26, 0x00⟩

def AX5043_FIFOCMD_REPEATDATA : UInt8 := 0x02

/-- `command | (length << 5)`, the header of a chunk. -/
def fifoHeader (command length : UInt8) : UInt8 := command ||| (length <<< 5)

namespace Radio

/-- `SpiWriteSingleAddressRegister`. -/
def write (reg : Register) (data : UInt8) (dev : Radio) : Radio :=
  { dev with spi := dev.spi ++ [(reg, data)] }

/-- Writes to `REG_AX5043_FIFODATA`. -/
def writeFifo (bytes : List UInt8) (dev : Radio) : Radio :=
  { dev with spi := dev.spi ++ bytes.map (Register.fifoData, ·) }

/-- The bytes written to the FIFO. -/
def fifoBytes (dev : Radio) : List UInt8 :=
  (dev.spi.filter (·.1 = .fifoData)).map (·.2)

end Radio

/-! ## `TransmitData` -/

/-- How a round of `TransmitData` ends. -/
inductive Round
  | again
  | fifocommit
  | returned
deriving DecidableEq, Repr

/-- `ubFreeCnt`. -/
def RoundReadings.ubFreeCnt (r : RoundReadings) : UInt8 :=
  if r.fifoFree1 ≠ 0 then 0xff else r.fifoFree0

/-- The `n` bits of `byte` that are sent, with the stop bit next to them. -/
def RoundReadings.stopBit (r : RoundReadings) (n : Nat) (byte : UInt8) : UInt8 :=
  if r.pktAddrCfg &&& 0x80 ≠ 0 then
    UInt8.ofNat ((byte.toNat &&& (0xFF <<< (8 - n))) ||| (0x80 >>> n))
  else UInt8.ofNat ((byte.toNat &&& (0xFF >>> (8 - n))) ||| (0x01 <<< n))

namespace Radio

/-- The sync word as a chunk of the FIFO. -/
def syncChunk (config : Ax5043Config) : List UInt8 :=
  let i : UInt8 := if config.framingSynclen &&& 0x07 ≠ 0 then 0x04 else 0
  let lenByte := (config.framingSynclen + 7) >>> 3
  fifoHeader 0x01 (lenByte + 1) :: (config.framingSyncflags ||| i) ::
    config.framingSyncword.take lenByte.toNat

/-- A preamble byte, repeated `count` times, as a chunk of the FIFO. -/
def preambleChunk (config : Ax5043Config) (count : UInt8) : List UInt8 :=
  [fifoHeader AX5043_FIFOCMD_REPEATDATA 3, config.preambleFlags, count, config.preambleByte]

/-- `shortpreamble:` from the test for four free bytes on. -/
def preambleRest (r : RoundReadings) (dev : Radio) : Radio × Round :=
  if r.ubFreeCnt < 4 then (dev, .fifocommit)
  else
    let ubFreeCnt : UInt8 :=
      if dev.axradioTxbufferCnt < 255 * 8 then (dev.axradioTxbufferCnt >>> 3).toUInt8 else 255
    if ubFreeCnt ≠ 0 then
      ({ dev with axradioTxbufferCnt := dev.axradioTxbufferCnt - (ubFreeCnt.toUInt32 <<< 3) }
        |>.writeFifo (preambleChunk dev.config ubFreeCnt), .again)
    else
      let n := dev.axradioTxbufferCnt.toNat
      ({ dev with axradioTxbufferCnt := 0 }
        |>.writeFifo [fifoHeader AX5043_FIFOCMD_DATA 2, 0x1C, r.stopBit n dev.config.preambleByte],
        .again)

/-- `shortpreamble:`. -/
def shortPreamble (r : RoundReadings) (dev : Radio) : Radio × Round :=
  if dev.axradioTxbufferCnt ≠ 0 then dev.preambleRest r
  else if r.ubFreeCnt < 15 then (dev, .fifocommit)
  else
    let appendbits := dev.config.preambleAppendbits
    let dev :=
      if appendbits ≠ 0 then
        dev.writeFifo [fifoHeader AX5043_FIFOCMD_DATA 2, 0x1C,
          r.stopBit appendbits.toNat dev.config.preambleAppendpattern]
      else dev
    if r.framing &&& 0x0E = 0x06 ∧ dev.config.framingSynclen ≠ 0 then
      ({ dev.writeFifo (syncChunk dev.config) with ubRFState := .txPacket }, .again)
    else dev.preambleRest r

/-- One round of `TransmitData`. -/
def transmitRound (r : RoundReadings) (dev : Radio) : Radio × Round :=
  match dev.ubRFState with
  | .txLongpreamble =>
    if dev.axradioTxbufferCnt = 0 then
      { dev with
        ubRFState := .txShortpreamble
        axradioTxbufferCnt := dev.config.preambleLen.toUInt32 }
        |>.shortPreamble r
    else if r.ubFreeCnt < 4 then (dev, .fifocommit)
    else
      let ubFreeCnt : UInt8 :=
        if dev.axradioTxbufferCnt < 7 then dev.axradioTxbufferCnt.toUInt8 else 7
      ({ dev with axradioTxbufferCnt := dev.axradioTxbufferCnt - ubFreeCnt.toUInt32 }
        |>.writeFifo [fifoHeader 0x02 3, 0x38, ubFreeCnt <<< 5, 0x55], .again)
  | .txShortpreamble => dev.shortPreamble r
  | _ => (dev, .returned)

/-- `TransmitData` from round `k` on; `none` when the rounds run out. -/
def transmitData (r : Nat → RoundReadings) : Nat → Nat → Radio → Option Radio
  | 0, _, _ => none
  | rounds + 1, k, dev =>
    match dev.transmitRound (r k) with
    | (dev, .again) => transmitData r rounds (k + 1) dev
    | (dev, .fifocommit) => some (dev.write .fifoStat 4)
    | (dev, .returned) => some dev

/-! ## the sender, the radio task and the timer -/

/-- `AX5043Receiver_Continuous`, and the writes of it that are modelled. -/
def receiverContinuous (dev : Radio) : Radio :=
  let dev := dev.write .irqMask0 0x00 |>.write .irqMask1 0x00 |>.write .fifoStat 0x03
  { dev with ubRFState := .rx } |>.write .irqMask0 0x01 |>.write .irqMask1 0x00

/-- `rf_restart`. -/
def rfRestart (dev : Radio) : Radio :=
  { dev.write .irqMask0 0x00 |>.write .irqMask1 0x00 with ubRFState := .off }

/-- `RF_Send`, which is `transmit_packet_task`.  A restart of the chip by
`AX5043SetOperationMode_TX` is overwritten by what follows. -/
def rfSend (buffer : List UInt8) (len : UInt8) (dev : Radio) : Radio :=
  let dev := { dev with axradioTxbufferCnt := 0 }
  let dev := dev.write .irqMask0 0x00 |>.write .irqMask1 0x00 |>.write .fifoStat 0x03
  { dev with
    txLen := len + 1
    txBuff := (len + 1) :: buffer.take len.toNat
    ubRFState := .txXtalwait
    sendTimer := true }
    |>.write .irqMask1 0x01

/-- `rf_433_send_timer_callback`. -/
def sendTimerCallback (dev : Radio) : Radio :=
  if dev.ubRFState ≠ .rx then
    dev.write .radioEventMask0 0x00 |>.rfRestart |>.receiverContinuous
  else dev

/-- One interrupt in `rf_433_task_callback`.  What `ReceiveData` reads and what
the handlers of a received frame do is not part of the transmit side. -/
def taskCallback (rounds : Nat) (r : Readings) (dev : Radio) : Option Radio :=
  match dev.ubRFState with
  | .rx => some dev.receiverContinuous
  | .waitXtal => some { dev.write .irqMask1 0x00 with ubRFState := .xtalReady }
  | .pllRanging => some { dev.write .irqMask1 0x00 with ubRFState := .pllRangingDone }
  | .pllSettling => some { dev.write .radioEventMask0 0x00 with ubRFState := .pllSettled }
  | .txXtalwait =>
    let dev := dev.write .fifoStat 0x03 |>.write .irqMask1 0x00 |>.write .irqMask0 0x08
    let dev := { dev with ubRFState := .txLongpreamble }
    let dev :=
      if r.modulation &&& 0x0F = 9 then
        dev.writeFifo [fifoHeader AX5043_FIFOCMD_DATA 7, 2, 0x01, 0x11]
      else dev
    dev.transmitData r.round rounds 0
  | .txPacket =>
    let dev := if dev.txLen < 11 then dev.write .fifoStat 4 else dev
    let dev := dev.writeFifo [fifoHeader AX5043_FIFOCMD_DATA 7, dev.txLen + 1, 3]
    let dev := dev.writeFifo (dev.txBuff.take dev.txLen.toNat) |>.write .fifoStat 4
    some ({ dev with ubRFState := .txWaitdone }
      |>.write .radioEventMask0 0x01 |>.write .irqMask0 0x40)
  | .txWaitdone =>
    let dev := { dev with sendTimer := false, txdoneSem := true }
    if r.radioState ≠ 0 then some dev
    else some (dev.write .radioEventMask0 0x00 |>.receiverContinuous)
  | _ => some (dev.write .irqMask1 0x00 |>.write .irqMask0 0x00)

/-! ## a transmission in the shipped configuration -/

@[simp] theorem fifoBytes_writeFifo (bytes : List UInt8) (dev : Radio) :
    (dev.writeFifo bytes).fifoBytes = dev.fifoBytes ++ bytes := by
  have hall : (bytes.map (Register.fifoData, ·)).filter (·.1 = .fifoData) =
      bytes.map (Register.fifoData, ·) := by
    rw [List.filter_eq_self]
    intro a ha
    obtain ⟨b, -, rfl⟩ := List.mem_map.mp ha
    rfl
  simp only [fifoBytes, writeFifo, List.filter_append, hall, List.map_append, List.map_map]
  simp [Function.comp_def]

/-- The preamble of the shipped configuration: 32 bits are four bytes. -/
def shippedPreamble : List UInt8 := [0x62, 0x38, 4, 0x55]

/-- Its sync word. -/
def shippedSync : List UInt8 := [0xA1, 0x38, 0xcc, 0xaa, 0xcc, 0xaa]

variable {dev : Radio} {r : RoundReadings}

theorem preambleChunk_shipped : preambleChunk rf433ConfigInit 4 = shippedPreamble := by decide

theorem syncChunk_shipped : syncChunk rf433ConfigInit = shippedSync := by decide

/-- 32 bits of preamble take four bytes. -/
theorem preambleRest_shipped (hconfig : dev.config = rf433ConfigInit)
    (hcnt : dev.axradioTxbufferCnt = 32) :
    dev.preambleRest r =
      if r.ubFreeCnt < 4 then (dev, .fifocommit)
      else ({ dev with axradioTxbufferCnt := 0 }.writeFifo shippedPreamble, .again) := by
  have hcount : (if (32 : UInt32) < 255 * 8 then ((32 : UInt32) >>> 3).toUInt8 else 255) = 4 := by
    decide
  have hfour : (4 : UInt8) ≠ 0 := by decide
  have hrest : (32 : UInt32) - ((4 : UInt8).toUInt32 <<< 3) = 0 := by decide
  simp only [preambleRest, hcnt, hcount, hfour, ne_eq, not_false_eq_true, if_true, hrest, hconfig,
    preambleChunk_shipped]

/-- The first round wants four free bytes. -/
theorem transmitRound_long (hconfig : dev.config = rf433ConfigInit)
    (hstate : dev.ubRFState = .txLongpreamble) (hcnt : dev.axradioTxbufferCnt = 0) :
    dev.transmitRound r =
      if r.ubFreeCnt < 4 then
        ({ dev with ubRFState := .txShortpreamble, axradioTxbufferCnt := 32 }, .fifocommit)
      else
        ({ dev with ubRFState := .txShortpreamble }.writeFifo shippedPreamble, .again) := by
  have hlen : rf433ConfigInit.preambleLen.toUInt32 = 32 := by decide
  have h32 : (32 : UInt32) ≠ 0 := by decide
  simp only [transmitRound, hstate, hcnt, if_true, hconfig, hlen, shortPreamble, h32, ne_eq,
    not_false_eq_true]
  rw [preambleRest_shipped rfl rfl]

/-- The second round wants fifteen. -/
theorem transmitRound_short (hconfig : dev.config = rf433ConfigInit)
    (hstate : dev.ubRFState = .txShortpreamble) (hcnt : dev.axradioTxbufferCnt = 0)
    (hframing : r.framing = 0x26) :
    dev.transmitRound r =
      if r.ubFreeCnt < 15 then (dev, .fifocommit)
      else ({ dev.writeFifo shippedSync with ubRFState := .txPacket }, .again) := by
  have hbits : rf433ConfigInit.preambleAppendbits = 0 := rfl
  have hlen : (0x26 : UInt8) &&& 0x0E = 0x06 ∧ rf433ConfigInit.framingSynclen ≠ 0 := by decide
  simp only [transmitRound, hstate, shortPreamble, hcnt, ne_eq, not_true_eq_false, if_false,
    hconfig, hbits, hframing, hlen, syncChunk_shipped]
  simp

theorem transmitRound_packet (hstate : dev.ubRFState = .txPacket) :
    dev.transmitRound r = (dev, .returned) := by
  simp [transmitRound, hstate]

/-- The radio when the interrupt of a new transmission has prepared the FIFO. -/
def armed (dev : Radio) : Radio :=
  { dev.write .fifoStat 0x03 |>.write .irqMask1 0x00 |>.write .irqMask0 0x08 with
    ubRFState := .txLongpreamble }

/-- The radio after the first round, but for what the round has written. -/
def inShort (dev : Radio) : Radio := { dev.armed with ubRFState := .txShortpreamble }

/-- What the first interrupt leaves, by the free counts of its two rounds. -/
def afterFirst (free₀ free₁ : UInt8) (dev : Radio) : Radio :=
  if free₀ < 4 then { dev.inShort with axradioTxbufferCnt := 32 }.write .fifoStat 4
  else if free₁ < 15 then (dev.inShort.writeFifo shippedPreamble).write .fifoStat 4
  else
    { (dev.inShort.writeFifo shippedPreamble).writeFifo shippedSync with ubRFState := .txPacket }

/-- **What the first interrupt does**, for every sequence of free counts. -/
theorem taskCallback_first (hconfig : dev.config = rf433ConfigInit)
    (hstate : dev.ubRFState = .txXtalwait) (hcnt : dev.axradioTxbufferCnt = 0) (rounds : Nat)
    (radioState : UInt8) (fifoFree : Nat → UInt8 × UInt8) :
    let r := Readings.shipped radioState fifoFree
    dev.taskCallback (rounds + 3) r =
      some (dev.afterFirst (r.round 0).ubFreeCnt (r.round 1).ubFreeCnt) := by
  intro r
  have hmodulation : ¬((0x08 : UInt8) &&& 0x0F = 9) := by decide
  have hfirst : dev.taskCallback (rounds + 3) r =
      dev.armed.transmitData r.round (rounds + 3) 0 := by
    simp only [taskCallback, hstate, r, Readings.shipped, hmodulation, if_false]
    rfl
  have hlong : dev.armed.transmitRound (r.round 0) =
      if (r.round 0).ubFreeCnt < 4 then
        ({ dev.inShort with axradioTxbufferCnt := 32 }, .fifocommit)
      else (dev.inShort.writeFifo shippedPreamble, .again) :=
    transmitRound_long hconfig rfl hcnt
  have hshort : (dev.inShort.writeFifo shippedPreamble).transmitRound (r.round (0 + 1)) = _ :=
    transmitRound_short hconfig rfl hcnt rfl
  rw [hfirst, transmitData, hlong, afterFirst]
  by_cases h₀ : (r.round 0).ubFreeCnt < 4
  · simp only [h₀, if_true]
  · simp only [h₀, if_false]
    rw [transmitData, hshort]
    by_cases h₁ : (r.round 1).ubFreeCnt < 15
    · simp only [Nat.zero_add, h₁, if_true]
    · simp only [Nat.zero_add, h₁, if_false]
      rw [transmitData, transmitRound_packet rfl]

/-! ## a transmission that pauses -/

/-- The next interrupt goes on with the transmission, whatever the chip
answers then. -/
def Resumes (dev : Radio) : Prop :=
  ∀ rounds r, dev.taskCallback rounds r = dev.transmitData r.round rounds 0

/-- **A paused transmission is not resumed**: the next interrupt finds no case
for its state and masks the interrupts of the radio. -/
theorem not_resumes (hstate : dev.ubRFState = .txShortpreamble) : ¬dev.Resumes := by
  intro hresumes
  have hnext := hresumes 1 (.shipped 0 fun _ => (0, 0))
  have hmasked : dev.taskCallback 1 (.shipped 0 fun _ => (0, 0)) =
      some (dev.write .irqMask1 0x00 |>.write .irqMask0 0x00) := by
    simp only [taskCallback, hstate]
  have hfree : RoundReadings.ubFreeCnt ⟨0, 0, 0x26, 0x00⟩ = 0 := rfl
  have hcommit : dev.transmitData (Readings.shipped 0 fun _ => (0, 0)).round 1 0 =
      some (dev.write .fifoStat 4) := by
    simp only [transmitData, transmitRound, hstate, shortPreamble, preambleRest, Readings.shipped,
      hfree]
    by_cases hcnt : dev.axradioTxbufferCnt = 0 <;> simp [hcnt]
  rw [hmasked, hcommit] at hnext
  have hlen := congrArg (fun d => d.spi.length) (Option.some.inj hnext)
  simp [write] at hlen

/-- The interrupt of a new transmission writes its two chunks, each only when
there is room for it, or pauses and is resumed by the next interrupt. -/
def Transmits (dev : Radio) (r : Readings) : Prop :=
  ∃ dev₁ chunks, (∃ n, ∀ rounds, n ≤ rounds → dev.taskCallback rounds r = some dev₁) ∧
    dev₁.fifoBytes = dev.fifoBytes ++ chunks ∧
    (chunks = [] ∨ chunks = shippedPreamble ∧ 4 ≤ (r.round 0).ubFreeCnt ∨
      chunks = shippedPreamble ++ shippedSync ∧ 4 ≤ (r.round 0).ubFreeCnt ∧
        15 ≤ (r.round 1).ubFreeCnt) ∧
    (chunks = shippedPreamble ++ shippedSync ∧ dev₁.ubRFState = .txPacket ∨ dev₁.Resumes)

theorem fifoBytes_inShort (dev : Radio) : dev.inShort.fifoBytes = dev.fifoBytes := by
  simp [inShort, armed, write, fifoBytes]

theorem afterFirst_state {free₀ free₁ : UInt8} (h : free₀ < 4 ∨ free₁ < 15) :
    (dev.afterFirst free₀ free₁).ubRFState = .txShortpreamble := by
  unfold afterFirst
  split
  · rfl
  · rename_i h₀
    rw [if_pos (h.resolve_left h₀)]
    rfl

/-- **A paused transmission is never resumed**: for every sequence of readings
of the free space, a transmission that `RF_Send` has started in the shipped
configuration goes as it should if and only if the first reading leaves room
for the preamble and the second for the sync word. -/
theorem transmission_resumes_iff (hconfig : dev.config = rf433ConfigInit) (buffer : List UInt8)
    (len radioState : UInt8) (fifoFree : Nat → UInt8 × UInt8) :
    let r := Readings.shipped radioState fifoFree
    (dev.rfSend buffer len).Transmits r ↔
      4 ≤ (r.round 0).ubFreeCnt ∧ 15 ≤ (r.round 1).ubFreeCnt := by
  intro r
  have hsent : (dev.rfSend buffer len).config = rf433ConfigInit := hconfig
  have hfirst : ∀ rounds, (dev.rfSend buffer len).taskCallback (rounds + 3) r = some _ :=
    fun rounds => taskCallback_first hsent rfl rfl rounds radioState fifoFree
  generalize dev.rfSend buffer len = sent at hfirst ⊢
  constructor
  · rintro ⟨dev₁, chunks, ⟨n, hends⟩, -, -, hdone⟩
    obtain rfl : sent.afterFirst (r.round 0).ubFreeCnt (r.round 1).ubFreeCnt = dev₁ := by
      have hsame := (hfirst n).symm.trans (hends (n + 3) (by omega))
      exact Option.some.inj hsame
    by_contra hroom
    rw [not_and_or, UInt8.not_le, UInt8.not_le] at hroom
    have hpaused : (sent.afterFirst _ _).ubRFState = .txShortpreamble := afterFirst_state hroom
    obtain ⟨-, hpacket⟩ | hresumes := hdone
    · rw [hpaused] at hpacket
      cases hpacket
    · exact not_resumes hpaused hresumes
  · rintro ⟨h₀, h₁⟩
    have hafter : sent.afterFirst (r.round 0).ubFreeCnt (r.round 1).ubFreeCnt = _ :=
      (if_neg (UInt8.not_lt.mpr h₀)).trans (if_neg (UInt8.not_lt.mpr h₁))
    have hbytes : ((sent.inShort.writeFifo shippedPreamble).writeFifo shippedSync).fifoBytes =
        sent.fifoBytes ++ (shippedPreamble ++ shippedSync) := by
      rw [fifoBytes_writeFifo, fifoBytes_writeFifo, fifoBytes_inShort, List.append_assoc]
    refine ⟨sent.afterFirst (r.round 0).ubFreeCnt (r.round 1).ubFreeCnt,
      shippedPreamble ++ shippedSync, ⟨3, fun rounds hrounds => ?_⟩, ?_,
      .inr (.inr ⟨rfl, h₀, h₁⟩), .inl ⟨rfl, ?_⟩⟩
    · obtain ⟨k, rfl⟩ := Nat.exists_eq_add_of_le' hrounds
      exact hfirst k
    · rw [hafter]
      exact hbytes
    · rw [hafter]

/-- A radio in reception. -/
def receiving : Radio where
  config := rf433ConfigInit
  ubRFState := .rx
  axradioTxbufferCnt := 0
  txLen := 0
  txBuff := []
  sendTimer := false
  txdoneSem := false
  spi := []

/-- A chip that reports no free byte. -/
theorem transmission_lost :
    ¬∀ (buffer : List UInt8) (len radioState : UInt8) (fifoFree : Nat → UInt8 × UInt8),
      (receiving.rfSend buffer len).Transmits (.shipped radioState fifoFree) := by
  intro hclaim
  obtain ⟨dev₁, chunks, ⟨n, hends⟩, -, -, hdone⟩ := hclaim [] 0 0 fun _ => (0, 0)
  have hafter : dev₁ = (receiving.rfSend [] 0).afterFirst 0 0 := by
    have hrun := taskCallback_first (rfl : (receiving.rfSend [] 0).config = _) rfl rfl n 0
      fun _ => (0, 0)
    exact Option.some.inj ((hends (n + 3) (by omega)).symm.trans hrun)
  have hpaused : dev₁.ubRFState = .txShortpreamble := by
    rw [hafter]
    exact afterFirst_state (.inl (by decide))
  obtain ⟨-, hpacket⟩ | hresumes := hdone
  · rw [hpaused] at hpacket
    cases hpacket
  · exact not_resumes hpaused hresumes

/-- A chip whose FIFO is empty, and one that has room for the preamble only. -/
theorem transmission_resumes_iff_receiving :
    (receiving.rfSend [] 0).Transmits (.shipped 0 fun _ => (0, 1)) ∧
      ¬(receiving.rfSend [] 0).Transmits (.shipped 0 fun _ => (14, 0)) :=
  ⟨(transmission_resumes_iff rfl [] 0 0 fun _ => (0, 1)).mpr (by decide),
    fun h => absurd ((transmission_resumes_iff rfl [] 0 0 fun _ => (14, 0)).mp h) (by decide)⟩

/-! ## the timer of a transmission -/

theorem preambleRest_sendTimer (r : RoundReadings) (dev : Radio) :
    (dev.preambleRest r).1.sendTimer = dev.sendTimer := by
  simp only [preambleRest]
  split_ifs <;> rfl

theorem shortPreamble_sendTimer (r : RoundReadings) (dev : Radio) :
    (dev.shortPreamble r).1.sendTimer = dev.sendTimer := by
  simp only [shortPreamble]
  split_ifs <;> first
    | rfl
    | exact preambleRest_sendTimer r _

/-- A round leaves the timer alone. -/
theorem transmitRound_sendTimer (r : RoundReadings) (dev : Radio) :
    (dev.transmitRound r).1.sendTimer = dev.sendTimer := by
  unfold transmitRound
  split
  · split
    · exact shortPreamble_sendTimer r _
    · split <;> rfl
  · exact shortPreamble_sendTimer r dev
  · rfl

/-- And so does `TransmitData`. -/
theorem transmitData_sendTimer {r : Nat → RoundReadings} {rounds k : Nat} {dev dev' : Radio}
    (h : dev.transmitData r rounds k = some dev') : dev'.sendTimer = dev.sendTimer := by
  induction rounds generalizing k dev with
  | zero => cases h
  | succ rounds ih =>
      have hround := transmitRound_sendTimer (r k) dev
      unfold transmitData at h
      split at h <;> rename_i heq <;> rw [heq] at hround
      · exact (ih h).trans hround
      · exact (congrArg sendTimer (Option.some.inj h)).symm.trans hround
      · exact (congrArg sendTimer (Option.some.inj h)).symm.trans hround

end Radio

/-- The states of a transmission. -/
def TrxState.transmits : TrxState → Bool
  | .txXtalwait | .txLongpreamble | .txShortpreamble | .txPacket | .txWaitdone => true
  | _ => false

/-- What happens to the radio: a call of `RF_Send`, an interrupt, or the expiry
of `rf_433_send_timer`. -/
inductive RadioAction
  | send (buffer : List UInt8) (len : UInt8)
  | irq (rounds : Nat) (r : Readings)
  | expire

def Radio.step (dev : Radio) : RadioAction → Option Radio
  | .send buffer len => some (dev.rfSend buffer len)
  | .irq rounds r => dev.taskCallback rounds r
  | .expire =>
    if dev.sendTimer then some { dev with sendTimer := false }.sendTimerCallback else none

/-- The radio after start-up, which ends in `AX5043ReceiverON`. -/
def radioMachine : Machine Radio RadioAction where
  init := fun dev => dev.ubRFState = .rx ∧ dev.sendTimer = false
  step := Radio.step

/-- The timer runs whenever a transmission is under way. -/
def Radio.Covered (dev : Radio) : Prop := dev.ubRFState.transmits = true → dev.sendTimer = true

/-- An interrupt that finds the packet written finds the radio idle. -/
def Radio.Done (dev : Radio) : RadioAction → Prop
  | .irq _ r => dev.ubRFState = .txWaitdone → r.radioState = 0
  | _ => True

namespace Radio

/-- **What one step does to the timer.** -/
theorem Covered.step {dev dev' : Radio} {a : RadioAction} (h : dev.Covered) (hdone : dev.Done a)
    (hs : dev.step a = some dev') : dev'.Covered := by
  cases a with
  | send buffer len =>
      obtain rfl := Option.some.inj hs
      exact fun _ => rfl
  | expire =>
      obtain ⟨-, hs⟩ := Option.ite_none_right_eq_some.mp hs
      obtain rfl := Option.some.inj hs
      unfold sendTimerCallback
      split
      · exact fun htx => by cases htx
      · rename_i hrx
        intro htx
        rw [not_not.mp hrx] at htx
        cases htx
  | irq rounds r =>
      simp only [Radio.step] at hs
      unfold taskCallback at hs
      split at hs <;> rename_i hstate
      · obtain rfl := Option.some.inj hs
        exact fun htx => by cases htx
      · obtain rfl := Option.some.inj hs
        exact fun htx => by cases htx
      · obtain rfl := Option.some.inj hs
        exact fun htx => by cases htx
      · obtain rfl := Option.some.inj hs
        exact fun htx => by cases htx
      · have htimer : dev.sendTimer = true := h (by rw [hstate]; rfl)
        intro _
        rw [transmitData_sendTimer hs]
        split <;> exact htimer
      · have htimer : dev.sendTimer = true := h (by rw [hstate]; rfl)
        obtain rfl := Option.some.inj hs
        intro _
        simp only [write, writeFifo]
        split <;> exact htimer
      · rw [if_neg (not_not.mpr (hdone hstate))] at hs
        obtain rfl := Option.some.inj hs
        exact fun htx => by cases htx
      · obtain rfl := Option.some.inj hs
        exact h

/-- An interrupt that finds the packet not yet sent stops the timer and stays. -/
theorem not_done_stays {dev : Radio} {a : RadioAction} (hdone : ¬dev.Done a) :
    ∃ dev', dev.step a = some dev' ∧ dev'.ubRFState = .txWaitdone ∧ dev'.sendTimer = false := by
  cases a with
  | send buffer len => exact absurd trivial hdone
  | expire => exact absurd trivial hdone
  | irq rounds r =>
      simp only [Done, Classical.not_imp] at hdone
      obtain ⟨hstate, hbusy⟩ := hdone
      simp only [Radio.step, taskCallback, hstate, if_pos hbusy]
      exact ⟨_, rfl, rfl, rfl⟩

theorem not_covered_of_not_done {dev dev' : Radio} {a : RadioAction} (hdone : ¬dev.Done a)
    (hs : dev.step a = some dev') : ¬dev'.Covered := by
  obtain ⟨dev₁, hstep, hstate, htimer⟩ := not_done_stays hdone
  obtain rfl : dev₁ = dev' := Option.some.inj (hstep.symm.trans hs)
  intro hcovered
  rw [hcovered (by rw [hstate]; rfl)] at htimer
  cases htimer

end Radio

/-- What a run has kept: the timer in every state reached, the condition at
every step. -/
structure TimerLog where
  covered : Prop
  done : Prop

/-- The radio with the log of its run. -/
def radioHistory : Machine (Radio × TimerLog) RadioAction :=
  radioMachine.observed (fun dev => ⟨dev.Covered, True⟩) fun dev log a dev' =>
    ⟨log.covered ∧ dev'.Covered, log.done ∧ dev.Done a⟩

/-- **The timer covers a transmission in every state of a run if and only if**
every interrupt of the run in `trxstate_tx_waitdone` finds the radio idle: the
first one that finds it busy stops the timer and stays in the state. -/
theorem send_timer_covers {dev : Radio} {log : TimerLog}
    (h : radioHistory.Reachable (dev, log)) : log.covered ↔ log.done := by
  suffices hinv : (log.covered ↔ log.done) ∧ (log.covered → dev.Covered) from hinv.1
  refine Machine.ReachableVia.invariant
    (I := fun p => (p.2.covered ↔ p.2.done) ∧ (p.2.covered → p.1.Covered)) h ?_ ?_
  · rintro ⟨dev, log⟩ ⟨hinit, hlog⟩
    have hcovered : dev.Covered := fun htx => by
      rw [hinit.1] at htx
      cases htx
    simp only at hlog
    subst hlog
    exact ⟨iff_of_true hcovered trivial, id⟩
  · rintro ⟨dev, log⟩ a ⟨dev', log'⟩ ⟨hiff, hcovered⟩ - hs
    obtain ⟨hstep, hlog⟩ := Machine.observed_step_eq_some.mp hs
    simp only at hiff hcovered hstep hlog
    subst hlog
    refine ⟨⟨fun hboth => ⟨hiff.mp hboth.1, ?_⟩, fun hboth => ?_⟩, And.right⟩
    · by_contra hdone
      exact Radio.not_covered_of_not_done hdone hstep hboth.2
    · have hbefore : log.covered := hiff.mpr hboth.1
      exact ⟨hbefore, (hcovered hbefore).step hboth.2 hstep⟩

/-- A transmission whose packet is written, and one more interrupt that finds
the radio busy. -/
theorem send_timer_covers_sent :
    ∃ dev log, radioHistory.Reachable (dev, log) ∧ dev.ubRFState = .txWaitdone ∧
      ¬log.covered := by
  have hrun : (radioHistory.runFrom (Radio.receiving, ⟨Radio.receiving.Covered, True⟩)
      [.send [] 0, .irq 3 (.shipped 0 fun _ => (0, 1)), .irq 0 (.shipped 0 fun _ => (0, 0))]).map
        (·.1.ubRFState) = some .txWaitdone := by decide +kernel
  obtain ⟨⟨dev, log⟩, hdev, hstate⟩ := Option.map_eq_some_iff.mp hrun
  have hreach : radioHistory.Reachable (dev, log) :=
    (Machine.Reachable.init (M := radioHistory) ⟨⟨rfl, rfl⟩, rfl⟩).runFrom hdev
  let busy : RadioAction := .irq 0 (.shipped 1 fun _ => (0, 0))
  have hbusy : ¬dev.Done busy := by
    intro hdone
    exact absurd (hdone hstate) (by decide)
  obtain ⟨dev', hdev', hstate', -⟩ := Radio.not_done_stays hbusy
  have hlater :
      radioHistory.Reachable (dev', ⟨log.covered ∧ dev'.Covered, log.done ∧ dev.Done busy⟩) :=
    Machine.Reachable.step (a := busy) hreach (Machine.observed_step_eq_some.mpr ⟨hdev', rfl⟩)
  exact ⟨dev', _, hlater, hstate', fun hcovered =>
    absurd ((send_timer_covers hlater).mp hcovered).2 hbusy⟩

/-- The chip interrupts while its radio controller still transmits. -/
theorem send_timer_stopped :
    ¬∀ dev, radioMachine.Reachable dev → dev.ubRFState.transmits = true →
      dev.sendTimer = true := by
  intro hclaim
  have hrun : (radioMachine.runFrom Radio.receiving
      [.send [] 0, .irq 3 (.shipped 0 fun _ => (0, 1)), .irq 0 (.shipped 0 fun _ => (0, 0)),
        .irq 0 (.shipped 1 fun _ => (0, 0))]).map (fun dev => (dev.ubRFState, dev.sendTimer)) =
      some (.txWaitdone, false) := by decide +kernel
  obtain ⟨dev, hdev, hobs⟩ := Option.map_eq_some_iff.mp hrun
  rw [Prod.mk.injEq] at hobs
  have hreach : radioMachine.Reachable dev :=
    (Machine.Reachable.init (M := radioMachine) ⟨rfl, rfl⟩).runFrom hdev
  have htimer := hclaim dev hreach (by rw [hobs.1]; rfl)
  rw [hobs.2] at htimer
  cases htimer

end WaterValve
