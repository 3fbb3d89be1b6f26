import WaterValve.Decoder
import Mathlib.Data.List.Induction

/-!
# WaterValve.Receive

`ReceiveData` of `Radio_Common.c`, which empties the receive FIFO of the radio
chip.  The FIFO holds chunks: a header with a command and a length, and that
many bytes.  The source reads each command in a way of its own, and none reads
a byte more or less than its chunk has (`receiveChunk_bytes`), so the parser
stays in step whatever the chunks are (`receive_chunks`).
-/

namespace WaterValve

/-! ## the radio -/

/-- What `ReceiveData` uses of `struct ax5043` and of the chip: `fifo` holds the
bytes still to be read, `rxIndices` is a history: the elements of `RXBuff` that
the call has written. -/
structure Ax5043 where
  ubRssi : Int
  rxBuff : List UInt8
  rxLen : UInt8
  irqMask0 : UInt8
  fifo : List UInt8
  rxIndices : List Nat
  deriving DecidableEq

/-- `sizeof(dev->RXBuff)`. -/
def rxBuffSize : Nat := 255

def AX5043_FIFOCMD_DATA : UInt8 := 0x01

def AX5043_FIFOCMD_TIMER : UInt8 := 0x10

def AX5043_FIFOCMD_RSSI : UInt8 := 0x11

def AX5043_FIFOCMD_RFFREQOFFS : UInt8 := 0x13

def AX5043_FIFOCMD_ANTRSSI : UInt8 := 0x15

namespace Ax5043

variable (dev : Ax5043)

/-- A read of `REG_AX5043_FIFODATA`; `none` when the FIFO is empty. -/
def readFifo : Option (UInt8 × Ax5043) :=
  match dev.fifo with
  | [] => none
  | byte :: fifo => some (byte, { dev with fifo })

/-- `SpiReadData(dev, dev->RXBuff, length)`. -/
def spiReadData (length : UInt8) : Option Ax5043 :=
  if length.toNat ≤ dev.fifo.length then
    some { dev with
      rxBuff := poke 0 (dev.fifo.take length.toNat) dev.rxBuff
      fifo := dev.fifo.drop length.toNat
      rxIndices := dev.rxIndices ++ List.range length.toNat }
  else none

/-- Reads whose values are not used. -/
def skipFifo (dev : Ax5043) : Nat → Option Ax5043
  | 0 => some dev
  | count + 1 => dev.readFifo.bind fun p => p.2.skipFifo count

/-- `do { .. } while (--ubTepm);` around a read.  The counter wraps. -/
def dropLoop : Nat → UInt8 → Ax5043 → Option Ax5043
  | 0, _, _ => none
  | fuel + 1, ubTepm, dev => do
    let (_, dev) ← dev.readFifo
    let ubTepm := ubTepm - 1
    if ubTepm ≠ 0 then dropLoop fuel ubTepm dev else some dev

/-- `dropchunk:`. -/
def dropChunk (ubDataLen : UInt8) : Option Ax5043 :=
  if ubDataLen = 0 then some dev else dropLoop 256 ubDataLen dev

/-- The header of a chunk: its command and its length, which follows in a byte
of its own when all three bits of the header are set. -/
def readHeader : Option (UInt8 × UInt8 × Ax5043) := do
  let (ubTemCom, dev) ← dev.readFifo
  let ubDataLen := (ubTemCom &&& 0xE0) >>> 5
  let (ubDataLen, dev) ← if ubDataLen = 7 then dev.readFifo else some (ubDataLen, dev)
  some (ubTemCom &&& 0x1F, ubDataLen, dev)

/-- The `switch` on the command.  The frequency offset that `RFFREQOFFS`
assembles is a local that nothing reads. -/
def receiveCommand (rssiOffset : Int8) (ubTemCom ubDataLen : UInt8) : Option Ax5043 :=
  if ubTemCom = AX5043_FIFOCMD_DATA then
    if ubDataLen = 0 then some dev
    else do
      let (_, dev) ← dev.readFifo
      let dev ← dev.spiReadData (ubDataLen - 1)
      some { dev with rxLen := ubDataLen - 1, irqMask0 := dev.irqMask0 &&& ~~~0x01 }
  else if ubTemCom = AX5043_FIFOCMD_RFFREQOFFS then
    if ubDataLen ≠ 3 then dev.dropChunk ubDataLen else dev.skipFifo 3
  else if ubTemCom = AX5043_FIFOCMD_RSSI then
    if ubDataLen ≠ 1 then dev.dropChunk ubDataLen
    else do
      let (r, dev) ← dev.readFifo
      some { dev with ubRssi := r.toInt8.toInt - rssiOffset.toInt }
  else if ubTemCom = AX5043_FIFOCMD_TIMER then
    if ubDataLen ≠ 3 then dev.dropChunk ubDataLen else dev.skipFifo 3
  else if ubTemCom = AX5043_FIFOCMD_ANTRSSI then
    if ubDataLen = 0 then some dev
    else do
      let (_, dev) ← dev.readFifo
      dev.dropChunk (ubDataLen - 1)
  else dev.dropChunk ubDataLen

/-- One round of the loop of `ReceiveData`. -/
def receiveChunk (rssiOffset : Int8) : Option Ax5043 := do
  let (ubTemCom, ubDataLen, dev) ← dev.readHeader
  dev.receiveCommand rssiOffset ubTemCom ubDataLen

/-- The loop, while bit 0 of `IRQREQUEST0` says that the FIFO is not empty;
`none` when the rounds run out. -/
def receiveLoop (rssiOffset : Int8) : Nat → Ax5043 → Option Ax5043
  | 0, _ => none
  | fuel + 1, dev =>
    if dev.fifo = [] then some dev
    else (dev.receiveChunk rssiOffset).bind (receiveLoop rssiOffset fuel)

/-- What `ReceiveData` clears before the loop. -/
def cleared : Ax5043 :=
  { dev with
    ubRssi := 0
    rxLen := 0
    rxBuff := List.replicate rxBuffSize 0
    rxIndices := List.range rxBuffSize }

/-- `ReceiveData`.  Every round reads a byte at least. -/
def receiveData (rssiOffset : Int8) : Option Ax5043 :=
  receiveLoop rssiOffset (dev.fifo.length + 1) dev.cleared

/-- The state at the head of the loop, after that many rounds. -/
def loopHead (rssiOffset : Int8) : Nat → Option Ax5043
  | 0 => some dev.cleared
  | rounds + 1 => (loopHead rssiOffset rounds).bind fun dev => dev.receiveChunk rssiOffset

end Ax5043

/-! ## chunks -/

/-- A chunk as the chip writes it: the length is in the header, or, for `long`,
in a byte of its own behind it. -/
structure Chunk where
  command : UInt8
  long : Bool
  payload : List UInt8
  command_lt : command < 32
  length_le : payload.length ≤ if long then 255 else 6

namespace Chunk

/-- The bytes of a chunk in the FIFO. -/
def bytes (c : Chunk) : List UInt8 :=
  if c.long then (c.command ||| 0xE0) :: UInt8.ofNat c.payload.length :: c.payload
  else (c.command ||| UInt8.ofNat c.payload.length <<< 5) :: c.payload

/-- The received bytes of a non-empty `DATA` chunk: all but its flags. -/
def data? (c : Chunk) : Option (List UInt8) :=
  if c.command = AX5043_FIFOCMD_DATA then c.payload.tail? else none

/-- The byte of an `RSSI` chunk that has one. -/
def rssi? (c : Chunk) : Option UInt8 :=
  if c.command = AX5043_FIFOCMD_RSSI ∧ c.payload.length = 1 then c.payload.head? else none

/-- What a chunk does to the radio. -/
def received (rssiOffset : Int8) (c : Chunk) (dev : Ax5043) : Ax5043 :=
  match c.data?, c.rssi? with
  | some data, _ => { dev with
      rxBuff := poke 0 data dev.rxBuff
      rxLen := UInt8.ofNat data.length
      irqMask0 := dev.irqMask0 &&& ~~~0x01
      rxIndices := dev.rxIndices ++ List.range data.length }
  | none, some r => { dev with ubRssi := r.toInt8.toInt - rssiOffset.toInt }
  | none, none => dev

end Chunk

/-! ## one chunk -/

namespace Ax5043

/-- The radio with other bytes in its FIFO. -/
def setFifo (fifo : List UInt8) (dev : Ax5043) : Ax5043 := { dev with fifo }

@[simp] theorem setFifo_fifo (fifo : List UInt8) (dev : Ax5043) :
    (dev.setFifo fifo).fifo = fifo := rfl

/-- What is cleared at the start is not the FIFO. -/
@[simp] theorem cleared_setFifo (fifo : List UInt8) (dev : Ax5043) :
    (dev.setFifo fifo).cleared = dev.cleared.setFifo fifo := by
  simp only [cleared, setFifo]

@[simp] theorem setFifo_setFifo (fifo fifo' : List UInt8) (dev : Ax5043) :
    (dev.setFifo fifo).setFifo fifo' = dev.setFifo fifo' := rfl

variable {dev : Ax5043} {bytes rest : List UInt8} {length : UInt8}

/-- A read takes the first byte. -/
theorem readFifo_cons {byte : UInt8} (h : dev.fifo = byte :: rest) :
    dev.readFifo = some (byte, dev.setFifo rest) := by
  rw [readFifo, h]
  rfl

/-- The bytes that are asked for go to the start of `RXBuff`. -/
theorem spiReadData_append (h : dev.fifo = bytes ++ rest) (hlen : bytes.length = length.toNat) :
    dev.spiReadData length = some { dev with
      rxBuff := poke 0 bytes dev.rxBuff
      fifo := rest
      rxIndices := dev.rxIndices ++ List.range bytes.length } := by
  rw [spiReadData, if_pos (by simp [h, hlen]), h, List.take_left' hlen, List.drop_left' hlen, hlen]

/-- Reads whose values are not used still take their bytes. -/
theorem skipFifo_append (h : dev.fifo = bytes ++ rest) :
    dev.skipFifo bytes.length = some (dev.setFifo rest) := by
  induction bytes generalizing dev with
  | nil =>
      rw [List.nil_append] at h
      rw [List.length_nil, skipFifo, ← h]
      rfl
  | cons byte bytes ih =>
      rw [List.length_cons, skipFifo, readFifo_cons h, Option.bind_some]
      exact ih (setFifo_fifo (bytes ++ rest) dev)

/-- The counter of the loop counts down to 0, so that it reads as many bytes as it
started with; from 0 it would wrap. -/
theorem dropLoop_append (h : dev.fifo = bytes ++ rest) (hlen : bytes.length = length.toNat)
    (h0 : length ≠ 0) {fuel : Nat} (hfuel : bytes.length ≤ fuel) :
    dropLoop fuel length dev = some (dev.setFifo rest) := by
  induction bytes generalizing dev length fuel with
  | nil => exact absurd (UInt8.toNat_inj.mp hlen.symm) h0
  | cons byte bytes ih =>
      obtain ⟨fuel, rfl⟩ := Nat.exists_eq_add_one_of_ne_zero (n := fuel) (by simp at hfuel; omega)
      have hlen' : bytes.length = (length - 1).toNat := by
        have h1 : (1 : UInt8) ≤ length := by
          rw [UInt8.le_iff_toNat_le, ← hlen]
          exact Nat.le_add_left 1 _
        rw [UInt8.toNat_sub_of_le _ _ h1, ← hlen]
        rfl
      simp only [dropLoop, readFifo_cons h, Option.bind_eq_bind, Option.bind_some]
      split
      · rename_i hmore
        exact ih (setFifo_fifo (bytes ++ rest) dev) hlen' hmore (by simpa using hfuel)
      · rename_i hlast
        have hnil : bytes = [] :=
          List.eq_nil_of_length_eq_zero (by rw [hlen', not_not.mp hlast]; rfl)
        rw [hnil]
        rfl

/-- A chunk that is dropped is dropped to its end, also an empty one. -/
theorem dropChunk_append (h : dev.fifo = bytes ++ rest) (hlen : bytes.length = length.toNat) :
    dev.dropChunk length = some (dev.setFifo rest) := by
  unfold dropChunk
  split
  · rename_i h0
    have hnil : bytes = [] := List.eq_nil_of_length_eq_zero (by rw [hlen, h0]; rfl)
    rw [hnil, List.nil_append] at h
    rw [← h]
    rfl
  · rename_i h0
    have hlt := length.toNat_lt
    exact dropLoop_append h hlen h0 (by omega)

end Ax5043

/-- A header keeps command and length apart, as long as the length is not 7. -/
private theorem header_short : ∀ (command : Fin 32) (length : Fin 7),
    ((UInt8.ofNat command ||| UInt8.ofNat length <<< 5) &&& 0xE0) >>> 5 = UInt8.ofNat length ∧
      (UInt8.ofNat command ||| UInt8.ofNat length <<< 5) &&& 0x1F = UInt8.ofNat command := by
  decide +kernel

/-- With a length of 7 it says that the length follows. -/
private theorem header_long : ∀ command : Fin 32,
    ((UInt8.ofNat command ||| 0xE0) &&& 0xE0) >>> 5 = 7 ∧
      (UInt8.ofNat command ||| 0xE0) &&& 0x1F = UInt8.ofNat command := by
  decide +kernel

namespace Chunk

variable {dev : Ax5043} {rest : List UInt8} (c : Chunk)

/-- A length fits into a byte. -/
theorem length_lt : c.payload.length < 256 := by
  have hle := c.length_le
  split at hle <;> omega

theorem toNat_length : (UInt8.ofNat c.payload.length).toNat = c.payload.length :=
  UInt8.toNat_ofNat_of_lt' c.length_lt

/-- The header is read back, in both of its forms. -/
theorem readHeader_bytes (h : dev.fifo = c.bytes ++ rest) :
    dev.readHeader = some (c.command, UInt8.ofNat c.payload.length,
      dev.setFifo (c.payload ++ rest)) := by
  have hcommand : UInt8.ofNat c.command.toNat = c.command := UInt8.ofNat_toNat
  have hle := c.length_le
  unfold bytes at h
  cases hlong : c.long with
  | true =>
      obtain ⟨hlength, hcmd⟩ := header_long ⟨c.command.toNat, c.command_lt⟩
      simp only [hcommand] at hlength hcmd
      rw [hlong, if_pos rfl, List.cons_append, List.cons_append] at h
      have hbyte := Ax5043.readFifo_cons
        (Ax5043.setFifo_fifo (UInt8.ofNat c.payload.length :: (c.payload ++ rest)) dev)
      simp only [Ax5043.readHeader, Ax5043.readFifo_cons h, Option.bind_eq_bind, Option.bind_some,
        hlength, hcmd, if_true, hbyte, Ax5043.setFifo_setFifo]
  | false =>
      rw [hlong] at hle
      obtain ⟨hlength, hcmd⟩ := header_short ⟨c.command.toNat, c.command_lt⟩
        ⟨c.payload.length, Nat.lt_succ_of_le hle⟩
      simp only [hcommand] at hlength hcmd
      have h7 : UInt8.ofNat c.payload.length ≠ 7 := by
        intro h7
        have hlen := c.toNat_length
        rw [h7] at hlen
        exact absurd (hlen ▸ hle) (by decide)
      rw [hlong, if_neg (by decide), List.cons_append] at h
      simp only [Ax5043.readHeader, Ax5043.readFifo_cons h, Option.bind_eq_bind, Option.bind_some,
        hlength, hcmd, if_neg h7]

theorem data?_of_ne (h : c.command ≠ AX5043_FIFOCMD_DATA) : c.data? = none := if_neg h

theorem rssi?_of_ne (h : c.command ≠ AX5043_FIFOCMD_RSSI ∨ c.payload.length ≠ 1) :
    c.rssi? = none := if_neg (by tauto)

/-- A chunk without data or signal strength leaves the radio as it is. -/
theorem received_of_none (rssiOffset : Int8) (hdata : c.data? = none) (hrssi : c.rssi? = none) :
    c.received rssiOffset dev = dev := by
  simp only [received, hdata, hrssi]

/-- The length the source compares is the one of the payload. -/
private theorem ofNat_length_eq_iff {n : Nat} (hn : n < 256) :
    UInt8.ofNat c.payload.length = UInt8.ofNat n ↔ c.payload.length = n := by
  rw [← UInt8.toNat_inj, c.toNat_length, UInt8.toNat_ofNat_of_lt' hn]

/-- The length without the flags. -/
theorem ofNat_succ_sub_one (n : Nat) : UInt8.ofNat (n + 1) - 1 = UInt8.ofNat n := by
  rw [UInt8.ofNat_add]
  exact UInt8.add_sub_cancel ..

/-- The flags are read and dropped, the rest goes to `RXBuff`; an empty chunk is left
alone. -/
private theorem receiveCommand_data (rssiOffset : Int8) (hc : c.command = AX5043_FIFOCMD_DATA)
    (h : dev.fifo = c.payload ++ rest) :
    dev.receiveCommand rssiOffset c.command (UInt8.ofNat c.payload.length) =
      some (c.received rssiOffset (dev.setFifo rest)) := by
  have hlt := c.length_lt
  have hdata : c.data? = c.payload.tail? := if_pos hc
  have hrssi := c.rssi?_of_ne (.inl (hc ▸ by decide))
  cases hpayload : c.payload with
  | nil =>
      rw [hpayload] at h hdata
      rw [c.received_of_none rssiOffset hdata hrssi, Ax5043.receiveCommand, if_pos hc,
        if_pos (by rfl), ← List.nil_append rest, ← h]
      rfl
  | cons flags data =>
      rw [hpayload, List.length_cons] at hlt
      rw [hpayload] at hdata
      rw [hpayload, List.cons_append] at h
      have hdlt : data.length < 256 := by omega
      have hread := Ax5043.spiReadData_append (Ax5043.setFifo_fifo (data ++ rest) dev)
        (UInt8.toNat_ofNat_of_lt' hdlt).symm
      have hlength : UInt8.ofNat (flags :: data).length ≠ 0 := by
        rw [← hpayload]
        exact mt (c.ofNat_length_eq_iff (by decide)).mp (by simp [hpayload])
      rw [Ax5043.receiveCommand, if_pos hc, if_neg hlength, Ax5043.readFifo_cons h]
      simp only [Option.bind_eq_bind, Option.bind_some, List.length_cons, ofNat_succ_sub_one, hread,
        received, hdata, List.tail?_cons]
      rfl

/-- One byte is the signal strength, any other number is dropped. -/
private theorem receiveCommand_rssi (rssiOffset : Int8) (hc : c.command = AX5043_FIFOCMD_RSSI)
    (h : dev.fifo = c.payload ++ rest) :
    dev.receiveCommand rssiOffset c.command (UInt8.ofNat c.payload.length) =
      some (c.received rssiOffset (dev.setFifo rest)) := by
  have hdata := c.data?_of_ne (hc ▸ by decide)
  have h1 : UInt8.ofNat c.payload.length = 1 ↔ c.payload.length = 1 :=
    c.ofNat_length_eq_iff (by decide)
  rw [Ax5043.receiveCommand, if_neg (hc ▸ by decide), if_neg (hc ▸ by decide), if_pos hc]
  by_cases hlen : c.payload.length = 1
  · obtain ⟨r, hr⟩ := List.length_eq_one_iff.mp hlen
    have hrssi : c.rssi? = some r := by rw [rssi?, if_pos ⟨hc, hlen⟩, hr, List.head?_cons]
    rw [hr, List.singleton_append] at h
    rw [if_neg (not_not.mpr (h1.mpr hlen)), Ax5043.readFifo_cons h]
    simp only [Option.bind_eq_bind, Option.bind_some, received, hdata, hrssi]
  · rw [if_pos (mt h1.mp hlen), Ax5043.dropChunk_append h c.toNat_length.symm,
      c.received_of_none rssiOffset hdata (c.rssi?_of_ne (.inr hlen))]

/-- The source reads one byte and drops the others, and stores none. -/
private theorem receiveCommand_antRssi (rssiOffset : Int8)
    (hc : c.command = AX5043_FIFOCMD_ANTRSSI) (h : dev.fifo = c.payload ++ rest) :
    dev.receiveCommand rssiOffset c.command (UInt8.ofNat c.payload.length) =
      some (dev.setFifo rest) := by
  have hlt := c.length_lt
  have h0 : UInt8.ofNat c.payload.length = 0 ↔ c.payload.length = 0 :=
    c.ofNat_length_eq_iff (by decide)
  rw [Ax5043.receiveCommand, if_neg (hc ▸ by decide), if_neg (hc ▸ by decide),
    if_neg (hc ▸ by decide), if_neg (hc ▸ by decide), if_pos hc]
  cases hpayload : c.payload with
  | nil =>
      rw [hpayload, List.nil_append] at h
      rw [if_pos (by rfl), ← h]
      rfl
  | cons byte bytes =>
      rw [hpayload, List.length_cons] at hlt
      rw [hpayload] at h0
      rw [hpayload, List.cons_append] at h
      have hblt : bytes.length < 256 := by omega
      have hdrop := Ax5043.dropChunk_append (Ax5043.setFifo_fifo (bytes ++ rest) dev)
        (UInt8.toNat_ofNat_of_lt' hblt).symm
      rw [if_neg (mt h0.mp (List.cons_ne_nil byte bytes ∘ List.eq_nil_of_length_eq_zero)),
        Ax5043.readFifo_cons h]
      simp only [Option.bind_eq_bind, Option.bind_some, List.length_cons, ofNat_succ_sub_one, hdrop,
        Ax5043.setFifo_setFifo]

/-- The payload of a chunk is read to its end. -/
theorem receiveCommand_payload (rssiOffset : Int8) (h : dev.fifo = c.payload ++ rest) :
    dev.receiveCommand rssiOffset c.command (UInt8.ofNat c.payload.length) =
      some (c.received rssiOffset (dev.setFifo rest)) := by
  have hdrop := Ax5043.dropChunk_append h c.toNat_length.symm
  by_cases hdata : c.command = AX5043_FIFOCMD_DATA
  · exact c.receiveCommand_data rssiOffset hdata h
  by_cases hrssi : c.command = AX5043_FIFOCMD_RSSI
  · exact c.receiveCommand_rssi rssiOffset hrssi h
  rw [c.received_of_none rssiOffset (c.data?_of_ne hdata) (c.rssi?_of_ne (.inl hrssi))]
  by_cases hant : c.command = AX5043_FIFOCMD_ANTRSSI
  · exact c.receiveCommand_antRssi rssiOffset hant h
  -- the chunks of three bytes are read byte by byte, all others are dropped
  have hthree : (if UInt8.ofNat c.payload.length ≠ 3 then
      dev.dropChunk (UInt8.ofNat c.payload.length) else dev.skipFifo 3) =
        some (dev.setFifo rest) := by
    split
    · exact hdrop
    · rename_i h3
      have hlen := (c.ofNat_length_eq_iff (n := 3) (by decide)).mp (not_not.mp h3)
      rw [← hlen]
      exact Ax5043.skipFifo_append h
  rw [Ax5043.receiveCommand, if_neg hdata, if_neg hrssi, if_neg hant, hthree, hdrop, ite_self,
    ite_self]

/-- **A round reads one chunk**, to its end and no further. -/
theorem receiveChunk_bytes (rssiOffset : Int8) (h : dev.fifo = c.bytes ++ rest) :
    dev.receiveChunk rssiOffset = some (c.received rssiOffset (dev.setFifo rest)) := by
  simp only [Ax5043.receiveChunk, c.readHeader_bytes h, Option.bind_eq_bind, Option.bind_some]
  rw [c.receiveCommand_payload rssiOffset (Ax5043.setFifo_fifo ..), Ax5043.setFifo_setFifo]

end Chunk

/-! ## all chunks -/

namespace Chunk

/-- What the chunks do to the radio, one after the other. -/
def receivedAll (rssiOffset : Int8) (cs : List Chunk) (dev : Ax5043) : Ax5043 :=
  cs.foldl (fun dev c => c.received rssiOffset dev) dev

@[simp] theorem receivedAll_nil (rssiOffset : Int8) (dev : Ax5043) :
    receivedAll rssiOffset [] dev = dev := rfl

@[simp] theorem receivedAll_cons (rssiOffset : Int8) (c : Chunk) (cs : List Chunk) (dev : Ax5043) :
    receivedAll rssiOffset (c :: cs) dev = receivedAll rssiOffset cs (c.received rssiOffset dev) :=
  rfl

@[simp] theorem receivedAll_concat (rssiOffset : Int8) (c : Chunk) (cs : List Chunk)
    (dev : Ax5043) : receivedAll rssiOffset (cs ++ [c]) dev =
      c.received rssiOffset (receivedAll rssiOffset cs dev) := by
  simp [receivedAll]

/-- Apart from being read, the FIFO plays no part. -/
@[simp] theorem received_setFifo (rssiOffset : Int8) (c : Chunk) (fifo : List UInt8)
    (dev : Ax5043) :
    c.received rssiOffset (dev.setFifo fifo) = (c.received rssiOffset dev).setFifo fifo := by
  unfold received
  split <;> rfl

/-- A chunk has a header at least. -/
theorem length_bytes_pos (c : Chunk) : 0 < c.bytes.length := by
  unfold bytes
  split <;> simp

/-- There are no more chunks than bytes, so the rounds do not run out. -/
theorem length_le_length_flatMap (cs : List Chunk) : cs.length ≤ (cs.flatMap bytes).length := by
  induction cs with
  | nil => simp
  | cons c cs ih =>
      have hpos := c.length_bytes_pos
      rw [List.flatMap_cons, List.length_append, List.length_cons]
      omega

/-- The induction is on the chunks: a round takes the first one away. -/
theorem receiveLoop_bytes (rssiOffset : Int8) (cs : List Chunk) {fuel : Nat}
    (hfuel : cs.length < fuel) (dev : Ax5043) :
    Ax5043.receiveLoop rssiOffset fuel (dev.setFifo (cs.flatMap bytes)) =
      some ((receivedAll rssiOffset cs dev).setFifo []) := by
  induction cs generalizing dev fuel with
  | nil =>
      obtain ⟨fuel, rfl⟩ := Nat.exists_eq_add_of_lt hfuel
      rfl
  | cons c cs ih =>
      obtain ⟨fuel, rfl⟩ := Nat.exists_eq_add_of_lt hfuel
      have hne : c.bytes ++ cs.flatMap bytes ≠ [] := by
        have hpos := c.length_bytes_pos
        simp [List.ne_nil_of_length_pos hpos]
      rw [List.flatMap_cons, Ax5043.receiveLoop, Ax5043.setFifo_fifo, if_neg hne,
        c.receiveChunk_bytes rssiOffset (Ax5043.setFifo_fifo ..), Option.bind_some,
        Ax5043.setFifo_setFifo, received_setFifo]
      exact ih (by simp; omega) (c.received rssiOffset dev)

/-- **The loop is at the start of a chunk** whenever it tests its condition. -/
theorem loopHead_bytes (rssiOffset : Int8) (cs : List Chunk) (dev : Ax5043) {k : Nat}
    (hk : k ≤ cs.length) :
    (dev.setFifo (cs.flatMap bytes)).loopHead rssiOffset k =
      some ((receivedAll rssiOffset (cs.take k) dev.cleared).setFifo
        ((cs.drop k).flatMap bytes)) := by
  induction k with
  | zero =>
      rw [Ax5043.loopHead, Ax5043.cleared_setFifo, List.take_zero, List.drop_zero, receivedAll_nil]
  | succ k ih =>
      have hdrop : (cs.drop k).flatMap bytes = cs[k].bytes ++ (cs.drop (k + 1)).flatMap bytes := by
        rw [List.drop_eq_getElem_cons (i := k) hk, List.flatMap_cons]
      rw [Ax5043.loopHead, ih (by omega), Option.bind_some, hdrop,
        receiveChunk_bytes cs[k] rssiOffset (Ax5043.setFifo_fifo ..), Ax5043.setFifo_setFifo,
        received_setFifo, List.take_succ_eq_append_getElem hk, receivedAll_concat]

/-! ## what is received -/

/-- The last of the values that `f` finds in the chunks. -/
def lastSome {α : Type} (f : Chunk → Option α) (cs : List Chunk) : Option α :=
  (cs.filterMap f).getLast?

@[simp] theorem lastSome_nil {α : Type} (f : Chunk → Option α) : lastSome f [] = none := rfl

theorem lastSome_concat {α : Type} (f : Chunk → Option α) (cs : List Chunk) (c : Chunk) :
    lastSome f (cs ++ [c]) = (f c).or (lastSome f cs) := by
  cases h : f c with
  | none => simp [lastSome, h]
  | some a => simp [lastSome, h]

/-- The data of the last non-empty `DATA` chunk; no bytes when there is none. -/
def lastData (cs : List Chunk) : List UInt8 := (lastSome data? cs).getD []

/-- The signal strength of the last `RSSI` chunk of one byte; 0 when there is
none. -/
def lastRssi (rssiOffset : Int8) (cs : List Chunk) : Int :=
  match lastSome rssi? cs with
  | some r => r.toInt8.toInt - rssiOffset.toInt
  | none => 0

/-- Without its flags the data fits into `RXBuff`. -/
theorem length_data?_lt {c : Chunk} {data : List UInt8} (h : c.data? = some data) :
    data.length < rxBuffSize := by
  have hlt := c.length_lt
  unfold data? at h
  split at h
  · cases hpayload : c.payload with
    | nil => simp [hpayload] at h
    | cons flags bytes =>
        rw [hpayload, List.length_cons] at hlt
        rw [hpayload, List.tail?_cons, Option.some.injEq] at h
        rw [← h, rxBuffSize]
        omega
  · simp at h

/-- A chunk is data or a signal strength, never both. -/
theorem rssi?_of_data? {c : Chunk} {data : List UInt8} (h : c.data? = some data) :
    c.rssi? = none := by
  apply c.rssi?_of_ne
  left
  intro hc
  rw [c.data?_of_ne (hc ▸ by decide)] at h
  exact absurd h (by simp)

theorem length_lastData_lt (cs : List Chunk) : (lastData cs).length < rxBuffSize := by
  unfold lastData
  cases h : lastSome data? cs with
  | none => simp [rxBuffSize]
  | some data =>
      obtain ⟨c, -, hc⟩ := List.mem_filterMap.mp (List.mem_of_getLast? h)
      exact length_data?_lt hc

variable (rssiOffset : Int8) (cs : List Chunk) (dev : Ax5043)

/-- The length is that of the last data; what came before is overwritten. -/
theorem rxLen_receivedAll :
    (receivedAll rssiOffset cs dev.cleared).rxLen = UInt8.ofNat (lastData cs).length := by
  induction cs using List.reverseRecOn with
  | nil => rfl
  | append_singleton cs c ih =>
      rw [receivedAll_concat, lastData, lastSome_concat, received]
      cases hdata : c.data? with
      | some data => rfl
      | none => cases c.rssi? <;> exact ih

/-- The signal strength is the last one. -/
theorem ubRssi_receivedAll :
    (receivedAll rssiOffset cs dev.cleared).ubRssi = lastRssi rssiOffset cs := by
  induction cs using List.reverseRecOn with
  | nil => rfl
  | append_singleton cs c ih =>
      rw [receivedAll_concat, lastRssi, lastSome_concat, received]
      cases hdata : c.data? with
      | some data =>
          rw [rssi?_of_data? hdata]
          exact ih
      | none =>
          cases c.rssi? with
          | some r => rfl
          | none => exact ih

/-- The last data stands at the start of `RXBuff`. -/
theorem take_rxBuff_receivedAll :
    (receivedAll rssiOffset cs dev.cleared).rxBuff.take (lastData cs).length = lastData cs := by
  induction cs using List.reverseRecOn with
  | nil => rfl
  | append_singleton cs c ih =>
      rw [receivedAll_concat, lastData, lastSome_concat, received]
      cases hdata : c.data? with
      | some data => exact List.take_left ..
      | none => cases c.rssi? <;> exact ih

/-- As many rounds as there are chunks are enough. -/
theorem receiveData_bytes :
    (dev.setFifo (cs.flatMap bytes)).receiveData rssiOffset =
      some ((receivedAll rssiOffset cs dev.cleared).setFifo []) := by
  rw [Ax5043.receiveData, Ax5043.cleared_setFifo, Ax5043.setFifo_fifo]
  exact receiveLoop_bytes rssiOffset cs (Nat.lt_succ_of_le (length_le_length_flatMap cs)) _

theorem toNat_length_lastData :
    (UInt8.ofNat (lastData cs).length).toNat = (lastData cs).length := by
  have hlt := length_lastData_lt cs
  exact UInt8.toNat_ofNat_of_lt' (hlt.trans (by decide))

/-- **The parser stays in step**: whatever the chunks are, `ReceiveData` reads
them to the last byte, is at the start of one at each loop head, and leaves the
last data and the last signal strength. -/
theorem receive_chunks :
    ∃ dev', (dev.setFifo (cs.flatMap bytes)).receiveData rssiOffset = some dev' ∧
      dev'.fifo = [] ∧
      (∀ k ≤ cs.length, ∃ head, (dev.setFifo (cs.flatMap bytes)).loopHead rssiOffset k = some head ∧
        head.fifo = (cs.drop k).flatMap bytes) ∧
      dev'.rxLen.toNat = (lastData cs).length ∧
      dev'.rxBuff.take dev'.rxLen.toNat = lastData cs ∧
      dev'.ubRssi = lastRssi rssiOffset cs := by
  refine ⟨_, receiveData_bytes rssiOffset cs dev, rfl, ?_, ?_, ?_, ?_⟩
  · intro k hk
    exact ⟨_, loopHead_bytes rssiOffset cs dev hk, rfl⟩
  · change (receivedAll rssiOffset cs dev.cleared).rxLen.toNat = _
    rw [rxLen_receivedAll, toNat_length_lastData]
  · change (receivedAll rssiOffset cs dev.cleared).rxBuff.take
      (receivedAll rssiOffset cs dev.cleared).rxLen.toNat = _
    rw [rxLen_receivedAll, toNat_length_lastData, take_rxBuff_receivedAll]
  · exact ubRssi_receivedAll rssiOffset cs dev

end Chunk

end WaterValve
