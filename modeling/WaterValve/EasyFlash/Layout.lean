import Mathlib.Algebra.BigOperators.Group.List.Basic
import Mathlib.Logic.Function.Basic
import WaterValve.EasyFlash.Model

/-!
# WaterValve.EasyFlash.Layout

What a sector spells: its header, the nodes one behind the other, and erased
bytes.  `SpellsAt` says that the flash spells a sector.  What is read of a node
is then what the node is (`SpellsAt.readEnv`), and a write is a change of the
sector (`SpellsAt.write_status`, `SpellsAt.append`, …).
-/

namespace WaterValve.EasyFlash

open NorFlash

/-! ## status tables -/

/-- The table after all statuses up to this one have been written. -/
def statusByte (statusIndex : Nat) : UInt8 := (0xFF : UInt8) >>> UInt8.ofNat statusIndex

/-- The status of a sector is read back from its byte. -/
@[simp]
theorem StoreStatus.ofIndex_statusByte (st : StoreStatus) :
    StoreStatus.ofIndex (getStatus (statusByte st.index) storeStatusNum) = st := by
  cases st <;> decide

/-- So is its dirty status. -/
@[simp]
theorem DirtyStatus.ofIndex_statusByte (st : DirtyStatus) :
    DirtyStatus.ofIndex (getStatus (statusByte st.index) dirtyStatusNum) = st := by
  cases st <;> decide

/-- So is the status of a node. -/
@[simp]
theorem EnvStatus.ofIndex_statusByte (st : EnvStatus) :
    EnvStatus.ofIndex (getStatus (statusByte st.index) envStatusNum) = st := by
  cases st <;> decide

/-! ## crc -/

/-- What `ef_calc_crc32` does at its beginning, it undoes at its end. -/
theorem xor_xor_cancel (crc : UInt32) : crc ^^^ 0xFFFFFFFF ^^^ 0xFFFFFFFF = crc := by
  rw [UInt32.xor_assoc, UInt32.xor_self, UInt32.xor_zero]

/-- The check sum of nothing is its start value. -/
theorem efCalcCrc32_nil (crc : UInt32) : efCalcCrc32 crc [] = crc := xor_xor_cancel crc

/-- The checksum of a text in pieces. -/
theorem efCalcCrc32_append (crc : UInt32) (l l' : List UInt8) :
    efCalcCrc32 crc (l ++ l') = efCalcCrc32 (efCalcCrc32 crc l) l' := by
  rw [efCalcCrc32, efCalcCrc32, efCalcCrc32, List.foldl_append, xor_xor_cancel]

/-- The check sum of a region is that of the bytes read there. -/
theorem calcCrc32Loop_eq {f : NorFlash} {fuel addr len : Nat} {crc : UInt32} (h : len ≤ fuel) :
    calcCrc32Loop f fuel addr len crc = efCalcCrc32 crc (f.read addr len) := by
  induction fuel generalizing addr len crc with
  | zero =>
      obtain rfl := Nat.le_zero.mp h
      exact (efCalcCrc32_nil crc).symm
  | succ fuel ih =>
      rw [calcCrc32Loop]
      split
      · rename_i hzero
        subst hzero
        exact (efCalcCrc32_nil crc).symm
      · rw [ih (by omega), ← efCalcCrc32_append, ← read_add,
          Nat.add_sub_cancel' (Nat.min_le_right ..)]

/-! ## nodes and sectors -/

/-- A named value, and what has become of it. -/
structure Node where
  status : EnvStatus
  name : List UInt8
  value : List UInt8

namespace Node

def len (nd : Node) : Nat := envLen nd.name nd.value

def table (nd : Node) : UInt8 := statusByte nd.status.index

def bytes (nd : Node) : List UInt8 :=
  [nd.table, 0xFF, 0xFF, 0xFF] ++ (envHdrData nd.name nd.value ++ nd.name ++ nd.value)

/-- The fields of the header, one by one. -/
theorem bytes_eq (nd : Node) :
    nd.bytes = [nd.table, 0xFF, 0xFF, 0xFF] ++ le32 envMagicWord ++ le32 (UInt32.ofNat nd.len) ++
      le32 (envCrc32 nd.name nd.value) ++ [UInt8.ofNat nd.name.length, 0xFF, 0xFF, 0xFF] ++
      le32 (UInt32.ofNat nd.value.length) ++ nd.name ++ nd.value := by
  simp [bytes, envHdrData, envHdrLens, len]

/-- A node takes as many bytes as its header says. -/
@[simp]
theorem length_bytes (nd : Node) : nd.bytes.length = nd.len := by
  simp [bytes, envHdrData, envHdrLens, len, envLen, envHdrDataSize]
  omega

/-- A node has a header of 24 bytes. -/
theorem le_len (nd : Node) : 24 ≤ nd.len := by
  unfold len envLen envHdrDataSize
  omega

end Node

/-- The nodes of a sector take this much. -/
def sizeOf (nodes : List Node) : Nat := (nodes.map (·.len)).sum

@[simp]
theorem sizeOf_nil : sizeOf [] = 0 := rfl

@[simp]
theorem sizeOf_cons (nd : Node) (nodes : List Node) :
    sizeOf (nd :: nodes) = nd.len + sizeOf nodes := by
  simp [sizeOf]

/-- Nodes written one after the other. -/
@[simp]
theorem sizeOf_append (l l' : List Node) : sizeOf (l ++ l') = sizeOf l + sizeOf l' := by
  simp [sizeOf]

/-- The bytes of the nodes. -/
@[simp]
theorem length_flatMap_bytes (l : List Node) : (l.flatMap (·.bytes)).length = sizeOf l := by
  simp [sizeOf, List.length_flatMap]

/-- A sector that was formatted. -/
structure Sector where
  store : StoreStatus
  dirty : DirtyStatus
  nodes : List Node

namespace Sector

/-- A sector after it was formatted. -/
def formatted : Sector := ⟨.empty, .false, []⟩

def header (sec : Sector) : List UInt8 :=
  [statusByte sec.store.index, statusByte sec.dirty.index, 0xFF, 0xFF] ++ le32 sectorMagicWord ++
    le32 sectorNotCombined ++ le32 0xFFFFFFFF

def bytes (sec : Sector) : List UInt8 :=
  sec.header ++ sec.nodes.flatMap (·.bytes) ++
    List.replicate (sectorSize - sectorHdrDataSize - sizeOf sec.nodes) 0xFF

/-- The header of a sector. -/
@[simp]
theorem length_header (sec : Sector) : sec.header.length = sectorHdrDataSize := by
  simp [header, sectorHdrDataSize]

/-- The nodes leave some room, and their names fit. -/
structure Fits (sec : Sector) : Prop where
  size : sizeOf sec.nodes < sectorSize - sectorHdrDataSize
  name : ∀ nd ∈ sec.nodes, nd.name.length ≤ efEnvNameMax

/-- A sector that fits fills its part of the flash. -/
theorem Fits.length_bytes {sec : Sector} (h : sec.Fits) : sec.bytes.length = sectorSize := by
  have hsize := h.size
  rw [bytes, List.length_append, List.length_append, length_flatMap_bytes, List.length_replicate,
    length_header]
  omega

/-- A formatted sector fits. -/
theorem formatted_fits : formatted.Fits := ⟨by decide, nofun⟩

end Sector

/-- Four sectors. -/
abbrev Area := Fin 4 → Sector

/-- Where a sector begins. -/
def base (k : Fin 4) : Nat := k * sectorSize

/-- The address behind these nodes of a sector. -/
def addrAfter (k : Fin 4) (pre : List Node) : Nat := base k + sectorHdrDataSize + sizeOf pre

/-- The flash spells this sector. -/
structure SpellsAt (f : NorFlash) (k : Fin 4) (sec : Sector) : Prop where
  bytes : f.read (base k) sectorSize = sec.bytes
  fits : sec.Fits

/-- The flash spells these sectors. -/
def Spells (f : NorFlash) (A : Area) : Prop := ∀ k, SpellsAt f k (A k)

section

variable {f f' : NorFlash} {A : Area} {k : Fin 4} {sec : Sector} {pre post : List Node} {nd : Node}

/-- A node in its sector. -/
theorem Sector.bytes_of_nodes (h : sec.nodes = pre ++ nd :: post) :
    sec.bytes = (sec.header ++ pre.flatMap (·.bytes)) ++ nd.bytes ++
      (post.flatMap (·.bytes) ++
        List.replicate (sectorSize - sectorHdrDataSize - sizeOf sec.nodes) 0xFF) := by
  simp [Sector.bytes, h]

/-- Where the next node starts. -/
theorem length_header_append :
    (sec.header ++ pre.flatMap (·.bytes)).length = sectorHdrDataSize + sizeOf pre := by
  rw [List.length_append, length_flatMap_bytes, Sector.length_header]

namespace SpellsAt

/-- A part of a node. -/
theorem node_region (h : SpellsAt f k sec) (hk : sec.nodes = pre ++ nd :: post) {u m v : List UInt8}
    (hnd : nd.bytes = u ++ m ++ v) : ∃ p q, f.read (base k) sectorSize = p ++ m ++ q ∧
      base k + p.length = addrAfter k pre + u.length := by
  refine ⟨sec.header ++ pre.flatMap (·.bytes) ++ u, v ++ (post.flatMap (·.bytes) ++
    List.replicate (sectorSize - sectorHdrDataSize - sizeOf sec.nodes) 0xFF), ?_, ?_⟩
  · rw [h.bytes, Sector.bytes_of_nodes hk, hnd]
    simp only [List.append_assoc]
  · rw [List.length_append, length_header_append, addrAfter]
    omega

/-- What is read of a node at an offset. -/
theorem read_node (h : SpellsAt f k sec) (hk : sec.nodes = pre ++ nd :: post) {u m v : List UInt8}
    {o n : Nat} (hnd : nd.bytes = u ++ m ++ v) (ho : u.length = o) (hn : m.length = n) :
    f.read (addrAfter k pre + o) n = m := by
  obtain ⟨p, q, hread, hp⟩ := h.node_region hk hnd
  rw [← ho, ← hn, ← hp]
  exact read_of_region hread

/-- A word of a node. -/
theorem u32_node (h : SpellsAt f k sec) (hk : sec.nodes = pre ++ nd :: post) {u v : List UInt8}
    {o : Nat}
    {x : UInt32} (hnd : nd.bytes = u ++ le32 x ++ v) (ho : u.length = o) :
    f.u32 (addrAfter k pre + o) = x :=
  u32_of_read (h.read_node hk hnd ho rfl)

/-- A byte of a node. -/
theorem byte_node (h : SpellsAt f k sec) (hk : sec.nodes = pre ++ nd :: post) {u v : List UInt8}
    {o : Nat}
    {b : UInt8} (hnd : nd.bytes = u ++ b :: v) (ho : u.length = o) :
    f (addrAfter k pre + o) = b := by
  obtain ⟨p, q, hread, hp⟩ := h.node_region (m := [b]) (v := v) hk (by simpa using hnd)
  rw [← ho, ← hp]
  exact apply_of_region (by simpa using hread)

end SpellsAt

/-! ## what is read of a node -/

/-- A length within a sector does not wrap. -/
theorem toNat_ofNat_of_small {n : Nat} (h : n < 4096) : (UInt32.ofNat n).toNat = n := by
  rw [UInt32.toNat_ofNat']
  omega

/-- What `read_env` finds. -/
def Node.env (nd : Node) (start : Nat) : EnvNode where
  start := some start
  status := nd.status
  len := nd.len
  crcIsOk := true
  name := nd.name
  value := start + envHdrDataSize + nd.name.length
  valueLen := nd.value.length
  nameLen := nd.name.length

namespace SpellsAt

/-- A node ends before its sector does. -/
theorem len_lt (h : SpellsAt f k sec) (hk : sec.nodes = pre ++ nd :: post) :
    sizeOf pre + nd.len < sectorSize - sectorHdrDataSize := by
  have hsize := h.fits.size
  rw [hk, sizeOf_append, sizeOf_cons] at hsize
  omega

/-- The name of a node fits into the buffer for names. -/
theorem nameLen_le (h : SpellsAt f k sec) (hk : sec.nodes = pre ++ nd :: post) :
    nd.name.length ≤ efEnvNameMax :=
  h.fits.name nd (hk ▸ List.mem_append_right pre List.mem_cons_self)

/-- **A node is read as what it is.** -/
theorem readEnv (h : SpellsAt f k sec) (hk : sec.nodes = pre ++ nd :: post) {s : Ef}
    (hs : s.flash = f) (env : EnvNode) :
    readEnv (addrAfter k pre) env s = some (nd.env (addrAfter k pre), s) := by
  have hlt := h.len_lt hk
  have hname := h.nameLen_le hk
  have hle := nd.le_len
  have hlen : envHdrDataSize + nd.name.length + nd.value.length = nd.len := rfl
  simp only [sectorSize, sectorHdrDataSize, efEnvNameMax, envHdrDataSize] at hlt hname hlen
  -- the fields of the header
  have htable := h.byte_node hk (u := []) (b := nd.table) (o := 0)
    (v := [0xFF, 0xFF, 0xFF] ++ (envHdrData nd.name nd.value ++ nd.name ++ nd.value))
    (by simp [Node.bytes]) rfl
  have hflen := h.u32_node hk (u := [nd.table, 0xFF, 0xFF, 0xFF] ++ le32 envMagicWord)
    (x := UInt32.ofNat nd.len) (o := 8)
    (nd.bytes_eq.trans (by simp only [List.append_assoc]; rfl)) rfl
  have hcrc := h.u32_node hk (u := [nd.table, 0xFF, 0xFF, 0xFF] ++ le32 envMagicWord ++
    le32 (UInt32.ofNat nd.len)) (x := envCrc32 nd.name nd.value) (o := 12)
    (nd.bytes_eq.trans (by simp only [List.append_assoc]; rfl)) rfl
  have hnameLen := h.byte_node hk (u := [nd.table, 0xFF, 0xFF, 0xFF] ++ le32 envMagicWord ++
    le32 (UInt32.ofNat nd.len) ++ le32 (envCrc32 nd.name nd.value))
    (b := UInt8.ofNat nd.name.length) (o := 16)
    (nd.bytes_eq.trans (by simp only [List.append_assoc, List.cons_append]; rfl)) rfl
  have hvalueLen := h.u32_node hk (u := [nd.table, 0xFF, 0xFF, 0xFF] ++ le32 envMagicWord ++
    le32 (UInt32.ofNat nd.len) ++ le32 (envCrc32 nd.name nd.value) ++
    [UInt8.ofNat nd.name.length, 0xFF, 0xFF, 0xFF]) (x := UInt32.ofNat nd.value.length) (o := 20)
    (nd.bytes_eq.trans (by simp only [List.append_assoc]; rfl)) rfl
  have hreadName := h.read_node hk
    (u := [nd.table, 0xFF, 0xFF, 0xFF] ++ envHdrData nd.name nd.value) (m := nd.name)
    (v := nd.value) (o := envHdrDataSize) (by simp [Node.bytes]) rfl rfl
  -- what the checksum is about
  have hchecked := h.read_node hk (u := [nd.table, 0xFF, 0xFF, 0xFF] ++ le32 envMagicWord ++
    le32 (UInt32.ofNat nd.len) ++ le32 (envCrc32 nd.name nd.value)) (o := envNameLenOffset)
    (n := nd.len - envNameLenOffset)
    (m := envHdrLens nd.name nd.value ++ nd.name ++ nd.value) (v := [])
    (by simp [Node.bytes, envHdrData, Node.len]) rfl
    (by simp [envHdrLens, envNameLenOffset]; omega)
  have hloop : calcCrc32Loop f envAreaSize (addrAfter k pre + envNameLenOffset)
      (nd.len - envNameLenOffset) 0 = envCrc32 nd.name nd.value := by
    rw [calcCrc32Loop_eq (by simp only [envAreaSize, sectorNum, sectorSize]; omega), hchecked,
      efCalcCrc32_append, efCalcCrc32_append, envCrc32]
  have hlenNat : (UInt32.ofNat nd.len).toNat = nd.len := toNat_ofNat_of_small (by omega)
  have hvalueNat : (UInt32.ofNat nd.value.length).toNat = nd.value.length :=
    toNat_ofNat_of_small (by omega)
  have hnameNat : (UInt8.ofNat nd.name.length).toNat = nd.name.length := by
    rw [UInt8.toNat_ofNat']
    omega
  subst hs
  rw [Nat.add_zero] at htable
  have hstatus : EnvStatus.ofIndex (readStatus (addrAfter k pre) envStatusNum s) = nd.status := by
    rw [readStatus, htable, Node.table, EnvStatus.ofIndex_statusByte]
  have harea : ¬(envAreaSize < nd.len ∨ nd.len < envNameLenOffset) := by
    simp only [envAreaSize, sectorNum, sectorSize, envNameLenOffset]
    omega
  have hassert : ¬(sectorSize - sectorHdrDataSize < nd.len ∧ nd.len < envAreaSize) := by
    simp only [sectorSize, sectorHdrDataSize]
    omega
  unfold WaterValve.EasyFlash.readEnv
  rw [hflen, hcrc, hlenNat, if_neg harea, if_neg hassert, hnameLen, hnameNat, hvalueLen, hvalueNat,
    hstatus, if_neg (not_not_intro hloop), hreadName]
  rfl

end SpellsAt

/-! ## headers -/

/-- What the header says, as `read_sector_meta_data` takes it over. -/
def Sector.hdr (sec : Sector) (k : Fin 4) (sector : SectorMeta) : SectorMeta :=
  { sector with
    addr := some (base k)
    checkOk := true
    combined := sectorNotCombined
    store := sec.store
    dirty := sec.dirty }

namespace SpellsAt

/-- What is read of a header. -/
theorem read_header (h : SpellsAt f k sec) {u m v : List UInt8} {o n : Nat}
    (hsec : sec.header = u ++ m ++ v) (ho : u.length = o) (hn : m.length = n) :
    f.read (base k + o) n = m := by
  have hread : f.read (base k) sectorSize = u ++ m ++ (v ++ sec.nodes.flatMap (·.bytes) ++
      List.replicate (sectorSize - sectorHdrDataSize - sizeOf sec.nodes) 0xFF) := by
    rw [h.bytes, Sector.bytes, hsec]
    simp only [List.append_assoc]
  rw [← ho, ← hn]
  exact read_of_region hread

/-- A byte of the header of a sector. -/
theorem byte_header (h : SpellsAt f k sec) {u v : List UInt8} {o : Nat} {b : UInt8}
    (hsec : sec.header = u ++ [b] ++ v) (ho : u.length = o) : f (base k + o) = b := by
  have hread := h.read_header hsec ho (n := 1) rfl
  simpa [NorFlash.read] using hread

/-- The status of the sector is read back. -/
theorem readStatus_store (h : SpellsAt f k sec) {s : Ef} (hs : s.flash = f) :
    StoreStatus.ofIndex (readStatus (base k) storeStatusNum s) = sec.store := by
  have hbyte := h.byte_header (u := []) (b := statusByte sec.store.index) (o := 0)
    (v := [statusByte sec.dirty.index, 0xFF, 0xFF] ++ le32 sectorMagicWord ++
      le32 sectorNotCombined ++ le32 0xFFFFFFFF) (by simp [Sector.header]) rfl
  rw [readStatus, hs]
  rw [Nat.add_zero] at hbyte
  rw [hbyte, StoreStatus.ofIndex_statusByte]

/-- So is its dirty status. -/
theorem readStatus_dirty (h : SpellsAt f k sec) {s : Ef} (hs : s.flash = f) :
    DirtyStatus.ofIndex (readStatus (base k + sectorDirtyOffset) dirtyStatusNum s) = sec.dirty := by
  have hbyte := h.byte_header (u := [statusByte sec.store.index]) (b := statusByte sec.dirty.index)
    (o := sectorDirtyOffset) (v := [0xFF, 0xFF] ++ le32 sectorMagicWord ++
      le32 sectorNotCombined ++ le32 0xFFFFFFFF) (by simp [Sector.header]) rfl
  rw [readStatus, hs, hbyte, DirtyStatus.ofIndex_statusByte]

/-- **A header is read as what it is.** -/
theorem readSectorHdr (h : SpellsAt f k sec) {s : Ef} (hs : s.flash = f) (sector : SectorMeta) :
    readSectorHdr (base k) sector s = (true, sec.hdr k sector) := by
  have hmagic : f.u32 (base k + 4) = sectorMagicWord :=
    u32_of_read (h.read_header (u := [statusByte sec.store.index, statusByte sec.dirty.index, 0xFF,
      0xFF]) (v := le32 sectorNotCombined ++ le32 0xFFFFFFFF) (by simp [Sector.header]) rfl rfl)
  have hcombined : f.u32 (base k + 8) = sectorNotCombined :=
    u32_of_read (h.read_header (u := [statusByte sec.store.index, statusByte sec.dirty.index, 0xFF,
      0xFF] ++ le32 sectorMagicWord) (v := le32 0xFFFFFFFF) (by simp [Sector.header]) rfl rfl)
  rw [WaterValve.EasyFlash.readSectorHdr, h.readStatus_store hs, h.readStatus_dirty hs, hs, hmagic,
    hcombined, if_pos rfl, Sector.hdr]

end SpellsAt

/-! ## writes -/

/-- The rest of the flash is not touched. -/
theorem read_write_of_ne {j : Fin 4} {addr : Nat} {bs : List UInt8} (hj : j ≠ k)
    (haddr : base k ≤ addr) (hend : addr + bs.length ≤ base k + sectorSize) :
    (f.write addr bs).read (base j) sectorSize = f.read (base j) sectorSize := by
  have hne : j.val ≠ k.val := fun h => hj (Fin.ext h)
  refine read_write_of_disjoint ?_
  simp only [base, sectorSize] at *
  omega

/-- One sector is changed. -/
theorem Spells.update (h : Spells f A) (hk : SpellsAt f' k sec)
    (hframe : ∀ j, j ≠ k → f'.read (base j) sectorSize = f.read (base j) sectorSize) :
    Spells f' (Function.update A k sec) := by
  intro j
  by_cases hj : j = k
  · rw [hj, Function.update_self]
    exact hk
  · rw [Function.update_of_ne hj]
    exact ⟨(hframe j hj).trans (h j).bytes, (h j).fits⟩

namespace SpellsAt

/-- The status of a node is written. -/
theorem write_status (h : SpellsAt f k sec) (hk : sec.nodes = pre ++ nd :: post) {st : EnvStatus}
    (hst : statusByte nd.status.index &&& setStatus st.index = statusByte st.index) :
    SpellsAt (f.write (addrAfter k pre) [setStatus st.index]) k
      { sec with nodes := pre ++ { nd with status := st } :: post } := by
  have hsize : sizeOf (pre ++ { nd with status := st } :: post) = sizeOf sec.nodes := by
    simp [hk, Node.len]
  refine ⟨?_, ?_, ?_⟩
  · have hread : f.read (base k) sectorSize = (sec.header ++ pre.flatMap (·.bytes)) ++ [nd.table] ++
        ([0xFF, 0xFF, 0xFF] ++ (envHdrData nd.name nd.value ++ nd.name ++ nd.value) ++
          post.flatMap (·.bytes) ++
          List.replicate (sectorSize - sectorHdrDataSize - sizeOf sec.nodes) 0xFF) := by
      rw [h.bytes, Sector.bytes, hk]
      simp [Node.bytes]
    have hwritten := region_write_byte hread (setStatus st.index)
    rw [length_header_append, ← Nat.add_assoc] at hwritten
    refine hwritten.trans ?_
    rw [Sector.bytes, hsize]
    simp [Node.bytes, Node.table, hst, Sector.header]
  · exact hsize ▸ h.fits.size
  · intro nd' hmem
    have hnames := h.fits.name
    rw [hk] at hnames
    obtain hpre | hrest := List.mem_append.mp hmem
    · exact hnames nd' (List.mem_append_left _ hpre)
    · obtain rfl | hpost := List.mem_cons.mp hrest
      · exact hnames nd (List.mem_append_right _ List.mem_cons_self)
      · exact hnames nd' (List.mem_append_right _ (List.mem_cons_of_mem _ hpost))

/-- The store status of a sector is written. -/
theorem write_store (h : SpellsAt f k sec) (st : StoreStatus)
    (hst : statusByte sec.store.index &&& setStatus st.index = statusByte st.index) :
    SpellsAt (f.write (base k) [setStatus st.index]) k { sec with store := st } := by
  refine ⟨?_, h.fits.size, h.fits.name⟩
  have hread : f.read (base k) sectorSize = [] ++ [statusByte sec.store.index] ++
      (sec.bytes.drop 1) := by
    rw [h.bytes]
    simp [Sector.bytes, Sector.header]
  have hwritten := region_write_byte hread (setStatus st.index)
  rw [List.length_nil, Nat.add_zero] at hwritten
  refine hwritten.trans ?_
  simp [Sector.bytes, Sector.header, hst]

/-- The dirty status of a sector is written. -/
theorem write_dirty (h : SpellsAt f k sec) (st : DirtyStatus)
    (hst : statusByte sec.dirty.index &&& setStatus st.index = statusByte st.index) :
    SpellsAt (f.write (base k + sectorDirtyOffset) [setStatus st.index]) k
      { sec with dirty := st } := by
  refine ⟨?_, h.fits.size, h.fits.name⟩
  have hread : f.read (base k) sectorSize = [statusByte sec.store.index] ++
      [statusByte sec.dirty.index] ++ (sec.bytes.drop 2) := by
    rw [h.bytes]
    simp [Sector.bytes, Sector.header]
  refine (region_write_byte hread (setStatus st.index)).trans ?_
  simp [Sector.bytes, Sector.header, hst]

/-- A sector is formatted. -/
theorem format (f : NorFlash) (k : Fin 4) :
    SpellsAt ((f.erase (base k) sectorSize).write (base k) Sector.formatted.header) k
      .formatted := by
  refine ⟨?_, Sector.formatted_fits⟩
  have hread : (f.erase (base k) sectorSize).read (base k) sectorSize =
      [] ++ List.replicate Sector.formatted.header.length 0xFF ++
        List.replicate (sectorSize - sectorHdrDataSize) 0xFF := by
    rw [read_erase, Sector.length_header, List.nil_append, ← List.replicate_add]
    rfl
  have hwritten := region_write_erased hread
  rw [List.length_nil, Nat.add_zero, List.nil_append] at hwritten
  refine hwritten.trans ?_
  simp [Sector.bytes, Sector.formatted]

end SpellsAt

/-- The three writes of a new node. -/
def appendNode (addr : Nat) (nd : Node) (f : NorFlash) : NorFlash :=
  ((f.write addr [setStatus EnvStatus.preWrite.index]).write (addr + envMagicOffset)
    (envHdrData nd.name nd.value ++ nd.name ++ nd.value)).write addr
      [setStatus EnvStatus.write.index]

/-- A node is written behind the others. -/
theorem SpellsAt.append (h : SpellsAt f k sec) (hstatus : nd.status = .write)
    (hname : nd.name.length ≤ efEnvNameMax)
    (hsize : sizeOf sec.nodes + nd.len < sectorSize - sectorHdrDataSize) :
    SpellsAt (appendNode (addrAfter k sec.nodes) nd f) k
      { sec with nodes := sec.nodes ++ [nd] } := by
  have hlen : 4 + (envHdrData nd.name nd.value ++ nd.name ++ nd.value).length = nd.len := by
    rw [← nd.length_bytes, Node.bytes]
    simp
    omega
  generalize hbody : envHdrData nd.name nd.value ++ nd.name ++ nd.value = body at hlen
  have hread : f.read (base k) sectorSize = (sec.header ++ sec.nodes.flatMap (·.bytes)) ++ [0xFF] ++
      ([0xFF, 0xFF, 0xFF] ++ List.replicate body.length 0xFF ++ List.replicate
        (sectorSize - sectorHdrDataSize - sizeOf (sec.nodes ++ [nd])) 0xFF) := by
    have hfree : sectorSize - sectorHdrDataSize - sizeOf sec.nodes = 1 + (3 + (body.length +
        (sectorSize - sectorHdrDataSize - sizeOf (sec.nodes ++ [nd])))) := by
      rw [sizeOf_append, sizeOf_cons, sizeOf_nil]
      omega
    rw [h.bytes, Sector.bytes, hfree, List.replicate_add, List.replicate_add, List.replicate_add]
    simp [List.replicate]
  have haddr : base k + (sec.header ++ sec.nodes.flatMap (·.bytes)).length =
      addrAfter k sec.nodes := by
    rw [length_header_append, addrAfter, Nat.add_assoc]
  have hwritten₁ := region_write_byte hread (setStatus EnvStatus.preWrite.index)
  rw [haddr] at hwritten₁
  have hread₂ : (f.write (addrAfter k sec.nodes) [setStatus EnvStatus.preWrite.index]).read (base k)
      sectorSize = (sec.header ++ sec.nodes.flatMap (·.bytes) ++
        [setStatus EnvStatus.preWrite.index, 0xFF, 0xFF, 0xFF]) ++
      List.replicate body.length 0xFF ++ List.replicate
        (sectorSize - sectorHdrDataSize - sizeOf (sec.nodes ++ [nd])) 0xFF := by
    rw [hwritten₁]
    simp
    rfl
  have hwritten₂ := region_write_erased hread₂
  rw [List.length_append, ← Nat.add_assoc, haddr] at hwritten₂
  have hread₃ : ((f.write (addrAfter k sec.nodes) [setStatus EnvStatus.preWrite.index]).write
      (addrAfter k sec.nodes + 4) body).read (base k) sectorSize =
      (sec.header ++ sec.nodes.flatMap (·.bytes)) ++ [setStatus EnvStatus.preWrite.index] ++
      ([0xFF, 0xFF, 0xFF] ++ body ++ List.replicate
        (sectorSize - sectorHdrDataSize - sizeOf (sec.nodes ++ [nd])) 0xFF) := by
    refine hwritten₂.trans ?_
    simp
  have hwritten₃ := region_write_byte hread₃ (setStatus EnvStatus.write.index)
  rw [haddr] at hwritten₃
  have htable : setStatus EnvStatus.preWrite.index &&& setStatus EnvStatus.write.index =
      statusByte EnvStatus.write.index := by decide
  refine ⟨?_, ?_, ?_⟩
  · unfold appendNode
    rw [hbody]
    refine hwritten₃.trans ?_
    subst hbody
    simp only [Sector.bytes, Sector.header, List.flatMap_append, List.flatMap_cons,
      List.flatMap_nil, Node.bytes, Node.table, hstatus, htable, List.append_nil,
      List.append_assoc, List.cons_append, List.nil_append]
  · show sizeOf (sec.nodes ++ [nd]) < _
    rw [sizeOf_append, sizeOf_cons, sizeOf_nil]
    exact hsize
  · intro nd' hmem
    obtain hold | hnew := List.mem_append.mp hmem
    · exact h.fits.name nd' hold
    · obtain rfl := List.mem_singleton.mp hnew
      exact hname

end

end WaterValve.EasyFlash
