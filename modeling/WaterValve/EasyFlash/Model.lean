import WaterValve.Lib.NorFlash
import WaterValve.Lib.CText

/-!
# WaterValve.EasyFlash.Model

EasyFlash (`ef_env.c`, `ef_utils.c`), on which `flashwork.c` keeps its keys: a
store of named values in four sectors of NOR flash.  A value is never changed in
place: a new node is written behind the others, and the old one is marked as
deleted.  Two caches in RAM remember where the free part of a sector begins and
where a name was found.

The functions are those of the source, one by one, as far as a value is searched
for and written.  `FAILED_ADDR` is `none`.  A loop is bounded, and `none` as the
result of a function says that it does not return: because of the bound, or by a
failed assertion.  The flash driver does not fail, and the log is left out.
-/

namespace WaterValve.EasyFlash

/-! ## configuration -/

/-- `SECTOR_SIZE`, which is `PKG_EASYFLASH_ERASE_GRAN`. -/
def sectorSize : Nat := 4096

def sectorNum : Nat := 4

def envAreaSize : Nat := sectorNum * sectorSize

def sectorMagicWord : UInt32 := 0x30344645

def envMagicWord : UInt32 := 0x3034564B

def sectorNotCombined : UInt32 := 0xFFFFFFFF

/-- `sizeof(struct sector_hdr_data)`; `EF_WRITE_GRAN` is 1, so nothing is
aligned. -/
def sectorHdrDataSize : Nat := 16

def sectorDirtyOffset : Nat := 1

/-- `sizeof(struct env_hdr_data)`. -/
def envHdrDataSize : Nat := 24

def envMagicOffset : Nat := 4

def envNameLenOffset : Nat := 16

def efEnvNameMax : Nat := 32

def efSecRemainThreshold : Nat := envHdrDataSize + efEnvNameMax

/-- More than there are sectors. -/
def sectorFuel : Nat := sectorNum + 1

/-- More than there are nodes in a sector. -/
def envFuel : Nat := sectorSize

/-- `enum sector_store_status`. -/
inductive StoreStatus
  | unused | empty | using | full
  deriving DecidableEq

/-- `enum sector_dirty_status`. -/
inductive DirtyStatus
  | unused | false | true | gc
  deriving DecidableEq

/-- `enum env_status`. -/
inductive EnvStatus
  | unused | preWrite | write | preDelete | deleted | errHdr
  deriving DecidableEq

def StoreStatus.index : StoreStatus → Nat
  | .unused => 0 | .empty => 1 | .using => 2 | .full => 3

def StoreStatus.ofIndex : Nat → StoreStatus
  | 0 => .unused | 1 => .empty | 2 => .using | _ => .full

def DirtyStatus.index : DirtyStatus → Nat
  | .unused => 0 | .false => 1 | .true => 2 | .gc => 3

def DirtyStatus.ofIndex : Nat → DirtyStatus
  | 0 => .unused | 1 => .false | 2 => .true | _ => .gc

def EnvStatus.index : EnvStatus → Nat
  | .unused => 0 | .preWrite => 1 | .write => 2 | .preDelete => 3 | .deleted => 4 | .errHdr => 5

def EnvStatus.ofIndex : Nat → EnvStatus
  | 0 => .unused | 1 => .preWrite | 2 => .write | 3 => .preDelete | 4 => .deleted | _ => .errHdr

/-- `SECTOR_STORE_STATUS_NUM`. -/
def storeStatusNum : Nat := 4

def dirtyStatusNum : Nat := 4

def envStatusNum : Nat := 6

/-! ## crc -/

def crc32Table : Array UInt32 := #[
  0x00000000, 0x77073096, 0xee0e612c, 0x990951ba, 0x076dc419, 0x706af48f, 0xe963a535,
  0x9e6495a3, 0x0edb8832, 0x79dcb8a4, 0xe0d5e91e, 0x97d2d988, 0x09b64c2b, 0x7eb17cbd,
  0xe7b82d07, 0x90bf1d91, 0x1db71064, 0x6ab020f2, 0xf3b97148, 0x84be41de, 0x1adad47d,
  0x6ddde4eb, 0xf4d4b551, 0x83d385c7, 0x136c9856, 0x646ba8c0, 0xfd62f97a, 0x8a65c9ec,
  0x14015c4f, 0x63066cd9, 0xfa0f3d63, 0x8d080df5, 0x3b6e20c8, 0x4c69105e, 0xd56041e4,
  0xa2677172, 0x3c03e4d1, 0x4b04d447, 0xd20d85fd, 0xa50ab56b, 0x35b5a8fa, 0x42b2986c,
  0xdbbbc9d6, 0xacbcf940, 0x32d86ce3, 0x45df5c75, 0xdcd60dcf, 0xabd13d59, 0x26d930ac,
  0x51de003a, 0xc8d75180, 0xbfd06116, 0x21b4f4b5, 0x56b3c423, 0xcfba9599, 0xb8bda50f,
  0x2802b89e, 0x5f058808, 0xc60cd9b2, 0xb10be924, 0x2f6f7c87, 0x58684c11, 0xc1611dab,
  0xb6662d3d, 0x76dc4190, 0x01db7106, 0x98d220bc, 0xefd5102a, 0x71b18589, 0x06b6b51f,
  0x9fbfe4a5, 0xe8b8d433, 0x7807c9a2, 0x0f00f934, 0x9609a88e, 0xe10e9818, 0x7f6a0dbb,
  0x086d3d2d, 0x91646c97, 0xe6635c01, 0x6b6b51f4, 0x1c6c6162, 0x856530d8, 0xf262004e,
  0x6c0695ed, 0x1b01a57b, 0x8208f4c1, 0xf50fc457, 0x65b0d9c6, 0x12b7e950, 0x8bbeb8ea,
  0xfcb9887c, 0x62dd1ddf, 0x15da2d49, 0x8cd37cf3, 0xfbd44c65, 0x4db26158, 0x3ab551ce,
  0xa3bc0074, 0xd4bb30e2, 0x4adfa541, 0x3dd895d7, 0xa4d1c46d, 0xd3d6f4fb, 0x4369e96a,
  0x346ed9fc, 0xad678846, 0xda60b8d0, 0x44042d73, 0x33031de5, 0xaa0a4c5f, 0xdd0d7cc9,
  0x5005713c, 0x270241aa, 0xbe0b1010, 0xc90c2086, 0x5768b525, 0x206f85b3, 0xb966d409,
  0xce61e49f, 0x5edef90e, 0x29d9c998, 0xb0d09822, 0xc7d7a8b4, 0x59b33d17, 0x2eb40d81,
  0xb7bd5c3b, 0xc0ba6cad, 0xedb88320, 0x9abfb3b6, 0x03b6e20c, 0x74b1d29a, 0xead54739,
  0x9dd277af, 0x04db2615, 0x73dc1683, 0xe3630b12, 0x94643b84, 0x0d6d6a3e, 0x7a6a5aa8,
  0xe40ecf0b, 0x9309ff9d, 0x0a00ae27, 0x7d079eb1, 0xf00f9344, 0x8708a3d2, 0x1e01f268,
  0x6906c2fe, 0xf762575d, 0x806567cb, 0x196c3671, 0x6e6b06e7, 0xfed41b76, 0x89d32be0,
  0x10da7a5a, 0x67dd4acc, 0xf9b9df6f, 0x8ebeeff9, 0x17b7be43, 0x60b08ed5, 0xd6d6a3e8,
  0xa1d1937e, 0x38d8c2c4, 0x4fdff252, 0xd1bb67f1, 0xa6bc5767, 0x3fb506dd, 0x48b2364b,
  0xd80d2bda, 0xaf0a1b4c, 0x36034af6, 0x41047a60, 0xdf60efc3, 0xa867df55, 0x316e8eef,
  0x4669be79, 0xcb61b38c, 0xbc66831a, 0x256fd2a0, 0x5268e236, 0xcc0c7795, 0xbb0b4703,
  0x220216b9, 0x5505262f, 0xc5ba3bbe, 0xb2bd0b28, 0x2bb45a92, 0x5cb36a04, 0xc2d7ffa7,
  0xb5d0cf31, 0x2cd99e8b, 0x5bdeae1d, 0x9b64c2b0, 0xec63f226, 0x756aa39c, 0x026d930a,
  0x9c0906a9, 0xeb0e363f, 0x72076785, 0x05005713, 0x95bf4a82, 0xe2b87a14, 0x7bb12bae,
  0x0cb61b38, 0x92d28e9b, 0xe5d5be0d, 0x7cdcefb7, 0x0bdbdf21, 0x86d3d2d4, 0xf1d4e242,
  0x68ddb3f8, 0x1fda836e, 0x81be16cd, 0xf6b9265b, 0x6fb077e1, 0x18b74777, 0x88085ae6,
  0xff0f6a70, 0x66063bca, 0x11010b5c, 0x8f659eff, 0xf862ae69, 0x616bffd3, 0x166ccf45,
  0xa00ae278, 0xd70dd2ee, 0x4e048354, 0x3903b3c2, 0xa7672661, 0xd06016f7, 0x4969474d,
  0x3e6e77db, 0xaed16a4a, 0xd9d65adc, 0x40df0b66, 0x37d83bf0, 0xa9bcae53, 0xdebb9ec5,
  0x47b2cf7f, 0x30b5ffe9, 0xbdbdf21c, 0xcabac28a, 0x53b39330, 0x24b4a3a6, 0xbad03605,
  0xcdd70693, 0x54de5729, 0x23d967bf, 0xb3667a2e, 0xc4614ab8, 0x5d681b02, 0x2a6f2b94,
  0xb40bbe37, 0xc30c8ea1, 0x5a05df1b, 0x2d02ef8d]

/-- One turn of the loop of `ef_calc_crc32`. -/
def crcStep (crc : UInt32) (b : UInt8) : UInt32 :=
  crc32Table.getD ((crc ^^^ b.toUInt32) &&& 0xFF).toNat 0 ^^^ (crc >>> 8)

def efCalcCrc32 (crc : UInt32) (buf : List UInt8) : UInt32 :=
  buf.foldl crcStep (crc ^^^ 0xFFFFFFFF) ^^^ 0xFFFFFFFF

/-- `(uint16_t) (ef_calc_crc32(0, name, name_len) >> 16)`. -/
def nameCrc (name : List UInt8) : UInt16 := (efCalcCrc32 0 name >>> 16).toUInt16

/-! ## what is in RAM -/

/-- `struct sector_meta_data`. -/
structure SectorMeta where
  checkOk : Bool
  store : StoreStatus
  dirty : DirtyStatus
  addr : Option Nat
  combined : UInt32
  remain : Nat
  emptyEnv : Option Nat

/-- A `struct sector_meta_data` before it is filled in. -/
def SectorMeta.zero : SectorMeta := ⟨false, .unused, .unused, some 0, 0, 0, some 0⟩

/-- `struct env_node_obj`. -/
structure EnvNode where
  status : EnvStatus
  crcIsOk : Bool
  nameLen : Nat
  len : Nat
  valueLen : Nat
  name : List UInt8
  start : Option Nat
  value : Nat

/-- A `struct env_node_obj` before it is filled in. -/
def EnvNode.zero : EnvNode := ⟨.unused, false, 0, 0, 0, [], some 0, 0⟩

/-- `env->addr.start`. -/
def EnvNode.addrStart (env : EnvNode) : Nat := env.start.getD 0xFFFFFFFF

/-- `struct env_cache_node`. -/
structure EnvCacheNode where
  nameCrc : UInt16
  active : UInt16
  addr : Option Nat

/-- `struct sector_cache_node`. -/
structure SectorCacheNode where
  addr : Option Nat
  emptyAddr : Nat

/-- The flash, and the variables of `ef_env.c`. -/
structure Ef where
  flash : NorFlash
  envCacheTable : List EnvCacheNode
  sectorCacheTable : List SectorCacheNode
  gcRequest : Bool
  lastIsCompleteDel : Bool

/-! ## status tables -/

/-- `set_status`: a table of one byte, in which one bit is clear. -/
def setStatus (statusIndex : Nat) : UInt8 :=
  if 0 < statusIndex then 0xFF &&& ~~~((0x80 : UInt8) >>> UInt8.ofNat (statusIndex - 1)) else 0xFF

/-- The loop of `get_status`, from the last position down. -/
def getStatusLoop (table : UInt8) : Nat → Nat
  | 0 => 0
  | n + 1 =>
    if table &&& ((0x80 : UInt8) >>> UInt8.ofNat n) = 0 then n + 1 else getStatusLoop table n

def getStatus (table : UInt8) (statusNum : Nat) : Nat := getStatusLoop table (statusNum - 1)

def writeStatus (addr statusIndex : Nat) (s : Ef) : Ef :=
  if 0 < statusIndex then { s with flash := s.flash.write addr [setStatus statusIndex] } else s

def readStatus (addr totalNum : Nat) (s : Ef) : Nat := getStatus (s.flash addr) totalNum

/-! ## caches -/

def updateSectorCache (secAddr emptyAddr : Nat) (s : Ef) : Ef :=
  { s with
    sectorCacheTable :=
      if secAddr < emptyAddr ∧ emptyAddr < secAddr + sectorSize then
        match s.sectorCacheTable.findIdx? (fun node => node.addr = some secAddr) with
        | some i => s.sectorCacheTable.set i ⟨some secAddr, emptyAddr⟩
        | none =>
          match s.sectorCacheTable.findIdx? (fun node => node.addr = none) with
          | some i => s.sectorCacheTable.set i ⟨some secAddr, emptyAddr⟩
          | none => s.sectorCacheTable
      else
        match s.sectorCacheTable.findIdx? (fun node => node.addr = some secAddr) with
        | some i => s.sectorCacheTable.modify i fun node => { node with addr := none }
        | none => s.sectorCacheTable }

def getSectorFromCache (secAddr : Nat) (s : Ef) : Option Nat :=
  (s.sectorCacheTable.find? fun node => node.addr = some secAddr).map (·.emptyAddr)

/-- What the loop of `update_env_cache` does to a node that it passes. -/
def EnvCacheNode.passed (node : EnvCacheNode) : EnvCacheNode :=
  if node.addr ≠ none ∧ 0 < node.active then { node with active := node.active - 1 } else node

/-- `min_activity_index`, when the loop has passed every node. -/
def minActivityIndex (table : List EnvCacheNode) : Option Nat :=
  (table.zipIdx.foldl (fun (best : Option Nat × UInt16) (node : EnvCacheNode × Nat) =>
    if node.1.addr ≠ none ∧ node.1.active < best.2 then (some node.2, node.1.active) else best)
    (none, 0xFFFF)).1

def updateEnvCache (name : List UInt8) (addr : Option Nat) (s : Ef) : Ef :=
  { s with
    envCacheTable :=
      match addr with
      | some addr =>
        match s.envCacheTable.findIdx? (fun node => node.nameCrc = nameCrc name) with
        | some i =>
          (s.envCacheTable.take i).map (·.passed) ++
            (s.envCacheTable.drop i).modify 0 fun node => { node with addr := some addr }
        | none =>
          match (s.envCacheTable.map (·.passed)).findIdx? (fun node => node.addr = none) with
          | some i => (s.envCacheTable.map (·.passed)).set i ⟨nameCrc name, 0, some addr⟩
          | none =>
            match minActivityIndex (s.envCacheTable.map (·.passed)) with
            | some i => (s.envCacheTable.map (·.passed)).set i ⟨nameCrc name, 0, some addr⟩
            | none => s.envCacheTable.map (·.passed)
      | none =>
        match s.envCacheTable.findIdx? (fun node => node.nameCrc = nameCrc name) with
        | some i => s.envCacheTable.modify i fun node => { node with addr := none, active := 0 }
        | none => s.envCacheTable }

/-! ## nodes -/

/-- The search in one buffer of `find_next_env_addr`. -/
def findMagicInBuf (startBak start end_ : Nat) (f : NorFlash) : Option Nat :=
  ((List.range 28).find? fun i =>
    start + i < end_ && f.u32 (start + i) = envMagicWord &&
      startBak + envMagicOffset ≤ start + i).map (start + · - envMagicOffset)

def findMagic (startBak end_ : Nat) (f : NorFlash) : Nat → Nat → Option Nat
  | 0, _ => none
  | fuel + 1, start =>
    if start < end_ then
      match findMagicInBuf startBak start end_ f with
      | some addr => some addr
      | none => findMagic startBak end_ f fuel (start + 28)
    else none

def findNextEnvAddr (start end_ : Nat) (s : Ef) : Option Nat :=
  if getSectorFromCache (start / sectorSize * sectorSize) s = some start then none
  else findMagic start end_ s.flash envFuel start

def getNextEnvAddr (sector : SectorMeta) (preEnv : EnvNode) (s : Ef) : Option Nat :=
  if sector.store = .empty then none
  else
    sector.addr.bind fun addr =>
      match preEnv.start with
      | none => some (addr + sectorHdrDataSize)
      | some start =>
        if start ≤ addr + sectorSize then
          (findNextEnvAddr (if preEnv.crcIsOk then start + preEnv.len else start + 1)
            (addr + sectorSize - sectorHdrDataSize) s).bind fun next =>
              if addr + sectorSize < next ∨ preEnv.len = 0 then none else some next
        else none

/-- The loop of `read_env`, in pieces of the buffer's size. -/
def calcCrc32Loop (f : NorFlash) : Nat → Nat → Nat → UInt32 → UInt32
  | 0, _, _, crc => crc
  | fuel + 1, addr, len, crc =>
    if len = 0 then crc
    else calcCrc32Loop f fuel (addr + min 32 len) (len - min 32 len)
      (efCalcCrc32 crc (f.read addr (min 32 len)))

def readEnv (start : Nat) (env : EnvNode) (s : Ef) : Option (EnvNode × Ef) :=
  if envAreaSize < (s.flash.u32 (start + 8)).toNat ∨
      (s.flash.u32 (start + 8)).toNat < envNameLenOffset then
    some ({ env with
      start := some start
      status := .errHdr
      len := envHdrDataSize
      crcIsOk := false },
      if EnvStatus.ofIndex (readStatus start envStatusNum s) = .errHdr then s
      else writeStatus start EnvStatus.errHdr.index s)
  else if sectorSize - sectorHdrDataSize < (s.flash.u32 (start + 8)).toNat ∧
      (s.flash.u32 (start + 8)).toNat < envAreaSize then
    none
  else if calcCrc32Loop s.flash envAreaSize (start + envNameLenOffset)
      ((s.flash.u32 (start + 8)).toNat - envNameLenOffset) 0 ≠ s.flash.u32 (start + 12) then
    some ({ env with
      start := some start
      status := EnvStatus.ofIndex (readStatus start envStatusNum s)
      len := (s.flash.u32 (start + 8)).toNat
      crcIsOk := false }, s)
  else
    some (
      { start := some start
        status := EnvStatus.ofIndex (readStatus start envStatusNum s)
        len := (s.flash.u32 (start + 8)).toNat
        crcIsOk := true
        name := s.flash.read (start + envHdrDataSize) (s.flash (start + 16)).toNat
        value := start + envHdrDataSize + (s.flash (start + 16)).toNat
        valueLen := (s.flash.u32 (start + 20)).toNat
        nameLen := (s.flash (start + 16)).toNat }, s)

/-- `while ((env.addr.start = get_next_env_addr(sector, &env)) != FAILED_ADDR)`,
in which `read_env` comes first. -/
def forEachEnv (sector : SectorMeta) (callback : EnvNode → Ef → Option (Bool × Ef)) :
    Nat → EnvNode → Ef → Option (Bool × EnvNode × Ef)
  | 0, _, _ => none
  | fuel + 1, env, s =>
    match getNextEnvAddr sector env s with
    | none => some (false, { env with start := none }, s)
    | some start =>
      (readEnv start env s).bind fun (env, s) =>
        (callback env s).bind fun (stop, s) =>
          if stop then some (true, env, s) else forEachEnv sector callback fuel env s

/-! ## sectors -/

/-- `read_sector_meta_data` without a traversal; whether it returns `EF_NO_ERR`. -/
def readSectorHdr (addr : Nat) (sector : SectorMeta) (s : Ef) : Bool × SectorMeta :=
  if s.flash.u32 (addr + 4) = sectorMagicWord then
    (true, { sector with
      addr := some addr
      checkOk := true
      combined := s.flash.u32 (addr + 8)
      store := .ofIndex (readStatus addr storeStatusNum s)
      dirty := .ofIndex (readStatus (addr + sectorDirtyOffset) dirtyStatusNum s) })
  else (false, { sector with addr := some addr, checkOk := false, combined := sectorNotCombined })

/-- `combined` counts sectors, unless it says that the sector is not combined. -/
def nextSector (addr : Nat) (combined : UInt32) : Nat :=
  if combined = sectorNotCombined then addr + sectorSize
  else (addr + combined.toNat * sectorSize) % 0x100000000

def getNextSectorAddr (preSec : SectorMeta) : Option Nat :=
  match preSec.addr with
  | none => some 0
  | some addr =>
    if nextSector addr preSec.combined < envAreaSize then
      some (nextSector addr preSec.combined)
    else none

/-- The loop of `env_iterator`; whether a callback has stopped it. -/
def envIteratorLoop (callback : EnvNode → Ef → Option (Bool × Ef)) :
    Nat → SectorMeta → EnvNode → Ef → Option (Bool × EnvNode × Ef)
  | 0, _, _, _ => none
  | fuel + 1, sector, env, s =>
    match getNextSectorAddr sector with
    | none => some (false, env, s)
    | some secAddr =>
      match readSectorHdr secAddr sector s with
      | (ok, sector) =>
        if ok && (sector.store = .using || sector.store = .full) then do
          let (stop, env, s) ← forEachEnv sector callback envFuel { env with start := none } s
          if stop then some (true, env, s) else envIteratorLoop callback fuel sector env s
        else envIteratorLoop callback fuel sector env s

def envIterator (env : EnvNode) (callback : EnvNode → Ef → Option (Bool × Ef))
    (s : Ef) : Option (Bool × EnvNode × Ef) :=
  envIteratorLoop callback sectorFuel { SectorMeta.zero with addr := none } env s

def isEnv (key : List UInt8) (env : EnvNode) : Bool :=
  key.length = env.nameLen && env.crcIsOk && env.status = .write && env.name.take key.length = key

def findEnvCb (key : List UInt8) (env : EnvNode) (s : Ef) : Option (Bool × Ef) :=
  some (isEnv key env, s)

def findEnvNoCache (key : List UInt8) (env : EnvNode) (s : Ef) : Option (Bool × EnvNode × Ef) :=
  envIterator env (findEnvCb key) s

/-! ## writing -/

def formatSector (addr : Nat) (combinedValue : UInt32) (s : Ef) : Ef :=
  updateSectorCache addr (addr + sectorSize)
    { s with
      flash := (s.flash.erase addr sectorSize).write addr
        ([setStatus StoreStatus.empty.index, setStatus DirtyStatus.false.index, 0xFF, 0xFF] ++
          NorFlash.le32 sectorMagicWord ++ NorFlash.le32 combinedValue ++
          NorFlash.le32 0xFFFFFFFF) }

/-- The loop of `ef_env_set_default`. -/
def formatSectors (s : Ef) : Ef :=
  (List.range sectorNum).foldl (fun s i => formatSector (i * sectorSize) sectorNotCombined s) s

/-- `update_sec_status`; whether the sector gets full. -/
def updateSecStatus (sector : SectorMeta) (newEnvLen : Nat) (s : Ef) : Bool × Ef :=
  match sector.store, sector.addr with
  | .empty, some addr => (false, writeStatus addr StoreStatus.using.index s)
  | .using, some addr =>
    if sector.remain < efSecRemainThreshold ∨ sector.remain - newEnvLen < efSecRemainThreshold then
      (true, updateSectorCache addr (addr + sectorSize) (writeStatus addr StoreStatus.full.index s))
    else (false, s)
  | _, _ => (false, s)

/-- The end of `del_env`: the sector of the node gets dirty. -/
def markDirty (addr : Nat) (s : Ef) : Ef :=
  if DirtyStatus.ofIndex (readStatus (addr / sectorSize * sectorSize + sectorDirtyOffset)
      dirtyStatusNum s) = .false then
    writeStatus (addr / sectorSize * sectorSize + sectorDirtyOffset) DirtyStatus.true.index s
  else s

/-- `del_env` of a node that was found; `key` is its name. -/
def delEnv (key : List UInt8) (oldEnv : EnvNode) (completeDel : Bool) (s : Ef) : Ef :=
  markDirty oldEnv.addrStart
    (if completeDel then
      { (if s.lastIsCompleteDel then writeStatus oldEnv.addrStart EnvStatus.deleted.index s
          else
            updateEnvCache key none (writeStatus oldEnv.addrStart EnvStatus.deleted.index s)) with
        lastIsCompleteDel := false }
    else
      { writeStatus oldEnv.addrStart EnvStatus.preDelete.index s with lastIsCompleteDel := true })

/-- `ENV_HDR_DATA_SIZE + EF_WG_ALIGN(name_len) + EF_WG_ALIGN(value_len)`. -/
def envLen (key value : List UInt8) : Nat := envHdrDataSize + key.length + value.length

/-- The bytes of the header from `name_len` on. -/
def envHdrLens (key value : List UInt8) : List UInt8 :=
  [UInt8.ofNat key.length, 0xFF, 0xFF, 0xFF] ++ NorFlash.le32 (UInt32.ofNat value.length)

/-- The checksum of a new node. -/
def envCrc32 (key value : List UInt8) : UInt32 :=
  efCalcCrc32 (efCalcCrc32 (efCalcCrc32 0 (envHdrLens key value)) key) value

/-- The bytes of the header from the magic word on. -/
def envHdrData (key value : List UInt8) : List UInt8 :=
  NorFlash.le32 envMagicWord ++ NorFlash.le32 (UInt32.ofNat (envLen key value)) ++
    NorFlash.le32 (envCrc32 key value) ++ envHdrLens key value

def writeEnvHdr (addr : Nat) (key value : List UInt8) (s : Ef) : Ef :=
  written (writeStatus addr EnvStatus.preWrite.index s)
where
  written (s : Ef) : Ef :=
    { s with flash := s.flash.write (addr + envMagicOffset) (envHdrData key value) }

def alignWrite (addr : Nat) (buf : List UInt8) (s : Ef) : Ef :=
  if 0 < buf.length then { s with flash := s.flash.write addr buf } else s

/-- The part of `create_env_blob` that writes the node at its address. -/
def createAt (sector : SectorMeta) (envAddr : Nat) (key value : List UInt8) (s : Ef) : Ef :=
  requested (updateSecStatus sector (envLen key value) s).1
    (writeStatus envAddr EnvStatus.write.index
      (alignWrite (envAddr + envHdrDataSize + key.length) value
        (updateEnvCache key (some envAddr)
          (cached (updateSecStatus sector (envLen key value) s).1
            (alignWrite (envAddr + envHdrDataSize) key
              (writeEnvHdr envAddr key value (updateSecStatus sector (envLen key value) s).2))))))
where
  cached (isFull : Bool) (s : Ef) : Ef :=
    match isFull, sector.addr with
    | false, some addr => updateSectorCache addr (envAddr + envLen key value) s
    | _, _ => s
  requested (isFull : Bool) (s : Ef) : Ef := if isFull then { s with gcRequest := true } else s

/-- `set_env` between `new_env_by_kv`, of which the sector and the address come, and
`gc_collect`; `old` is what `find_env` has found. -/
def setEnvAt (sector : SectorMeta) (envAddr : Nat) (key value : List UInt8) (old : Option EnvNode)
    (s : Ef) : Ef :=
  match old with
  | some env =>
    delEnv key env true (createAt sector envAddr key value (delEnv key env false s))
  | none => createAt sector envAddr key value s

end WaterValve.EasyFlash
