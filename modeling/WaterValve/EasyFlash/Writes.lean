import WaterValve.EasyFlash.Find

/-!
# WaterValve.EasyFlash.Writes

What the store writes.  A sector is formatted, a node is written behind the
others, and the status of a node goes on.  Each of these leaves a flash that
spells an area and a cache that is right (`Store.formatSector`,
`Store.createAt`, `Store.delEnv`); the areas are those of `Run`, so that what
was proved of the search holds after any sequence of them.
-/

namespace WaterValve.EasyFlash

open NorFlash

section

variable {A : Area} {s s' : Ef} {k : Fin 4} {sec : Sector} {pre post : List Node} {nd : Node}
  {sector : SectorMeta} {key value : List UInt8} {addr : Nat}

/-! ## what is not touched -/

@[simp]
theorem flash_writeStatus (addr : Nat) {i : Nat} (hi : 0 < i) (s : Ef) :
    (writeStatus addr i s).flash = s.flash.write addr [setStatus i] := by
  rw [writeStatus, if_pos hi]

@[simp]
theorem sectorCacheTable_writeStatus (addr i : Nat) (s : Ef) :
    (writeStatus addr i s).sectorCacheTable = s.sectorCacheTable := by
  unfold writeStatus
  split <;> rfl

@[simp]
theorem flash_alignWrite (addr : Nat) (buf : List UInt8) (s : Ef) :
    (alignWrite addr buf s).flash = s.flash.write addr buf := by
  unfold alignWrite
  split
  · rfl
  · rename_i hempty
    obtain rfl : buf = [] := by simpa using hempty
    funext a
    rw [NorFlash.write, if_neg (by simp)]

@[simp]
theorem sectorCacheTable_alignWrite (addr : Nat) (buf : List UInt8) (s : Ef) :
    (alignWrite addr buf s).sectorCacheTable = s.sectorCacheTable := by
  unfold alignWrite
  split <;> rfl

/-- The cache of the sectors depends on nothing else. -/
theorem sectorCacheTable_updateSectorCache (h : s.sectorCacheTable = s'.sectorCacheTable)
    (secAddr emptyAddr : Nat) :
    (updateSectorCache secAddr emptyAddr s).sectorCacheTable =
      (updateSectorCache secAddr emptyAddr s').sectorCacheTable := by
  simp only [updateSectorCache, h]

/-! ## sectors -/

/-- The status of a sector behind which a node is written. -/
def StoreStatus.after (st : StoreStatus) (isFull : Bool) : StoreStatus :=
  match st with
  | .empty => .using
  | .using => if isFull then .full else .using
  | st => st

theorem SpellsAt.updateSecStatus (h : SpellsAt s.flash k sec) (haddr : sector.addr = some (base k))
    (hstore : sector.store = sec.store) (n : Nat) :
    SpellsAt (updateSecStatus sector n s).2.flash k
      { sec with store := sec.store.after (updateSecStatus sector n s).1 } := by
  rw [EasyFlash.updateSecStatus, haddr, hstore]
  cases hst : sec.store with
  | unused => simpa [StoreStatus.after, ← hst] using h
  | full => simpa [StoreStatus.after, ← hst] using h
  | empty =>
      have hwritten := h.write_store .using (by rw [hst]; decide)
      simpa [StoreStatus.after, StoreStatus.index] using hwritten
  | «using» =>
      dsimp only
      split
      · have hwritten := h.write_store .full (by rw [hst]; decide)
        simpa [StoreStatus.after, StoreStatus.index, EasyFlash.updateSectorCache] using hwritten
      · simpa [StoreStatus.after, ← hst] using h

/-- The other sectors. -/
theorem read_updateSecStatus {j : Fin 4} (hj : j ≠ k) (haddr : sector.addr = some (base k))
    (n : Nat) (s : Ef) :
    (updateSecStatus sector n s).2.flash.read (base j) sectorSize =
      s.flash.read (base j) sectorSize := by
  rw [updateSecStatus, haddr]
  have hother : ∀ i, 0 < i → (writeStatus (base k) i s).flash.read (base j) sectorSize =
      s.flash.read (base j) sectorSize := fun i hi => by
    rw [flash_writeStatus _ hi]
    exact read_write_of_ne hj le_rfl (by simp [sectorSize])
  cases sector.store with
  | unused => rfl
  | full => rfl
  | empty => exact hother StoreStatus.using.index (by decide)
  | «using» =>
      dsimp only
      split
      · exact hother StoreStatus.full.index (by decide)
      · rfl

/-! ## a new node -/

theorem flash_createAt (sector : SectorMeta) (addr : Nat) (key value : List UInt8) (s : Ef) :
    (createAt sector addr key value s).flash =
      appendNode addr ⟨.write, key, value⟩
        (updateSecStatus sector (envLen key value) s).2.flash := by
  have hrequested : ∀ isFull s, (createAt.requested isFull s).flash = s.flash := fun isFull s => by
    cases isFull <;> rfl
  have hcached : ∀ isFull s, (createAt.cached sector addr key value isFull s).flash = s.flash :=
    fun isFull s => by
      unfold createAt.cached
      split <;> rfl
  have hupdate : ∀ s, (updateEnvCache key (some addr) s).flash = s.flash := fun s => rfl
  have hhdr : (envHdrData key value).length = 20 := rfl
  rw [createAt, hrequested, flash_writeStatus _ (by decide), flash_alignWrite, hupdate, hcached,
    flash_alignWrite, writeEnvHdr, writeEnvHdr.written, flash_writeStatus _ (by decide), appendNode]
  rw [← write_append, ← write_append, List.length_append, hhdr]
  simp only [envMagicOffset, envHdrDataSize, Nat.add_assoc]
  rw [← Nat.add_assoc 4 20 key.length]

/-- The other sectors. -/
theorem read_appendNode {j : Fin 4} {f : NorFlash} (hj : j ≠ k) (haddr : base k ≤ addr)
    (hend : addr + nd.len ≤ base k + sectorSize) :
    (appendNode addr nd f).read (base j) sectorSize = f.read (base j) sectorSize := by
  have hlen : 4 + (envHdrData nd.name nd.value ++ nd.name ++ nd.value).length = nd.len := by
    rw [← nd.length_bytes, Node.bytes]
    simp
    omega
  have hle := nd.le_len
  rw [appendNode, read_write_of_ne hj haddr (by simp; omega),
    read_write_of_ne hj (Nat.le_add_right_of_le haddr) (by simp only [envMagicOffset]; omega),
    read_write_of_ne hj haddr (by simp; omega)]

/-- A node is written behind the others. -/
def Area.append (A : Area) (k : Fin 4) (isFull : Bool) (nd : Node) : Area :=
  Function.update A k
    { A k with store := (A k).store.after isFull, nodes := (A k).nodes ++ [nd] }

/-- What `alloc_env_cb` has seen of the sector, and `create_env_blob` of the name. -/
structure Room (A : Area) (k : Fin 4) (sector : SectorMeta) (key value : List UInt8) : Prop where
  addr : sector.addr = some (base k)
  store : sector.store = (A k).store
  status : (A k).store = .empty ∨ (A k).store = .using
  remain : sector.remain = sectorSize - sectorHdrDataSize - sizeOf (A k).nodes
  envLen : envLen key value < sector.remain
  name : key.length ≤ efEnvNameMax

namespace Room

theorem size (h : Room A k sector key value) :
    sizeOf (A k).nodes + (Node.mk .write key value).len < sectorSize - sectorHdrDataSize := by
  have hlen : (Node.mk .write key value).len = EasyFlash.envLen key value := rfl
  have henvLen := h.envLen
  rw [h.remain] at henvLen
  omega

/-- The sector spells its nodes and the new one. -/
theorem spellsAt (h : Room A k sector key value) (hs : SpellsAt s.flash k (A k)) :
    SpellsAt (createAt sector (addrAfter k (A k).nodes) key value s).flash k
      (A.append k (updateSecStatus sector (EasyFlash.envLen key value) s).1
        ⟨.write, key, value⟩ k) := by
  rw [flash_createAt, Area.append, Function.update_self]
  exact (hs.updateSecStatus h.addr h.store _).append rfl h.name h.size

/-- The other sectors. -/
theorem read_createAt (h : Room A k sector key value) {j : Fin 4} (hj : j ≠ k) :
    (createAt sector (addrAfter k (A k).nodes) key value s).flash.read (base j) sectorSize =
      s.flash.read (base j) sectorSize := by
  have hsize := h.size
  rw [flash_createAt, read_appendNode hj, read_updateSecStatus hj h.addr]
  · simp only [addrAfter]
    omega
  · simp only [addrAfter, sectorHdrDataSize, sectorSize] at *
    omega

theorem cacheOk (h : Room A k sector key value) (hcache : CacheOk A s.sectorCacheTable) {A' : Area}
    (hframe : ∀ j, j ≠ k → A' j = A j) (hfits : (A' k).Fits)
    (hend : addr + EasyFlash.envLen key value = addrAfter k (A' k).nodes) :
    CacheOk A' (createAt sector addr key value s).sectorCacheTable := by
  have hrequested : ∀ isFull s,
      (createAt.requested isFull s).sectorCacheTable = s.sectorCacheTable := fun isFull s => by
    cases isFull <;> rfl
  have hupdate : ∀ s, (updateEnvCache key (some addr) s).sectorCacheTable = s.sectorCacheTable :=
    fun s => rfl
  rw [createAt, hrequested, sectorCacheTable_writeStatus, sectorCacheTable_alignWrite, hupdate]
  unfold createAt.cached updateSecStatus
  rw [h.addr]
  -- only a sector that gets full is not told to the cache
  have htold : ∀ x : Ef, x.sectorCacheTable = s.sectorCacheTable →
      CacheOk A'
        (updateSectorCache (base k) (addr + EasyFlash.envLen key value) x).sectorCacheTable :=
    fun x hx => by
      rw [sectorCacheTable_updateSectorCache hx, hend]
      exact hcache.updateSectorCache hframe hfits
  cases sector.store with
  | unused => exact htold _ (by simp [writeEnvHdr, writeEnvHdr.written])
  | full => exact htold _ (by simp [writeEnvHdr, writeEnvHdr.written])
  | empty => exact htold _ (by simp [writeEnvHdr, writeEnvHdr.written])
  | «using» =>
      by_cases hfull : sector.remain < efSecRemainThreshold ∨
          sector.remain - EasyFlash.envLen key value < efSecRemainThreshold
      · have hforget := hcache.forget hframe
        rw [← sectorCacheTable_updateSectorCache (sectorCacheTable_writeStatus (base k)
          StoreStatus.full.index s)] at hforget
        simpa only [if_pos hfull, writeEnvHdr, writeEnvHdr.written, sectorCacheTable_alignWrite,
          sectorCacheTable_writeStatus] using hforget
      · simp only [if_neg hfull]
        exact htold _ (by simp [writeEnvHdr, writeEnvHdr.written])

end Room

/-- **A node is written where `alloc_env` has found room.** -/
theorem Store.createAt (h : Store A s) (hroom : Room A k sector key value) :
    Store (A.append k (updateSecStatus sector (envLen key value) s).1 ⟨.write, key, value⟩)
      (createAt sector (addrAfter k (A k).nodes) key value s) := by
  have hspells := hroom.spellsAt (h.spells k)
  have hframe : ∀ j, j ≠ k → A.append k (updateSecStatus sector (envLen key value) s).1
      ⟨.write, key, value⟩ j = A j := fun j hj => Function.update_of_ne hj ..
  refine ⟨fun j => ?_, fun j => ?_, ?_⟩
  · by_cases hj : j = k
    · rw [hj]
      exact hspells
    · rw [hframe j hj]
      exact ⟨(hroom.read_createAt hj).trans (h.spells j).bytes, (h.spells j).fits⟩
  · by_cases hj : j = k
    · rw [hj, Area.append, Function.update_self]
      have huse : ∀ isFull,
          (A k).store.after isFull = .using ∨ (A k).store.after isFull = .full := by
        intro isFull
        obtain hst | hst := hroom.status <;> rw [hst] <;> cases isFull <;> decide
      exact iff_of_true (by simpa [Sector.inUse] using huse _)
        (List.append_ne_nil_of_right_ne_nil _ (List.cons_ne_nil _ _))
    · rw [hframe j hj]
      exact h.nodes j
  · refine hroom.cacheOk h.cache hframe hspells.fits ?_
    rw [Area.append, Function.update_self, addrAfter_append]
    rfl

/-! ## the status of a node goes on -/

/-- A node gets another status, and its sector dirty. -/
def Area.mark (A : Area) (k : Fin 4) (pre : List Node) (nd : Node) (post : List Node)
    (st : EnvStatus) : Area :=
  Function.update A k
    { A k with
      dirty := if (A k).dirty = .false then .true else (A k).dirty
      nodes := pre ++ { nd with status := st } :: post }

theorem flash_delEnv (key : List UInt8) (env : EnvNode) (completeDel : Bool) (s : Ef) :
    (delEnv key env completeDel s).flash =
      (markDirty env.addrStart (writeStatus env.addrStart
        (if completeDel then EnvStatus.deleted.index else EnvStatus.preDelete.index) s)).flash := by
  have hcongr : ∀ s s' : Ef, s.flash = s'.flash →
      (markDirty env.addrStart s).flash = (markDirty env.addrStart s').flash := by
    intro s s' h
    have hread : ∀ a n, readStatus a n s = readStatus a n s' := fun a n => by
      rw [readStatus, h, readStatus]
    unfold markDirty
    rw [hread]
    split
    · rw [flash_writeStatus _ (by decide), flash_writeStatus _ (by decide), h]
    · exact h
  cases completeDel with
  | false => exact hcongr _ _ rfl
  | true =>
      refine hcongr _ _ ?_
      cases s.lastIsCompleteDel <;> rfl

theorem sectorCacheTable_delEnv (key : List UInt8) (env : EnvNode) (completeDel : Bool) (s : Ef) :
    (delEnv key env completeDel s).sectorCacheTable = s.sectorCacheTable := by
  have hdirty : ∀ addr s, (markDirty addr s).sectorCacheTable = s.sectorCacheTable :=
    fun addr s => by
      unfold markDirty
      split <;> simp
  rw [delEnv, hdirty]
  cases completeDel with
  | false => simp
  | true => cases s.lastIsCompleteDel <;> simp [updateEnvCache]

/-- A sector gets dirty. -/
theorem SpellsAt.markDirty (h : SpellsAt s.flash k sec)
    (haddr : addr / sectorSize * sectorSize = base k) :
    SpellsAt (markDirty addr s).flash k
      { sec with dirty := if sec.dirty = .false then .true else sec.dirty } := by
  rw [EasyFlash.markDirty, haddr, h.readStatus_dirty rfl]
  by_cases hdirty : sec.dirty = .false
  · rw [if_pos hdirty, if_pos hdirty, flash_writeStatus _ (by decide)]
    exact h.write_dirty .true (by rw [hdirty]; decide)
  · rw [if_neg hdirty, if_neg hdirty]
    exact h

/-- The other sectors. -/
theorem read_markDirty {j : Fin 4} (hj : j ≠ k) (haddr : addr / sectorSize * sectorSize = base k)
    (s : Ef) :
    (markDirty addr s).flash.read (base j) sectorSize = s.flash.read (base j) sectorSize := by
  unfold markDirty
  rw [haddr]
  split
  · rw [flash_writeStatus _ (by decide)]
    exact read_write_of_ne hj (Nat.le_add_right ..) (by simp [sectorDirtyOffset, sectorSize])
  · rfl

/-- **A valid node is prepared for deletion, and a prepared one deleted.** -/
theorem Store.delEnv (h : Store A s) (hk : (A k).nodes = pre ++ nd :: post) (key : List UInt8)
    (completeDel : Bool) (hst : nd.status = if completeDel then .preDelete else .write) :
    Store (A.mark k pre nd post (if completeDel then .deleted else .preDelete))
      (delEnv key (nd.env (addrAfter k pre)) completeDel s) := by
  have hlt := (h.spells k).len_lt hk
  have hle := nd.le_len
  have hpos : 0 < (if completeDel then EnvStatus.deleted.index else EnvStatus.preDelete.index) := by
    cases completeDel <;> decide
  have hindex : (if completeDel then EnvStatus.deleted.index else EnvStatus.preDelete.index) =
      (if completeDel then EnvStatus.deleted else EnvStatus.preDelete).index := by
    cases completeDel <;> rfl
  have hflash : (EasyFlash.delEnv key (nd.env (addrAfter k pre)) completeDel s).flash =
      (EasyFlash.markDirty (addrAfter k pre) (writeStatus (addrAfter k pre)
        (if completeDel then EnvStatus.deleted.index else EnvStatus.preDelete.index) s)).flash :=
    flash_delEnv key (nd.env (addrAfter k pre)) completeDel s
  have haddr : addrAfter k pre / sectorSize * sectorSize = base k := align_addrAfter k (by omega)
  have hnode : SpellsAt (writeStatus (addrAfter k pre)
      (if completeDel then EnvStatus.deleted.index else EnvStatus.preDelete.index) s).flash k
      { A k with nodes := pre ++ { nd with
          status := if completeDel then .deleted else .preDelete } :: post } := by
    rw [flash_writeStatus _ hpos, hindex]
    refine (h.spells k).write_status hk ?_
    rw [hst]
    cases completeDel <;> decide
  have hother : ∀ j, j ≠ k → (EasyFlash.delEnv key (nd.env (addrAfter k pre)) completeDel
      s).flash.read (base j) sectorSize = s.flash.read (base j) sectorSize := by
    intro j hj
    rw [hflash, read_markDirty hj haddr, flash_writeStatus _ hpos]
    refine read_write_of_ne hj ?_ ?_
    · simp only [addrAfter]
      omega
    · simp only [addrAfter, sectorHdrDataSize, sectorSize, List.length_singleton] at *
      omega
  have hframe : ∀ j, j ≠ k → A.mark k pre nd post (if completeDel then .deleted else .preDelete) j =
      A j := fun j hj => Function.update_of_ne hj ..
  refine ⟨fun j => ?_, fun j => ?_, ?_⟩
  · by_cases hj : j = k
    · rw [hj, hflash, Area.mark, Function.update_self]
      exact hnode.markDirty haddr
    · rw [hframe j hj]
      exact ⟨(hother j hj).trans (h.spells j).bytes, (h.spells j).fits⟩
  · by_cases hj : j = k
    · rw [hj, Area.mark, Function.update_self]
      refine iff_of_true ((h.nodes k).mpr ?_)
        (List.append_ne_nil_of_right_ne_nil _ (List.cons_ne_nil _ _))
      rw [hk]
      exact List.append_ne_nil_of_right_ne_nil _ (List.cons_ne_nil _ _)
    · rw [hframe j hj]
      exact h.nodes j
  · rw [sectorCacheTable_delEnv]
    refine h.cache.congr fun j => ?_
    by_cases hj : j = k
    · rw [hj, Area.mark, Function.update_self, hk]
      simp [Node.len]
    · rw [hframe j hj]

/-! ## formatting -/

theorem flash_formatSector (addr : Nat) (combinedValue : UInt32) (s : Ef) :
    (formatSector addr combinedValue s).flash = (s.flash.erase addr sectorSize).write addr
      ([setStatus StoreStatus.empty.index, setStatus DirtyStatus.false.index, 0xFF, 0xFF] ++
        le32 sectorMagicWord ++ le32 combinedValue ++ le32 0xFFFFFFFF) := rfl

/-- A sector is formatted, whatever it held. -/
theorem spellsAt_formatSector (k : Fin 4) (s : Ef) :
    SpellsAt (formatSector (base k) sectorNotCombined s).flash k .formatted := by
  rw [flash_formatSector]
  exact SpellsAt.format s.flash k

theorem read_formatSector {j : Fin 4} (hj : j ≠ k) (s : Ef) :
    (formatSector (base k) sectorNotCombined s).flash.read (base j) sectorSize =
      s.flash.read (base j) sectorSize := by
  have hne : j.val ≠ k.val := fun h => hj (Fin.ext h)
  rw [flash_formatSector, read_write_of_ne hj le_rfl (by simp [sectorSize])]
  refine read_erase_of_disjoint ?_
  simp only [base, sectorSize]
  omega

/-- **A sector is formatted.** -/
theorem Store.formatSector (h : Store A s) (k : Fin 4) :
    Store (Function.update A k .formatted) (formatSector (base k) sectorNotCombined s) := by
  refine ⟨h.spells.update (spellsAt_formatSector k s) fun j hj => read_formatSector hj s,
    fun j => ?_, ?_⟩
  · by_cases hj : j = k
    · rw [hj, Function.update_self]
      decide
    · rw [Function.update_of_ne hj]
      exact h.nodes j
  · exact h.cache.forget (s := { s with flash := _ }) fun j hj => Function.update_of_ne hj ..

/-- The sectors before this one have been formatted. -/
structure FormattedTo (n : Nat) (s : Ef) : Prop where
  spells : ∀ k : Fin 4, k < n → SpellsAt s.flash k .formatted
  cache : ∀ m ∈ s.sectorCacheTable, m.addr = none

theorem FormattedTo.step {n : Nat} (h : FormattedTo n s) (hn : n < 4) :
    FormattedTo (n + 1) (EasyFlash.formatSector (n * sectorSize) sectorNotCombined s) := by
  refine ⟨fun k hk => ?_, fun m hm => ?_⟩
  · by_cases hkn : k = ⟨n, hn⟩
    · rw [hkn]
      exact spellsAt_formatSector ⟨n, hn⟩ s
    · have hlt : k < n := by
        have hne : k.val ≠ n := fun h => hkn (Fin.ext h)
        omega
      have hold := h.spells k hlt
      exact ⟨(read_formatSector (k := ⟨n, hn⟩) hkn s).trans hold.bytes, hold.fits⟩
  · have hnot : s.sectorCacheTable.findIdx? (fun m => m.addr = some (n * sectorSize)) = none := by
      refine List.findIdx?_eq_none_iff.mpr fun m hm => ?_
      simp [h.cache m hm]
    have htable : (EasyFlash.formatSector (n * sectorSize) sectorNotCombined s).sectorCacheTable =
        s.sectorCacheTable := by
      simp [EasyFlash.formatSector, updateSectorCache, hnot]
    exact h.cache m (htable ▸ hm)

/-- **The whole area is formatted, whatever the flash held.** -/
theorem store_formatSectors (hcache : ∀ m ∈ s.sectorCacheTable, m.addr = none) :
    Store (fun _ => .formatted) (formatSectors s) := by
  have h₀ : FormattedTo 0 s := ⟨fun k hk => absurd hk (Nat.not_lt_zero _), hcache⟩
  have h₄ : FormattedTo 4 (formatSectors s) :=
    (((h₀.step (by decide)).step (by decide)).step (by decide)).step (by decide)
  exact ⟨fun k => h₄.spells k k.isLt, fun k => by decide, .empty _ h₄.cache⟩

end

end WaterValve.EasyFlash
