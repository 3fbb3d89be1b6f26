import WaterValve.FlashWork
import WaterValve.EasyFlash.Writes

/-!
# WaterValve.EasyFlash.Map

What the store is for: a map from names to values, which is what the handlers
take it for (`efSetEnv`, `efGetEnvBlob`).  `set_env` prepares the node of a name
for deletion, writes the new one and deletes the old one; a name has then one
valid node, and the search finds it.

`Run` are the runs from an area that was formatted.  A node may be written into
any sector in which `alloc_env` can find room; the collection of sectors is not
part of a run.
-/

namespace WaterValve.EasyFlash

open NorFlash

/-- A name has one valid node at most. -/
def Unique (A : Area) : Prop :=
  ∀ (key : List UInt8) (j k : Fin 4) (i i' : Nat) (nd nd' : Node), (A j).nodes[i]? = some nd →
    (A k).nodes[i']? = some nd' → nd.has key = true → nd'.has key = true → j = k ∧ i = i'

/-- A valid node says that the name has this value. -/
def Area.Holds (A : Area) (key value : List UInt8) : Prop :=
  ∃ (k : Fin 4) (i : Nat) (nd : Node), (A k).nodes[i]? = some nd ∧ nd.has key = true ∧
    nd.value = value

/-- One place of the area is written. -/
def Puts (A A' : Area) (k : Fin 4) (i : Nat) (x : Node) : Prop :=
  ∀ (j : Fin 4) (i' : Nat), (A' j).nodes[i']? = if j = k ∧ i' = i then some x else (A j).nodes[i']?

section

variable {A A' : Area} {s : Ef} {j k : Fin 4} {i : Nat} {pre post : List Node} {nd x : Node}
  {sector : SectorMeta} {key key' value v : List UInt8} {isFull : Bool} {st : EnvStatus}

theorem Store.mem_nodes (h : Store A s) : nd ∈ A.nodes ↔ ∃ k, nd ∈ (A k).nodes := by
  have hfound : ∀ k, (A k).found = (A k).nodes := by
    intro k
    unfold Sector.found
    split
    · rfl
    · rename_i huse
      exact (not_not.mp fun hne => huse ((h.nodes k).mpr hne)).symm
  simp [Area.nodes, hfound]

/-- What the search looks up is what the nodes say. -/
theorem Store.lookup_eq_some_iff (h : Store A s) (hunique : Unique A) :
    A.lookup key = some v ↔ A.Holds key v := by
  rw [Area.lookup, Option.map_eq_some_iff]
  constructor
  · rintro ⟨nd, hfind, rfl⟩
    obtain ⟨k, hmem⟩ := h.mem_nodes.mp (List.mem_of_find?_eq_some hfind)
    obtain ⟨i, hi⟩ := List.getElem?_of_mem hmem
    exact ⟨k, i, nd, hi, by simpa using List.find?_some hfind, rfl⟩
  · rintro ⟨k, i, nd, hi, hhas, rfl⟩
    have hmem : nd ∈ A.nodes := h.mem_nodes.mpr ⟨k, List.mem_of_getElem? hi⟩
    cases hfind : A.nodes.find? (·.has key) with
    | none => exact absurd hhas (List.find?_eq_none.mp hfind nd hmem)
    | some nd' =>
        obtain ⟨k', hmem'⟩ := h.mem_nodes.mp (List.mem_of_find?_eq_some hfind)
        obtain ⟨i', hi'⟩ := List.getElem?_of_mem hmem'
        have hhas' : nd'.has key = true := by simpa using List.find?_some hfind
        obtain ⟨rfl, rfl⟩ := hunique key k' k i' i nd' nd hi' hi hhas' hhas
        exact ⟨nd', rfl, by rw [Option.some.inj (hi'.symm.trans hi)]⟩

/-! ## a place is written -/

namespace Puts

theorem append (A : Area) (k : Fin 4) (isFull : Bool) (x : Node) :
    Puts A (A.append k isFull x) k (A k).nodes.length x := by
  intro j i'
  by_cases hj : j = k
  · subst hj
    rw [Area.append, Function.update_self]
    by_cases hi : i' = (A j).nodes.length
    · simp [hi]
    · simp only [hi, and_false, if_false]
      rw [List.getElem?_append]
      split
      · rfl
      · rw [List.getElem?_eq_none (by simp; omega), List.getElem?_eq_none (by omega)]
  · rw [Area.append, Function.update_of_ne hj, if_neg (fun h => hj h.1)]

theorem mark (hk : (A k).nodes = pre ++ nd :: post) (st : EnvStatus) :
    Puts A (A.mark k pre nd post st) k pre.length { nd with status := st } := by
  intro j i'
  by_cases hj : j = k
  · subst hj
    rw [Area.mark, Function.update_self, hk]
    have hset : pre ++ { nd with status := st } :: post =
        (pre ++ nd :: post).set pre.length { nd with status := st } := by simp
    rw [hset, List.getElem?_set]
    by_cases hi : i' = pre.length
    · simp [hi]
    · simp [hi, Ne.symm hi]
  · rw [Area.mark, Function.update_of_ne hj, if_neg (fun h => hj h.1)]

theorem holds_iff (h : Puts A A' k i x) :
    A'.Holds key v ↔ x.has key = true ∧ x.value = v ∨
      ∃ (j : Fin 4) (i' : Nat) (nd : Node), (A j).nodes[i']? = some nd ∧ ¬(j = k ∧ i' = i) ∧
        nd.has key = true ∧ nd.value = v := by
  constructor
  · rintro ⟨j, i', nd, hnd, hhas, rfl⟩
    rw [h j i'] at hnd
    split at hnd
    · obtain rfl := Option.some.inj hnd
      exact .inl ⟨hhas, rfl⟩
    · exact .inr ⟨j, i', nd, hnd, ‹_›, hhas, rfl⟩
  · rintro (⟨hhas, rfl⟩ | ⟨j, i', nd, hnd, hne, hhas, rfl⟩)
    · exact ⟨k, i, x, by rw [h k i, if_pos ⟨rfl, rfl⟩], hhas, rfl⟩
    · exact ⟨j, i', nd, by rw [h j i', if_neg hne, hnd], hhas, rfl⟩

/-- A node of a name that has no valid node yet, or one that is not valid. -/
theorem unique (h : Puts A A' k i x) (hunique : Unique A)
    (hx : ∀ key, x.has key = true → ∀ v, ¬A.Holds key v) : Unique A' := by
  have hentry : ∀ (key : List UInt8) (j : Fin 4) (i' : Nat) (nd : Node),
      (A' j).nodes[i']? = some nd → nd.has key = true →
      (j = k ∧ i' = i ∧ x.has key = true) ∨ (A j).nodes[i']? = some nd := by
    intro key j i' nd hnd hhas
    rw [h j i'] at hnd
    split at hnd
    · obtain rfl := Option.some.inj hnd
      exact .inl ⟨(‹j = k ∧ i' = i›).1, (‹j = k ∧ i' = i›).2, hhas⟩
    · exact .inr hnd
  intro key j j' n n' nd nd' hnd hnd' hhas hhas'
  obtain ⟨rfl, rfl, hxkey⟩ | hold := hentry key j n nd hnd hhas
  · obtain ⟨rfl, rfl, -⟩ | hold' := hentry key j' n' nd' hnd' hhas'
    · exact ⟨rfl, rfl⟩
    · exact absurd ⟨j', n', nd', hold', hhas', rfl⟩ (hx key hxkey nd'.value)
  · obtain ⟨rfl, rfl, hxkey⟩ | hold' := hentry key j' n' nd' hnd' hhas'
    · exact absurd ⟨j, n, nd, hold, hhas, rfl⟩ (hx key hxkey nd.value)
    · exact hunique key j j' n n' nd nd' hold hold' hhas hhas'

end Puts

/-! ## the map -/

/-- The store holds this map. -/
structure Maps (A : Area) (s : Ef) (m : List UInt8 → Option (List UInt8)) : Prop where
  store : Store A s
  unique : Unique A
  holds : ∀ key value, A.Holds key value ↔ m key = some value

theorem Node.has_eq_true_iff : nd.has key = true ↔ nd.status = .write ∧ nd.name = key := by
  simp [Node.has]

theorem Room.mark (h : Room A k sector key value) (hj : (A j).nodes = pre ++ nd :: post)
    (st : EnvStatus) : Room (A.mark j pre nd post st) k sector key value := by
  by_cases hkj : k = j
  · subst hkj
    have hnodes : (A.mark k pre nd post st k).nodes = pre ++ { nd with status := st } :: post := by
      rw [Area.mark, Function.update_self]
    have hstore : (A.mark k pre nd post st k).store = (A k).store := by
      rw [Area.mark, Function.update_self]
    refine ⟨h.addr, hstore ▸ h.store, hstore ▸ h.status, ?_, h.envLen, h.name⟩
    rw [h.remain, hnodes, hj]
    simp [Node.len]
  · have hsame : A.mark j pre nd post st k = A k := Function.update_of_ne hkj ..
    exact ⟨h.addr, hsame ▸ h.store, hsame ▸ h.status, hsame ▸ h.remain, h.envLen, h.name⟩

theorem addrAfter_mark (hj : (A j).nodes = pre ++ nd :: post) :
    addrAfter k (A.mark j pre nd post st k).nodes = addrAfter k (A k).nodes := by
  by_cases hkj : k = j
  · subst hkj
    rw [Area.mark, Function.update_self, addrAfter, addrAfter, hj]
    simp [Node.len]
  · rw [Area.mark, Function.update_of_ne hkj]

theorem nodes_append (hj : (A j).nodes = pre ++ nd :: post) (k : Fin 4) (isFull : Bool) (x : Node) :
    (A.append k isFull x j).nodes = pre ++ nd :: (post ++ if j = k then [x] else []) := by
  by_cases hjk : j = k
  · subst hjk
    simp [Area.append, hj]
  · rw [Area.append, Function.update_of_ne hjk, hj, if_neg hjk, List.append_nil]

/-- A node is written, and an older one deleted. -/
def Area.replace (A : Area) (j : Fin 4) (pre : List Node) (nd : Node) (post : List Node) (k : Fin 4)
    (isFull : Bool) (x : Node) : Area :=
  ((A.mark j pre nd post .preDelete).append k isFull x).mark j pre { nd with status := .preDelete }
    (post ++ if j = k then [x] else []) .deleted

namespace Maps

variable {m : List UInt8 → Option (List UInt8)}

/-- A name without a value gets one. -/
theorem create (h : Maps A s m) (hroom : Room A k sector key value) (hnew : m key = none) :
    Maps (A.append k (updateSecStatus sector (envLen key value) s).1 ⟨.write, key, value⟩)
      (createAt sector (addrAfter k (A k).nodes) key value s)
      (Function.update m key (some value)) := by
  have hputs := Puts.append A k (updateSecStatus sector (envLen key value) s).1 ⟨.write, key, value⟩
  refine ⟨h.store.createAt hroom, hputs.unique h.unique fun key' hhas v hv => ?_, fun key' v => ?_⟩
  · obtain ⟨-, rfl⟩ := Node.has_eq_true_iff.mp hhas
    simp [(h.holds _ v).mp hv] at hnew
  · have hfree : ∀ j i' nd, (A j).nodes[i']? = some nd → ¬(j = k ∧ i' = (A k).nodes.length) := by
      rintro j i' nd hnd ⟨rfl, rfl⟩
      simp at hnd
    rw [hputs.holds_iff, Node.has_eq_true_iff]
    constructor
    · rintro (⟨⟨-, rfl⟩, rfl⟩ | ⟨j, i', nd, hnd, -, hhas, rfl⟩)
      · exact Function.update_self ..
      · have hold := (h.holds key' nd.value).mp ⟨j, i', nd, hnd, hhas, rfl⟩
        have hne : key' ≠ key := by
          rintro rfl
          simp [hold] at hnew
        rw [Function.update_of_ne hne, hold]
    · intro hv
      by_cases hkey : key' = key
      · subst hkey
        rw [Function.update_self] at hv
        exact .inl ⟨⟨rfl, rfl⟩, Option.some.inj hv⟩
      · rw [Function.update_of_ne hkey] at hv
        obtain ⟨j, i', nd, hnd, hhas, rfl⟩ := (h.holds key' v).mpr hv
        exact .inr ⟨j, i', nd, hnd, hfree j i' nd hnd, hhas, rfl⟩

/-- What is left when a node is not valid any more. -/
theorem holds_mark (h : Maps A s m) (hk : (A k).nodes = pre ++ nd :: post) (hst : st ≠ .write) :
    (A.mark k pre nd post st).Holds key v ↔ m key = some v ∧ nd.has key = false := by
  have hdead : Node.has key { nd with status := st } = false := by simp [Node.has, hst]
  have hplace : (A k).nodes[pre.length]? = some nd := by simp [hk]
  rw [(Puts.mark hk st).holds_iff, ← h.holds]
  constructor
  · rintro (⟨hhas, -⟩ | ⟨j, i', nd', hnd', hne, hhas, rfl⟩)
    · simp [hdead] at hhas
    · refine ⟨⟨j, i', nd', hnd', hhas, rfl⟩, Bool.eq_false_iff.mpr fun hhas' => hne ?_⟩
      exact h.unique key j k i' pre.length nd' nd hnd' hplace hhas hhas'
  · rintro ⟨⟨j, i', nd', hnd', hhas, rfl⟩, hnot⟩
    refine .inr ⟨j, i', nd', hnd', ?_, hhas, rfl⟩
    rintro ⟨rfl, rfl⟩
    obtain rfl := Option.some.inj (hplace.symm.trans hnd')
    simp [hhas] at hnot

theorem unique_mark (h : Maps A s m) (hk : (A k).nodes = pre ++ nd :: post) (hst : st ≠ .write) :
    Unique (A.mark k pre nd post st) :=
  (Puts.mark hk st).unique h.unique fun key hhas => by simp [Node.has, hst] at hhas

/-- The value of a name is prepared for deletion. -/
theorem preDelete (h : Maps A s m) (hk : (A k).nodes = pre ++ nd :: post)
    (hhas : nd.has key = true) :
    Maps (A.mark k pre nd post .preDelete) (delEnv key (nd.env (addrAfter k pre)) false s)
      (Function.update m key none) := by
  obtain ⟨hst, rfl⟩ := Node.has_eq_true_iff.mp hhas
  refine ⟨h.store.delEnv hk nd.name false hst, h.unique_mark hk nofun,
    fun key' v => ?_⟩
  rw [h.holds_mark hk (by decide : EnvStatus.preDelete ≠ .write)]
  by_cases hkey : key' = nd.name
  · subst hkey
    simp [hhas]
  · simp [Function.update_of_ne hkey, Node.has, Ne.symm hkey]

/-- What was prepared is deleted. -/
theorem delete (h : Maps A s m) (hk : (A k).nodes = pre ++ nd :: post)
    (hst : nd.status = .preDelete) (key : List UInt8) :
    Maps (A.mark k pre nd post .deleted) (delEnv key (nd.env (addrAfter k pre)) true s) m := by
  refine ⟨h.store.delEnv hk key true hst, h.unique_mark hk nofun,
    fun key' v => ?_⟩
  rw [h.holds_mark hk (by decide : EnvStatus.deleted ≠ .write)]
  simp [Node.has, hst]

/-- The value of a name is replaced. -/
theorem replace (h : Maps A s m) (hj : (A j).nodes = pre ++ nd :: post) (hhas : nd.has key = true)
    (hroom : Room A k sector key value) :
    Maps (A.replace j pre nd post k (updateSecStatus sector (envLen key value)
        (delEnv key (nd.env (addrAfter j pre)) false s)).1 ⟨.write, key, value⟩)
      (setEnvAt sector (addrAfter k (A k).nodes) key value (some (nd.env (addrAfter j pre))) s)
      (Function.update m key (some value)) := by
  have hprepared := h.preDelete hj hhas
  have hcreated := hprepared.create (hroom.mark hj .preDelete) (Function.update_self ..)
  rw [addrAfter_mark hj, Function.update_idem] at hcreated
  -- the old node is still where it was
  have hold : (A.mark j pre nd post .preDelete j).nodes =
      pre ++ { nd with status := .preDelete } :: post := by
    rw [Area.mark, Function.update_self]
  exact hcreated.delete (nodes_append hold k _ ⟨.write, key, value⟩) rfl key

/-- What the search yields. -/
theorem findEnvNoCache (h : Maps A s m) (key : List UInt8) (env : EnvNode) :
    ∃ env', findEnvNoCache key env s = some ((m key).isSome, env', s) ∧
      ∀ value, m key = some value → ∃ (j : Fin 4) (pre : List Node) (nd : Node) (post : List Node),
        (A j).nodes = pre ++ nd :: post ∧ nd.has key = true ∧ nd.value = value ∧
          env' = nd.env (addrAfter j pre) := by
  obtain ⟨env', hfind, hat⟩ := h.store.findEnvNoCache key env
  have hlookup : m key = A.lookup key := Option.ext fun value => by
    rw [h.store.lookup_eq_some_iff h.unique, h.holds]
  refine ⟨env', ?_, fun value hvalue => ?_⟩
  · rw [hfind, hlookup, Area.lookup, Option.isSome_map]
  · rw [hlookup, Area.lookup, Option.map_eq_some_iff] at hvalue
    obtain ⟨nd, hnd, rfl⟩ := hvalue
    obtain ⟨j, pre, post, hj, rfl⟩ := hat nd hnd
    exact ⟨j, pre, nd, post, hj, by simpa using List.find?_some hnd, rfl, rfl⟩

end Maps

end

/-! ## runs -/

/-- The runs of `set_env` from an area that was formatted, and the map they
lead to. -/
inductive Run : Area → Ef → Env → Prop
  | format {s : Ef} (hcache : ∀ m ∈ s.sectorCacheTable, m.addr = none) :
      Run (fun _ => .formatted) (formatSectors s) fun _ => none
  | create {A : Area} {s : Ef} {m : Env} {k : Fin 4}
      {sector : SectorMeta} {key value : List UInt8} (h : Run A s m)
      (hroom : Room A k sector key value) (hnew : m key = none) :
      Run (A.append k (updateSecStatus sector (envLen key value) s).1 ⟨.write, key, value⟩)
        (setEnvAt sector (addrAfter k (A k).nodes) key value none s)
        (efSetEnv key value m)
  | replace {A : Area} {s : Ef} {m : Env} {j k : Fin 4}
      {pre post : List Node} {nd : Node} {sector : SectorMeta} {key value : List UInt8}
      (h : Run A s m) (hj : (A j).nodes = pre ++ nd :: post) (hhas : nd.has key = true)
      (hroom : Room A k sector key value) :
      Run (A.replace j pre nd post k (updateSecStatus sector (envLen key value)
          (delEnv key (nd.env (addrAfter j pre)) false s)).1 ⟨.write, key, value⟩)
        (setEnvAt sector (addrAfter k (A k).nodes) key value (some (nd.env (addrAfter j pre))) s)
        (efSetEnv key value m)

section

variable {A : Area} {s : Ef} {m : Env} {k : Fin 4}
  {sector : SectorMeta} {key value : List UInt8}

/-- In every run the store holds the map. -/
theorem Run.maps (h : Run A s m) : Maps A s m := by
  induction h with
  | format hcache =>
      refine ⟨store_formatSectors hcache, fun key j k i i' nd nd' hnd => ?_, fun key value => ?_⟩
      · simp [Sector.formatted] at hnd
      · simp [Area.Holds, Sector.formatted]
  | create _ hroom hnew ih => exact ih.create hroom hnew
  | replace _ hj hhas hroom ih => exact ih.replace hj hhas hroom

/-- **The store is the map.**  After every run the search finds a name exactly
when it has a value, and what is read into a buffer is what `efGetEnvBlob` says. -/
theorem find_after_run (h : Run A s m) (key : List UInt8) (env : EnvNode) :
    ∃ env', findEnvNoCache key env s = some ((m key).isSome, env', s) ∧
      ∀ bufLen,
        (if (m key).isSome then s.flash.read env'.value (min bufLen env'.valueLen) else []) =
          efGetEnvBlob key bufLen m := by
  obtain ⟨env', hfind, hvalue⟩ := h.maps.findEnvNoCache key env
  refine ⟨env', hfind, fun bufLen => ?_⟩
  unfold efGetEnvBlob
  cases hm : m key with
  | none => simp
  | some value =>
      obtain ⟨j, pre, nd, post, hj, -, rfl, rfl⟩ := hvalue value hm
      have hread := h.maps.store.read_value ⟨j, pre, post, hj, rfl⟩
      rw [Option.isSome_some, if_pos rfl, NorFlash.read_min, hread, Option.getD_some]

/-- A device before `ef_env_set_default`. -/
def blank : Ef :=
  ⟨fun _ => 0, List.replicate 16 ⟨0, 0, none⟩, List.replicate 4 ⟨none, 0⟩, false, false⟩

theorem blank_cache : ∀ m ∈ blank.sectorCacheTable, m.addr = none := fun m hm => by
  rw [List.eq_of_mem_replicate hm]

/-- The first sector with these nodes, as `alloc_env_cb` sees it. -/
def firstSector (nodes : List Node) : SectorMeta :=
  ⟨true, if nodes.isEmpty then .empty else .using, .false, some (base 0), sectorNotCombined,
    sectorSize - sectorHdrDataSize - sizeOf nodes, some (addrAfter 0 nodes)⟩

def firstNode : Node := ⟨.write, [49], [50]⟩

def secondNode : Node := ⟨.write, [51], [52, 53]⟩

/-- A node is written behind these. -/
def writeNode (nodes : List Node) (nd : Node) (old : Option EnvNode) (s : Ef) : Ef :=
  setEnvAt (firstSector nodes) (addrAfter 0 nodes) nd.name nd.value old s

/-- The device after one value was set, and after two. -/
def oneValue : Ef := writeNode [] firstNode none (formatSectors blank)

def twoValues : Ef := writeNode [firstNode] secondNode none oneValue

def oneName : Env := efSetEnv [49] [50] fun _ => none

def twoNames : Env := efSetEnv [51] [52, 53] oneName

theorem run_oneValue : ∃ A, Run A oneValue oneName ∧ (A 0).store = .using ∧
    (A 0).nodes = [firstNode] := by
  have hroom : Room (fun _ => .formatted) 0 (firstSector []) [49] [50] :=
    ⟨rfl, rfl, .inl rfl, rfl, by decide, by decide⟩
  have hcreated := (Run.format blank_cache).create hroom rfl
  exact ⟨_, hcreated, rfl, rfl⟩

/-- The sector is far from full. -/
theorem updateSecStatus_firstNode (s : Ef) :
    (updateSecStatus (firstSector [firstNode]) (envLen [51] [52, 53]) s).1 = false := rfl

theorem run_twoValues : ∃ A, Run A twoValues twoNames ∧ (A 0).store = .using ∧
    (A 0).nodes = [firstNode, secondNode] := by
  obtain ⟨A, hrun, hstore, hnodes⟩ := run_oneValue
  have hroom : Room A 0 (firstSector [firstNode]) [51] [52, 53] :=
    ⟨rfl, hstore.symm, .inr hstore, by rw [hnodes]; rfl, by decide, by decide⟩
  have hcreated := hrun.create hroom rfl
  rw [hnodes, updateSecStatus_firstNode] at hcreated
  refine ⟨_, hcreated, ?_, ?_⟩
  · simp [Area.append, hstore, StoreStatus.after]
  · simp [Area.append, hnodes, secondNode]

theorem room_twoValues {A : Area} (hstore : (A 0).store = .using)
    (hnodes : (A 0).nodes = [firstNode, secondNode]) :
    Room A 0 (firstSector [firstNode, secondNode]) [49] [54] :=
  ⟨rfl, hstore.symm, .inr hstore, by rw [hnodes]; rfl, by decide, by decide⟩

/-- The first of the two values is replaced. -/
def valueReplaced : Ef :=
  writeNode [firstNode, secondNode] ⟨.write, [49], [54]⟩ (some (firstNode.env (addrAfter 0 [])))
    twoValues

/-- The search finds the new value, the other name has its own, and a third one has
none. -/
theorem find_after_run_replaced :
    (∃ env', findEnvNoCache [49] .zero valueReplaced = some (true, env', valueReplaced) ∧
      valueReplaced.flash.read env'.value (min 64 env'.valueLen) = [54]) ∧
    (∃ env', findEnvNoCache [51] .zero valueReplaced = some (true, env', valueReplaced) ∧
      valueReplaced.flash.read env'.value (min 64 env'.valueLen) = [52, 53]) ∧
    ∃ env', findEnvNoCache [55] .zero valueReplaced = some (false, env', valueReplaced) := by
  obtain ⟨A, hrun, hstore, hnodes⟩ := run_twoValues
  have hfirst : (A 0).nodes = [] ++ firstNode :: [secondNode] := hnodes
  have hreplaced := hrun.replace hfirst rfl (room_twoValues hstore hnodes)
  rw [hnodes] at hreplaced
  obtain ⟨env₁, hfind₁, hvalue₁⟩ := find_after_run hreplaced [49] .zero
  obtain ⟨env₂, hfind₂, hvalue₂⟩ := find_after_run hreplaced [51] .zero
  obtain ⟨env₃, hfind₃, -⟩ := find_after_run hreplaced [55] .zero
  exact ⟨⟨env₁, hfind₁, hvalue₁ 64⟩, ⟨env₂, hfind₂, hvalue₂ 64⟩, env₃, hfind₃⟩

/-- **Setting a value.**  With what the search finds, `set_env` goes on with the
run, and nothing but the value of the name changes. -/
theorem set_continues_run (h : Run A s m) (hroom : Room A k sector key value) (env : EnvNode) :
    ∃ found old A', findEnvNoCache key env s = some (found, old, s) ∧
      Run A'
        (setEnvAt sector (addrAfter k (A k).nodes) key value (if found then some old else none) s)
        (efSetEnv key value m) := by
  obtain ⟨old, hfind, hvalue⟩ := h.maps.findEnvNoCache key env
  cases hm : m key with
  | none =>
      rw [hm] at hfind
      exact ⟨false, old, _, hfind, h.create hroom hm⟩
  | some v =>
      rw [hm] at hfind
      obtain ⟨j, pre, nd, post, hj, hhas, -, rfl⟩ := hvalue v hm
      exact ⟨true, _, _, hfind, h.replace hj hhas hroom⟩

/-- A value is replaced beside another name. -/
theorem set_continues_run_replaced : ∃ old A',
    findEnvNoCache [49] .zero twoValues = some (true, old, twoValues) ∧
      Run A' (writeNode [firstNode, secondNode] ⟨.write, [49], [54]⟩ (some old) twoValues)
        (efSetEnv [49] [54] twoNames) ∧
      twoNames [49] = some [50] ∧ twoNames [51] = some [52, 53] := by
  obtain ⟨A, hrun, hstore, hnodes⟩ := run_twoValues
  obtain ⟨found, old, A', hfind, hcontinues⟩ :=
    set_continues_run hrun (room_twoValues hstore hnodes) .zero
  obtain ⟨_, hfound, -⟩ := hrun.maps.findEnvNoCache [49] .zero
  obtain rfl : found = true := by
    rw [hfound] at hfind
    exact (congrArg Prod.fst (Option.some.inj hfind)).symm
  rw [hnodes] at hcontinues
  exact ⟨old, A', hfind, hcontinues, rfl, rfl⟩

end

end WaterValve.EasyFlash
