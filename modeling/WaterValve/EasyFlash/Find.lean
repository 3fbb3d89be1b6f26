import WaterValve.EasyFlash.Cache

/-!
# WaterValve.EasyFlash.Find

The search for a name.  `env_iterator` passes over the nodes of the sectors in
use one by one; on a flash that spells an area these are its nodes in their
order, and the first one that is valid and has the name is what the search
yields (`Store.findEnvNoCache`).
-/

namespace WaterValve.EasyFlash

open NorFlash

/-! ## what is looked for -/

/-- The node is valid and has this name. -/
def Node.has (key : List UInt8) (nd : Node) : Bool := nd.status = .write && nd.name = key

/-- The sectors that `env_iterator` looks into. -/
def Sector.inUse (sec : Sector) : Bool := sec.store = .using || sec.store = .full

def Sector.found (sec : Sector) : List Node := if sec.inUse then sec.nodes else []

/-- The nodes of an area in the order of the search. -/
def Area.nodes (A : Area) : List Node := (List.finRange 4).flatMap fun k => (A k).found

/-- The value of a name. -/
def Area.lookup (A : Area) (key : List UInt8) : Option (List UInt8) :=
  (A.nodes.find? (·.has key)).map (·.value)

/-- The flash spells an area in which the sectors in use are those with nodes,
and the cache knows where the nodes of a sector end. -/
structure Store (A : Area) (s : Ef) : Prop where
  spells : Spells s.flash A
  nodes : ∀ k, (A k).inUse = true ↔ (A k).nodes ≠ []
  cache : CacheOk A s.sectorCacheTable

section

variable {A : Area} {s : Ef} {k : Fin 4} {pre post : List Node} {nd : Node} {key : List UInt8}

theorem isEnv_env (start : Nat) : isEnv key (nd.env start) = nd.has key := by
  unfold isEnv Node.has Node.env
  by_cases hname : nd.name = key
  · subst hname
    simp
  · by_cases hlength : key.length = nd.name.length
    · simp [hname, hlength]
    · simp [hname, hlength]

/-! ## the next node -/

theorem addrAfter_append (k : Fin 4) (pre : List Node) (nd : Node) :
    addrAfter k (pre ++ [nd]) = addrAfter k pre + nd.len := by
  simp [addrAfter, Nat.add_assoc]

/-- The sector of an address. -/
theorem align_addrAfter (k : Fin 4) {l : List Node}
    (h : sizeOf l < sectorSize - sectorHdrDataSize) :
    addrAfter k l / sectorSize * sectorSize = base k := by
  simp only [addrAfter, base, sectorSize, sectorHdrDataSize] at *
  omega

theorem SpellsAt.magic {f : NorFlash} {sec : Sector} (h : SpellsAt f k sec)
    (hk : sec.nodes = pre ++ nd :: post) : f.u32 (addrAfter k pre + 4) = envMagicWord :=
  h.u32_node hk (u := [nd.table, 0xFF, 0xFF, 0xFF]) (x := envMagicWord) (o := 4)
    (nd.bytes_eq.trans (by simp only [List.append_assoc]; rfl)) rfl

/-- The magic word of a node is found at once. -/
theorem SpellsAt.findMagic {f : NorFlash} {sec : Sector} (h : SpellsAt f k sec)
    (hk : sec.nodes = pre ++ nd :: post) (fuel : Nat) :
    findMagic (addrAfter k pre) (base k + sectorSize - sectorHdrDataSize) f (fuel + 1)
      (addrAfter k pre) = some (addrAfter k pre) := by
  have hlt := h.len_lt hk
  have hle := nd.le_len
  have hend : addrAfter k pre + 4 < base k + sectorSize - sectorHdrDataSize := by
    simp only [addrAfter, sectorSize, sectorHdrDataSize] at *
    omega
  have hbuf : findMagicInBuf (addrAfter k pre) (addrAfter k pre)
      (base k + sectorSize - sectorHdrDataSize) f = some (addrAfter k pre) := by
    have hmagic := h.magic hk
    generalize addrAfter k pre = a at *
    -- before the magic word the word found would belong to a node that begins earlier
    have hrange : List.range 28 = [0, 1, 2, 3] ++ 4 :: (List.range 23).map (· + 5) := by decide
    rw [findMagicInBuf, hrange, List.find?_append]
    simp [envMagicOffset, hmagic, hend]
  rw [WaterValve.EasyFlash.findMagic, hbuf, if_pos (by omega)]

/-- Where the magic word does not stand it is not found. -/
theorem findMagic_eq_none {f : NorFlash} {lo start end_ : Nat}
    (h : ∀ a, lo ≤ a → a < end_ → f.u32 a ≠ envMagicWord) (hlo : lo ≤ start) (fuel : Nat) :
    findMagic lo end_ f fuel start = none := by
  induction fuel generalizing start with
  | zero => rfl
  | succ fuel ih =>
      have hbuf : findMagicInBuf lo start end_ f = none := by
        rw [findMagicInBuf, Option.map_eq_none_iff, List.find?_eq_none]
        intro i _
        by_cases hi : start + i < end_
        · simp [h (start + i) (by omega) hi]
        · simp [hi]
      rw [findMagic, hbuf]
      split
      · exact ih (by omega)
      · rfl

/-- Behind the nodes there is no magic word. -/
theorem SpellsAt.no_magic {f : NorFlash} {sec : Sector} (h : SpellsAt f k sec) {a : Nat}
    (ha : addrAfter k sec.nodes ≤ a) (hend : a < base k + sectorSize - sectorHdrDataSize) :
    f.u32 a ≠ envMagicWord := by
  have hfree : ∀ i, addrAfter k sec.nodes ≤ i → i < base k + sectorSize → f i = 0xFF := by
    intro i hi hlt
    obtain ⟨j, rfl⟩ := Nat.exists_eq_add_of_le hi
    obtain ⟨_, hbytes⟩ := read_eq_iff.mp h.bytes
    have hbyte := hbytes (sectorHdrDataSize + sizeOf sec.nodes + j) (by
      simp only [addrAfter] at hlt
      omega)
    rw [Sector.bytes, List.getElem?_append_right (by
        rw [length_header_append]
        omega), length_header_append, Nat.add_sub_cancel_left, List.getElem?_replicate,
      if_pos (by simp only [addrAfter, sectorSize, sectorHdrDataSize] at *; omega)] at hbyte
    rw [addrAfter, Nat.add_assoc, Nat.add_assoc, ← Nat.add_assoc sectorHdrDataSize]
    exact (Option.some.inj hbyte).symm
  have hinside : a + 3 < base k + sectorSize := by
    simp only [sectorSize, sectorHdrDataSize] at *
    omega
  rw [u32, hfree a ha (by omega), hfree (a + 1) (by omega) (by omega),
    hfree (a + 2) (by omega) (by omega), hfree (a + 3) (by omega) (by omega)]
  decide

namespace Store

/-- From one node on, the next node is found. -/
theorem findNextEnvAddr_node (h : Store A s) (hk : (A k).nodes = pre ++ nd :: post) :
    findNextEnvAddr (addrAfter k pre) (base k + sectorSize - sectorHdrDataSize) s =
      some (addrAfter k pre) := by
  have hlt := (h.spells k).len_lt hk
  have hnot : getSectorFromCache (base k) s ≠ some (addrAfter k pre) := by
    intro hcached
    have hlen := h.cache.get hcached
    have hle := nd.le_len
    rw [hk] at hlen
    simp only [addrAfter, sizeOf_append, sizeOf_cons] at hlen
    omega
  rw [findNextEnvAddr, align_addrAfter k (by omega), if_neg hnot]
  exact (h.spells k).findMagic hk 4095

/-- From the end of the nodes on, nothing is found. -/
theorem findNextEnvAddr_end (h : Store A s) (k : Fin 4) :
    findNextEnvAddr (addrAfter k (A k).nodes) (base k + sectorSize - sectorHdrDataSize) s =
      none := by
  rw [findNextEnvAddr, findMagic_eq_none (fun a => (h.spells k).no_magic) le_rfl, ite_self]

theorem getNextEnvAddr_eq (huse : (A k).inUse = true) {start : Nat}
    (hstart : start ≤ base k + sectorSize) (sector : SectorMeta) :
    getNextEnvAddr ((A k).hdr k sector) (nd.env start) s =
      (findNextEnvAddr (start + nd.len) (base k + sectorSize - sectorHdrDataSize) s).bind
        fun next => if base k + sectorSize < next ∨ nd.len = 0 then none else some next := by
  have hstore : (A k).store ≠ .empty := by
    intro hempty
    simp [Sector.inUse, hempty] at huse
  simp [getNextEnvAddr, Sector.hdr, Node.env, hstore, hstart]
  rfl

theorem addrAfter_le (h : Store A s) (hk : (A k).nodes = pre ++ nd :: post) :
    addrAfter k pre ≤ base k + sectorSize := by
  have hlt := (h.spells k).len_lt hk
  simp only [addrAfter, sectorSize, sectorHdrDataSize] at *
  omega

/-- Behind a node the search goes on with the next one. -/
theorem getNextEnvAddr_node (h : Store A s) (huse : (A k).inUse = true) {nd' : Node}
    (hk : (A k).nodes = pre ++ nd :: nd' :: post) (sector : SectorMeta) :
    getNextEnvAddr ((A k).hdr k sector) (nd.env (addrAfter k pre)) s =
      some (addrAfter k (pre ++ [nd])) := by
  have hk' : (A k).nodes = (pre ++ [nd]) ++ nd' :: post := by simpa using hk
  have hbound := h.addrAfter_le hk'
  have hle := nd.le_len
  rw [getNextEnvAddr_eq huse (h.addrAfter_le hk), ← addrAfter_append, h.findNextEnvAddr_node hk',
    Option.bind_some, if_neg (by omega)]

/-- Behind the last node the search ends. -/
theorem getNextEnvAddr_last (h : Store A s) (huse : (A k).inUse = true)
    (hk : (A k).nodes = pre ++ [nd]) (sector : SectorMeta) :
    getNextEnvAddr ((A k).hdr k sector) (nd.env (addrAfter k pre)) s = none := by
  rw [getNextEnvAddr_eq huse (h.addrAfter_le hk), ← addrAfter_append, ← hk, h.findNextEnvAddr_end,
    Option.bind_none]

end Store

/-! ## the loops -/

/-- What was read of a node of the area. -/
def Area.At (A : Area) (nd : Node) (env : EnvNode) : Prop :=
  ∃ k pre post, (A k).nodes = pre ++ nd :: post ∧ env = nd.env (addrAfter k pre)

/-- The search among these nodes has come to this result. -/
def Yields (A : Area) (key : List UInt8) (l : List Node) (s : Ef)
    (r : Option (Bool × EnvNode × Ef)) : Prop :=
  ∃ env, r = some ((l.find? (·.has key)).isSome, env, s) ∧
    ∀ nd, l.find? (·.has key) = some nd → A.At nd env

namespace Yields

variable {l : List Node} {env : EnvNode} {r : Option (Bool × EnvNode × Ef)}

theorem nil (env : EnvNode) : Yields A key [] s (some (false, env, s)) := ⟨env, rfl, nofun⟩

theorem hit (hhas : nd.has key = true) (hat : A.At nd env) (l : List Node) :
    Yields A key (nd :: l) s (some (true, env, s)) := by
  rw [Yields, List.find?_cons_of_pos hhas]
  refine ⟨env, rfl, fun nd' hnd' => ?_⟩
  obtain rfl := Option.some.inj hnd'
  exact hat

theorem miss (hhas : nd.has key = false) (h : Yields A key l s r) : Yields A key (nd :: l) s r := by
  rw [Yields, List.find?_cons_of_neg (by simp [hhas])]
  exact h

/-- A search that goes on in other nodes. -/
theorem append {l' : List Node} {search : Option (Bool × EnvNode × Ef)}
    {go : EnvNode → Ef → Option (Bool × EnvNode × Ef)} (h : Yields A key l s search)
    (hgo : ∀ env, Yields A key l' s (go env s)) :
    Yields A key (l ++ l') s
      (search.bind fun r => if r.1 then some (true, r.2.1, r.2.2) else go r.2.1 r.2.2) := by
  obtain ⟨env, rfl, hat⟩ := h
  rw [Yields, List.find?_append, Option.bind_some]
  cases hfind : l.find? (·.has key) with
  | none => exact hgo env
  | some nd => exact ⟨env, rfl, fun nd' hnd' => hat nd' (hfind.trans hnd')⟩

end Yields

namespace Store

/-- The search in a sector, from one of its nodes on. -/
theorem forEachEnv (h : Store A s) (huse : (A k).inUse = true)
    (hk : (A k).nodes = pre ++ nd :: post) {sector : SectorMeta} {env : EnvNode}
    (hnext : getNextEnvAddr ((A k).hdr k sector) env s = some (addrAfter k pre)) {fuel : Nat}
    (hfuel : post.length + 1 < fuel) :
    Yields A key (nd :: post) s
      (forEachEnv ((A k).hdr k sector) (findEnvCb key) fuel env s) := by
  induction post generalizing pre nd env fuel with
  | nil =>
      obtain ⟨fuel, rfl⟩ : ∃ n, fuel = n + 2 := ⟨fuel - 2, by simp at hfuel; omega⟩
      rw [WaterValve.EasyFlash.forEachEnv, hnext]
      simp only [(h.spells k).readEnv hk rfl, Option.bind_some, findEnvCb, isEnv_env]
      cases hhas : nd.has key with
      | true => exact .hit hhas ⟨k, pre, [], hk, rfl⟩ []
      | false =>
          rw [if_neg Bool.false_ne_true, WaterValve.EasyFlash.forEachEnv,
            h.getNextEnvAddr_last huse hk]
          exact .miss hhas (.nil _)
  | cons nd' post ih =>
      obtain ⟨fuel, rfl⟩ : ∃ n, fuel = n + 1 := ⟨fuel - 1, by omega⟩
      rw [WaterValve.EasyFlash.forEachEnv, hnext]
      simp only [(h.spells k).readEnv hk rfl, Option.bind_some, findEnvCb, isEnv_env]
      cases hhas : nd.has key with
      | true => exact .hit hhas ⟨k, pre, nd' :: post, hk, rfl⟩ _
      | false =>
          rw [if_neg Bool.false_ne_true]
          exact .miss hhas (ih (by simpa using hk) (h.getNextEnvAddr_node huse hk sector)
            (by simp at hfuel; omega))

/-- The search in a sector. -/
theorem forEachEnv_sector (h : Store A s) (huse : (A k).inUse = true) (sector : SectorMeta)
    (env : EnvNode) :
    Yields A key (A k).found s (WaterValve.EasyFlash.forEachEnv ((A k).hdr k sector) (findEnvCb key)
      envFuel { env with start := none } s) := by
  have hcount : ∀ l : List Node, l.length ≤ sizeOf l := by
    intro l
    induction l with
    | nil => exact le_rfl
    | cons nd l ih =>
        have hle := nd.le_len
        rw [List.length_cons, sizeOf_cons]
        omega
  have hsize := (h.spells k).fits.size
  cases hnodes : (A k).nodes with
  | nil => exact absurd hnodes ((h.nodes k).mp huse)
  | cons nd post =>
      have hlength := hcount (nd :: post)
      rw [hnodes] at hsize
      rw [Sector.found, if_pos huse, hnodes]
      refine h.forEachEnv huse (show (A k).nodes = [] ++ nd :: post from hnodes) ?_ ?_
      · have hstore : (A k).store ≠ .empty := by
          intro hempty
          simp [Sector.inUse, hempty] at huse
        simp [getNextEnvAddr, Sector.hdr, hstore, addrAfter]
      · simp only [List.length_cons, sectorSize, sectorHdrDataSize, envFuel] at *
        omega

/-- The sector behind a sector. -/
theorem getNextSectorAddr_hdr (sec : Sector) (k : Fin 4) (sector : SectorMeta) :
    getNextSectorAddr (sec.hdr k sector) =
      if k.val + 1 < 4 then some ((k.val + 1) * sectorSize) else none := by
  simp only [getNextSectorAddr, Sector.hdr, nextSector, if_pos, base, envAreaSize, sectorNum,
    sectorSize]
  split
  · rw [if_pos (by omega), Nat.add_mul, Nat.one_mul]
  · rw [if_neg (by omega)]

/-- The search in the sectors, from one of them on. -/
theorem envIteratorLoop (h : Store A s) {m n : Nat} (hmn : n + m = 4) {sector : SectorMeta}
    (hnext : getNextSectorAddr sector = if n < 4 then some (n * sectorSize) else none)
    (env : EnvNode) :
    Yields A key (((List.finRange 4).drop n).flatMap fun k => (A k).found) s
      (envIteratorLoop (findEnvCb key) (m + 1) sector env s) := by
  induction m generalizing n sector env with
  | zero =>
      obtain rfl : n = 4 := hmn
      rw [WaterValve.EasyFlash.envIteratorLoop, hnext]
      exact .nil env
  | succ m ih =>
      have hn : n < 4 := by omega
      have hdrop : (List.finRange 4).drop n = ⟨n, hn⟩ :: (List.finRange 4).drop (n + 1) := by
        rw [List.drop_eq_getElem_cons (by simpa using hn), List.getElem_finRange]
        rfl
      have hrest : ∀ env,
          Yields A key (((List.finRange 4).drop (n + 1)).flatMap fun k => (A k).found) s
            (WaterValve.EasyFlash.envIteratorLoop (findEnvCb key) (m + 1)
            ((A ⟨n, hn⟩).hdr ⟨n, hn⟩ sector) env s) :=
        fun env => ih (n := n + 1) (by omega) (getNextSectorAddr_hdr _ ⟨n, hn⟩ _) env
      rw [WaterValve.EasyFlash.envIteratorLoop, hnext, if_pos hn, hdrop, List.flatMap_cons]
      have hhdr := (h.spells ⟨n, hn⟩).readSectorHdr rfl sector
      simp only [base] at hhdr
      simp only [hhdr, Bool.true_and]
      split
      · exact (h.forEachEnv_sector ‹_› sector env).append hrest
      · rw [Sector.found, if_neg ‹_›]
        exact hrest env

/-- **The search finds the first valid node of the name.** -/
theorem findEnvNoCache (h : Store A s) (key : List UInt8) (env : EnvNode) :
    Yields A key A.nodes s (findEnvNoCache key env s) := by
  have hfirst : getNextSectorAddr { SectorMeta.zero with addr := none } =
      if 0 < 4 then some (0 * sectorSize) else none := by
    simp [getNextSectorAddr]
  exact h.envIteratorLoop (m := 4) (n := 0) rfl hfirst env

/-- What a node that was found says of its value. -/
theorem read_value (h : Store A s) {env : EnvNode} (hat : A.At nd env) :
    s.flash.read env.value env.valueLen = nd.value := by
  obtain ⟨k, pre, post, hk, rfl⟩ := hat
  have hread := (h.spells k).read_node hk
    (u := [nd.table, 0xFF, 0xFF, 0xFF] ++ envHdrData nd.name nd.value ++ nd.name) (m := nd.value)
    (v := []) (o := envHdrDataSize + nd.name.length) (n := nd.value.length) (by simp [Node.bytes])
    (by simp [envHdrData, envHdrLens, envHdrDataSize]; omega) rfl
  rw [← Nat.add_assoc] at hread
  exact hread

end Store

end

end WaterValve.EasyFlash
