import WaterValve.EasyFlash.Layout

/-!
# WaterValve.EasyFlash.Cache

The cache of the sectors.  What it says of a sector is where its nodes end, and
it says it once (`CacheOk`).  The rules say when this is still right after a
change of one sector.
-/

namespace WaterValve.EasyFlash

/-- What the table says is right, and no sector stands in it twice. -/
structure CacheOk (A : Area) (l : List SectorCacheNode) : Prop where
  right : ∀ (i : Nat) (m : SectorCacheNode) k, l[i]? = some m → m.addr = some (base k) →
    m.emptyAddr = addrAfter k (A k).nodes
  once : ∀ (i j : Nat) (m n : SectorCacheNode) a, l[i]? = some m → l[j]? = some n →
    m.addr = some a → n.addr = some a → i = j

section

variable {A A' : Area} {l : List SectorCacheNode} {k : Fin 4} {s : Ef} {i : Nat}

theorem base_injective {j k : Fin 4} (h : base j = base k) : j = k := by
  simp only [base, sectorSize] at h
  exact Fin.ext (by omega)

namespace CacheOk

/-- A table without an address. -/
theorem empty (A : Area) (h : ∀ m ∈ l, m.addr = none) : CacheOk A l where
  right i m k hm hk := by simp [h m (List.mem_of_getElem? hm)] at hk
  once i j m n a hm _ ha _ := by simp [h m (List.mem_of_getElem? hm)] at ha

theorem get (h : CacheOk A s.sectorCacheTable) {emptyAddr : Nat}
    (hk : getSectorFromCache (base k) s = some emptyAddr) :
    emptyAddr = addrAfter k (A k).nodes := by
  obtain ⟨m, hm, rfl⟩ := Option.map_eq_some_iff.mp hk
  obtain ⟨i, hi⟩ := List.getElem?_of_mem (List.mem_of_find?_eq_some hm)
  exact h.right i m k hi (by simpa using List.find?_some hm)

/-- A sector that is not in the table changes. -/
theorem frame (h : CacheOk A l) (hframe : ∀ j, j ≠ k → A' j = A j)
    (hnot : ∀ (i : Nat) (m : SectorCacheNode), l[i]? = some m → m.addr ≠ some (base k)) :
    CacheOk A' l where
  right i m j hm hj := by
    have hne : j ≠ k := fun hjk => hnot i m hm (hjk ▸ hj)
    rw [hframe j hne]
    exact h.right i m j hm hj
  once := h.once

/-- The nodes of the sectors end where they ended. -/
theorem congr (h : CacheOk A l) (hsize : ∀ k, sizeOf (A' k).nodes = sizeOf (A k).nodes) :
    CacheOk A' l where
  right i m k hm hk := by rw [h.right i m k hm hk, addrAfter, addrAfter, hsize k]
  once := h.once

/-- A place of the table is written. -/
theorem set (h : CacheOk A l) (hframe : ∀ j, j ≠ k → A' j = A j)
    (honly : ∀ (j : Nat) (m : SectorCacheNode), l[j]? = some m → m.addr = some (base k) → j = i)
    {x : SectorCacheNode}
    (hx : x.addr = none ∨ x.addr = some (base k) ∧ x.emptyAddr = addrAfter k (A' k).nodes) :
    CacheOk A' (l.set i x) := by
  -- an entry of the new table is the new one, or an old one of another sector
  have hentry : ∀ (j : Nat) (m : SectorCacheNode), (l.set i x)[j]? = some m →
      j = i ∧ m = x ∨ j ≠ i ∧ l[j]? = some m ∧ m.addr ≠ some (base k) := by
    intro j m hm
    rw [List.getElem?_set] at hm
    by_cases hij : i = j
    · rw [if_pos hij] at hm
      split at hm
      · exact .inl ⟨hij.symm, (Option.some.inj hm).symm⟩
      · simp at hm
    · rw [if_neg hij] at hm
      exact .inr ⟨Ne.symm hij, hm, fun hk => hij (honly j m hm hk).symm⟩
  refine ⟨fun j m j' hm hj' => ?_, fun j j' m n a hm hn hma hna => ?_⟩
  · obtain ⟨-, rfl⟩ | ⟨-, hold, hk⟩ := hentry j m hm
    · obtain hnone | ⟨hk, hempty⟩ := hx
      · simp [hnone] at hj'
      · obtain rfl := base_injective (Option.some.inj (hk.symm.trans hj'))
        exact hempty
    · have hne : j' ≠ k := fun hjk => hk (hjk ▸ hj')
      rw [hframe j' hne]
      exact h.right j m j' hold hj'
  · obtain ⟨rfl, rfl⟩ | ⟨hj, hm', hmk⟩ := hentry j m hm
    · obtain ⟨rfl, -⟩ | ⟨-, -, hnk⟩ := hentry j' n hn
      · rfl
      · obtain hnone | ⟨hk, -⟩ := hx
        · simp [hnone] at hma
        · exact absurd (hna.trans (hma.symm.trans hk)) hnk
    · obtain ⟨rfl, rfl⟩ | ⟨-, hn', -⟩ := hentry j' n hn
      · obtain hnone | ⟨hk, -⟩ := hx
        · simp [hnone] at hna
        · exact absurd (hma.trans (hna.symm.trans hk)) hmk
      · exact h.once j j' m n a hm' hn' hma hna

/-- The place of a sector in the table. -/
theorem only (h : CacheOk A l) (hi : l.findIdx? (fun m => m.addr = some (base k)) = some i) :
    ∀ (j : Nat) (m : SectorCacheNode), l[j]? = some m → m.addr = some (base k) → j = i := by
  intro j m hm hk
  obtain ⟨hlt, haddr, -⟩ := List.findIdx?_eq_some_iff_getElem.mp hi
  exact h.once j i m l[i] _ hm (List.getElem?_eq_getElem hlt) hk (by simpa using haddr)

end CacheOk

theorem not_in_of_findIdx? (hi : l.findIdx? (fun m => m.addr = some (base k)) = none) :
    ∀ (i : Nat) (m : SectorCacheNode), l[i]? = some m → m.addr ≠ some (base k) := by
  intro i m hm
  simpa using List.findIdx?_eq_none_iff.mp hi m (List.mem_of_getElem? hm)

/-- The nodes of a sector change, and the cache is told where they end. -/
theorem CacheOk.updateSectorCache (h : CacheOk A s.sectorCacheTable)
    (hframe : ∀ j, j ≠ k → A' j = A j) (hfits : (A' k).Fits) :
    CacheOk A' (updateSectorCache (base k) (addrAfter k (A' k).nodes) s).sectorCacheTable := by
  have hinside : base k < addrAfter k (A' k).nodes ∧
      addrAfter k (A' k).nodes < base k + sectorSize := by
    have hsize := hfits.size
    simp only [addrAfter, sectorHdrDataSize, sectorSize] at *
    omega
  simp only [EasyFlash.updateSectorCache, if_pos hinside]
  split
  · exact h.set hframe (h.only ‹_›) (.inr ⟨rfl, rfl⟩)
  · have hnot := not_in_of_findIdx? ‹_›
    split
    · exact h.set hframe (fun j m hm hk => absurd hk (hnot j m hm)) (.inr ⟨rfl, rfl⟩)
    · exact h.frame hframe hnot

/-- The cache forgets a sector. -/
theorem CacheOk.forget (h : CacheOk A s.sectorCacheTable) (hframe : ∀ j, j ≠ k → A' j = A j) :
    CacheOk A' (EasyFlash.updateSectorCache (base k) (base k + sectorSize) s).sectorCacheTable := by
  have houtside : ¬(base k < base k + sectorSize ∧ base k + sectorSize < base k + sectorSize) := by
    omega
  simp only [EasyFlash.updateSectorCache, if_neg houtside]
  split
  · rename_i i hi
    obtain ⟨hlt, -⟩ := List.findIdx?_eq_some_iff_getElem.mp hi
    have hset : ∀ f, s.sectorCacheTable.modify i f = s.sectorCacheTable.set i
        (f s.sectorCacheTable[i]) := fun f => by
      rw [List.modify_eq_take_cons_drop hlt, List.set_eq_take_append_cons_drop, if_pos hlt]
    rw [hset]
    exact h.set hframe (h.only hi) (.inl rfl)
  · exact h.frame hframe (not_in_of_findIdx? ‹_›)

end

end WaterValve.EasyFlash
