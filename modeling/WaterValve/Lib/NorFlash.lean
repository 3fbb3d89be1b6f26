import Mathlib.Data.List.GetD

/-!
# WaterValve.Lib.NorFlash

NOR flash: a byte at every address, of which a write can only clear bits and an
erase sets all of them.

What a region holds is a list of bytes.  The rules say what reads and writes do
to a region that holds `p ++ m ++ q`: a read at the length of `p` finds `m`
(`read_of_region`), and a write there changes nothing but `m` (`region_write`).
Integers are stored with the low byte first (`le32`).
-/

/-- The bytes by address. -/
def NorFlash := Nat → UInt8

namespace NorFlash

variable {f : NorFlash} {base addr n : Nat} {p m q bs : List UInt8}

/-- `size` bytes from `addr` on. -/
def read (f : NorFlash) (addr size : Nat) : List UInt8 :=
  (List.range size).map fun i => f (addr + i)

/-- A write clears the bits that are clear in what is written. -/
def write (addr : Nat) (bs : List UInt8) (f : NorFlash) : NorFlash := fun a =>
  if addr ≤ a ∧ a < addr + bs.length then f a &&& bs.getD (a - addr) 0xFF else f a

def erase (addr size : Nat) (f : NorFlash) : NorFlash := fun a =>
  if addr ≤ a ∧ a < addr + size then 0xFF else f a

@[simp]
theorem length_read (f : NorFlash) (addr size : Nat) : (f.read addr size).length = size := by
  simp [read]

theorem getElem?_read (f : NorFlash) (addr size i : Nat) :
    (f.read addr size)[i]? = if i < size then some (f (addr + i)) else none := by
  by_cases hi : i < size
  · simp [read, hi]
  · simp [read, hi]

/-- A region is known byte by byte. -/
theorem read_eq_iff {l : List UInt8} :
    f.read base n = l ↔ l.length = n ∧ ∀ i < n, l[i]? = some (f (base + i)) := by
  constructor
  · rintro rfl
    exact ⟨length_read .., fun i hi => by rw [getElem?_read, if_pos hi]⟩
  · rintro ⟨hlength, hl⟩
    refine List.ext_getElem? fun i => ?_
    rw [getElem?_read]
    split
    · exact (hl i ‹_›).symm
    · rw [List.getElem?_eq_none (by omega)]

/-- A shorter read. -/
theorem read_min (f : NorFlash) (addr m n : Nat) :
    f.read addr (min m n) = (f.read addr n).take m := by
  simp [read, ← List.map_take, List.take_range]

/-- Two reads in a row. -/
theorem read_add (f : NorFlash) (addr m n : Nat) :
    f.read addr (m + n) = f.read addr m ++ f.read (addr + m) n := by
  simp [read, List.range_add, Nat.add_assoc]

/-- What is read at an offset of a region. -/
theorem read_of_region (h : f.read base n = p ++ m ++ q) :
    f.read (base + p.length) m.length = m := by
  obtain ⟨hlength, hbytes⟩ := read_eq_iff.mp h
  simp only [List.length_append] at hlength
  refine read_eq_iff.mpr ⟨rfl, fun i hi => ?_⟩
  rw [Nat.add_assoc, ← hbytes (p.length + i) (by omega), List.append_assoc,
    List.getElem?_append_right (Nat.le_add_right ..), Nat.add_sub_cancel_left,
    List.getElem?_append_left hi]

/-- A byte of a region. -/
theorem apply_of_region {b : UInt8} (h : f.read base n = p ++ b :: q) :
    f (base + p.length) = b := by
  rw [← List.singleton_append, ← List.append_assoc] at h
  have hread := read_of_region h
  simpa [read] using hread

/-- A write into a region clears bits in what it covers. -/
theorem region_write (h : f.read base n = p ++ m ++ q) (hm : m.length = bs.length) :
    (f.write (base + p.length) bs).read base n = p ++ List.zipWith (· &&& ·) m bs ++ q := by
  obtain ⟨hlength, hbytes⟩ := read_eq_iff.mp h
  simp only [List.length_append] at hlength
  refine read_eq_iff.mpr ⟨by simp; omega, fun i hi => ?_⟩
  have hold := hbytes i hi
  unfold write
  obtain hlt | hge := Nat.lt_or_ge i p.length
  · rw [if_neg (by omega), ← hold]
    simp [List.getElem?_append, hlt]
  · obtain ⟨j, rfl⟩ := Nat.exists_eq_add_of_le hge
    simp only [List.append_assoc, List.getElem?_append_right hge, Nat.add_sub_cancel_left] at hold ⊢
    obtain hj | hj := Nat.lt_or_ge j m.length
    · have hb : bs[j]? = some bs[j] := List.getElem?_eq_getElem (hm ▸ hj)
      rw [if_pos (by omega), Nat.add_comm p.length j, ← Nat.add_assoc, Nat.add_right_comm,
        Nat.add_sub_cancel_left]
      rw [List.getElem?_append_left hj] at hold
      rw [List.getElem?_append_left (by simp; omega)]
      simp [List.getElem?_zipWith, hold, hb, List.getD_eq_getElem?_getD, Nat.add_assoc]
    · rw [if_neg (by omega), ← hold, List.getElem?_append_right (by simp; omega),
        List.getElem?_append_right hj]
      simp [hm]

/-- A byte is written. -/
theorem region_write_byte {b : UInt8} (h : f.read base n = p ++ [b] ++ q) (c : UInt8) :
    (f.write (base + p.length) [c]).read base n = p ++ [b &&& c] ++ q :=
  region_write h rfl

/-- What a write does not touch. -/
theorem read_write_of_disjoint (h : base + n ≤ addr ∨ addr + bs.length ≤ base) :
    (f.write addr bs).read base n = f.read base n := by
  refine read_eq_iff.mpr ⟨length_read .., fun i hi => ?_⟩
  rw [getElem?_read, if_pos hi, write, if_neg (by omega)]

theorem read_erase : (f.erase base n).read base n = List.replicate n 0xFF := by
  refine read_eq_iff.mpr ⟨List.length_replicate, fun i hi => ?_⟩
  rw [erase, if_pos (by omega), List.getElem?_replicate, if_pos hi]

theorem read_erase_of_disjoint {size : Nat} (h : base + n ≤ addr ∨ addr + size ≤ base) :
    (f.erase addr size).read base n = f.read base n := by
  refine read_eq_iff.mpr ⟨length_read .., fun i hi => ?_⟩
  rw [getElem?_read, if_pos hi, erase, if_neg (by omega)]

/-- Onto erased bytes everything can be written. -/
theorem zipWith_replicate (bs : List UInt8) :
    List.zipWith (· &&& ·) (List.replicate bs.length (0xFF : UInt8)) bs = bs := by
  induction bs with
  | nil => rfl
  | cons b bs ih =>
      have hb : (0xFF : UInt8) &&& b = b := by
        rw [UInt8.and_comm]
        exact UInt8.and_neg_one
      simp only [List.length_cons, List.replicate_succ, List.zipWith_cons_cons, ih, hb]

/-- A write onto an erased part of a region. -/
theorem region_write_erased (h : f.read base n = p ++ List.replicate bs.length 0xFF ++ q) :
    (f.write (base + p.length) bs).read base n = p ++ bs ++ q := by
  rw [region_write h (by simp), zipWith_replicate]

/-- Two writes in a row. -/
theorem write_append (f : NorFlash) (addr : Nat) (bs cs : List UInt8) :
    (f.write addr bs).write (addr + bs.length) cs = f.write addr (bs ++ cs) := by
  funext a
  unfold write
  rw [List.length_append]
  obtain h | h := Nat.lt_or_ge a (addr + bs.length)
  · rw [if_neg (by omega)]
    by_cases ha : addr ≤ a
    · rw [if_pos ⟨ha, h⟩, if_pos (by omega), List.getD_append _ _ _ _ (by omega)]
    · rw [if_neg (by omega), if_neg (by omega)]
  · by_cases ha : a < addr + bs.length + cs.length
    · rw [if_pos ⟨h, ha⟩, if_neg (by omega), if_pos (by omega),
        List.getD_append_right _ _ _ _ (by omega), Nat.sub_add_eq]
    · rw [if_neg (by omega), if_neg (by omega), if_neg (by omega)]

/-! ## integers -/

/-- The bytes of a `uint32_t`. -/
def le32 (x : UInt32) : List UInt8 :=
  [x.toUInt8, (x >>> 8).toUInt8, (x >>> 16).toUInt8, (x >>> 24).toUInt8]

/-- The `uint32_t` at `addr`. -/
def u32 (f : NorFlash) (addr : Nat) : UInt32 :=
  (f addr).toUInt32 + (f (addr + 1)).toUInt32 <<< 8 + (f (addr + 2)).toUInt32 <<< 16 +
    (f (addr + 3)).toUInt32 <<< 24

@[simp]
theorem length_le32 (x : UInt32) : (le32 x).length = 4 := rfl

theorem u32_of_read {x : UInt32} (h : f.read addr 4 = le32 x) : f.u32 addr = x := by
  simp only [read, le32, List.range_succ, List.range_zero, List.nil_append,
    List.map_cons, List.map_nil, List.cons_append, List.cons.injEq, and_true, Nat.add_zero] at h
  obtain ⟨h0, h1, h2, h3⟩ := h
  rw [u32, h0, h1, h2, h3]
  apply UInt32.toNat_inj.mp
  have hlt := x.toNat_lt
  simp [Nat.shiftLeft_eq, Nat.shiftRight_eq_div_pow]
  omega

end NorFlash
