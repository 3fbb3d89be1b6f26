import WaterValve.FlashWork

/-!
# WaterValve.FlashKeys

The flash environment read back: no two keys share a string, so a value put
under one key is read from that key and from no other, and the printed number
converts back to itself.
-/

namespace WaterValve

open CText

/-! ## printed numbers -/

/-- `%ld` prints the signed value; taken back modulo 2^32 it is the value again. -/
theorem ofInt_toInt32 (v : UInt32) : UInt32.ofInt v.toInt32.toInt = v := by
  have hcond := BitVec.toInt_eq_toNat_cond v.toBitVec
  have hlt := v.toNat_lt
  have hnat : v.toBitVec.toNat = v.toNat := rfl
  have hint : v.toInt32.toInt = v.toBitVec.toInt := rfl
  rw [hint, hcond, hnat, UInt32.ofInt]
  apply UInt32.toNat_inj.mp
  rw [UInt32.toNat_ofNat']
  split <;> omega

/-- The printed value is in the range of `atol`. -/
theorem printLd_range (v : UInt32) :
    LONG_MIN ≤ v.toInt32.toInt ∧ v.toInt32.toInt ≤ LONG_MAX := by
  have hl := v.toInt32.le_toInt
  have hu := v.toInt32.toInt_lt
  simp only [LONG_MIN, LONG_MAX]; omega

/-- What `%ld` prints is read back. -/
@[simp] theorem ofInt_atol_printLd (v : UInt32) : UInt32.ofInt (atol (printLd v)) = v := by
  rw [printLd, atol_fmtInt 0 (printLd_range v).1 (printLd_range v).2, ofInt_toInt32]

/-- What `%d` prints of a byte is read back. -/
@[simp] theorem ofInt_atol_printD (v : UInt8) : UInt32.ofInt (atol (printD v)) = v.toUInt32 := by
  have hlt := v.toNat_lt
  rw [printD, atol_fmtInt 0 (by simp only [LONG_MIN]; omega) (by simp only [LONG_MAX]; omega)]
  apply UInt32.toNat_inj.mp
  rw [UInt32.ofInt, UInt32.toNat_ofNat', UInt8.toNat_toUInt32]
  omega

/-- Two values with the same text are equal. -/
theorem printLd_injective {v w : UInt32} (h : printLd v = printLd w) : v = w := by
  rw [← ofInt_atol_printLd v, h, ofInt_atol_printLd]

/-- Eleven characters print any `long`. -/
theorem length_printLd_le (v : UInt32) : (printLd v).length ≤ 11 := by
  obtain ⟨hl, hu⟩ := printLd_range v
  have h := length_fmtInt_le 0 (n := v.toInt32.toInt)
    (by simp only [LONG_MIN, LONG_MAX] at hl hu; omega)
  simpa [printLd] using h

/-- The text of a byte fits into the buffer of a reader. -/
theorem length_printD_le (v : UInt8) : (printD v).length ≤ 11 := by
  have hlt := v.toNat_lt
  have h := length_fmtInt_le 0 (n := v.toNat) (by omega)
  simpa [printD] using h

/-! ## key strings -/

/-- What the first byte of a key tells: numbers share one kind. -/
private def keyKind (c : UInt8) : UInt8 := if isDigit c ∨ c = 45 then 48 else c

/-- The first character of a key, with every number as `0`. -/
private def FlashKey.kind : FlashKey → UInt8
  | .num _ => 48
  | .learnNums => 76
  | .moto => 77
  | .rssi _ => 82
  | .alive _ => 97
  | .slaveAlarm _ => 83
  | .bat _ => 66

/-- The kind of a key is read off its text. -/
private theorem FlashKey.kind_name (k : FlashKey) : k.name.head?.map keyKind = some k.kind := by
  cases k with
  | num key =>
      obtain ⟨c, s, hcs⟩ := List.exists_cons_of_ne_nil (fmtInt_ne_nil 0 key.toInt32.toInt)
      simp [FlashKey.name, printLd, hcs, keyKind, head_fmtInt hcs, FlashKey.kind]
  | learnNums | moto | rssi id | alive id | slaveAlarm id | bat id => rfl

/-- **Distinct keys have distinct strings.** -/
theorem FlashKey.name_injective {k l : FlashKey} (h : k.name = l.name) : k = l := by
  have hkind : k.kind = l.kind := by
    have := k.kind_name
    rw [h, l.kind_name] at this
    exact (Option.some.inj this).symm
  cases k <;> cases l
  case num.num => exact congrArg _ (printLd_injective h)
  case learnNums.learnNums => rfl
  case moto.moto => rfl
  case rssi.rssi | alive.alive | slaveAlarm.slaveAlarm | bat.bat =>
    exact congrArg _ (printLd_injective (List.append_cancel_left h))
  all_goals exact absurd hkind (by simp [FlashKey.kind])

/-- No key of the registry is the key `Author` of the store. -/
theorem FlashKey.name_ne_author (k : FlashKey) : k.name ≠ ascii "Author" := by
  intro h
  have hkind : some (65 : UInt8) = some k.kind := by rw [← k.kind_name, h]; rfl
  cases k <;> exact absurd hkind (by simp [FlashKey.kind])

/-! ## reading back -/

variable {st : Storage} {k l : FlashKey}

/-- A write of one key leaves what another reads. -/
theorem flashGet_put_of_ne (h : k ≠ l) (value : List UInt8) :
    flashGet k (st.put l value).env = flashGet k st.env := by
  have hname : k.name ≠ l.name := fun e => h (FlashKey.name_injective e)
  simp [flashGet, efGetEnvBlob, Storage.put, efSetEnv, hname]

private theorem flashGet_put_self {value : List UInt8} (hne : value ≠ [])
    (hlen : value.length ≤ 64) : flashGet k (st.put k value).env = UInt32.ofInt (atol value) := by
  have hpos := List.length_pos_of_ne_nil hne
  simp [flashGet, efGetEnvBlob, Storage.put, efSetEnv, List.take_of_length_le hlen, hpos]

/-- A key that was written with `%ld` reads back. -/
@[simp] theorem flashGet_put_printLd (v : UInt32) :
    flashGet k (st.put k (printLd v)).env = v := by
  have hlen := length_printLd_le v
  have hne : printLd v ≠ [] := fmtInt_ne_nil _ _
  rw [flashGet_put_self hne (by omega), ofInt_atol_printLd]

/-- A key that was written with `%d` reads back. -/
@[simp] theorem flashGet_put_printD (v : UInt8) :
    flashGet k (st.put k (printD v)).env = v.toUInt32 := by
  have hlen := length_printD_le v
  have hne : printD v ≠ [] := fmtInt_ne_nil _ _
  rw [flashGet_put_self hne (by omega), ofInt_atol_printD]

/-- An erased flash reads 0 under every key. -/
@[simp] theorem flashGet_default (k : FlashKey) : flashGet k .default = 0 := by
  simp [flashGet, efGetEnvBlob, Env.default, k.name_ne_author]

end WaterValve
