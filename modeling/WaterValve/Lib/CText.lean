import Mathlib.Data.List.Basic
import Mathlib.Data.Nat.Digits.Defs
import Mathlib.Tactic.IntervalCases

/-!
# WaterValve.Lib.CText

The part of C's text conversion that firmware leans on: decimal output
(`%d`, `%0Nd`), `isspace`, `strtol` and `atol`, over strings represented as
byte lists without their terminating NUL.  `long` and `int` have 32 bits, so
`strtol` saturates at `LONG_MIN` and `LONG_MAX`.

The main facts are `strtol_digits_append` (a run of digits is read to its
end) and `strtol_fmtInt_append` (a printed number reads back over any suffix
that does not start with a digit).
-/

namespace CText

/-- A string literal as the bytes of a C string. -/
def ascii (s : String) : List UInt8 := s.toList.map Char.toUInt8

/-! ## decimal output -/

/-- The decimal digits of `n`, most significant first, as ASCII bytes. -/
def decimal (n : Nat) : List UInt8 := (Nat.toDigits 10 n).map Char.toUInt8

/-- `%0<width>d` of `n`; `%d` is the case `width = 0`.  The sign counts
towards the width and the zeros come after it. -/
def fmtInt (width : Nat) (n : Int) : List UInt8 :=
  if n < 0 then
    45 :: (List.replicate (width - 1 - (decimal n.natAbs).length) 48 ++ decimal n.natAbs)
  else
    List.replicate (width - (decimal n.natAbs).length) 48 ++ decimal n.natAbs

/-- ASCII `0`..`9`. -/
def isDigit (c : UInt8) : Bool := 48 ≤ c && c ≤ 57

/-- C's `isspace` in the "C" locale. -/
def isspace (c : UInt8) : Bool := c == 32 || (9 ≤ c && c ≤ 13)

/-- The number a run of decimal digits denotes. -/
def decVal (ds : List UInt8) : Nat := ds.foldl (fun acc c => acc * 10 + (c.toNat - 48)) 0

theorem digitChar_toUInt8 (d : Nat) (h : d < 10) :
    (Nat.digitChar d).toUInt8 = UInt8.ofNat (48 + d) := by
  interval_cases d <;> rfl

/-- The last digit comes off the end. -/
theorem decimal_eq (n : Nat) :
    decimal n = (if n < 10 then [] else decimal (n / 10)) ++ [UInt8.ofNat (48 + n % 10)] := by
  unfold decimal
  rw [Nat.toDigits_eq_if (by decide)]
  split
  · rename_i h
    simp [digitChar_toUInt8 n h, Nat.mod_eq_of_lt h]
  · simp [digitChar_toUInt8 (n % 10) (Nat.mod_lt _ (by decide))]

theorem decimal_ne_nil (n : Nat) : decimal n ≠ [] := by
  rw [decimal_eq]; simp

/-- How many digits a number has. -/
theorem length_decimal_le_iff {n k : Nat} (hk : 0 < k) :
    (decimal n).length ≤ k ↔ n < 10 ^ k := by
  simpa [decimal] using Nat.length_toDigits_le_iff (n := n) (by decide : 1 < 10) hk

theorem length_decimal_pos (n : Nat) : 0 < (decimal n).length :=
  List.length_pos_of_ne_nil (decimal_ne_nil n)

private theorem isDigit_ofNat {d : Nat} (h : d < 10) : isDigit (UInt8.ofNat (48 + d)) = true := by
  interval_cases d <;> rfl

theorem isDigit_of_mem_decimal {n : Nat} {c : UInt8} (h : c ∈ decimal n) : isDigit c = true := by
  induction n using Nat.strong_induction_on with
  | _ n ih =>
      rw [decimal_eq, List.mem_append] at h
      cases h with
      | inl h =>
          split at h
          · simp at h
          · exact ih (n / 10) (by omega) h
      | inr h =>
          rw [List.mem_singleton] at h
          rw [h]
          exact isDigit_ofNat (Nat.mod_lt _ (by decide))

/-- One digit more. -/
theorem decVal_append_singleton (ds : List UInt8) (c : UInt8) :
    decVal (ds ++ [c]) = decVal ds * 10 + (c.toNat - 48) := by
  simp [decVal]

/-- Printing and reading digits are inverse. -/
@[simp] theorem decVal_decimal (n : Nat) : decVal (decimal n) = n := by
  induction n using Nat.strong_induction_on with
  | _ n ih =>
      have hlast : (UInt8.ofNat (48 + n % 10)).toNat - 48 = n % 10 := by
        have := Nat.mod_lt n (by decide : 0 < 10)
        rw [UInt8.toNat_ofNat_of_lt' (by simp [UInt8.size]; omega)]
        omega
      rw [decimal_eq, decVal_append_singleton, hlast]
      split
      · simp [decVal]; omega
      · rw [ih (n / 10) (by omega)]; omega

/-- Leading zeros do not count. -/
@[simp] theorem decVal_replicate_zero_append (k : Nat) (ds : List UInt8) :
    decVal (List.replicate k 48 ++ ds) = decVal ds := by
  induction k with
  | zero => rfl
  | succ k ih => simpa [List.replicate_succ, decVal] using ih

/-- Leading zeros change nothing else. -/
theorem isDigit_of_mem_padded {k n : Nat} {c : UInt8}
    (h : c ∈ List.replicate k 48 ++ decimal n) : isDigit c = true := by
  rw [List.mem_append] at h
  cases h with
  | inl h => rw [List.eq_of_mem_replicate h]; rfl
  | inr h => exact isDigit_of_mem_decimal h

/-- A natural number is padded with zeros. -/
theorem fmtInt_natCast (width n : Nat) :
    fmtInt width n = List.replicate (width - (decimal n).length) 48 ++ decimal n := by
  simp [fmtInt]

/-- A number that fits its field fills the field exactly. -/
theorem length_fmtInt_natCast {width n : Nat} (hw : 0 < width) (h : n < 10 ^ width) :
    (fmtInt width n).length = width := by
  have := (length_decimal_le_iff hw).mpr h
  simp [fmtInt_natCast]; omega

/-- A 32-bit number never takes more than eleven bytes beyond its width. -/
theorem length_fmtInt_le (width : Nat) {n : Int} (h : n.natAbs < 10 ^ 10) :
    (fmtInt width n).length ≤ width + 11 := by
  have hlen : (decimal n.natAbs).length ≤ 10 := (length_decimal_le_iff (by decide)).mpr h
  unfold fmtInt
  split
  · simp only [List.length_cons, List.length_append, List.length_replicate]; omega
  · simp only [List.length_append, List.length_replicate]; omega

/-! ## byte sums -/

def digitSum (n : Nat) : Nat := (Nat.digits 10 n).sum

/-- The sum of the digits, from the last one. -/
theorem digitSum_eq (n : Nat) :
    digitSum n = (if n < 10 then 0 else digitSum (n / 10)) + n % 10 := by
  unfold digitSum
  cases n with
  | zero => rfl
  | succ n =>
      rw [Nat.digits_add_two_add_one, List.sum_cons, Nat.add_comm]
      split
      · rename_i h
        rw [Nat.div_eq_of_lt h]
        rfl
      · rfl

/-- Each digit is `0` plus its value. -/
theorem byteSum_decimal (n : Nat) :
    ((decimal n).map UInt8.toNat).sum = 48 * (decimal n).length + digitSum n := by
  induction n using Nat.strong_induction_on with
  | _ n ih =>
      have hlast : (UInt8.ofNat (48 + n % 10)).toNat = 48 + n % 10 := by
        have := Nat.mod_lt n (by decide : 0 < 10)
        exact UInt8.toNat_ofNat_of_lt' (by simp [UInt8.size]; omega)
      rw [decimal_eq, digitSum_eq]
      split
      · simp only [List.nil_append, List.map_cons, List.map_nil, hlast, List.sum_cons,
          List.sum_nil, List.length_cons, List.length_nil]
        omega
      · simp only [List.map_append, List.sum_append, ih (n / 10) (by omega), List.map_cons, hlast,
          List.map_nil, List.sum_cons, List.sum_nil, List.length_append, List.length_cons,
          List.length_nil]
        omega

/-- The byte sum of a number that fits its field. -/
theorem byteSum_fmtInt {width n : Nat} (hw : 0 < width) (h : n < 10 ^ width) :
    ((fmtInt width n).map UInt8.toNat).sum = 48 * width + digitSum n := by
  have hlen := (length_decimal_le_iff hw).mpr h
  have hzeros : ∀ k, ((List.replicate k (48 : UInt8)).map UInt8.toNat).sum = 48 * k := by
    intro k
    simp [Nat.mul_comm]
  rw [fmtInt_natCast, List.map_append, List.sum_append, byteSum_decimal, hzeros]
  omega

/-- A `uint8_t` checksum is the byte sum modulo 256. -/
theorem foldl_add_toNat (bytes : List UInt8) (a : UInt8) :
    (bytes.foldl (· + ·) a).toNat = (a.toNat + (bytes.map UInt8.toNat).sum) % 256 := by
  induction bytes generalizing a with
  | nil => simp
  | cons c bytes ih =>
      rw [List.foldl_cons, ih, UInt8.toNat_add, List.map_cons, List.sum_cons]
      omega

/-- Printed text holds no NUL. -/
theorem ne_zero_of_mem_fmtInt {width : Nat} {n : Int} {c : UInt8} (h : c ∈ fmtInt width n) :
    c ≠ 0 := by
  have hdigit : ∀ {k m : Nat}, c ∈ List.replicate k 48 ++ decimal m → c ≠ 0 := by
    rintro k m hmem rfl
    exact absurd (isDigit_of_mem_padded hmem) (by decide)
  unfold fmtInt at h
  split at h
  · obtain rfl | hmem := List.mem_cons.mp h
    · decide
    · exact hdigit hmem
  · exact hdigit h

/-! ## `strtol` and `atol` -/

def LONG_MAX : Int := 2 ^ 31 - 1

def LONG_MIN : Int := -(2 ^ 31)

/-- Out-of-range conversions return the nearest `long`. -/
def saturate (n : Int) : Int := max LONG_MIN (min n LONG_MAX)

/-- The value of `c` as a digit of base 10 or 16. -/
def digitVal (base : Nat) (c : UInt8) : Option Nat :=
  if isDigit c then some (c.toNat - 48)
  else if base = 16 ∧ 97 ≤ c ∧ c ≤ 102 then some (c.toNat - 87)
  else if base = 16 ∧ 65 ≤ c ∧ c ≤ 70 then some (c.toNat - 55)
  else none

/-- An optional sign: whether the number is negative, and what follows. -/
def takeSign : List UInt8 → Bool × List UInt8
  | 45 :: s => (true, s)
  | 43 :: s => (false, s)
  | s => (false, s)

/-- The optional `0x` of base 16, skipped only before a hexadecimal digit. -/
def skipHexPrefix : List UInt8 → List UInt8
  | 48 :: x :: c :: s =>
    if (x = 120 ∨ x = 88) ∧ (digitVal 16 c).isSome then c :: s else 48 :: x :: c :: s
  | s => s

/-- C's `strtol` for base 10 and 16: the value and the rest of the string,
or `none` when there is no number (`*endptr = nptr`). -/
def strtol (base : Nat) (nptr : List UInt8) : Option (Int × List UInt8) :=
  let signed := takeSign (nptr.dropWhile isspace)
  let body := if base = 16 then skipHexPrefix signed.2 else signed.2
  let ds := body.takeWhile fun c => (digitVal base c).isSome
  if ds = [] then none
  else
    let mag := ds.foldl (fun acc c => acc * base + (digitVal base c).getD 0) 0
    some (saturate (if signed.1 then -mag else mag), body.drop ds.length)

/-- C's `atol`. -/
def atol (nptr : List UInt8) : Int :=
  match strtol 10 nptr with
  | some (n, _) => n
  | none => 0

/-- A number in range is not saturated. -/
theorem saturate_of_mem {n : Int} (hl : LONG_MIN ≤ n) (hu : n ≤ LONG_MAX) : saturate n = n := by
  simp only [saturate, LONG_MAX, LONG_MIN] at *; omega

/-- The number starting a string is over: what follows is not a digit. -/
def NoDigitHead (s : List UInt8) : Prop := ∀ c ∈ s.head?, isDigit c = false

@[simp] theorem noDigitHead_nil : NoDigitHead [] := by simp [NoDigitHead]

@[simp] theorem noDigitHead_cons (c : UInt8) (s : List UInt8) :
    NoDigitHead (c :: s) ↔ isDigit c = false := by simp [NoDigitHead]

/-- The digits in base 10. -/
private theorem digitVal_ten (c : UInt8) :
    digitVal 10 c = if isDigit c then some (c.toNat - 48) else none := by
  simp [digitVal]

private theorem isSome_digitVal_ten : (fun c => (digitVal 10 c).isSome) = isDigit := by
  funext c
  rw [digitVal_ten]
  cases isDigit c <;> rfl

private theorem foldl_digitVal_ten (ds : List UInt8) (h : ∀ c ∈ ds, isDigit c = true) (a : Nat) :
    ds.foldl (fun acc c => acc * 10 + (digitVal 10 c).getD 0) a =
      ds.foldl (fun acc c => acc * 10 + (c.toNat - 48)) a := by
  induction ds generalizing a with
  | nil => rfl
  | cons c ds ih =>
      rw [List.foldl_cons, List.foldl_cons, digitVal_ten, if_pos (h c (by simp))]
      exact ih (fun d hd => h d (by simp [hd])) _

private theorem takeWhile_digits_append {ds rest : List UInt8}
    (h : ∀ c ∈ ds, isDigit c = true) (hrest : NoDigitHead rest) :
    (ds ++ rest).takeWhile isDigit = ds := by
  rw [List.takeWhile_append_of_pos h]
  cases rest with
  | nil => simp
  | cons c s =>
      rw [noDigitHead_cons] at hrest
      simp [hrest]

private theorem isDigit_facts {c : UInt8} (h : isDigit c = true) :
    isspace c = false ∧ c ≠ 45 ∧ c ≠ 43 := by
  simp only [isDigit, Bool.and_eq_true, decide_eq_true_eq, UInt8.le_iff_toNat_le] at h
  obtain ⟨hl, hu⟩ := h
  have hl' : 48 ≤ c.toNat := hl
  have hu' : c.toNat ≤ 57 := hu
  refine ⟨?_, ?_, ?_⟩
  · simp only [isspace, Bool.or_eq_false_iff, beq_eq_false_iff_ne, Bool.and_eq_false_iff,
      decide_eq_false_iff_not, UInt8.le_iff_toNat_le]
    refine ⟨fun e => ?_, Or.inr fun e => ?_⟩
    · rw [e] at hl'; exact absurd hl' (by decide)
    · have : c.toNat ≤ 13 := e
      omega
  · rintro rfl; exact absurd hl' (by decide)
  · rintro rfl; exact absurd hl' (by decide)

private theorem takeSign_of_digit {c : UInt8} (h : isDigit c = true) (s : List UInt8) :
    takeSign (c :: s) = (false, c :: s) := by
  obtain ⟨-, h45, h43⟩ := isDigit_facts h
  unfold takeSign
  split
  · rename_i e; exact absurd (List.cons.inj e).1 h45
  · rename_i e; exact absurd (List.cons.inj e).1 h43
  · rfl

/-- `strtol` takes the sign and then all the digits. -/
private theorem strtol_body {ds rest : List UInt8} (hne : ds ≠ [])
    (h : ∀ c ∈ ds, isDigit c = true) (hrest : NoDigitHead rest) (nptr : List UInt8) (neg : Bool)
    (hsign : takeSign (nptr.dropWhile isspace) = (neg, ds ++ rest)) :
    strtol 10 nptr = some (saturate (if neg then -(decVal ds : Int) else decVal ds), rest) := by
  have htake := takeWhile_digits_append h hrest
  simp only [strtol, hsign, isSome_digitVal_ten, htake, if_neg hne,
    show ¬(10 = 16) by decide, if_false]
  rw [foldl_digitVal_ten ds h, List.drop_left]
  rfl

/-- **`strtol` reads a run of digits to its end**, saturating. -/
theorem strtol_digits_append {ds rest : List UInt8} (hne : ds ≠ [])
    (h : ∀ c ∈ ds, isDigit c = true) (hrest : NoDigitHead rest) :
    strtol 10 (ds ++ rest) = some (saturate (decVal ds), rest) := by
  obtain ⟨c, ds', rfl⟩ := List.exists_cons_of_ne_nil hne
  have hc : isDigit c = true := h c (by simp)
  have hsp : (c :: ds' ++ rest).dropWhile isspace = c :: ds' ++ rest := by
    simp [(isDigit_facts hc).1]
  have := strtol_body hne h hrest (c :: ds' ++ rest) false
    (by rw [hsp]; exact takeSign_of_digit hc (ds' ++ rest))
  simpa using this

private theorem padded_ne_nil (k n : Nat) : List.replicate k 48 ++ decimal n ≠ [] := by
  simp [decimal_ne_nil]

/-- **A printed number reads back**, whatever the field width, over any
suffix that does not continue it. -/
theorem strtol_fmtInt_append (width : Nat) {n : Int} (hl : LONG_MIN ≤ n) (hu : n ≤ LONG_MAX)
    {rest : List UInt8} (hrest : NoDigitHead rest) :
    strtol 10 (fmtInt width n ++ rest) = some (n, rest) := by
  unfold fmtInt
  split
  · rename_i hneg
    have hbody := strtol_body (padded_ne_nil (width - 1 - (decimal n.natAbs).length) n.natAbs)
      (fun c hc => isDigit_of_mem_padded hc) hrest
      (45 :: (List.replicate (width - 1 - (decimal n.natAbs).length) 48 ++ decimal n.natAbs) ++
        rest) true (by simp [isspace, takeSign])
    rw [hbody, decVal_replicate_zero_append, decVal_decimal, if_pos rfl,
      show -(n.natAbs : Int) = n by omega, saturate_of_mem hl hu]
  · rename_i hpos
    rw [strtol_digits_append (padded_ne_nil _ _) (fun c hc => isDigit_of_mem_padded hc) hrest,
      decVal_replicate_zero_append, decVal_decimal, show (n.natAbs : Int) = n by omega,
      saturate_of_mem hl hu]

/-- `atol` inverts `%d`. -/
theorem atol_fmtInt (width : Nat) {n : Int} (hl : LONG_MIN ≤ n) (hu : n ≤ LONG_MAX) :
    atol (fmtInt width n) = n := by
  have h := strtol_fmtInt_append width hl hu noDigitHead_nil
  rw [List.append_nil] at h
  simp [atol, h]

theorem fmtInt_ne_nil (width : Nat) (n : Int) : fmtInt width n ≠ [] := by
  unfold fmtInt
  split
  · simp
  · exact padded_ne_nil _ _

/-- A printed number starts with a digit or a minus sign. -/
theorem head_fmtInt {width : Nat} {n : Int} {c : UInt8} {s : List UInt8}
    (h : fmtInt width n = c :: s) : isDigit c = true ∨ c = 45 := by
  unfold fmtInt at h
  split at h
  · exact Or.inr (List.cons.inj h).1.symm
  · left
    exact isDigit_of_mem_padded (k := width - (decimal n.natAbs).length) (n := n.natAbs)
      (by rw [h]; simp)

end CText
