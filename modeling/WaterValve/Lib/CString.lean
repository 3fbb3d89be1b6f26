import WaterValve.Lib.CText

/-!
# WaterValve.Lib.CString

C strings as the code walks them: a buffer, an index for the pointer, and
reads that fault outside the buffer.  `PointsAt buf i s` says that the string
`s` and its NUL, the last byte of the buffer, are what `i` points at.

Each walk has a lemma that compares it with the list function of
`Lib.CText`: `skipWhile_eq` for `while (p(*s)) s++;` and `strtolAt_eq` for
`strtol`.  Neither reads past the NUL, and more fuel than the string has bytes
is enough for both.
-/

namespace CString

open CText

/-- What stops a walk over C strings. -/
inductive Fault
  | readPast
  | noArgument
  | outOfFuel
deriving Repr, DecidableEq

@[simp] theorem ok_bind {α β : Type} (a : α) (f : α → Except Fault β) :
    (Except.ok a >>= f) = f a := rfl

@[simp] theorem pure_eq {α : Type} (a : α) : (pure a : Except Fault α) = .ok a := rfl

/-- `*(buf + i)`. -/
def load (buf : List UInt8) (i : Nat) : Except Fault UInt8 :=
  match buf[i]? with
  | some c => .ok c
  | none => .error .readPast

/-- `i` points at the string `s` in `buf`. -/
structure PointsAt (buf : List UInt8) (i : Nat) (s : List UInt8) : Prop where
  bytes : buf.drop i = s ++ [0]
  ne_zero : ∀ c ∈ s, c ≠ 0

namespace PointsAt

variable {buf s : List UInt8} {c : UInt8} {i j : Nat}

/-- A buffer that holds one string. -/
theorem start (h : ∀ c ∈ s, c ≠ 0) : PointsAt (s ++ [0]) 0 s := ⟨rfl, h⟩

/-- A load behind the pointer gives the next character, and 0 at the end. -/
theorem load_eq (h : PointsAt buf i s) : load buf i = .ok (s.headD 0) := by
  have hget : buf[i]? = (s ++ [0]).head? := by rw [← h.bytes, List.head?_drop]
  cases s with
  | nil => simp [load, hget]
  | cons c s => simp [load, hget]

/-- `i++` within a string. -/
theorem succ (h : PointsAt buf i (c :: s)) : PointsAt buf (i + 1) s where
  bytes := by rw [← List.drop_drop, h.bytes]; rfl
  ne_zero d hd := h.ne_zero d (List.mem_cons_of_mem c hd)

/-- Where a pointer stands tells how much is left. -/
theorem length_eq (h : PointsAt buf i s) : i + s.length + 1 = buf.length := by
  have hlen := congrArg List.length h.bytes
  simp only [List.length_drop, List.length_append, List.length_singleton] at hlen
  omega

/-- The pointer with less left is further on. -/
theorem lt_of_length {s' : List UInt8} (h : PointsAt buf i s) (h' : PointsAt buf j s')
    (hlt : s'.length < s.length) : i < j := by
  have := h.length_eq
  have := h'.length_eq
  omega

end PointsAt

variable {buf s : List UInt8} {fuel i : Nat}

/-! ## skipping -/

/-- `while (p(*rp)) rp++;` -/
def skipWhile (p : UInt8 → Bool) (buf : List UInt8) : Nat → Nat → Except Fault Nat
  | 0, _ => .error .outOfFuel
  | fuel + 1, rp => do
    let c ← load buf rp
    if p c then skipWhile p buf fuel (rp + 1) else pure rp

/-- **A skip stops at the NUL at the latest**, at what `dropWhile` leaves. -/
theorem skipWhile_eq {p : UInt8 → Bool} (h0 : p 0 = false) (h : PointsAt buf i s)
    (hfuel : s.length < fuel) :
    ∃ j, skipWhile p buf fuel i = .ok j ∧ PointsAt buf j (s.dropWhile p) := by
  induction s generalizing i fuel with
  | nil =>
      obtain ⟨fuel, rfl⟩ := Nat.exists_eq_add_of_lt hfuel
      exact ⟨i, by simp [skipWhile, h.load_eq, h0], h⟩
  | cons c s ih =>
      obtain ⟨fuel, rfl⟩ := Nat.exists_eq_add_of_lt hfuel
      by_cases hc : p c = true
      · have hfuel' : s.length < (c :: s).length + fuel := by simp only [List.length_cons]; omega
        obtain ⟨j, hj, hpts⟩ := ih h.succ hfuel'
        refine ⟨j, ?_, by simpa [hc] using hpts⟩
        simpa [skipWhile, h.load_eq, hc] using hj
      · refine ⟨i, ?_, by simpa [hc] using h⟩
        simp [skipWhile, h.load_eq, hc]

/-! ## `strtol` -/

/-- The optional sign. -/
def signAt (buf : List UInt8) (s : Nat) : Except Fault (Bool × Nat) := do
  let c ← load buf s
  if c = 45 then pure (true, s + 1) else if c = 43 then pure (false, s + 1) else pure (false, s)

/-- The optional `0x`, skipped only before a hexadecimal digit. -/
def hexPrefixAt (buf : List UInt8) (s : Nat) : Except Fault Nat := do
  if (← load buf s) ≠ 48 then pure s
  else
    let x ← load buf (s + 1)
    if x = 120 ∨ x = 88 then
      if (digitVal 16 (← load buf (s + 2))).isSome then pure (s + 2) else pure s
    else pure s

/-- What comes before the digits: `0x` in base 16 only. -/
def prefixAt (base : Nat) (buf : List UInt8) (s : Nat) : Except Fault Nat :=
  if base = 16 then hexPrefixAt buf s else pure s

/-- The digits from `s` on: their value, over `acc`, and where they end. -/
def digitsAt (base : Nat) (buf : List UInt8) : Nat → Nat → Nat → Except Fault (Nat × Nat)
  | 0, _, _ => .error .outOfFuel
  | fuel + 1, acc, s => do
    match digitVal base (← load buf s) with
    | some d => digitsAt base buf fuel (acc * base + d) (s + 1)
    | none => pure (acc, s)

/-- `v = strtol(nptr, &endptr, base);`, the value and `endptr`, which is
`nptr` when there is no number. -/
def strtolAt (base : Nat) (buf : List UInt8) (fuel nptr : Nat) : Except Fault (Int × Nat) := do
  let (neg, s) ← signAt buf (← skipWhile isspace buf fuel nptr)
  let s ← prefixAt base buf s
  let (mag, endptr) ← digitsAt base buf fuel 0 s
  if endptr = s then pure (0, nptr)
  else pure (saturate (if neg then -mag else mag), endptr)

/-- The sign, read through the pointer. -/
theorem signAt_eq (h : PointsAt buf i s) :
    ∃ j, signAt buf i = .ok ((takeSign s).1, j) ∧ PointsAt buf j (takeSign s).2 := by
  cases s with
  | nil => exact ⟨i, by simp [signAt, h.load_eq, takeSign], h⟩
  | cons c s =>
      simp only [signAt, h.load_eq, List.headD_cons]
      by_cases hminus : c = 45
      · subst hminus
        exact ⟨i + 1, rfl, h.succ⟩
      · by_cases hplus : c = 43
        · subst hplus
          exact ⟨i + 1, rfl, h.succ⟩
        · have htake : takeSign (c :: s) = (false, c :: s) := by
            unfold takeSign
            split <;> simp_all
          exact ⟨i, by simp [hminus, hplus, htake], by rwa [htake]⟩

/-- The prefix of a hexadecimal number, read through the pointer. -/
theorem hexPrefixAt_eq (h : PointsAt buf i s) :
    ∃ j, hexPrefixAt buf i = .ok j ∧ PointsAt buf j (skipHexPrefix s) := by
  unfold skipHexPrefix
  split
  · rename_i x c rest
    have hload := h.load_eq
    have hload1 := h.succ.load_eq
    have hload2 := h.succ.succ.load_eq
    by_cases hx : x = 120 ∨ x = 88
    · by_cases hd : (digitVal 16 c).isSome = true
      · refine ⟨i + 2, ?_, by simpa [hx, hd] using h.succ.succ⟩
        simp [hexPrefixAt, hload, hload1, hload2, hx, hd]
      · refine ⟨i, ?_, by simpa [hx, hd] using h⟩
        simp [hexPrefixAt, hload, hload1, hload2, hd]
    · refine ⟨i, ?_, by simpa [hx] using h⟩
      simp [hexPrefixAt, hload, hload1, hx]
  · rename_i hshape
    refine ⟨i, ?_, h⟩
    cases s with
    | nil => simp [hexPrefixAt, h.load_eq]
    | cons c s =>
        by_cases hc : c = 48
        · subst hc
          cases s with
          | nil => simp [hexPrefixAt, h.load_eq, h.succ.load_eq]
          | cons x s =>
              cases s with
              | nil =>
                  have hnul : digitVal 16 0 = none := rfl
                  simp [hexPrefixAt, h.load_eq, h.succ.load_eq, h.succ.succ.load_eq, hnul]
              | cons d s => exact absurd rfl (hshape x d s)
        · simp [hexPrefixAt, h.load_eq, hc]

/-- The digits, read through the pointer. -/
theorem digitsAt_eq (base acc : Nat) (h : PointsAt buf i s) (hfuel : s.length < fuel) :
    let ds := s.takeWhile fun c => (digitVal base c).isSome
    ∃ j, digitsAt base buf fuel acc i =
        .ok (ds.foldl (fun acc c => acc * base + (digitVal base c).getD 0) acc, j) ∧
      (j = i ↔ ds = []) ∧ PointsAt buf j (s.drop ds.length) := by
  induction s generalizing acc i fuel with
  | nil =>
      obtain ⟨fuel, rfl⟩ := Nat.exists_eq_add_of_lt hfuel
      have hnul : digitVal base 0 = none := by simp [digitVal, isDigit]
      exact ⟨i, by simp [digitsAt, h.load_eq, hnul], by simp, h⟩
  | cons c s ih =>
      obtain ⟨fuel, rfl⟩ := Nat.exists_eq_add_of_lt hfuel
      cases hd : digitVal base c with
      | none => exact ⟨i, by simp [digitsAt, h.load_eq, hd], by simp [hd], by simpa [hd] using h⟩
      | some d =>
          have hfuel' : s.length < (c :: s).length + fuel := by
            simp only [List.length_cons]; omega
          obtain ⟨j, hj, -, hpts⟩ := ih (acc * base + d) h.succ hfuel'
          refine ⟨j, ?_, ?_, by simpa [hd] using hpts⟩
          · simpa [digitsAt, h.load_eq, hd] using hj
          · have hlt := h.lt_of_length hpts (by rw [List.length_drop, List.length_cons]; omega)
            simp only [hd, List.takeWhile_cons, Option.isSome_some, if_true, reduceCtorEq,
              iff_false]
            omega

theorem length_takeSign_le (s : List UInt8) : (takeSign s).2.length ≤ s.length := by
  unfold takeSign
  split <;> simp

theorem length_skipHexPrefix_le (s : List UInt8) : (skipHexPrefix s).length ≤ s.length := by
  unfold skipHexPrefix
  split
  · split <;> simp
  · exact Nat.le_refl _

/-- The prefix is looked for in base 16 only. -/
theorem prefixAt_eq (base : Nat) (h : PointsAt buf i s) :
    ∃ j, prefixAt base buf i = .ok j ∧
      PointsAt buf j (if base = 16 then skipHexPrefix s else s) := by
  by_cases hbase : base = 16
  · simpa [prefixAt, hbase] using hexPrefixAt_eq h
  · exact ⟨i, by simp [prefixAt, hbase], by simpa [hbase] using h⟩

/-- Spaces, the sign and `0x` only take bytes away. -/
private theorem length_body_le (base : Nat) (s : List UInt8) :
    (if base = 16 then skipHexPrefix (takeSign (s.dropWhile isspace)).2
      else (takeSign (s.dropWhile isspace)).2).length ≤ s.length := by
  have hskip := (s.dropWhile_suffix isspace).length_le
  have hsign := length_takeSign_le (s.dropWhile isspace)
  have hhex := length_skipHexPrefix_le (takeSign (s.dropWhile isspace)).2
  split <;> omega

/-- **`strtol` on a buffer** agrees with `strtol` on the string it points at,
and its `endptr` with the rest of that string. -/
theorem strtolAt_eq (base : Nat) (h : PointsAt buf i s) (hfuel : s.length < fuel) :
    match strtol base s with
    | none => strtolAt base buf fuel i = .ok (0, i)
    | some (n, s') => ∃ j, strtolAt base buf fuel i = .ok (n, j) ∧ i < j ∧ PointsAt buf j s' := by
  obtain ⟨a, ha, hpa⟩ := skipWhile_eq (p := isspace) rfl h hfuel
  obtain ⟨b, hb, hpb⟩ := signAt_eq hpa
  obtain ⟨c, hc, hpc⟩ := prefixAt_eq base hpb
  have hbody := length_body_le base s
  simp only [strtol]
  generalize (if base = 16 then skipHexPrefix (takeSign (s.dropWhile isspace)).2
    else (takeSign (s.dropWhile isspace)).2) = body at hpc hbody ⊢
  obtain ⟨e, he, hend, hpe⟩ := digitsAt_eq base 0 hpc (Nat.lt_of_le_of_lt hbody hfuel)
  by_cases hds : (body.takeWhile fun c => (digitVal base c).isSome) = []
  · simp [strtolAt, ha, hb, hc, he, hds, hend.mpr hds]
  · have hpos := List.length_pos_of_ne_nil hds
    have hle := (List.takeWhile_prefix (l := body) fun c => (digitVal base c).isSome).length_le
    simp only [hds, if_false]
    refine ⟨e, ?_, h.lt_of_length hpe (by rw [List.length_drop]; omega), hpe⟩
    simp [strtolAt, ha, hb, hc, he, mt hend.mp hds]

end CString
