import WaterValve.Frames
import WaterValve.Lib.CString

/-!
# WaterValve.Sscanf

`rt_sscanf` with its two pointers.  `rtSscanfAt` walks the buffers that hold
the text and the format and faults where a pointer leaves them;
`rtSscanfAt_eq` says that on a format of literals, white space, `%d` and `%x`
it never does, and does what `rtSscanf` does on the strings.  What such a scan
reads is `readings`.
-/

namespace WaterValve

open CText CString

/-! ## the loop over two pointers -/

/-- The variables of `rt_sscanf` at the loop head. `ap` counts the arguments
`va_arg` has taken and `out` holds what all of them point at. -/
structure Sscanf where
  rp : Nat
  fp : Nat
  ret : Nat
  ap : Nat
  out : List Int32
deriving Repr, DecidableEq

/-- `while(*rp && *fp)`, on the buffers of `str` and `fmt`. -/
def rtSscanfLoop (str fmt : List UInt8) : Nat → Sscanf → Except Fault (Nat × List Int32)
  | 0, _ => .error .outOfFuel
  | fuel + 1, s => do
    if (← load str s.rp) = 0 then return (s.ret, s.out)
    let fc ← load fmt s.fp
    if fc = 0 then return (s.ret, s.out)
    if isspace fc then
      rtSscanfLoop str fmt fuel { s with fp := s.fp + 1 }
    else if fc ≠ 37 then
      let rp ← skipWhile isspace str fuel s.rp
      let c ← load str rp
      if c = 0 then return (s.ret, s.out)
      else if fc ≠ c then return (s.ret, s.out)
      else rtSscanfLoop str fmt fuel { s with rp := rp + 1, fp := s.fp + 1 }
    else
      let fc ← load fmt (s.fp + 1)
      if fc = 100 ∨ fc = 120 then
        if s.ap < s.out.length then
          let (v, ep) ← strtolAt (if fc = 100 then 10 else 16) str fuel s.rp
          if s.rp = ep then return (s.ret, s.out)
          rtSscanfLoop str fmt fuel
            { rp := ep
              fp := s.fp + 2
              ret := s.ret + 1
              ap := s.ap + 1
              out := s.out.set s.ap (Int32.ofInt v) }
        else throw .noArgument
      else rtSscanfLoop str fmt fuel { s with fp := s.fp + 2 }

/-- `rt_sscanf(str, fmt, ..)` with the values its `int *` arguments point at. -/
def rtSscanfAt (fuel : Nat) (str fmt : List UInt8) (out : List Int32) :
    Except Fault (Nat × List Int32) :=
  rtSscanfLoop str fmt fuel { rp := 0, fp := 0, ret := 0, ap := 0, out }

/-! ## formats -/

/-- `%d` and `%x`. -/
inductive Conversion
  | d
  | x

namespace Conversion

def byte : Conversion → UInt8
  | d => 100
  | x => 120

def base : Conversion → Nat
  | d => 10
  | x => 16

/-- A conversion is `%d` in base 10 or `%x` in base 16. -/
theorem byte_base (conv : Conversion) :
    conv.byte = 100 ∧ conv.base = 10 ∨ conv.byte = 120 ∧ conv.base = 16 := by
  cases conv <;> simp [byte, base]

end Conversion

/-- What a format is made of. -/
inductive Directive
  | space (c : UInt8) (h : isspace c = true)
  | literal (c : UInt8) (hnul : c ≠ 0) (hspace : isspace c = false) (hpercent : c ≠ 37)
  | number (conv : Conversion)

namespace Directive

def text : Directive → List UInt8
  | space c _ => [c]
  | literal c _ _ _ => [c]
  | number conv => [37, conv.byte]

/-- How many outputs it needs. -/
def args : Directive → Nat
  | number _ => 1
  | _ => 0

end Directive

/-- The bytes of a format. -/
def formatText (fmt : List Directive) : List UInt8 := fmt.flatMap Directive.text

/-- How many outputs a format needs. -/
def formatArgs (fmt : List Directive) : Nat := (fmt.map Directive.args).sum

@[simp] theorem formatText_cons (d : Directive) (fmt : List Directive) :
    formatText (d :: fmt) = d.text ++ formatText fmt := rfl

@[simp] theorem formatArgs_cons (d : Directive) (fmt : List Directive) :
    formatArgs (d :: fmt) = d.args + formatArgs fmt := rfl

/-- A format has no NUL inside. -/
theorem ne_zero_of_mem_formatText {fmt : List Directive} {c : UInt8} (h : c ∈ formatText fmt) :
    c ≠ 0 := by
  obtain ⟨d, -, hc⟩ := List.mem_flatMap.mp h
  cases d with
  | space c' hspace =>
      obtain rfl := List.mem_singleton.mp hc
      rintro rfl
      exact absurd hspace (by decide)
  | literal c' hnul _ _ => exact List.mem_singleton.mp hc ▸ hnul
  | number conv =>
      simp only [Directive.text, List.mem_cons, List.not_mem_nil, or_false] at hc
      cases conv <;> rcases hc with rfl | rfl <;> decide

/-! ## what a scan reads -/

/-- The values a scan of `rp` reads, up to where the text departs from the
format: those `strtol` gives for the numbers that its conversions match. -/
def readings : List Directive → List UInt8 → List Int32
  | [], _ => []
  | .space _ _ :: fmt, rp => readings fmt rp
  | .literal c _ _ _ :: fmt, rp =>
    match rp.dropWhile isspace with
    | [] => []
    | c' :: rp => if c = c' then readings fmt rp else []
  | .number conv :: fmt, rp =>
    match strtol conv.base rp with
    | none => []
    | some (n, rp) => Int32.ofInt n :: readings fmt rp

/-- Nothing is read from an empty text. -/
@[simp] theorem readings_nil (fmt : List Directive) : readings fmt [] = [] := by
  induction fmt with
  | nil => rfl
  | cons d fmt ih =>
      cases d with
      | space _ _ => exact ih
      | literal _ _ _ _ => rfl
      | number conv => cases conv <;> rfl

/-- A format has an output for every value it reads. -/
theorem length_readings_le (fmt : List Directive) (rp : List UInt8) :
    (readings fmt rp).length ≤ formatArgs fmt := by
  induction fmt generalizing rp with
  | nil => exact Nat.le_refl 0
  | cons d fmt ih =>
      cases d with
      | space c _ => simpa [readings, Directive.args] using ih rp
      | literal c _ _ _ =>
          simp only [readings, formatArgs_cons, Directive.args, Nat.zero_add]
          cases rp.dropWhile isspace with
          | nil => exact Nat.zero_le _
          | cons c' rp =>
              by_cases hc : c = c'
              · simpa [hc] using ih rp
              · simp [hc]
      | number conv =>
          simp only [readings, formatArgs_cons, Directive.args]
          split
          · exact Nat.zero_le _
          · have := ih ‹_›
            rw [List.length_cons]
            omega

/-- **What `rt_sscanf` does on the strings**: the values it reads take the
place of as many outputs. -/
theorem rtSscanf_formatText (fmt : List Directive) (rp : List UInt8) (ap : List Int32)
    (hap : formatArgs fmt ≤ ap.length) :
    rtSscanf rp (formatText fmt) ap =
      ((readings fmt rp).length, readings fmt rp ++ ap.drop (readings fmt rp).length) := by
  induction fmt generalizing rp ap with
  | nil => simp [formatText, readings, rtSscanf]
  | cons d fmt ih =>
      cases rp with
      | nil => simp [rtSscanf_end]
      | cons r rp =>
          cases d with
          | space c hspace =>
              have hargs : formatArgs fmt ≤ ap.length := by simpa [Directive.args] using hap
              simpa [Directive.text, readings, rtSscanf_space (List.cons_ne_nil r rp) hspace]
                using ih (r :: rp) ap hargs
          | literal c hnul hspace hpercent =>
              have hargs : formatArgs fmt ≤ ap.length := by simpa [Directive.args] using hap
              simp only [formatText_cons, Directive.text, List.singleton_append,
                rtSscanf_literal hspace hpercent, readings]
              cases (r :: rp).dropWhile isspace with
              | nil => rfl
              | cons c' rp' =>
                  by_cases hc : c = c'
                  · simpa [hc] using ih rp' ap hargs
                  · simp [hc]
          | number conv =>
              rw [formatArgs_cons, Directive.args] at hap
              obtain ⟨v, ap, rfl⟩ := List.exists_cons_of_length_pos (by omega : 0 < ap.length)
              simp only [formatText_cons, Directive.text, List.cons_append, List.nil_append,
                rtSscanf_int conv.byte_base, readings]
              cases strtol conv.base (r :: rp) with
              | none => rfl
              | some p =>
                  have hargs : formatArgs fmt ≤ ap.length := by
                    rw [List.length_cons] at hap; omega
                  simp [ih p.2 ap hargs]

/-! ## what the pointers do -/

/-- What is returned when `vs` is still to be read. -/
def Sscanf.filled (s : Sscanf) (vs : List Int32) : Nat × List Int32 :=
  (s.ret + vs.length, s.out.take s.ap ++ vs ++ s.out.drop (s.ap + vs.length))

@[simp] theorem Sscanf.filled_nil (s : Sscanf) : s.filled [] = (s.ret, s.out) := by
  simp [Sscanf.filled]

/-- `*ip = v; ret++;` -/
theorem Sscanf.filled_cons {s : Sscanf} (hap : s.ap < s.out.length) (rp fp : Nat) (v : Int32)
    (vs : List Int32) :
    Sscanf.filled ⟨rp, fp, s.ret + 1, s.ap + 1, s.out.set s.ap v⟩ vs = s.filled (v :: vs) := by
  have htake : (s.out.set s.ap v).take (s.ap + 1) = s.out.take s.ap ++ [v] := by
    rw [List.take_succ_eq_append_getElem (by simpa using hap), List.getElem_set_self,
      List.take_set_of_le (Nat.le_refl _)]
  have hdrop : (s.out.set s.ap v).drop (s.ap + 1 + vs.length) =
      s.out.drop (s.ap + (vs.length + 1)) := by
    rw [List.drop_set_of_lt (by omega)]
    congr 1
    omega
  simp only [Sscanf.filled, htake, hdrop, List.length_cons, List.append_assoc,
    List.singleton_append, Prod.mk.injEq, and_true]
  omega

section

variable {str fmtBuf rp fp : List UInt8} {s : Sscanf} {c : UInt8} {fuel : Nat}

/-- At the end of the text the scan returns. -/
theorem rtSscanfLoop_end (hrp : PointsAt str s.rp []) :
    rtSscanfLoop str fmtBuf (fuel + 1) s = .ok (s.ret, s.out) := by
  simp [rtSscanfLoop, hrp.load_eq]

/-- So it does at the end of the format. -/
theorem rtSscanfLoop_done (hrp : PointsAt str s.rp rp) (hfp : PointsAt fmtBuf s.fp []) :
    rtSscanfLoop str fmtBuf (fuel + 1) s = .ok (s.ret, s.out) := by
  simp [rtSscanfLoop, hrp.load_eq, hfp.load_eq]

/-- White space in the format is passed over. -/
theorem rtSscanfLoop_space (hrp : PointsAt str s.rp rp) (hne : rp ≠ [])
    (hfp : PointsAt fmtBuf s.fp (c :: fp)) (hspace : isspace c = true) :
    rtSscanfLoop str fmtBuf (fuel + 1) s =
      rtSscanfLoop str fmtBuf fuel { s with fp := s.fp + 1 } := by
  obtain ⟨r, rp, rfl⟩ := List.exists_cons_of_ne_nil hne
  have hr : r ≠ 0 := hrp.ne_zero r (by simp)
  have hc : c ≠ 0 := hfp.ne_zero c (by simp)
  simp [rtSscanfLoop, hrp.load_eq, hfp.load_eq, hr, hc, hspace]

/-- A literal skips white space of the text and must be there. -/
theorem rtSscanfLoop_literal (hrp : PointsAt str s.rp rp) (hne : rp ≠ [])
    (hfp : PointsAt fmtBuf s.fp (c :: fp)) (hspace : isspace c = false) (hpercent : c ≠ 37)
    (hfuel : rp.length < fuel) :
    match rp.dropWhile isspace with
    | [] => rtSscanfLoop str fmtBuf (fuel + 1) s = .ok (s.ret, s.out)
    | c' :: rp' =>
      if c = c' then ∃ j, PointsAt str j rp' ∧ rtSscanfLoop str fmtBuf (fuel + 1) s =
        rtSscanfLoop str fmtBuf fuel { s with rp := j, fp := s.fp + 1 }
      else rtSscanfLoop str fmtBuf (fuel + 1) s = .ok (s.ret, s.out) := by
  obtain ⟨j, hj, hpj⟩ := skipWhile_eq (p := isspace) rfl hrp hfuel
  obtain ⟨r, rp, rfl⟩ := List.exists_cons_of_ne_nil hne
  have hr : r ≠ 0 := hrp.ne_zero r (by simp)
  have hc : c ≠ 0 := hfp.ne_zero c (by simp)
  cases hdrop : (r :: rp).dropWhile isspace with
  | nil =>
      rw [hdrop] at hpj
      simp [rtSscanfLoop, hrp.load_eq, hfp.load_eq, hpj.load_eq, hc, hspace, hpercent, hj]
  | cons c' rp' =>
      rw [hdrop] at hpj
      have hc' : c' ≠ 0 := hpj.ne_zero c' (by simp)
      by_cases heq : c = c'
      · simp only [heq, if_true]
        refine ⟨j + 1, hpj.succ, ?_⟩
        subst heq
        simp [rtSscanfLoop, hrp.load_eq, hfp.load_eq, hpj.load_eq, hr, hc, hspace, hpercent, hj]
      · simp [rtSscanfLoop, hrp.load_eq, hfp.load_eq, hpj.load_eq, hc, hc', hspace, hpercent,
          hj, heq]

/-- A conversion stores what `strtol` reads, and ends the scan if it reads nothing. -/
theorem rtSscanfLoop_number (hrp : PointsAt str s.rp rp) (hne : rp ≠ []) (conv : Conversion)
    (hfp : PointsAt fmtBuf s.fp (37 :: conv.byte :: fp)) (hap : s.ap < s.out.length)
    (hfuel : rp.length < fuel) :
    match strtol conv.base rp with
    | none => rtSscanfLoop str fmtBuf (fuel + 1) s = .ok (s.ret, s.out)
    | some (n, rp') => ∃ j, s.rp < j ∧ PointsAt str j rp' ∧
        rtSscanfLoop str fmtBuf (fuel + 1) s = rtSscanfLoop str fmtBuf fuel
          ⟨j, s.fp + 2, s.ret + 1, s.ap + 1, s.out.set s.ap (Int32.ofInt n)⟩ := by
  have hstrtol := strtolAt_eq conv.base hrp hfuel
  obtain ⟨r, rp, rfl⟩ := List.exists_cons_of_ne_nil hne
  have hr : r ≠ 0 := hrp.ne_zero r (by simp)
  have hspace : isspace 37 = false := rfl
  have hbyte : (conv.byte = 100 ∨ conv.byte = 120) ∧
      (if conv.byte = 100 then 10 else 16) = conv.base := by
    cases conv <;> decide
  cases hread : strtol conv.base (r :: rp) with
  | none =>
      rw [hread] at hstrtol
      simp [rtSscanfLoop, hrp.load_eq, hfp.load_eq, hfp.succ.load_eq, hspace, hap, hbyte, hstrtol]
  | some p =>
      rw [hread] at hstrtol
      obtain ⟨j, hj, hlt, hpj⟩ := hstrtol
      refine ⟨j, hlt, hpj, ?_⟩
      simp [rtSscanfLoop, hrp.load_eq, hfp.load_eq, hfp.succ.load_eq, hr, hspace, hap, hbyte,
        hj, Nat.ne_of_lt hlt]

/-- **From any loop head**, with the rest of the text at `rp` and the rest of
the format at `fp`. -/
theorem rtSscanfLoop_eq (fmt : List Directive) (hrp : PointsAt str s.rp rp)
    (hfp : PointsAt fmtBuf s.fp (formatText fmt)) (hap : s.ap + formatArgs fmt ≤ s.out.length)
    (hfuel : rp.length + (formatText fmt).length < fuel) :
    rtSscanfLoop str fmtBuf fuel s = .ok (s.filled (readings fmt rp)) := by
  induction fmt generalizing rp s fuel with
  | nil =>
      obtain ⟨fuel, rfl⟩ := Nat.exists_eq_add_of_lt hfuel
      simpa [readings] using rtSscanfLoop_done hrp hfp
  | cons d fmt ih =>
      obtain ⟨fuel, rfl⟩ := Nat.exists_eq_succ_of_ne_zero (Nat.ne_zero_of_lt hfuel)
      rw [formatText_cons, List.length_append] at hfuel
      by_cases hne : rp = []
      · subst hne
        simpa using rtSscanfLoop_end hrp
      · cases d with
        | space c hspace =>
            have hargs : s.ap + formatArgs fmt ≤ s.out.length := by
              simpa [Directive.args] using hap
            rw [Directive.text, List.length_singleton] at hfuel
            rw [Nat.succ_eq_add_one, rtSscanfLoop_space hrp hne hfp hspace]
            exact ih (s := { s with fp := s.fp + 1 }) hrp hfp.succ hargs (by omega)
        | literal c hnul hspace hpercent =>
            have hargs : s.ap + formatArgs fmt ≤ s.out.length := by
              simpa [Directive.args] using hap
            rw [Directive.text, List.length_singleton] at hfuel
            have hlt : rp.length < fuel := by omega
            have hstep := rtSscanfLoop_literal hrp hne hfp hspace hpercent hlt
            have hsuffix := (rp.dropWhile_suffix isspace).length_le
            simp only [readings]
            cases hdrop : rp.dropWhile isspace with
            | nil => simpa [hdrop] using hstep
            | cons c' rp' =>
                rw [hdrop, List.length_cons] at hsuffix
                by_cases hc : c = c'
                · simp only [hdrop, hc, if_true] at hstep ⊢
                  obtain ⟨j, hj, heq⟩ := hstep
                  rw [heq]
                  exact ih (s := { s with rp := j, fp := s.fp + 1 }) hj hfp.succ hargs (by omega)
                · simpa [hdrop, hc] using hstep
        | number conv =>
            rw [formatArgs_cons, Directive.args] at hap
            rw [Directive.text, List.length_cons, List.length_singleton] at hfuel
            have hap' : s.ap < s.out.length := by omega
            have hlt : rp.length < fuel := by omega
            have hstep := rtSscanfLoop_number hrp hne conv hfp hap' hlt
            simp only [readings]
            cases hread : strtol conv.base rp with
            | none => simpa [hread] using hstep
            | some p =>
                simp only [hread] at hstep ⊢
                obtain ⟨j, hrest, hj, heq⟩ := hstep
                have hlen := hrp.length_eq
                have hlen' := hj.length_eq
                rw [heq, ih (s := ⟨j, s.fp + 2, s.ret + 1, s.ap + 1, _⟩) hj hfp.succ.succ
                  (by simpa [Nat.add_assoc] using hap) (by omega), Sscanf.filled_cons hap']

end

section

variable {str : List UInt8} (hstr : ∀ c ∈ str, c ≠ 0) (fmt : List Directive) {out : List Int32}
  (hout : formatArgs fmt ≤ out.length) {fuel : Nat}
  (hfuel : str.length + (formatText fmt).length < fuel)

include hstr hout hfuel

/-- The scan from the start of both strings stores the readings. -/
private theorem rtSscanfAt_readings :
    rtSscanfAt fuel (str ++ [0]) (formatText fmt ++ [0]) out =
      .ok ((readings fmt str).length, readings fmt str ++ out.drop (readings fmt str).length) := by
  have hloop := rtSscanfLoop_eq (s := ⟨0, 0, 0, 0, out⟩) fmt (.start hstr)
    (.start fun c hc => ne_zero_of_mem_formatText hc) (by simpa using hout) hfuel
  simpa [rtSscanfAt, Sscanf.filled] using hloop

/-- **The pointers stay inside their strings**, and `rt_sscanf` does what
`rtSscanf` does on the strings. -/
theorem rtSscanfAt_eq :
    rtSscanfAt fuel (str ++ [0]) (formatText fmt ++ [0]) out =
      .ok (rtSscanf str (formatText fmt) out) := by
  rw [rtSscanfAt_readings hstr fmt hout hfuel, rtSscanf_formatText fmt str out hout]

/-- **`rt_sscanf` assigns a prefix of its outputs**: it ends without leaving
either string, returns how many values it has read, stores them in the first
outputs in order and leaves the others as they were. -/
theorem rtSscanfAt_assigns_prefix :
    ∃ k out', rtSscanfAt fuel (str ++ [0]) (formatText fmt ++ [0]) out = .ok (k, out') ∧
      k = (readings fmt str).length ∧ k ≤ formatArgs fmt ∧ out'.length = out.length ∧
      (∀ i < k, out'[i]? = (readings fmt str)[i]?) ∧ ∀ i, k ≤ i → out'[i]? = out[i]? := by
  have hle := length_readings_le fmt str
  refine ⟨_, _, rtSscanfAt_readings hstr fmt hout hfuel, rfl, hle, ?_, ?_, ?_⟩
  · rw [List.length_append, List.length_drop]
    omega
  · intro i hi
    exact List.getElem?_append_left hi
  · intro i hi
    rw [List.getElem?_append_right hi, List.getElem?_drop]
    congr 1
    omega

end

/-- `"%d ,%x"`. -/
def pairFormat : List Directive :=
  [.number .d, .space 32 rfl, .literal 44 (by decide) rfl (by decide), .number .x]

/-- On `"-12,zz"` its second conversion finds no number. -/
theorem rtSscanfAt_assigns_one :
    ∃ k out', rtSscanfAt 20 (ascii "-12,zz" ++ [0]) (formatText pairFormat ++ [0]) [5, 6, 7] =
        .ok (k, out') ∧ k = 1 ∧ out'.head? = some (-12) ∧
        ∀ i, 1 ≤ i → out'[i]? = ([5, 6, 7] : List Int32)[i]? := by
  have hstr : ∀ c ∈ ascii "-12,zz", c ≠ 0 := by decide +kernel
  have hout : formatArgs pairFormat ≤ ([5, 6, 7] : List Int32).length := by decide
  have hfuel : (ascii "-12,zz").length + (formatText pairFormat).length < 20 := by decide
  have hread : readings pairFormat (ascii "-12,zz") = [-12] := by decide +kernel
  obtain ⟨k, out', hrun, hk, -, -, hfirst, hlater⟩ :=
    rtSscanfAt_assigns_prefix hstr pairFormat hout hfuel
  rw [hread] at hk hfirst
  obtain rfl : k = 1 := hk
  exact ⟨1, out', hrun, rfl, List.head?_eq_getElem? ▸ hfirst 0 (by decide), hlater⟩

/-! ## the calls of the decoder -/

/-- A literal of the two frame formats. -/
private def frameLiteral (c : UInt8) (h : c ≠ 0 ∧ isspace c = false ∧ c ≠ 37) : Directive :=
  .literal c h.1 h.2.1 h.2.2

/-- `count` numbers between commas. -/
def numberFields : Nat → List Directive
  | 0 => []
  | 1 => [.number .d]
  | count + 1 => .number .d :: frameLiteral 44 (by decide) :: numberFields count

/-- The format of a node frame is a supported one. -/
theorem nodeFormat_eq :
    nodeFormat = formatText (frameLiteral 123 (by decide) :: numberFields 5 ++
      [frameLiteral 125 (by decide)]) := by decide

/-- So is that of a gateway frame. -/
theorem gatewayFormat_eq :
    gatewayFormat = formatText (frameLiteral 71 (by decide) :: frameLiteral 123 (by decide) ::
      numberFields 6 ++ [frameLiteral 125 (by decide), frameLiteral 71 (by decide)]) := by decide

/-- What `rt_sscanf` sees of the buffer ends before the NUL. -/
private theorem ne_zero_of_mem_cString {rxBuffer : List UInt8} {c : UInt8}
    (h : c ∈ cString rxBuffer) : c ≠ 0 := by
  simpa using List.all_eq_true.mp List.all_takeWhile c h

/-- The two calls of the decoder stay inside the received text and inside
their formats, for every buffer. -/
theorem decoder_scans_in_bounds (rxBuffer : List UInt8) (out : List Int32) :
    (out.length = 5 → rtSscanfAt ((cString rxBuffer).length + 17) (cString rxBuffer ++ [0])
      (nodeFormat ++ [0]) out = .ok (rtSscanf (cString rxBuffer) nodeFormat out)) ∧
    (out.length = 6 → rtSscanfAt ((cString rxBuffer).length + 22) (cString rxBuffer ++ [0])
      (gatewayFormat ++ [0]) out = .ok (rtSscanf (cString rxBuffer) gatewayFormat out)) := by
  constructor
  · intro hlen
    rw [nodeFormat_eq]
    exact rtSscanfAt_eq (fun c hc => ne_zero_of_mem_cString hc) _ (by rw [hlen]; decide)
      (Nat.add_lt_add_left (by decide) _)
  · intro hlen
    rw [gatewayFormat_eq]
    exact rtSscanfAt_eq (fun c hc => ne_zero_of_mem_cString hc) _ (by rw [hlen]; decide)
      (Nat.add_lt_add_left (by decide) _)

end WaterValve
