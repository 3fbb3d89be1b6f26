import WaterValve.KeyEvents

/-!
# WaterValve.Buttons

The button driver (`button.c`) and the callbacks `device.c` attaches to it:
how a held key becomes tokens on the semaphores of the key thread.

`Button_Process` walks its list of two buttons, `Key1` before `Key0`, and each
visit samples the level of one key.  A `Key_Pause_Flag` that is set reads as a
released key.

Both keys held erase the registry, so what matters is when a token appears on
`K0_K1_Long_Sem`: `factory_deletion_needs_both_keys`.
-/

namespace WaterValve

/-! ## the driver -/

/-- `Button_Event`, which is also the type of a button's states. -/
inductive ButtonEvent
  | dowm
  | up
  | double
  | long
  | longFree
  | noneTrigger
deriving DecidableEq, Repr

def BUTTON_DEBOUNCE_TIME : UInt8 := 1

def BUTTON_LONG_CYCLE : UInt8 := 25

def BUTTON_DOUBLE_TIME : UInt8 := 15

def BUTTON_LONG_TIME : UInt8 := 200

/-- `Button_t`.  Levels are `true` when the pin is high. -/
structure Button where
  buttonState : ButtonEvent
  buttonLastState : ButtonEvent
  buttonTriggerLevel : Bool
  buttonLastLevel : Bool
  buttonTriggerEvent : ButtonEvent
  buttonCycle : UInt8
  timerCount : UInt8
  debounceTime : UInt8
  longTime : UInt8
  longFlag : UInt8
deriving DecidableEq, Repr

/-- `Button_Create`. -/
def buttonCreate (btnTriggerLevel : Bool) : Button where
  buttonState := .noneTrigger
  buttonLastState := .noneTrigger
  buttonTriggerLevel := btnTriggerLevel
  buttonLastLevel := true
  buttonTriggerEvent := .noneTrigger
  buttonCycle := 0
  timerCount := 0
  debounceTime := 0
  longTime := 0
  longFlag := 0

namespace Button

/-- The debounce at the head of `Button_Cycle_Process`. -/
def debounce (currentLevel : Bool) (btn : Button) : Button :=
  if currentLevel = btn.buttonLastLevel then btn
  else if btn.debounceTime + 1 < BUTTON_DEBOUNCE_TIME then
    { btn with debounceTime := btn.debounceTime + 1 }
  else
    { btn with
      buttonLastLevel := currentLevel
      debounceTime := 0
      buttonState :=
        match btn.buttonState with
        | .noneTrigger | .double => .dowm
        | .dowm => .up
        | state => state }

/-- "Update time overflow". -/
def updateLongTime (btn : Button) : Button :=
  if btn.longTime = 0xFF then { btn with longTime := BUTTON_LONG_TIME } else btn

/-- `case BUTTON_DOWM`: the button and the event whose callback is called. -/
def processDowm (btn : Button) : Button × Option ButtonEvent :=
  if btn.buttonLastLevel ≠ btn.buttonTriggerLevel then (btn, none)
  else
    let btn := { btn with buttonTriggerEvent := .dowm, longTime := btn.longTime + 1 }
    if btn.longTime < BUTTON_LONG_TIME then (btn, none)
    else
      let btn := { btn with buttonCycle := btn.buttonCycle + 1 }
      if btn.buttonCycle < BUTTON_LONG_CYCLE then (btn.updateLongTime, none)
      else
        let btn := { btn with buttonCycle := 0, buttonTriggerEvent := .long, longFlag := 1 }
        (btn.updateLongTime, some .long)

/-- `case BUTTON_UP`. -/
def processUp (btn : Button) : Button × Option ButtonEvent :=
  if btn.longFlag ≠ 0 then
    ({ btn with
        longFlag := 0
        longTime := 0
        buttonState := .noneTrigger
        buttonLastState := .long },
      some .longFree)
  else if btn.buttonTriggerEvent = .dowm then
    if btn.timerCount ≤ BUTTON_DOUBLE_TIME ∧ btn.buttonLastState = .double then
      ({ btn with
          buttonTriggerEvent := .double
          buttonState := .noneTrigger
          buttonLastState := .noneTrigger },
        some .double)
    else
      ({ btn with
          timerCount := 0
          longTime := 0
          buttonState := .double
          buttonLastState := .double },
        some .dowm)
  else (btn, none)

/-- `case BUTTON_DOUBLE`. -/
def processDouble (btn : Button) : Button × Option ButtonEvent :=
  let btn := { btn with timerCount := btn.timerCount + 1 }
  if BUTTON_DOUBLE_TIME ≤ btn.timerCount then
    ({ btn with buttonState := .noneTrigger, buttonLastState := .noneTrigger }, none)
  else (btn, none)

/-- `switch(btn->Button_State)`. -/
def processState (btn : Button) : Button × Option ButtonEvent :=
  match btn.buttonState with
  | .dowm => btn.processDowm
  | .up => btn.processUp
  | .double => btn.processDouble
  | _ => (btn, none)

/-- `Button_Cycle_Process`, with the level it reads: the button, and the event
whose callback it calls. -/
def cycleProcess (currentLevel : Bool) (btn : Button) : Button × Option ButtonEvent :=
  (btn.debounce currentLevel).processState

end Button

/-! ## one visit -/

/-- A button between two visits.  The trigger level is low; a release is
handled in the visit that sees it, so the button is never left in
`BUTTON_UP`. -/
structure Button.Settled (btn : Button) : Prop where
  trigger : btn.buttonTriggerLevel = false
  level : btn.buttonState = .dowm ↔ btn.buttonLastLevel = false
  state : btn.buttonState = .dowm ∨ btn.buttonState = .double ∨ btn.buttonState = .noneTrigger
  event : btn.buttonState = .dowm → btn.longFlag = 0 → btn.buttonTriggerEvent = .dowm
  flag : btn.longFlag ≠ 0 → btn.buttonState = .dowm

theorem settled_buttonCreate : (buttonCreate false).Settled where
  trigger := rfl
  level := by simp [buttonCreate]
  state := .inr (.inr rfl)
  event := by simp [buttonCreate]
  flag := by simp [buttonCreate]

/-- What a visit can do to a button: `btn` before, `btn'` after, and the
callback. -/
inductive Button.Visit (btn btn' : Button) : Option ButtonEvent → Prop
  | quiet (hlevel : btn'.buttonLastLevel = btn.buttonLastLevel)
      (hflag : btn'.longFlag = btn.longFlag) : Visit btn btn' none
  | press (hbefore : btn.buttonLastLevel = true) (hafter : btn'.buttonLastLevel = false)
      (hflag : btn'.longFlag = 0) : Visit btn btn' none
  | long (hafter : btn'.buttonLastLevel = false) (hflag : btn'.longFlag ≠ 0) :
      Visit btn btn' (some .long)
  | longFree (hbefore : btn.buttonLastLevel = false) (hafter : btn'.buttonLastLevel = true)
      (hflag : btn'.longFlag = 0) : Visit btn btn' (some .longFree)
  | click {event : ButtonEvent} (hevent : event = .dowm ∨ event = .double)
      (hbefore : btn.buttonLastLevel = false) (hshort : btn.longFlag = 0)
      (hafter : btn'.buttonLastLevel = true) (hflag : btn'.longFlag = 0) :
      Visit btn btn' (some event)

namespace Button

/-- A field that only counts time. -/
private theorem updateLongTime_fields (btn : Button) :
    btn.updateLongTime = { btn with longTime := btn.updateLongTime.longTime } := by
  unfold updateLongTime
  split <;> rfl

/-- A pressed button stays pressed; a long event sets its flag. -/
theorem processDowm_cases {btn : Button} (h : btn.buttonLastLevel = btn.buttonTriggerLevel) :
    let r := btn.processDowm
    (r.1.buttonState = btn.buttonState ∧ r.1.buttonLastLevel = btn.buttonLastLevel ∧
      r.1.buttonTriggerLevel = btn.buttonTriggerLevel) ∧
    (r.2 = none ∧ r.1.longFlag = btn.longFlag ∧ r.1.buttonTriggerEvent = .dowm ∨
      r.2 = some .long ∧ r.1.longFlag = 1) := by
  simp only [processDowm, h, ne_eq, not_true_eq_false, if_false]
  split
  · simp
  · split
    · rw [updateLongTime_fields]
      simp
    · rw [updateLongTime_fields]
      simp

/-- A pressed button after its visit. -/
theorem visit_pressed {btn btn' : Button} (htrigger : btn'.buttonTriggerLevel = false)
    (hstate : btn'.buttonState = .dowm) (hlevel : btn'.buttonLastLevel = false)
    (hflag : btn'.longFlag = btn.longFlag)
    (hbefore : btn.buttonLastLevel = false ∨ btn.longFlag = 0) :
    btn'.processDowm.1.Settled ∧ Visit btn btn'.processDowm.1 btn'.processDowm.2 := by
  obtain ⟨⟨hstate', hlevel', htrigger'⟩, hevent⟩ :=
    processDowm_cases (hlevel.trans htrigger.symm)
  rw [hstate] at hstate'
  rw [hlevel] at hlevel'
  rw [htrigger] at htrigger'
  obtain ⟨hnone, hflag', hdowm⟩ | ⟨hlong, hflag'⟩ := hevent
  · refine ⟨⟨htrigger', by simp [hstate', hlevel'], .inl hstate', fun _ _ => hdowm,
      fun _ => hstate'⟩, ?_⟩
    rw [hnone]
    cases hlast : btn.buttonLastLevel with
    | false => exact .quiet (hlevel'.trans hlast.symm) (hflag'.trans hflag)
    | true =>
        have hshort : btn.longFlag = 0 := by simpa [hlast] using hbefore
        exact .press hlast hlevel' (by rw [hflag', hflag, hshort])
  · refine ⟨⟨htrigger', by simp [hstate', hlevel'], .inl hstate', ?_, fun _ => hstate'⟩, ?_⟩
    · intro _ hzero
      rw [hflag'] at hzero
      exact absurd hzero (by decide)
    · rw [hlong]
      exact .long hlevel' (by rw [hflag']; decide)

/-- A released button after its visit. -/
theorem visit_released {btn btn' : Button} (htrigger : btn'.buttonTriggerLevel = false)
    (hlevel : btn'.buttonLastLevel = true) (hflag : btn'.longFlag = btn.longFlag)
    (hevent : btn'.longFlag = 0 → btn'.buttonTriggerEvent = .dowm)
    (hbefore : btn.buttonLastLevel = false) :
    btn'.processUp.1.Settled ∧ Visit btn btn'.processUp.1 btn'.processUp.2 := by
  unfold processUp
  by_cases hlong : btn'.longFlag ≠ 0
  · rw [if_pos hlong]
    exact ⟨⟨htrigger, by simp [hlevel], .inr (.inr rfl), by simp, fun h => absurd rfl h⟩,
      .longFree hbefore hlevel rfl⟩
  · have hshort : btn'.longFlag = 0 := not_not.mp hlong
    rw [if_neg hlong, if_pos (hevent hshort)]
    split
    · exact ⟨⟨htrigger, by simp [hlevel], .inr (.inr rfl), by simp, fun h => absurd hshort h⟩,
        .click (.inr rfl) hbefore (hflag ▸ hshort) hlevel hshort⟩
    · exact ⟨⟨htrigger, by simp [hlevel], .inr (.inl rfl), by simp, fun h => absurd hshort h⟩,
        .click (.inl rfl) hbefore (hflag ▸ hshort) hlevel hshort⟩

/-- A button whose level has not changed. -/
theorem visit_steady {btn btn' : Button} (h : btn'.Settled)
    (hlevel : btn'.buttonLastLevel = btn.buttonLastLevel) (hflag : btn'.longFlag = btn.longFlag) :
    btn'.processState.1.Settled ∧ Visit btn btn'.processState.1 btn'.processState.2 := by
  rcases h.state with hstate | hstate | hstate
  · have hdowm := h.level.mp hstate
    simp only [processState, hstate]
    exact visit_pressed h.trigger hstate hdowm hflag (.inl (hlevel ▸ hdowm))
  · have hnot : ¬btn'.longFlag ≠ 0 := fun hlong => by
      rw [h.flag hlong] at hstate
      cases hstate
    have hup : btn'.buttonLastLevel ≠ false := fun hlow => by
      rw [h.level.mpr hlow] at hstate
      cases hstate
    simp only [processState, hstate, processDouble]
    split
    · exact ⟨⟨h.trigger, by simpa using hup, .inr (.inr rfl), by simp, fun hl => absurd hl hnot⟩,
        .quiet hlevel hflag⟩
    · exact ⟨⟨h.trigger, by simpa using hup, .inr (.inl rfl), by simp, fun hl => absurd hl hnot⟩,
        .quiet hlevel hflag⟩
  · simp only [processState, hstate]
    exact ⟨h, .quiet hlevel hflag⟩

/-- **A visit to a button** leaves it settled and does one of five things. -/
theorem Settled.visit {btn : Button} (h : btn.Settled) (level : Bool) :
    (btn.cycleProcess level).1.Settled ∧
      Visit btn (btn.cycleProcess level).1 (btn.cycleProcess level).2 := by
  have hshort : btn.buttonLastLevel = true → btn.longFlag = 0 := by
    intro hhigh
    by_contra hlong
    rw [h.level.mp (h.flag hlong)] at hhigh
    cases hhigh
  unfold cycleProcess debounce
  split
  · exact visit_steady h rfl rfl
  · rename_i hne
    split
    · exact visit_steady ⟨h.trigger, h.level, h.state, h.event, h.flag⟩ rfl rfl
    · cases hlast : btn.buttonLastLevel with
      | false =>
          have hlevel : level = true := by simpa [hlast] using hne
          have hstate := h.level.mpr hlast
          simp only [processState, hstate]
          exact visit_released h.trigger hlevel rfl (h.event hstate) hlast
      | true =>
          have hlevel : level = false := by simpa [hlast] using hne
          have hstate : btn.buttonState = .double ∨ btn.buttonState = .noneTrigger := by
            refine h.state.resolve_left fun hdowm => ?_
            rw [h.level.mp hdowm] at hlast
            cases hlast
          rcases hstate with hstate | hstate <;>
            · simp only [processState, hstate]
              exact visit_pressed h.trigger rfl hlevel rfl (.inr (hshort hlast))

end Button

/-! ## the callbacks -/

/-- The two keys. -/
inductive Key
  | k0
  | k1
deriving DecidableEq, Repr

/-- What the button task owns: the two buttons, the globals of `device.c`, and
which button `Button_Process` visits next.  `released` lists the
`rt_sem_release` calls of the callbacks, the latest first. -/
structure ButtonTask where
  key0 : Button
  key1 : Button
  next : Key
  k0LongSemCounter : UInt16
  k1LongSemCounter : UInt16
  k0OnceFlag : UInt8
  k1OnceFlag : UInt8
  k0K1OnceFlag : UInt8
  keyPauseFlag : Bool
  released : List KeyEvent
deriving DecidableEq, Repr

namespace ButtonTask

def button (s : ButtonTask) : Key → Button
  | .k0 => s.key0
  | .k1 => s.key1

def setButton (k : Key) (btn : Button) (s : ButtonTask) : ButtonTask :=
  { s with
    key0 := if k = .k0 then btn else s.key0
    key1 := if k = .k1 then btn else s.key1 }

/-- `rt_sem_release`. -/
def release (e : KeyEvent) (s : ButtonTask) : ButtonTask :=
  { s with released := e :: s.released }

/-- `K0_Sem_Release`. -/
def k0SemRelease (s : ButtonTask) : ButtonTask := s.release .k0

/-- `K1_Sem_Release`. -/
def k1SemRelease (s : ButtonTask) : ButtonTask := s.release .k1

/-- `K0_LongSem_Release`. -/
def k0LongSemRelease (s : ButtonTask) : ButtonTask :=
  if s.k0OnceFlag = 0 then
    if 6 < s.k0LongSemCounter then
      if s.k1LongSemCounter = 0 then { s with k0OnceFlag := 1 }.release .k0Long else s
    else { s with k0LongSemCounter := s.k0LongSemCounter + 1 }
  else s

/-- `K1_LongSem_Release`. -/
def k1LongSemRelease (s : ButtonTask) : ButtonTask :=
  if s.k1OnceFlag = 0 then
    if 6 < s.k1LongSemCounter then
      let s := { s with k1OnceFlag := 1 }
      if 5 < s.k0LongSemCounter then s.release .k0k1 else s.release .k1Long
    else { s with k1LongSemCounter := s.k1LongSemCounter + 1 }
  else s

/-- `K0_LongFree_Release`. -/
def k0LongFreeRelease (s : ButtonTask) : ButtonTask :=
  { s with k0OnceFlag := 0, k0K1OnceFlag := 0, k0LongSemCounter := 0 }

/-- `K1_LongFree_Release`. -/
def k1LongFreeRelease (s : ButtonTask) : ButtonTask :=
  { s with k1OnceFlag := 0, k1LongSemCounter := 0 }

/-- `TRIGGER_CB`, with the callbacks `button_task_entry` attaches. -/
def callback (k : Key) (event : ButtonEvent) (s : ButtonTask) : ButtonTask :=
  match k, event with
  | .k0, .dowm => s.k0SemRelease
  | .k1, .dowm => s.k1SemRelease
  | .k0, .long => s.k0LongSemRelease
  | .k1, .long => s.k1LongSemRelease
  | .k0, .longFree => s.k0LongFreeRelease
  | .k1, .longFree => s.k1LongFreeRelease
  | _, _ => s

/-- `Read_K0_Level`, `Read_K1_Level`: a pin of a paused key reads high. -/
def readLevel (pin : Bool) (s : ButtonTask) : Bool := s.keyPauseFlag || pin

/-- What the visit to the next button does to it. -/
def visit (pin : Bool) (s : ButtonTask) : Button × Option ButtonEvent :=
  (s.button s.next).cycleProcess (s.readLevel pin)

/-- The button task after `Button_Create` and `Button_Attach`. -/
def start : ButtonTask where
  key0 := buttonCreate false
  key1 := buttonCreate false
  next := .k1
  k0LongSemCounter := 0
  k1LongSemCounter := 0
  k0OnceFlag := 0
  k1OnceFlag := 0
  k0K1OnceFlag := 0
  keyPauseFlag := false
  released := []

end ButtonTask

/-- A visit to the next button, whose pin has the level `pin`, or a write to
`Key_Pause_Flag` by another thread. -/
inductive ButtonAction
  | process (pin : Bool)
  | pause (flag : Bool)
deriving DecidableEq, Repr

/-- `Key1` was created last, so it is the head of the list. -/
def Key.other : Key → Key
  | k0 => k1
  | k1 => k0

def ButtonTask.step (s : ButtonTask) : ButtonAction → ButtonTask
  | .process pin =>
    let (btn, event) := s.visit pin
    let s' := { s.setButton s.next btn with next := s.next.other }
    match event with
    | some event => s'.callback s.next event
    | none => s'
  | .pause flag => { s with keyPauseFlag := flag }

/-- The button task. -/
def buttonMachine : Machine ButtonTask ButtonAction where
  init := (· = .start)
  step := fun s a => some (s.step a)

/-! ## the press of a key -/

/-- The debounced level of the key is pressed. -/
def ButtonTask.pressed (s : ButtonTask) (k : Key) : Prop :=
  (s.button k).buttonLastLevel = (s.button k).buttonTriggerLevel

/-- The history of the current press of each key: its long events, and the
tokens on `K1_Long_Sem` and `K0_K1_Long_Sem` during the press of `K1`. -/
structure PressLog where
  longs0 : Nat
  longs1 : Nat
  tokens : Nat
deriving DecidableEq, Repr

def PressLog.longs (log : PressLog) : Key → Nat
  | .k0 => log.longs0
  | .k1 => log.longs1

def PressLog.setLongs (k : Key) (n : Nat) (log : PressLog) : PressLog :=
  { log with
    longs0 := if k = .k0 then n else log.longs0
    longs1 := if k = .k1 then n else log.longs1 }

theorem PressLog.longs_setLongs (k : Key) (n : Nat) (log : PressLog) :
    (log.setLongs k n).longs = Function.update log.longs k n := by
  funext k'
  cases k <;> cases k' <;> simp [PressLog.setLongs, PressLog.longs]

/-- The tokens that a press of `K1` can produce. -/
def ButtonTask.k1Tokens (s : ButtonTask) : Nat :=
  s.released.count .k1Long + s.released.count .k0k1

/-- The log starts afresh where the debounced level changes. -/
def PressLog.observe (s : ButtonTask) (log : PressLog) (a : ButtonAction) (s' : ButtonTask) :
    PressLog :=
  match a with
  | .pause _ => log
  | .process pin =>
    let fresh := (s.button s.next).buttonLastLevel ≠ (s'.button s.next).buttonLastLevel
    let longs := if fresh then 0 else log.longs s.next
    let long := if (s.visit pin).2 = some .long then 1 else 0
    let tokens := if s.next = .k1 ∧ fresh then 0 else log.tokens
    { log with tokens := tokens + (s'.k1Tokens - s.k1Tokens) }.setLongs s.next (longs + long)

/-- The button task with its log. -/
def buttonHistory : Machine (ButtonTask × PressLog) ButtonAction :=
  buttonMachine.observed (fun _ => ⟨0, 0, 0⟩) PressLog.observe

/-! ## the callbacks, one by one -/

namespace ButtonTask

/-- A long event of `K0` counts up to seven. -/
theorem k0LongSemRelease_cases (s : ButtonTask) :
    ∃ counter flag released, s.k0LongSemRelease =
        { s with k0LongSemCounter := counter, k0OnceFlag := flag, released := released } ∧
      (counter = s.k0LongSemCounter ∨
        s.k0LongSemCounter ≤ 6 ∧ counter = s.k0LongSemCounter + 1) ∧
      released.count .k1Long = s.released.count .k1Long ∧
      released.count .k0k1 = s.released.count .k0k1 := by
  unfold k0LongSemRelease
  split
  · split
    · split
      · exact ⟨_, _, _, rfl, .inl rfl, rfl, rfl⟩
      · exact ⟨_, _, _, rfl, .inl rfl, rfl, rfl⟩
    · rename_i hle
      exact ⟨_, _, _, rfl, .inr ⟨by simpa using hle, rfl⟩, rfl, rfl⟩
  · exact ⟨_, _, _, rfl, .inl rfl, rfl, rfl⟩

/-- A long event of `K1` counts up to seven, and the eighth releases the one
token of the press. -/
theorem k1LongSemRelease_cases (s : ButtonTask) :
    ∃ counter flag released, s.k1LongSemRelease =
        { s with k1LongSemCounter := counter, k1OnceFlag := flag, released := released } ∧
      (s.k1OnceFlag ≠ 0 ∧ counter = s.k1LongSemCounter ∧ flag = s.k1OnceFlag ∧
          released = s.released ∨
        s.k1OnceFlag = 0 ∧ s.k1LongSemCounter ≤ 6 ∧ counter = s.k1LongSemCounter + 1 ∧
          flag = 0 ∧ released = s.released ∨
        s.k1OnceFlag = 0 ∧ 6 < s.k1LongSemCounter ∧ counter = s.k1LongSemCounter ∧ flag = 1 ∧
          released.count .k1Long + released.count .k0k1 = s.k1Tokens + 1 ∧
          (released.count .k0k1 ≠ s.released.count .k0k1 → 5 < s.k0LongSemCounter)) := by
  unfold k1LongSemRelease
  split
  · rename_i honce
    split
    · rename_i hcount
      by_cases hboth : 5 < s.k0LongSemCounter
      · refine ⟨_, _, _, by simp only [if_pos hboth]; rfl, .inr (.inr ⟨honce, hcount, rfl, rfl, ?_,
          fun _ => hboth⟩)⟩
        simp [k1Tokens]
        omega
      · refine ⟨s.k1LongSemCounter, 1, .k1Long :: s.released,
          by simp only [if_neg hboth]; rfl, .inr (.inr ⟨honce, hcount, rfl, rfl, ?_,
          fun hne => absurd (by simp) hne⟩)⟩
        simp [k1Tokens]
        omega
    · rename_i hle
      exact ⟨_, _, _, rfl, .inr (.inl ⟨honce, by simpa using hle, rfl, honce, rfl⟩)⟩
  · rename_i honce
    exact ⟨_, _, _, rfl, .inl ⟨honce, rfl, rfl, rfl⟩⟩

end ButtonTask

/-! ## the counters count the current press -/

/-- **The invariant of the button task.** -/
structure PressInv (s : ButtonTask) (log : PressLog) : Prop where
  settled : ∀ k, (s.button k).Settled
  flag : ∀ k, (s.button k).longFlag = 0 ↔ log.longs k = 0
  k0 : s.k0LongSemCounter.toNat ≤ log.longs .k0
  k0_le : s.k0LongSemCounter ≤ 7
  k1 : s.k1LongSemCounter.toNat ≤ log.longs .k1
  k1_le : s.k1LongSemCounter ≤ 7
  quiet : s.k1OnceFlag = 0 → log.tokens = 0
  once : s.k1OnceFlag ≠ 0 → log.longs .k1 ≠ 0
  tokens : log.tokens ≤ 1

/-- Long events belong to a press. -/
theorem PressInv.pressed {s : ButtonTask} {log : PressLog} (h : PressInv s log) {k : Key}
    (hlong : log.longs k ≠ 0) : s.pressed k := by
  have hflag : (s.button k).longFlag ≠ 0 := fun hzero => hlong ((h.flag k).mp hzero)
  have hset := h.settled k
  rw [ButtonTask.pressed, hset.level.mp (hset.flag hflag), hset.trigger]

theorem pressInv_start : PressInv .start ⟨0, 0, 0⟩ where
  settled k := by cases k <;> exact settled_buttonCreate
  flag k := by cases k <;> exact ⟨fun _ => rfl, fun _ => rfl⟩
  k0 := Nat.le_refl 0
  k0_le := by decide
  k1 := Nat.le_refl 0
  k1_le := by decide
  quiet _ := rfl
  once h := absurd rfl h
  tokens := Nat.zero_le 1

theorem callback_button (s : ButtonTask) (k : Key) (event : ButtonEvent) :
    (s.callback k event).button = s.button := by
  unfold ButtonTask.callback
  split
  · rfl
  · rfl
  · obtain ⟨_, _, _, heq, -⟩ := s.k0LongSemRelease_cases
    rw [heq]
    rfl
  · obtain ⟨_, _, _, heq, -⟩ := s.k1LongSemRelease_cases
    rw [heq]
    rfl
  · rfl
  · rfl
  · rfl

/-- The button task after the visit, before the callback. -/
def ButtonTask.visited (s : ButtonTask) (pin : Bool) : ButtonTask :=
  { s.setButton s.next (s.visit pin).1 with next := s.next.other }

theorem step_process (s : ButtonTask) (pin : Bool) :
    s.step (.process pin) =
      match (s.visit pin).2 with
      | some event => (s.visited pin).callback s.next event
      | none => s.visited pin := rfl

theorem visited_button (s : ButtonTask) (pin : Bool) :
    (s.visited pin).button = Function.update s.button s.next (s.visit pin).1 := by
  funext k
  cases k <;> cases hk : s.next <;>
    simp [ButtonTask.visited, ButtonTask.setButton, ButtonTask.button, hk]

theorem step_process_button (s : ButtonTask) (pin : Bool) :
    (s.step (.process pin)).button = Function.update s.button s.next (s.visit pin).1 := by
  rw [step_process]
  split
  · rw [callback_button, visited_button]
  · rw [visited_button]

section

variable {s : ButtonTask} {log : PressLog} {pin : Bool}

theorem PressInv.visit (h : PressInv s log) (pin : Bool) :
    (s.visit pin).1.Settled ∧ Button.Visit (s.button s.next) (s.visit pin).1 (s.visit pin).2 :=
  (h.settled s.next).visit (s.readLevel pin)

/-- A key that was not pressed has no long events. -/
theorem PressInv.longs_eq_zero (h : PressInv s log) {k : Key}
    (hlevel : (s.button k).buttonLastLevel = true) : log.longs k = 0 := by
  by_contra hlong
  have hpressed := h.pressed hlong
  rw [ButtonTask.pressed, hlevel, (h.settled k).trigger] at hpressed
  cases hpressed

/-- The long events after a visit. -/
theorem PressInv.longs_process (h : PressInv s log) (pin : Bool) :
    (log.observe s (.process pin) (s.step (.process pin))).longs =
      Function.update log.longs s.next
        (if (s.visit pin).2 = some .long then log.longs s.next + 1
          else if (s.button s.next).buttonLastLevel = (s.visit pin).1.buttonLastLevel then
            log.longs s.next
          else 0) := by
  rw [PressLog.observe, PressLog.longs_setLongs]
  simp only [step_process_button, Function.update_self]
  congr 1
  by_cases hlong : (s.visit pin).2 = some .long
  · by_cases hlevel : (s.button s.next).buttonLastLevel = (s.visit pin).1.buttonLastLevel
    · simp [hlong, hlevel]
    · obtain ⟨-, hvisit⟩ := h.visit pin
      rw [hlong] at hvisit
      have hafter : (s.visit pin).1.buttonLastLevel = false := by
        cases hvisit with
        | long hafter _ => exact hafter
        | click hevent _ _ _ _ => simp at hevent
      have hbefore : (s.button s.next).buttonLastLevel = true := by
        rw [hafter] at hlevel
        simpa using hlevel
      simp [hlong, hlevel, h.longs_eq_zero hbefore]
  · by_cases hlevel : (s.button s.next).buttonLastLevel = (s.visit pin).1.buttonLastLevel
    · simp [hlong, hlevel]
    · simp [hlong, hlevel]

/-- The tokens after a visit. -/
theorem tokens_process (s : ButtonTask) (log : PressLog) (pin : Bool) :
    (log.observe s (.process pin) (s.step (.process pin))).tokens =
      (if s.next = .k1 ∧ (s.button s.next).buttonLastLevel ≠ (s.visit pin).1.buttonLastLevel then 0
        else log.tokens) + ((s.step (.process pin)).k1Tokens - s.k1Tokens) := by
  simp only [PressLog.observe, PressLog.setLongs, step_process_button, Function.update_self]

/-- The buttons after a visit. -/
theorem PressInv.buttons_process (h : PressInv s log) (pin : Bool) (k : Key) :
    ((s.step (.process pin)).button k).Settled ∧
      (((s.step (.process pin)).button k).longFlag = 0 ↔
        (log.observe s (.process pin) (s.step (.process pin))).longs k = 0) := by
  obtain ⟨hsettled, hvisit⟩ := h.visit pin
  rw [step_process_button, h.longs_process]
  by_cases hk : k = s.next
  · subst hk
    simp only [Function.update_self]
    refine ⟨hsettled, ?_⟩
    have hflag := h.flag s.next
    generalize s.visit pin = v at hvisit ⊢
    obtain ⟨btn, event⟩ := v
    simp only at hvisit ⊢
    cases hvisit with
    | quiet hlevel hsame => simpa [hlevel, hsame] using hflag
    | press hbefore hafter hzero => simp_all
    | long hafter hset => simpa using hset
    | longFree hbefore hafter hzero => simp_all
    | click hevent hbefore hshort hafter hzero =>
        rcases hevent with rfl | rfl <;> simp_all
  · simp only [Function.update_of_ne hk]
    exact ⟨h.settled k, h.flag k⟩

private theorem toNat_counter_succ {c : UInt16} (h : c ≤ 6) :
    (c + 1).toNat = c.toNat + 1 ∧ c + 1 ≤ 7 := by
  have h6 : c.toNat ≤ 6 := by simpa [UInt16.le_iff_toNat_le] using h
  have hsucc : (c + 1).toNat = c.toNat + 1 := by
    rw [UInt16.toNat_add]
    have : (1 : UInt16).toNat = 1 := rfl
    omega
  refine ⟨hsucc, ?_⟩
  rw [UInt16.le_iff_toNat_le, hsucc]
  have : (7 : UInt16).toNat = 7 := rfl
  omega

/-- While no token can have been produced, the press starts at none. -/
theorem PressInv.tokens_eq_zero (h : PressInv s log) (hzero : log.longs .k1 = 0) :
    log.tokens = 0 :=
  h.quiet (by_contra fun honce => h.once honce hzero)

/-- The log of the visited key, by the callback of the visit. -/
theorem PressInv.process_cases (h : PressInv s log) (pin : Bool) :
    let log' := log.observe s (.process pin) (s.step (.process pin))
    let tokens := (s.step (.process pin)).k1Tokens - s.k1Tokens
    ((s.visit pin).2 = none ∨ (s.visit pin).2 = some .dowm ∨ (s.visit pin).2 = some .double) ∧
        log'.longs s.next = log.longs s.next ∧ log'.tokens = log.tokens + tokens ∨
      (s.visit pin).2 = some .long ∧ log'.longs s.next = log.longs s.next + 1 ∧
        log'.tokens = log.tokens + tokens ∨
      (s.visit pin).2 = some .longFree ∧ log'.longs s.next = 0 ∧
        log'.tokens = (if s.next = .k1 then 0 else log.tokens) + tokens := by
  have hfresh : log.longs s.next = 0 →
      (if s.next = .k1 ∧ (s.button s.next).buttonLastLevel ≠ (s.visit pin).1.buttonLastLevel then 0
        else log.tokens) = log.tokens := by
    intro hzero
    split
    · rename_i hk1
      exact (h.tokens_eq_zero (hk1.1 ▸ hzero)).symm
    · rfl
  obtain ⟨-, hvisit⟩ := h.visit pin
  simp only [h.longs_process, tokens_process, Function.update_self]
  have hflag := h.flag s.next
  have hzero := h.longs_eq_zero (k := s.next)
  generalize s.visit pin = v at hvisit hfresh ⊢
  obtain ⟨btn, event⟩ := v
  simp only at hvisit hfresh ⊢
  cases hvisit with
  | quiet hlevel hsame => exact .inl ⟨.inl rfl, by simp [hlevel], by simp [hlevel]⟩
  | press hbefore hafter hset =>
      have hz := hzero hbefore
      exact .inl ⟨.inl rfl, by simp [hz], by rw [hfresh hz]⟩
  | long hafter hset =>
      refine .inr (.inl ⟨rfl, by simp, ?_⟩)
      by_cases hbefore : (s.button s.next).buttonLastLevel = true
      · rw [hfresh (hzero hbefore)]
      · have hsame : (s.button s.next).buttonLastLevel = btn.buttonLastLevel := by simp_all
        simp [hsame]
  | longFree hbefore hafter hset =>
      exact .inr (.inr ⟨rfl, by simp [hbefore, hafter], by simp [hbefore, hafter]⟩)
  | click hevent hbefore hshort hafter hset =>
      have hz := hflag.mp hshort
      refine .inl ⟨by simpa using hevent, ?_, by rw [hfresh hz]⟩
      rcases hevent with rfl | rfl <;> simp [hz]

/-- The callbacks of short presses touch neither counters nor these tokens. -/
theorem step_short (hev : (s.visit pin).2 = none ∨ (s.visit pin).2 = some .dowm ∨
    (s.visit pin).2 = some .double) :
    ∃ released, s.step (.process pin) = { s.visited pin with released } ∧
      released.count .k1Long = s.released.count .k1Long ∧
        released.count .k0k1 = s.released.count .k0k1 := by
  rw [step_process]
  rcases hev with hev | hev | hev <;> rw [hev]
  · exact ⟨_, rfl, rfl, rfl⟩
  · cases hk : s.next with
    | k0 => exact ⟨_, rfl, rfl, rfl⟩
    | k1 => exact ⟨_, rfl, rfl, rfl⟩
  · cases hk : s.next with
    | k0 => exact ⟨_, rfl, rfl, rfl⟩
    | k1 => exact ⟨_, rfl, rfl, rfl⟩

/-- **A visit to `K0`** touches nothing of `K1`, and the counter of `K0` keeps
to its long events. -/
theorem PressInv.process_k0 (h : PressInv s log) (hk : s.next = .k0) (pin : Bool) :
    let s' := s.step (.process pin)
    (s'.k1LongSemCounter = s.k1LongSemCounter ∧ s'.k1OnceFlag = s.k1OnceFlag ∧
      s'.released.count .k1Long = s.released.count .k1Long ∧
      s'.released.count .k0k1 = s.released.count .k0k1) ∧
    s'.k0LongSemCounter.toNat ≤ (log.observe s (.process pin) s').longs .k0 ∧
    s'.k0LongSemCounter ≤ 7 := by
  have hcases := h.process_cases pin
  simp only [hk, reduceCtorEq, if_false] at hcases ⊢
  generalize (log.observe s (.process pin) (s.step (.process pin))).longs .k0 = n at hcases ⊢
  obtain ⟨hev, hn, -⟩ | ⟨hev, hn, -⟩ | ⟨hev, hn, -⟩ := hcases
  · obtain ⟨released, hstep, hlong, hboth⟩ := step_short hev
    rw [hstep, hn]
    exact ⟨⟨rfl, rfl, hlong, hboth⟩, h.k0, h.k0_le⟩
  · obtain ⟨counter, flag, released, heq, hcount, hlong, hboth⟩ :=
      (s.visited pin).k0LongSemRelease_cases
    have hstep : s.step (.process pin) = (s.visited pin).k0LongSemRelease := by
      rw [step_process, hev, hk]
      rfl
    rw [hstep, heq, hn]
    refine ⟨⟨rfl, rfl, hlong, hboth⟩, ?_⟩
    obtain rfl | ⟨hsix, rfl⟩ := hcount
    · exact ⟨Nat.le_succ_of_le h.k0, h.k0_le⟩
    · obtain ⟨hsucc, hseven⟩ := toNat_counter_succ hsix
      exact ⟨hsucc ▸ Nat.succ_le_succ h.k0, hseven⟩
  · have hstep : s.step (.process pin) = (s.visited pin).k0LongFreeRelease := by
      rw [step_process, hev, hk]
      rfl
    rw [hstep, hn]
    exact ⟨⟨rfl, rfl, rfl, rfl⟩, Nat.le_refl 0, by simp [ButtonTask.k0LongFreeRelease]⟩

/-- **A visit to `K1`** touches nothing of `K0`.  Its eighth long event, and
nothing else, releases the token of the press. -/
theorem PressInv.process_k1 (h : PressInv s log) (hk : s.next = .k1) (pin : Bool) :
    let s' := s.step (.process pin)
    let log' := log.observe s (.process pin) s'
    s'.k0LongSemCounter = s.k0LongSemCounter ∧
    (s'.k1LongSemCounter.toNat ≤ log'.longs .k1 ∧ s'.k1LongSemCounter ≤ 7) ∧
    ((s'.k1OnceFlag = 0 → log'.tokens = 0) ∧ (s'.k1OnceFlag ≠ 0 → log'.longs .k1 ≠ 0) ∧
      log'.tokens ≤ 1) ∧
    (s'.released.count .k0k1 ≠ s.released.count .k0k1 →
      5 < s.k0LongSemCounter ∧ 8 ≤ log'.longs .k1) := by
  have hcases := h.process_cases pin
  simp only [hk, if_true] at hcases ⊢
  generalize log.observe s (.process pin) (s.step (.process pin)) = log' at hcases ⊢
  obtain ⟨hev, hn, ht⟩ | ⟨hev, hn, ht⟩ | ⟨hev, hn, ht⟩ := hcases
  · obtain ⟨released, hstep, hlong, hboth⟩ := step_short hev
    have hsame : (s.step (.process pin)).k1Tokens = s.k1Tokens := by
      simp only [hstep, ButtonTask.k1Tokens, hlong, hboth]
    rw [hsame, Nat.sub_self, Nat.add_zero] at ht
    rw [hstep, hn, ht]
    exact ⟨rfl, ⟨h.k1, h.k1_le⟩, ⟨h.quiet, h.once, h.tokens⟩, fun hne => absurd hboth hne⟩
  · obtain ⟨counter, flag, released, heq, hcount⟩ := (s.visited pin).k1LongSemRelease_cases
    have hstep : s.step (.process pin) = (s.visited pin).k1LongSemRelease := by
      rw [step_process, hev, hk]
      rfl
    have htokens : log'.tokens = log.tokens +
        (released.count .k1Long + released.count .k0k1 - s.k1Tokens) := by
      rw [ht, hstep, heq]
      rfl
    rw [hstep, heq, hn, htokens]
    refine ⟨rfl, ?_⟩
    obtain ⟨honce, rfl, rfl, rfl⟩ | ⟨honce, hsix, rfl, rfl, rfl⟩ |
      ⟨honce, hsix, rfl, rfl, hone, hfive⟩ := hcount
    · have hsame : log.tokens + (s.k1Tokens - s.k1Tokens) = log.tokens := by omega
      exact ⟨⟨Nat.le_succ_of_le h.k1, h.k1_le⟩, ⟨fun hzero => absurd hzero honce,
        fun _ => Nat.succ_ne_zero _, Nat.le_trans (Nat.le_of_eq hsame) h.tokens⟩,
        fun hne => absurd rfl hne⟩
    · have hsame : log.tokens + (s.k1Tokens - s.k1Tokens) = log.tokens := by omega
      obtain ⟨hsucc, hseven⟩ := toNat_counter_succ hsix
      exact ⟨⟨hsucc ▸ Nat.succ_le_succ h.k1, hseven⟩, ⟨fun _ => hsame.trans (h.quiet honce),
        fun hne => absurd rfl hne, Nat.le_trans (Nat.le_of_eq hsame) h.tokens⟩,
        fun hne => absurd rfl hne⟩
    · have hone' : log.tokens +
        (released.count .k1Long + released.count .k0k1 - s.k1Tokens) = 1 := by
        have hvisited : (s.visited pin).k1Tokens = s.k1Tokens := rfl
        rw [h.quiet honce, hone, hvisited]
        omega
      have hseven : 7 ≤ log.longs .k1 := by
        have hlt := UInt16.lt_iff_toNat_lt.mp hsix
        have hsix' : (6 : UInt16).toNat = 6 := rfl
        have hlong : (s.visited pin).k1LongSemCounter.toNat ≤ log.longs .k1 := h.k1
        omega
      exact ⟨⟨Nat.le_succ_of_le h.k1, h.k1_le⟩, ⟨fun hzero => absurd hzero (by simp),
        fun _ => Nat.succ_ne_zero _, Nat.le_of_eq hone'⟩,
        fun hne => ⟨hfive hne, Nat.succ_le_succ hseven⟩⟩
  · have hstep : s.step (.process pin) = (s.visited pin).k1LongFreeRelease := by
      rw [step_process, hev, hk]
      rfl
    have hsame : (s.step (.process pin)).k1Tokens = s.k1Tokens := by rw [hstep]; rfl
    rw [hsame, Nat.sub_self, Nat.add_zero] at ht
    rw [hstep, hn, ht]
    exact ⟨rfl, ⟨Nat.le_refl 0, by simp [ButtonTask.k1LongFreeRelease]⟩, ⟨fun _ => rfl,
      fun hne => absurd rfl hne, Nat.zero_le 1⟩, fun hne => absurd rfl hne⟩

/-- **Every step keeps the invariant.** -/
theorem PressInv.step (h : PressInv s log) (a : ButtonAction) :
    PressInv (s.step a) (log.observe s a (s.step a)) := by
  cases a with
  | pause flag => exact ⟨h.settled, h.flag, h.k0, h.k0_le, h.k1, h.k1_le, h.quiet, h.once, h.tokens⟩
  | process pin =>
      have hbuttons := h.buttons_process pin
      have hlongs := h.longs_process pin
      have htokens := tokens_process s log pin
      cases hk : s.next with
      | k0 =>
          obtain ⟨⟨hcount, honce, hlong, hboth⟩, hk0, hk0_le⟩ := h.process_k0 hk pin
          have hlongs1 : (log.observe s (.process pin) (s.step (.process pin))).longs .k1 =
              log.longs .k1 := by
            rw [hlongs, hk, Function.update_of_ne (by decide)]
          have htokens1 : (log.observe s (.process pin) (s.step (.process pin))).tokens =
              log.tokens := by
            rw [htokens, hk, ButtonTask.k1Tokens, ButtonTask.k1Tokens, hlong, hboth]
            simp
          refine ⟨fun k => (hbuttons k).1, fun k => (hbuttons k).2, hk0, hk0_le, ?_, ?_, ?_, ?_, ?_⟩
          · rw [hcount, hlongs1]; exact h.k1
          · rw [hcount]; exact h.k1_le
          · rw [honce, htokens1]; exact h.quiet
          · rw [honce, hlongs1]; exact h.once
          · rw [htokens1]; exact h.tokens
      | k1 =>
          obtain ⟨hcount, ⟨hk1, hk1_le⟩, ⟨hquiet, honce, hone⟩, -⟩ := h.process_k1 hk pin
          have hlongs0 : (log.observe s (.process pin) (s.step (.process pin))).longs .k0 =
              log.longs .k0 := by
            rw [hlongs, hk, Function.update_of_ne (by decide)]
          refine ⟨fun k => (hbuttons k).1, fun k => (hbuttons k).2, ?_, ?_, hk1, hk1_le, hquiet,
            honce, hone⟩
          · rw [hcount, hlongs0]; exact h.k0
          · rw [hcount]; exact h.k0_le

end

/-- The invariant holds in every state reached. -/
theorem pressInv_reachable {p : ButtonTask × PressLog} (h : buttonHistory.Reachable p) :
    PressInv p.1 p.2 := by
  refine Machine.ReachableVia.invariant (I := fun p => PressInv p.1 p.2) h ?_ ?_
  · rintro ⟨s, log⟩ ⟨hs, hlog⟩
    simp only [buttonMachine] at hs hlog
    rw [hs, hlog]
    exact pressInv_start
  · intro p a p' ih _ hs
    obtain ⟨hstep, hlog⟩ := Machine.observed_step_eq_some.mp hs
    simp only [buttonMachine, Option.some.injEq] at hstep
    rw [hlog, ← hstep]
    exact ih.step a

/-- **Factory deletion needs both keys**: `K0_K1_Long_Sem` is released only
while the debounced levels of both keys are pressed, and `K1` has then had at
least eight and `K0` at least six long events in its present press.  A press
of `K1` releases at most one token on its two long semaphores. -/
theorem factory_deletion_needs_both_keys {s s' : ButtonTask} {log log' : PressLog}
    {a : ButtonAction} (h : buttonHistory.Reachable (s, log))
    (hs : buttonHistory.step (s, log) a = some (s', log')) :
    (s'.released.count .k0k1 ≠ s.released.count .k0k1 →
      s'.pressed .k0 ∧ s'.pressed .k1 ∧ 6 ≤ log'.longs .k0 ∧ 8 ≤ log'.longs .k1) ∧
    log'.tokens ≤ 1 := by
  have hinv := pressInv_reachable h
  have hinv' := pressInv_reachable (h.step hs)
  obtain ⟨hstep, hlog⟩ := Machine.observed_step_eq_some.mp hs
  simp only [buttonMachine, Option.some.injEq] at hstep hlog
  refine ⟨fun hreleased => ?_, hinv'.tokens⟩
  have hlongs : 6 ≤ log'.longs .k0 ∧ 8 ≤ log'.longs .k1 := by
    cases a with
    | pause flag => exact absurd (hstep ▸ rfl) hreleased
    | process pin =>
        rw [← hstep] at hreleased hlog
        cases hk : s.next with
        | k0 =>
            obtain ⟨⟨-, -, -, hboth⟩, -⟩ := hinv.process_k0 hk pin
            exact absurd hboth hreleased
        | k1 =>
            obtain ⟨hsame, -, -, hboth⟩ := hinv.process_k1 hk pin
            obtain ⟨hfive, height⟩ := hboth hreleased
            rw [hlog]
            refine ⟨?_, height⟩
            have hk0 := hinv'.k0
            simp only [hlog, ← hstep, hsame] at hk0
            have hlt := UInt16.lt_iff_toNat_lt.mp hfive
            have hfive' : (5 : UInt16).toNat = 5 := rfl
            simp only at hlt
            omega
  have hpressed : ∀ k, log'.longs k ≠ 0 → s'.pressed k := fun k hk => hinv'.pressed hk
  exact ⟨hpressed .k0 (by omega), hpressed .k1 (by omega), hlongs⟩

/-! ## both keys held -/

/-- A button held for a while. -/
def heldButton (longTime buttonCycle longFlag : UInt8) : Button :=
  { buttonCreate false with
    buttonState := .dowm
    buttonLastLevel := false
    buttonTriggerEvent := .dowm
    buttonCycle
    longTime
    longFlag }

/-- Both keys held until each has had `count` long events. -/
def heldKeys (longTime buttonCycle : UInt8) (count : Nat) : ButtonTask × PressLog :=
  let btn := heldButton longTime buttonCycle (if count = 0 then 0 else 1)
  ({ ButtonTask.start with
      key0 := btn
      key1 := btn
      k0LongSemCounter := UInt16.ofNat count
      k1LongSemCounter := UInt16.ofNat count },
    ⟨count, count, 0⟩)

/-- Every visit finds its pin low. -/
private def heldVisits (n : Nat) : List ButtonAction := List.replicate n (.process false)

theorem heldKeys_reachable : buttonHistory.Reachable (heldKeys 233 24 7) := by
  have h₁ : buttonHistory.runFrom (.start, ⟨0, 0, 0⟩) (heldVisits 200) =
      some (heldKeys 100 0 0) := by decide +kernel
  have h₂ : buttonHistory.runFrom (heldKeys 100 0 0) (heldVisits 200) =
      some (heldKeys 200 1 0) := by decide +kernel
  have h₃ : buttonHistory.runFrom (heldKeys 200 1 0) (heldVisits 200) =
      some (heldKeys 245 1 4) := by decide +kernel
  have h₄ : buttonHistory.runFrom (heldKeys 245 1 4) (heldVisits 196) =
      some (heldKeys 233 24 7) := by decide +kernel
  have hstart : buttonHistory.Reachable (.start, ⟨0, 0, 0⟩) := .init ⟨rfl, rfl⟩
  exact (((hstart.runFrom h₁).runFrom h₂).runFrom h₃).runFrom h₄

/-- The eighth long event of `K1`, after seven of `K0`. -/
theorem factory_deletion_eighth :
    ∃ p', buttonHistory.step (heldKeys 233 24 7) (.process false) = some p' ∧
      p'.1.released = [.k0k1] ∧ p'.1.pressed .k0 ∧ p'.1.pressed .k1 ∧ 6 ≤ p'.2.longs .k0 ∧
      8 ≤ p'.2.longs .k1 := by
  have hsome : (buttonHistory.step (heldKeys 233 24 7) (.process false)).map (·.1.released) =
      some [.k0k1] := by decide +kernel
  obtain ⟨p', hstep, hreleased⟩ := Option.map_eq_some_iff.mp hsome
  obtain ⟨hboth, -⟩ := factory_deletion_needs_both_keys heldKeys_reachable hstep
  have hnew : p'.1.released.count .k0k1 ≠ (heldKeys 233 24 7).1.released.count .k0k1 := by
    rw [hreleased]
    decide
  exact ⟨p', hstep, hreleased, hboth hnew⟩

end WaterValve
