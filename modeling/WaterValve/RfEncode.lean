import WaterValve.System

/-!
# WaterValve.RfEncode

`rf_encode_entry` between its waits, and the gateway it sends to, over a
channel that loses and delays frames.  Where `WaterValve.System` takes a round
of the transmit thread as one action, here each return of a wait is one, and
the frames under way belong to the state.

The gateway answers each received transmission that asks for it with one
command 7 frame.  Such a frame says nothing about what it answers, so the
states carry a history: the transmission each answer is for, and the one whose
answer completed `rf_ack_sem` (`acked_received`).
-/

namespace WaterValve

/-! ## the two parties -/

/-- The wait `rf_encode_entry` is in: for a message, for the end of transmission
`i` (the first one is 0, its repeats are 1 to 3), or in round `i` of the loop
for the answer. -/
inductive Waiting
  | mqRecv
  | txDone (i : Nat)
  | ack (i : Nat)
  deriving DecidableEq, Repr

/-- A transmission: the message and its number in the order in which the
messages are taken from the queue. -/
structure Sent where
  seq : Nat
  msg : RadioNormalFormat
  deriving DecidableEq, Repr

/-- The transmit thread, the channel and the gateway.  `frames` and `acks` are
under way, `received` has arrived at the gateway; an answer is the transmission
it is for.  `answered` is the one whose answer has completed `rf_ack_sem` since
its initialisation, and `alone` says that nothing of an earlier message that
asks for an answer was under way when the message was taken from the queue. -/
structure Link where
  rfEnMq : List RadioNormalFormat
  waiting : Waiting
  sendData : RadioNormalFormat
  rfAckSem : Bool
  rfTxdoneSem : Bool
  seq : Nat
  answered : Option Sent
  alone : Bool
  frames : List Sent
  acks : List Sent
  received : List Sent

namespace Link

variable {l l' : Link}

/-- The transmission of the message that is being sent. -/
def current (l : Link) : Sent := ⟨l.seq, l.sendData⟩

/-- Nothing that an answer can come from is under way. -/
def quiet (l : Link) : Bool := l.frames.all (·.msg.ack ≠ 1) && l.acks.isEmpty

/-- `rt_completion_init` on both completions, `SendPrepare` and `RF_Send`. -/
def rfSend (i : Nat) (l : Link) : Link :=
  { l with
    rfAckSem := false
    rfTxdoneSem := false
    answered := none
    frames := l.frames ++ [l.current]
    waiting := .txDone i }

/-- The start of `rf_encode_entry`, with what is queued already. -/
def start (rfEnMq : List RadioNormalFormat) : Link where
  rfEnMq := rfEnMq
  waiting := .mqRecv
  sendData := {}
  rfAckSem := false
  rfTxdoneSem := false
  seq := 0
  answered := none
  alone := true
  frames := []
  acks := []
  received := []

end Link

/-- What can happen: a message is queued, an interrupt, the return of a wait, or
the `n`-th frame or answer under way is lost or arrives. -/
inductive LinkAction
  | mqSend (msg : RadioNormalFormat)
  | mqUrgent (msg : RadioNormalFormat)
  | txDone
  | mqRecv
  | txWaited
  | acked
  | timeout
  | frameLost (n : Nat)
  | frameArrives (n : Nat)
  | ackLost (n : Nat)
  | ackArrives (n : Nat)
  deriving DecidableEq, Repr

/-- One action; `none` when it is not possible.  A wait for an answer that is
there returns `RT_EOK` (an answer after the time is up is cleared with the
completion, as if it had been lost). -/
def linkStep (l : Link) : LinkAction → Option Link
  | .mqSend msg =>
    some (if l.rfEnMq.length < rfEnMqSize then { l with rfEnMq := l.rfEnMq ++ [msg] } else l)
  | .mqUrgent msg =>
    some (if l.rfEnMq.length < rfEnMqSize then { l with rfEnMq := msg :: l.rfEnMq } else l)
  | .txDone => some { l with rfTxdoneSem := true }
  | .mqRecv =>
    match l.waiting, l.rfEnMq with
    | .mqRecv, msg :: rest =>
      some (Link.rfSend 0
        { l with rfEnMq := rest, sendData := msg, seq := l.seq + 1, alone := l.quiet })
    | _, _ => none
  | .txWaited =>
    match l.waiting with
    | .txDone i =>
      some { l with
        rfTxdoneSem := false
        waiting := if l.sendData.ack ≠ 0 ∧ i < 3 then .ack (i + 1) else .mqRecv }
    | _ => none
  | .acked =>
    match l.waiting with
    | .ack _ => if l.rfAckSem then some { l with rfAckSem := false, waiting := .mqRecv } else none
    | _ => none
  | .timeout =>
    match l.waiting with
    | .ack i => if l.rfAckSem then none else some (l.rfSend i)
    | _ => none
  | .frameLost n => l.frames[n]?.map fun _ => { l with frames := l.frames.eraseIdx n }
  | .frameArrives n => l.frames[n]?.map fun sent =>
    { l with
      frames := l.frames.eraseIdx n
      received := l.received ++ [sent]
      acks := if sent.msg.ack = 1 then l.acks ++ [sent] else l.acks }
  | .ackLost n => l.acks[n]?.map fun _ => { l with acks := l.acks.eraseIdx n }
  | .ackArrives n => l.acks[n]?.map fun sent =>
    { l with
      acks := l.acks.eraseIdx n
      rfAckSem := true
      answered := if l.rfAckSem then l.answered else some sent }

/-- The transmit thread and the gateway, from any queue on. -/
def linkMachine : Machine Link LinkAction where
  init := fun l => ∃ rfEnMq, l = .start rfEnMq
  step := linkStep

/-! ## what an answer says -/

namespace Link

/-- The transmission is one of the current message or of an earlier one. -/
def Known (l : Link) (sent : Sent) : Prop := sent = l.current ∨ sent.seq < l.seq

/-- Every answer is for a transmission that has been received, and a message
sent alone is answered for itself. -/
structure AckInv (l : Link) : Prop where
  frames : ∀ sent ∈ l.frames, l.Known sent
  received : ∀ sent ∈ l.received, l.Known sent
  acks : ∀ sent ∈ l.acks, sent ∈ l.received ∧ sent.msg.ack = 1
  answered : ∀ sent, l.answered = some sent → sent ∈ l.received ∧ sent.msg.ack = 1
  sem : l.rfAckSem = true → ∃ sent, l.answered = some sent
  frames_alone : l.alone = true → ∀ sent ∈ l.frames, sent.msg.ack = 1 → sent = l.current
  acks_alone : l.alone = true → ∀ sent ∈ l.acks, sent = l.current
  answered_alone : l.alone = true → ∀ sent, l.answered = some sent → sent = l.current

variable {l l' : Link}

theorem ackInv_start (rfEnMq : List RadioNormalFormat) : (start rfEnMq).AckInv := by
  constructor <;> simp [start]

/-- A transmission adds one frame, and forgets the answer. -/
theorem AckInv.rfSend (h : l.AckInv) (i : Nat) : (l.rfSend i).AckInv where
  frames := by
    intro sent hsent
    obtain hsent | hsent := List.mem_append.mp hsent
    · exact h.frames sent hsent
    · exact .inl (List.mem_singleton.mp hsent)
  received := h.received
  acks := h.acks
  answered := by
    intro sent hsent
    cases hsent
  sem := by
    intro hsem
    cases hsem
  frames_alone := by
    intro ha sent hsent hack
    obtain hsent | hsent := List.mem_append.mp hsent
    · exact h.frames_alone ha sent hsent hack
    · exact List.mem_singleton.mp hsent
  acks_alone := h.acks_alone
  answered_alone := by
    intro _ sent hsent
    cases hsent

/-- The next message makes every transmission so far an earlier one. -/
theorem AckInv.mqRecv (h : l.AckInv) (msg : RadioNormalFormat) (rest : List RadioNormalFormat) :
    AckInv { l with
      rfEnMq := rest
      sendData := msg
      seq := l.seq + 1
      alone := l.quiet
      rfAckSem := false
      answered := none } := by
  have hknown : ∀ {sent : Sent}, l.Known sent → sent.seq < l.seq + 1 := by
    rintro sent (rfl | hlt)
    · exact Nat.lt_succ_self _
    · exact Nat.lt_succ_of_lt hlt
  have hquiet : l.quiet = true → (∀ sent ∈ l.frames, sent.msg.ack ≠ 1) ∧ l.acks = [] := by
    simp [quiet]
  exact {
    frames := fun sent hsent => .inr (hknown (h.frames sent hsent))
    received := fun sent hsent => .inr (hknown (h.received sent hsent))
    acks := h.acks
    answered := by simp
    sem := by simp
    frames_alone := fun ha sent hsent hack => absurd hack ((hquiet ha).1 sent hsent)
    acks_alone := by
      intro ha sent hsent
      rw [(hquiet ha).2] at hsent
      exact absurd hsent List.not_mem_nil
    answered_alone := by simp }

/-- A frame arrives, and is answered when it asks for it. -/
theorem AckInv.frameArrives (h : l.AckInv) {n : Nat} {sent : Sent} (hn : l.frames[n]? = some sent) :
    AckInv { l with
      frames := l.frames.eraseIdx n
      received := l.received ++ [sent]
      acks := if sent.msg.ack = 1 then l.acks ++ [sent] else l.acks } := by
  have hmem : sent ∈ l.frames := List.mem_of_getElem? hn
  have hacks : ∀ t ∈ (if sent.msg.ack = 1 then l.acks ++ [sent] else l.acks),
      t ∈ l.acks ∨ t = sent ∧ sent.msg.ack = 1 := by
    intro t ht
    split at ht
    · rename_i hack
      simpa [hack] using ht
    · exact .inl ht
  exact {
    frames := fun t ht => h.frames t (List.mem_of_mem_eraseIdx ht)
    received := by
      intro t ht
      obtain ht | ht := List.mem_append.mp ht
      · exact h.received t ht
      · exact List.mem_singleton.mp ht ▸ h.frames sent hmem
    acks := by
      intro t ht
      obtain ht | ⟨rfl, hack⟩ := hacks t ht
      · exact ⟨List.mem_append_left _ (h.acks t ht).1, (h.acks t ht).2⟩
      · exact ⟨by simp, hack⟩
    answered := by
      intro t ht
      exact ⟨List.mem_append_left _ (h.answered t ht).1, (h.answered t ht).2⟩
    sem := h.sem
    frames_alone := fun ha t ht => h.frames_alone ha t (List.mem_of_mem_eraseIdx ht)
    acks_alone := by
      intro ha t ht
      obtain ht | ⟨rfl, hack⟩ := hacks t ht
      · exact h.acks_alone ha t ht
      · exact h.frames_alone ha t hmem hack
    answered_alone := h.answered_alone }

/-- An answer arrives: the first one since the initialisation completes
`rf_ack_sem`. -/
theorem AckInv.ackArrives (h : l.AckInv) {n : Nat} {sent : Sent} (hn : l.acks[n]? = some sent) :
    AckInv { l with
      acks := l.acks.eraseIdx n
      rfAckSem := true
      answered := if l.rfAckSem then l.answered else some sent } := by
  have hmem : sent ∈ l.acks := List.mem_of_getElem? hn
  have hanswered : ∀ t, (if l.rfAckSem then l.answered else some sent) = some t →
      l.answered = some t ∨ t = sent := by
    intro t ht
    split at ht
    · exact .inl ht
    · exact .inr (Option.some.inj ht).symm
  exact {
    frames := h.frames
    received := h.received
    acks := fun t ht => h.acks t (List.mem_of_mem_eraseIdx ht)
    answered := by
      intro t ht
      obtain ht | rfl := hanswered t ht
      · exact h.answered t ht
      · exact h.acks t hmem
    sem := by
      intro _
      dsimp only
      split
      · rename_i hsem
        exact h.sem hsem
      · exact ⟨sent, rfl⟩
    frames_alone := h.frames_alone
    acks_alone := fun ha t ht => h.acks_alone ha t (List.mem_of_mem_eraseIdx ht)
    answered_alone := by
      intro ha t ht
      obtain ht | rfl := hanswered t ht
      · exact h.answered_alone ha t ht
      · exact h.acks_alone ha t hmem }

/-- **An action keeps the answers true.** -/
theorem AckInv.step (h : l.AckInv) {a : LinkAction} (hs : linkStep l a = some l') : l'.AckInv := by
  cases a with
  | mqSend msg | mqUrgent msg =>
      simp only [linkStep, Option.some.injEq] at hs
      subst hs
      split <;> exact { h with }
  | txDone =>
      cases hs
      exact { h with }
  | mqRecv =>
      simp only [linkStep] at hs
      split at hs
      · cases hs
        exact (h.mqRecv _ _).rfSend 0
      · cases hs
  | txWaited =>
      simp only [linkStep] at hs
      split at hs
      · cases hs
        exact { h with }
      · cases hs
  | acked =>
      simp only [linkStep] at hs
      repeat' split at hs
      · cases hs
        exact { h with sem := by simp }
      · cases hs
      · cases hs
  | timeout =>
      simp only [linkStep] at hs
      repeat' split at hs
      · cases hs
      · cases hs
        exact h.rfSend _
      · cases hs
  | frameLost n =>
      obtain ⟨sent, -, rfl⟩ := Option.map_eq_some_iff.mp hs
      exact { h with
        frames := fun t ht => h.frames t (List.mem_of_mem_eraseIdx ht)
        frames_alone := fun ha t ht => h.frames_alone ha t (List.mem_of_mem_eraseIdx ht) }
  | frameArrives n =>
      obtain ⟨sent, hn, rfl⟩ := Option.map_eq_some_iff.mp hs
      exact h.frameArrives hn
  | ackLost n =>
      obtain ⟨sent, -, rfl⟩ := Option.map_eq_some_iff.mp hs
      exact { h with
        acks := fun t ht => h.acks t (List.mem_of_mem_eraseIdx ht)
        acks_alone := fun ha t ht => h.acks_alone ha t (List.mem_of_mem_eraseIdx ht) }
  | ackArrives n =>
      obtain ⟨sent, hn, rfl⟩ := Option.map_eq_some_iff.mp hs
      exact h.ackArrives hn

end Link

theorem start_reachable_link (rfEnMq : List RadioNormalFormat) :
    linkMachine.Reachable (.start rfEnMq) := .init ⟨rfEnMq, rfl⟩

theorem linkMachine_ackInv {l : Link} (h : linkMachine.Reachable l) : l.AckInv := by
  refine Machine.ReachableVia.invariant (I := Link.AckInv) h ?_ fun l a l' hI _ hs => hI.step hs
  rintro l ⟨rfEnMq, rfl⟩
  exact Link.ackInv_start rfEnMq

/-- **An acknowledged upload was received, or an earlier one was**: when
`rf_ack_sem` ends the loop, the gateway has received the transmission whose
answer completed it, which is of this message or of an earlier one; it is of
this message when the message was sent alone. -/
theorem acked_received {l l' : Link} (h : linkMachine.Reachable l)
    (hs : linkStep l .acked = some l') :
    ∃ sent ∈ l.received, l.answered = some sent ∧ sent.msg.ack = 1 ∧
      (sent = l.current ∨ sent.seq < l.seq) ∧ (l.alone = true → sent = l.current) := by
  have hinv := linkMachine_ackInv h
  have hsem : l.rfAckSem = true := by
    simp only [linkStep] at hs
    repeat' split at hs
    · assumption
    · cases hs
    · cases hs
  obtain ⟨sent, hsent⟩ := hinv.sem hsem
  obtain ⟨hreceived, hack⟩ := hinv.answered sent hsent
  exact ⟨sent, hreceived, hsent, hack, hinv.received sent hreceived,
    fun ha => hinv.answered_alone ha sent hsent⟩

/-- The report that the valve was closed, and that a probe got wet. -/
def closeReport : RadioNormalFormat := { ack := 1, type := 3, command := 1 }

def waterReport : RadioNormalFormat := { ack := 1, type := 2, command := 1, data := 1 }

/-- A report is received and its answer arrives. -/
theorem acked_received_closeReport : ∃ l l',
    linkMachine.runFrom (.start [closeReport])
      [.mqRecv, .frameArrives 0, .txWaited, .ackArrives 0] = some l ∧
    linkStep l .acked = some l' ∧ l.alone = true ∧
    ∃ sent ∈ l.received, l.answered = some sent ∧ sent.msg.ack = 1 ∧
      (sent = l.current ∨ sent.seq < l.seq) ∧ (l.alone = true → sent = l.current) := by
  have hrun : ((linkMachine.runFrom (.start [closeReport])
      [.mqRecv, .frameArrives 0, .txWaited, .ackArrives 0]).bind fun l =>
        (linkStep l .acked).map fun _ => l.alone) = some true := by decide
  obtain ⟨l, hl, hrun⟩ := Option.bind_eq_some_iff.mp hrun
  obtain ⟨l', hl', halone⟩ := Option.map_eq_some_iff.mp hrun
  have hreach := (start_reachable_link _).runFrom hl
  exact ⟨l, l', hl, hl', halone, acked_received hreach hl'⟩

/-- The answer to a first transmission is late: the repeat is answered too, and
the second of the answers completes the wait for the next message, of which no
transmission has been received. -/
theorem not_acked_received_same : ∃ l l', linkMachine.Reachable l ∧
    linkStep l .acked = some l' ∧ l.sendData = waterReport ∧
    ∀ sent ∈ l.received, sent.msg ≠ waterReport := by
  have hrun : ((linkMachine.runFrom (.start [closeReport, waterReport])
      [.mqRecv, .frameArrives 0, .txWaited, .timeout, .frameArrives 0, .txWaited, .ackArrives 0,
        .acked, .mqRecv, .frameLost 0, .txWaited, .ackArrives 0]).bind fun l =>
        (linkStep l .acked).map fun _ =>
          (l.sendData, l.received.all (·.msg ≠ waterReport))) = some (waterReport, true) := by
    decide
  obtain ⟨l, hl, hrun⟩ := Option.bind_eq_some_iff.mp hrun
  obtain ⟨l', hl', hobs⟩ := Option.map_eq_some_iff.mp hrun
  simp only [Prod.mk.injEq] at hobs
  obtain ⟨hdata, hnone⟩ := hobs
  have hreach := (start_reachable_link _).runFrom hl
  exact ⟨l, l', hreach, hl', hdata, by simpa using hnone⟩

/-! ## the link in the firmware -/

/-- What an action of the link is for the firmware: an upload, a round of the
transmit thread, a command 7 frame, or nothing. -/
def unitStep (rom : UInt32) (s : State) : LinkAction → Option State
  | .mqSend msg => some (rtMqSend msg s)
  | .mqUrgent msg => some (rtMqUrgent msg s)
  | .mqRecv => step rom s .rfEncode
  | .ackArrives _ => some (gatewayCommand ⟨0, 0, 0, 0, 7, 0⟩ s)
  | _ => some s

/-- **The link refines the firmware**: the queue is the same after an action,
and so is `rf_ack_sem` where the firmware sets or clears it. -/
theorem linkStep_unitStep {rom : UInt32} {s : State} {l l' : Link} {a : LinkAction}
    (hmq : s.rfEnMq = l.rfEnMq) (hs : linkStep l a = some l') :
    ∃ s', unitStep rom s a = some s' ∧ s'.rfEnMq = l'.rfEnMq ∧
      (a = .mqRecv ∨ (∃ n, a = .ackArrives n) → s'.rfAckSem = l'.rfAckSem) := by
  cases a with
  | mqSend msg =>
      simp only [linkStep, Option.some.injEq] at hs
      subst hs
      refine ⟨_, rfl, ?_, by simp⟩
      unfold rtMqSend
      rw [hmq]
      split <;> simp [hmq]
  | mqUrgent msg =>
      simp only [linkStep, Option.some.injEq] at hs
      subst hs
      refine ⟨_, rfl, ?_, by simp⟩
      unfold rtMqUrgent
      rw [hmq]
      split <;> simp [hmq]
  | mqRecv =>
      simp only [linkStep] at hs
      split at hs
      · rename_i msg rest hwait hqueue
        cases hs
        rw [hqueue] at hmq
        exact ⟨_, if_neg (by simp [hmq]), by simp [hmq, Link.rfSend], fun _ => rfl⟩
      · cases hs
  | ackArrives n =>
      obtain ⟨sent, -, rfl⟩ := Option.map_eq_some_iff.mp hs
      exact ⟨_, rfl, hmq, fun _ => rfl⟩
  | txDone =>
      cases hs
      exact ⟨s, rfl, hmq, by simp⟩
  | txWaited | acked | timeout =>
      simp only [linkStep] at hs
      repeat' split at hs
      all_goals cases hs
      all_goals exact ⟨s, rfl, hmq, by simp⟩
  | frameLost n | frameArrives n | ackLost n =>
      obtain ⟨sent, -, rfl⟩ := Option.map_eq_some_iff.mp hs
      exact ⟨s, rfl, hmq, by simp⟩

end WaterValve
