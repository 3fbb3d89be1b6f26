import Mathlib.Data.Fintype.Card
import Mathlib.Data.List.FinRange
import WaterValve.Encoder
import WaterValve.Lib.Alarms
import WaterValve.Lib.Pool
import WaterValve.Lib.Machine

/-!
# WaterValve.MessageQueue

The kernel's message queue (`ipc.c`): a pool of blocks, of which the free ones
and the queued ones form a list each.  `rt_mq_send`, `rt_mq_urgent` and
`rt_mq_recv` disable interrupts twice and copy the message in between, so that
any number of threads and interrupts may be in them at once; each is a thread
here, and its steps interleave.

The main results are `mq_pool_intact`, that no block is lost or in two hands;
`mq_delivers`, that the queue is a list of messages to which senders add at
either end, and that a receiver gets what was first in it; `mq_no_lost_wakeup`,
that no receiver sleeps over a message; and `mq_simulates`, that the queue of
the firmware is such a queue.
-/

namespace WaterValve

/-! ## the queue -/

/-- `struct rt_messagequeue` with the blocks of its pool: of each the `next` of
its header, and the message behind it. -/
structure MessageQueue (ι α : Type*) where
  next : ι → Option ι
  message : ι → α
  msgQueueHead : Option ι
  msgQueueTail : Option ι
  msgQueueFree : Option ι
  entry : UInt16

/-- `RT_MQ_ENTRY_MAX`. -/
def mqEntryMax : UInt16 := 0xffff

namespace MessageQueue

variable {ι α : Type*} [DecidableEq ι]

/-- A block goes to the free list. -/
def putFree (b : ι) (mq : MessageQueue ι α) : MessageQueue ι α :=
  { mq with next := Function.update mq.next b mq.msgQueueFree, msgQueueFree := some b }

/-- `rt_mq_create`, in a pool that holds `message`. -/
def create (maxMsgs : Nat) (message : Fin maxMsgs → α) : MessageQueue (Fin maxMsgs) α :=
  (List.finRange maxMsgs).foldl (fun mq b => mq.putFree b)
    ⟨fun _ => none, message, none, none, none, 0⟩

/-- A sender moves the free list pointer, if there is a free block. -/
def takeFree (mq : MessageQueue ι α) : Option (ι × MessageQueue ι α) :=
  mq.msgQueueFree.map fun b => (b, { mq with msgQueueFree := mq.next b })

/-- A sender fills its block; `rt_mq_urgent` leaves its `next` for later. -/
def copyIn (urgent : Bool) (msg : α) (b : ι) (mq : MessageQueue ι α) : MessageQueue ι α :=
  { mq with
    next := if urgent then mq.next else Function.update mq.next b none
    message := Function.update mq.message b msg }

/-- `rt_mq_send` links its block behind the tail. -/
def linkTail (b : ι) (mq : MessageQueue ι α) : MessageQueue ι α :=
  { mq with
    next := match mq.msgQueueTail with
      | some t => Function.update mq.next t (some b)
      | none => mq.next
    msgQueueTail := some b
    msgQueueHead := if mq.msgQueueHead = none then some b else mq.msgQueueHead }

/-- `rt_mq_urgent` links its block to the beginning. -/
def linkHead (b : ι) (mq : MessageQueue ι α) : MessageQueue ι α :=
  { mq with
    next := Function.update mq.next b mq.msgQueueHead
    msgQueueHead := some b
    msgQueueTail := if mq.msgQueueTail = none then some b else mq.msgQueueTail }

def link (urgent : Bool) (b : ι) (mq : MessageQueue ι α) : MessageQueue ι α :=
  if urgent then mq.linkHead b else mq.linkTail b

/-- A receiver unlinks the first block. -/
def unlinkHead (b : ι) (mq : MessageQueue ι α) : MessageQueue ι α :=
  { mq with
    msgQueueHead := mq.next b
    msgQueueTail := if mq.msgQueueTail = some b then none else mq.msgQueueTail
    entry := if 0 < mq.entry then mq.entry - 1 else mq.entry }

/-- What it finds at the head; `none` stands for the access through a null
pointer. -/
def takeHead (mq : MessageQueue ι α) : Option (ι × MessageQueue ι α) :=
  mq.msgQueueHead.map fun b => (b, mq.unlinkHead b)

end MessageQueue

/-! ## the threads -/

/-- Where a thread is: outside, in a sender before it copies and before it
links, in `rt_mq_recv` before the test of `entry`, suspended there, before it
copies, and before it frees the block. -/
inductive MqThread (ι α : Type*)
  | out
  | sending (urgent : Bool) (msg : α) (b : ι)
  | linking (urgent : Bool) (msg : α) (b : ι)
  | receiving
  | suspended
  | copying (b : ι)
  | freeing (msg : α) (b : ι)

/-- The block that the thread alone knows of. -/
def MqThread.block {ι α : Type*} : MqThread ι α → Option ι
  | .sending _ _ b | .linking _ _ b | .copying b | .freeing _ b => some b
  | .out | .receiving | .suspended => none

/-- The queue, its threads, and `suspend_thread`, the receivers that wait. -/
structure MqSystem (ι τ α : Type*) where
  mq : MessageQueue ι α
  thread : τ → MqThread ι α
  suspendThread : List τ

/-- A thread calls `rt_mq_urgent` or `rt_mq_send` with a message, or
`rt_mq_recv`; or it goes on in it. -/
inductive MqAction (τ α : Type*)
  | send (t : τ) (urgent : Bool) (msg : α)
  | recv (t : τ)
  | go (t : τ)

/-- Who acts. -/
def MqAction.thread {τ α : Type*} : MqAction τ α → τ
  | .send t _ _ | .recv t | .go t => t

namespace MqSystem

variable {ι τ α : Type*} [DecidableEq ι] [DecidableEq τ]

def setThread (t : τ) (thread : MqThread ι α) (s : MqSystem ι τ α) : MqSystem ι τ α :=
  { s with thread := Function.update s.thread t thread }

/-- `_ipc_list_suspend` with `RT_IPC_FLAG_PRIO`: behind the threads that are as
important. -/
def suspend (priority : τ → Nat) (t : τ) (s : MqSystem ι τ α) : MqSystem ι τ α :=
  { s.setThread t .suspended with
    suspendThread :=
      Alarms.insertAfter (fun u => priority t < priority u) t s.suspendThread }

/-- `_ipc_list_resume`, if a thread is suspended. -/
def resume (s : MqSystem ι τ α) : MqSystem ι τ α :=
  match s.suspendThread with
  | [] => s
  | t :: l => { s.setThread t .receiving with suspendThread := l }

/-- The end of a sender: a count that is at its maximum stays, and no thread is
resumed. -/
def countEntry (s : MqSystem ι τ α) : MqSystem ι τ α :=
  if s.mq.entry < mqEntryMax then
    { s with mq := { s.mq with entry := s.mq.entry + 1 } }.resume
  else s

/-- A thread goes on in the function that it is in. -/
def go (priority : τ → Nat) (t : τ) (s : MqSystem ι τ α) : Option (MqSystem ι τ α) :=
  match s.thread t with
  | .sending urgent msg b =>
    some { s.setThread t (.linking urgent msg b) with mq := s.mq.copyIn urgent msg b }
  | .linking urgent _ b => some { s.setThread t .out with mq := s.mq.link urgent b }.countEntry
  | .receiving =>
    if s.mq.entry = 0 then some (s.suspend priority t)
    else s.mq.takeHead.map fun (b, mq) => { s.setThread t (.copying b) with mq }
  | .copying b => some (s.setThread t (.freeing (s.mq.message b) b))
  | .freeing _ b => some { s.setThread t .out with mq := s.mq.putFree b }
  | .out | .suspended => none

/-- A sender that finds no free block returns `-RT_EFULL`. -/
def step (priority : τ → Nat) (s : MqSystem ι τ α) : MqAction τ α → Option (MqSystem ι τ α)
  | .send t urgent msg =>
    match s.thread t, s.mq.takeFree with
    | .out, some (b, mq) => some { s.setThread t (.sending urgent msg b) with mq }
    | .out, none => some s
    | _, _ => none
  | .recv t =>
    match s.thread t with
    | .out => some (s.setThread t .receiving)
    | _ => none
  | .go t => s.go priority t

end MqSystem

/-! ## what it is for -/

/-- The messages in the order in which they are to be received, and of each
thread the last one that it was given. -/
structure Messages (τ α : Type*) where
  waiting : List α
  given : τ → Option α

namespace Messages

variable {ι τ α : Type*} [DecidableEq ι] [DecidableEq τ]

/-- A message comes in at one of the ends. -/
def add (urgent : Bool) (msg : α) (d : Messages τ α) : Messages τ α :=
  { d with waiting := if urgent then msg :: d.waiting else d.waiting ++ [msg] }

/-- The first message is given to `t`. -/
def give (t : τ) (d : Messages τ α) : Messages τ α :=
  match d.waiting with
  | [] => d
  | msg :: waiting => ⟨waiting, Function.update d.given t (some msg)⟩

/-- A message is in the queue when its sender links it, and out of it when a
receiver unlinks it. -/
def observe (s : MqSystem ι τ α) (d : Messages τ α) (act : MqAction τ α) (_ : MqSystem ι τ α) :
    Messages τ α :=
  match act with
  | .go t =>
    match s.thread t with
    | .linking urgent msg _ => d.add urgent msg
    | .receiving => if s.mq.entry = 0 then d else d.give t
    | _ => d
  | _ => d

end Messages

/-- The queue, with the messages that it is to hold. -/
def mqMachine {τ α : Type*} [DecidableEq τ] (maxMsgs : UInt16) (priority : τ → Nat) :
    Machine (MqSystem (Fin maxMsgs.toNat) τ α × Messages τ α) (MqAction τ α) :=
  Machine.observed
    ⟨fun s => ∃ message, s = ⟨.create maxMsgs.toNat message, fun _ => .out, []⟩,
      MqSystem.step priority⟩
    (fun _ => ⟨[], fun _ => none⟩) Messages.observe

/-! ## the pool -/

section

variable {ι τ α : Type*} [DecidableEq ι] [DecidableEq τ] {b : ι} {free queue : List ι}

/-- The lists of the queue. -/
structure MessageQueue.Lists (mq : MessageQueue ι α) (free queue : List ι) : Prop where
  freed : Chained mq.next mq.msgQueueFree free
  queued : Chained mq.next mq.msgQueueHead queue
  tail : mq.msgQueueTail = queue.getLast?
  entry : mq.entry.toNat = queue.length
  disjoint : ∀ b ∈ free, b ∉ queue

namespace MessageQueue.Lists

variable {mq mq' : MessageQueue ι α}

omit [DecidableEq ι] in
theorem takeFree_cases (h : mq.Lists free queue) :
    free = [] ∧ mq.takeFree = none ∨
      ∃ b free', free = b :: free' ∧
        mq.takeFree = some (b, { mq with msgQueueFree := mq.next b }) := by
  cases free with
  | nil => exact .inl ⟨rfl, by rw [takeFree, show mq.msgQueueFree = none from h.freed]; rfl⟩
  | cons b free' =>
      refine .inr ⟨b, free', rfl, ?_⟩
      rw [takeFree, show mq.msgQueueFree = some b from h.freed.1]
      rfl

omit [DecidableEq ι] in
theorem takeFree (h : mq.Lists (b :: free) queue) :
    Lists { mq with msgQueueFree := mq.next b } free queue :=
  { h with
    freed := h.freed.2
    disjoint := fun c hc => h.disjoint c (List.mem_cons_of_mem b hc) }

/-- A block that is in neither list is written. -/
theorem copyIn (h : mq.Lists free queue) (hfree : b ∉ free) (hqueue : b ∉ queue) (urgent : Bool)
    (msg : α) : (mq.copyIn urgent msg b).Lists free queue := by
  cases urgent with
  | true => exact { h with }
  | false => exact { h with freed := h.freed.update hfree, queued := h.queued.update hqueue }

theorem linkHead (h : mq.Lists free queue) (hfree : b ∉ free) (hqueue : b ∉ queue) (n : UInt16)
    (hn : n.toNat = queue.length + 1) :
    Lists { mq.linkHead b with entry := n } free (b :: queue) where
  freed := h.freed.update hfree
  queued := h.queued.push hqueue
  tail := by
    show (if mq.msgQueueTail = none then some b else mq.msgQueueTail) = _
    rw [h.tail]
    cases queue with
    | nil => rfl
    | cons c queue => simp [List.getLast?_cons]
  entry := hn
  disjoint c hc hmem := by
    obtain rfl | hmem := List.mem_cons.mp hmem
    · exact hfree hc
    · exact h.disjoint c hc hmem

theorem linkTail (h : mq.Lists free queue) (hfree : b ∉ free) (hqueue : b ∉ queue)
    (hnext : mq.next b = none) (n : UInt16) (hn : n.toNat = queue.length + 1) :
    Lists { mq.linkTail b with entry := n } free (queue ++ [b]) where
  freed := by
    show Chained (mq.linkTail b).next mq.msgQueueFree free
    unfold MessageQueue.linkTail
    split
    · rename_i t ht
      have hmem : t ∈ queue := List.mem_of_getLast? (h.tail.symm.trans ht)
      exact h.freed.update fun hfree => h.disjoint t hfree hmem
    · exact h.freed
  queued := by
    show Chained (mq.linkTail b).next (mq.linkTail b).msgQueueHead (queue ++ [b])
    have htail := h.tail
    obtain rfl | ⟨l, t, hlast⟩ := List.eq_nil_or_concat queue
    · simp [MessageQueue.linkTail, h.tail, show mq.msgQueueHead = none from h.queued, hnext]
    · rw [List.concat_eq_append] at hlast
      subst hlast
      have hhead : mq.msgQueueHead ≠ none := by
        intro hnone
        have hnil : l ++ [t] = [] := h.queued.unique hnone
        simp at hnil
      simp only [MessageQueue.linkTail, htail, List.getLast?_append, List.getLast?_singleton,
        Option.some_or, if_neg hhead, List.append_assoc]
      exact h.queued.append hqueue hnext
  tail := by simp [MessageQueue.linkTail]
  entry := by simpa using hn
  disjoint c hc hmem := by
    obtain hmem | hmem := List.mem_append.mp hmem
    · exact h.disjoint c hc hmem
    · exact hfree (List.mem_singleton.mp hmem ▸ hc)

omit [DecidableEq ι] in
/-- What `entry` counts is there. -/
theorem exists_cons (h : mq.Lists free queue) (hentry : mq.entry ≠ 0) :
    ∃ b queue', queue = b :: queue' ∧ mq.msgQueueHead = some b := by
  cases queue with
  | nil => exact absurd (UInt16.toNat_inj.mp h.entry) hentry
  | cons b queue' => exact ⟨b, queue', rfl, h.queued.1⟩

omit [DecidableEq ι] in
theorem entry_eq_zero (h : mq.Lists free queue) (hentry : mq.entry = 0) : queue = [] := by
  have hlength := h.entry
  rw [hentry] at hlength
  exact List.eq_nil_of_length_eq_zero hlength.symm

theorem takeHead (h : mq.Lists free (b :: queue)) :
    mq.takeHead = some (b, mq.unlinkHead b) := by
  rw [MessageQueue.takeHead, show mq.msgQueueHead = some b from h.queued.1]
  rfl

theorem unlinkHead (h : mq.Lists free (b :: queue)) : (mq.unlinkHead b).Lists free queue where
  freed := h.freed
  queued := h.queued.2
  tail := by
    have htail := h.tail
    unfold MessageQueue.unlinkHead
    cases queue with
    | nil => simp [htail]
    | cons c queue =>
        have hlast : (c :: queue).getLast? ≠ some b := fun hlast =>
          (List.nodup_cons.mp h.queued.nodup).1 (List.mem_of_getLast? hlast)
        rw [List.getLast?_cons_cons] at htail
        simp only [htail, if_neg hlast]
  entry := by
    have hpos : 0 < mq.entry := by
      rw [UInt16.lt_iff_toNat_lt, h.entry]
      exact Nat.succ_pos _
    show (if 0 < mq.entry then mq.entry - 1 else mq.entry).toNat = queue.length
    have hone : 1 ≤ mq.entry := by
      rw [UInt16.le_iff_toNat_le]
      exact UInt16.lt_iff_toNat_lt.mp hpos
    rw [if_pos hpos, UInt16.toNat_sub_of_le _ _ hone, h.entry]
    rfl
  disjoint c hc hmem := h.disjoint c hc (List.mem_cons_of_mem b hmem)

theorem putFree (h : mq.Lists free queue) (hfree : b ∉ free) (hqueue : b ∉ queue) :
    (mq.putFree b).Lists (b :: free) queue where
  freed := h.freed.push hfree
  queued := h.queued.update hqueue
  tail := h.tail
  entry := h.entry
  disjoint c hc hmem := by
    obtain rfl | hc := List.mem_cons.mp hc
    · exact hqueue hmem
    · exact h.disjoint c hc hmem

/-- The loop of `rt_mq_create`. -/
theorem foldl_putFree {l : List ι} (h : mq.Lists free []) (hnodup : (l.reverse ++ free).Nodup) :
    (l.foldl (fun mq b => mq.putFree b) mq).Lists (l.reverse ++ free) [] := by
  induction l generalizing mq free with
  | nil => exact h
  | cons b l ih =>
      have hnodup' : (l.reverse ++ b :: free).Nodup := by simpa using hnodup
      have hb : b ∉ free := (List.nodup_cons.mp (List.nodup_append.mp hnodup').2.1).1
      simpa using ih (h.putFree hb (List.not_mem_nil)) hnodup'

theorem create {n : Nat} (message : Fin n → α) :
    (MessageQueue.create n message).Lists (List.finRange n).reverse [] := by
  have hempty : Lists (⟨fun _ => none, message, none, none, none, 0⟩ : MessageQueue (Fin n) α)
      [] [] := ⟨rfl, rfl, rfl, rfl, by simp⟩
  have hnodup : ((List.finRange n).reverse ++ []).Nodup := by
    simpa using List.nodup_finRange n
  simpa [MessageQueue.create] using hempty.foldl_putFree hnodup

end MessageQueue.Lists

/-! ## what a step does -/

/-- The outcomes of a step. -/
inductive MqStepped (priority : τ → Nat) (s : MqSystem ι τ α) :
    MqAction τ α → MqSystem ι τ α → Prop
  | full {t : τ} {urgent : Bool} {msg : α} (ht : s.thread t = .out)
      (hfree : s.mq.msgQueueFree = none) : MqStepped priority s (.send t urgent msg) s
  | send {t : τ} {urgent : Bool} {msg : α} {b : ι} (ht : s.thread t = .out)
      (hfree : s.mq.msgQueueFree = some b) :
      MqStepped priority s (.send t urgent msg)
        { s.setThread t (.sending urgent msg b) with
          mq := { s.mq with msgQueueFree := s.mq.next b } }
  | recv {t : τ} (ht : s.thread t = .out) :
      MqStepped priority s (.recv t) (s.setThread t .receiving)
  | copyIn {t : τ} {urgent : Bool} {msg : α} {b : ι} (ht : s.thread t = .sending urgent msg b) :
      MqStepped priority s (.go t)
        { s.setThread t (.linking urgent msg b) with mq := s.mq.copyIn urgent msg b }
  | link {t : τ} {urgent : Bool} {msg : α} {b : ι} (ht : s.thread t = .linking urgent msg b) :
      MqStepped priority s (.go t)
        { s.setThread t .out with mq := s.mq.link urgent b }.countEntry
  | suspend {t : τ} (ht : s.thread t = .receiving) (hentry : s.mq.entry = 0) :
      MqStepped priority s (.go t) (s.suspend priority t)
  | take {t : τ} {b : ι} (ht : s.thread t = .receiving) (hentry : s.mq.entry ≠ 0)
      (hhead : s.mq.msgQueueHead = some b) :
      MqStepped priority s (.go t)
        { s.setThread t (.copying b) with mq := s.mq.unlinkHead b }
  | copyOut {t : τ} {b : ι} (ht : s.thread t = .copying b) :
      MqStepped priority s (.go t) (s.setThread t (.freeing (s.mq.message b) b))
  | putFree {t : τ} {msg : α} {b : ι} (ht : s.thread t = .freeing msg b) :
      MqStepped priority s (.go t) { s.setThread t .out with mq := s.mq.putFree b }

variable {priority : τ → Nat} {s s' : MqSystem ι τ α} {act : MqAction τ α}

theorem mqStepped_of_step (hs : s.step priority act = some s') : MqStepped priority s act s' := by
  cases act with
  | send t urgent msg =>
      simp only [MqSystem.step] at hs
      split at hs
      · rename_i b mq ht hfree
        obtain ⟨c, hc, hmq⟩ := Option.map_eq_some_iff.mp hfree
        obtain ⟨rfl, rfl⟩ := Prod.mk.inj hmq
        exact Option.some.inj hs ▸ .send ht hc
      · rename_i ht hfree
        exact Option.some.inj hs ▸ .full ht (Option.map_eq_none_iff.mp hfree)
      · cases hs
  | recv t =>
      simp only [MqSystem.step] at hs
      split at hs
      · exact Option.some.inj hs ▸ .recv ‹_›
      · cases hs
  | go t =>
      simp only [MqSystem.step, MqSystem.go] at hs
      split at hs
      · exact Option.some.inj hs ▸ .copyIn ‹_›
      · exact Option.some.inj hs ▸ .link ‹_›
      · rename_i ht
        split at hs
        · exact Option.some.inj hs ▸ .suspend ht ‹_›
        · rename_i hentry
          obtain ⟨⟨b, mq⟩, hhead, rfl⟩ := Option.map_eq_some_iff.mp hs
          obtain ⟨c, hc, hmq⟩ := Option.map_eq_some_iff.mp hhead
          obtain ⟨rfl, rfl⟩ := Prod.mk.inj hmq
          exact .take ht hentry hc
      · exact Option.some.inj hs ▸ .copyOut ‹_›
      · exact Option.some.inj hs ▸ .putFree ‹_›
      · cases hs
      · cases hs

/-! ## the threads on the pool -/

/-- The blocks that a list has. -/
def inLists (free queue : List ι) : Set ι := {b | b ∈ free ∨ b ∈ queue}

/-- Every block is in one of the lists, or in the hands of one thread. -/
structure MqSystem.Pool (s : MqSystem ι τ α) (free queue : List ι) : Prop where
  lists : s.mq.Lists free queue
  owned : Owned (fun t => (s.thread t).block) (inLists free queue)

section

variable {t u : τ} {thread : MqThread ι α} {mq' : MessageQueue ι α} {queue' : List ι}

omit [DecidableEq ι] in
@[simp]
theorem MqSystem.setThread_self : (s.setThread t thread).thread t = thread :=
  Function.update_self ..

omit [DecidableEq ι] in
theorem MqSystem.setThread_of_ne (h : u ≠ t) : (s.setThread t thread).thread u = s.thread u :=
  Function.update_of_ne h ..

omit [DecidableEq ι] in
/-- A thread that goes on with the block it has. -/
theorem MqSystem.block_setThread (h : thread.block = (s.thread t).block) (u : τ) :
    ((s.setThread t thread).thread u).block = (s.thread u).block := by
  by_cases hu : u = t
  · rw [hu, setThread_self, h]
  · rw [setThread_of_ne hu]

namespace MqSystem.Pool

omit [DecidableEq ι] in
/-- A thread goes on with the block it has. -/
theorem setThread (h : s.Pool free queue) (hblock : thread.block = (s.thread t).block)
    (hlists : mq'.Lists free queue) :
    Pool { s.setThread t thread with mq := mq' } free queue where
  lists := hlists
  owned := by
    show Owned (fun u => ((s.setThread t thread).thread u).block) _
    simpa only [block_setThread hblock] using h.owned

omit [DecidableEq ι] in
/-- A thread takes the first block of the free list. -/
theorem takeFree (h : s.Pool (b :: free) queue) (ht : (s.thread t).block = none)
    (hthread : thread.block = some b) :
    Pool { s.setThread t thread with mq := { s.mq with msgQueueFree := s.mq.next b } }
      free queue where
  lists := h.lists.takeFree
  owned := by
    have htaken : Owned (fun u => ((s.setThread t thread).thread u).block)
        (inLists (b :: free) queue \ {b}) :=
      h.owned.take (.inl List.mem_cons_self) ht (by simp [hthread])
        fun u hu => by rw [setThread_of_ne hu]
    have hb := (List.nodup_cons.mp h.lists.freed.nodup).1
    have hqueue := h.lists.disjoint b List.mem_cons_self
    convert htaken using 1
    ext c
    simp only [inLists, Set.mem_ofPred_eq, List.mem_cons, Set.mem_sdiff, Set.mem_singleton_iff]
    grind

/-- A thread takes the first block of the queue. -/
theorem unlinkHead (h : s.Pool free (b :: queue)) (ht : (s.thread t).block = none)
    (hthread : thread.block = some b) :
    Pool { s.setThread t thread with mq := s.mq.unlinkHead b } free queue where
  lists := h.lists.unlinkHead
  owned := by
    have htaken : Owned (fun u => ((s.setThread t thread).thread u).block)
        (inLists free (b :: queue) \ {b}) :=
      h.owned.take (.inr List.mem_cons_self) ht (by simp [hthread])
        fun u hu => by rw [setThread_of_ne hu]
    have hb := (List.nodup_cons.mp h.lists.queued.nodup).1
    have hfree := fun hmem => h.lists.disjoint b hmem List.mem_cons_self
    convert htaken using 1
    ext c
    simp only [inLists, Set.mem_ofPred_eq, List.mem_cons, Set.mem_sdiff, Set.mem_singleton_iff]
    grind

omit [DecidableEq ι] in
/-- A thread puts its block into a list. -/
theorem put {free' : List ι} (h : s.Pool free queue) (ht : (s.thread t).block = some b)
    (hthread : thread.block = none) (hlists : mq'.Lists free' queue')
    (hmem : ∀ c, (c ∈ free' ∨ c ∈ queue') ↔ c = b ∨ c ∈ free ∨ c ∈ queue) :
    Pool { s.setThread t thread with mq := mq' } free' queue' where
  lists := hlists
  owned := by
    have hgiven : Owned (fun u => ((s.setThread t thread).thread u).block)
        (insert b (inLists free queue)) :=
      h.owned.give ht (by simp [hthread]) fun u hu => by rw [setThread_of_ne hu]
    convert hgiven using 1
    ext c
    exact hmem c

end MqSystem.Pool

/-- The threads of `suspend_thread`, and those on their way to the test of
`entry`: while a receiver is suspended there is one of these for each message. -/
structure MqSystem.Awake (s : MqSystem ι τ α) (queue : List ι) : Prop where
  suspended : ∀ t, t ∈ s.suspendThread ↔ s.thread t = .suspended
  nodup : s.suspendThread.Nodup
  ready : s.suspendThread ≠ [] →
    ∃ l : List τ, l.Nodup ∧ (∀ t ∈ l, s.thread t = .receiving) ∧ queue.length ≤ l.length

namespace MqSystem.Awake

omit [DecidableEq ι] in
/-- A thread goes on that does not receive, and is not suspended. -/
theorem setThread (h : s.Awake queue) (ht : s.thread t ≠ .receiving) (hs : s.thread t ≠ .suspended)
    (hthread : thread ≠ .suspended) (mq' : MessageQueue ι α) :
    Awake { s.setThread t thread with mq := mq' } queue where
  suspended u := by
    show u ∈ s.suspendThread ↔ (s.setThread t thread).thread u = .suspended
    rw [h.suspended u]
    by_cases hu : u = t
    · subst hu
      simp [hs, hthread]
    · rw [setThread_of_ne hu]
  nodup := h.nodup
  ready hsome := by
    obtain ⟨l, hnodup, hl, hlength⟩ := h.ready hsome
    refine ⟨l, hnodup, fun u hu => ?_, hlength⟩
    have hne : u ≠ t := by
      rintro rfl
      exact ht (hl u hu)
    exact (setThread_of_ne hne).trans (hl u hu)

omit [DecidableEq ι] in
/-- A receiver takes a message: it was on its way. -/
theorem take (h : s.Awake (b :: queue)) (hthread : thread ≠ .suspended)
    (ht : s.thread t = .receiving) (mq' : MessageQueue ι α) :
    Awake { s.setThread t thread with mq := mq' } queue where
  suspended u := by
    show u ∈ s.suspendThread ↔ (s.setThread t thread).thread u = .suspended
    rw [h.suspended u]
    by_cases hu : u = t
    · subst hu
      simp [ht, hthread]
    · rw [setThread_of_ne hu]
  nodup := h.nodup
  ready hsome := by
    obtain ⟨l, hnodup, hl, hlength⟩ := h.ready hsome
    refine ⟨l.erase t, hnodup.erase t, fun u hu => ?_, ?_⟩
    · obtain ⟨hne, hu⟩ := hnodup.mem_erase_iff.mp hu
      exact (setThread_of_ne hne).trans (hl u hu)
    · have herase := List.le_length_erase (a := t) (l := l)
      simp only [List.length_cons] at hlength
      omega

omit [DecidableEq ι] in
/-- A receiver that finds no message is suspended. -/
theorem suspend (h : s.Awake []) (ht : s.thread t = .receiving) (priority : τ → Nat) :
    Awake (s.suspend priority t) [] where
  suspended u := by
    show u ∈ Alarms.insertAfter _ t s.suspendThread ↔ (s.setThread t .suspended).thread u = _
    rw [Alarms.mem_insertAfter, h.suspended u]
    by_cases hu : u = t
    · subst hu
      simp
    · rw [setThread_of_ne hu]
      simp [hu]
  nodup := Alarms.nodup_insertAfter h.nodup fun hmem => by
    rw [h.suspended t, ht] at hmem
    cases hmem
  ready _ := ⟨[], List.nodup_nil, by simp, Nat.le_refl 0⟩

omit [DecidableEq ι] in
/-- A sender resumes the first receiver for its message. -/
theorem resume (h : s.Awake queue) {queue' : List ι} (hlength : queue'.length = queue.length + 1) :
    Awake s.resume queue' := by
  unfold MqSystem.resume
  split
  · rename_i hnone
    exact ⟨h.suspended, h.nodup, fun hsome => absurd hnone hsome⟩
  · rename_i u l hfirst
    have hnodup := h.nodup
    rw [hfirst] at hnodup
    have hu : s.thread u = .suspended := (h.suspended u).mp (hfirst ▸ List.mem_cons_self)
    have hmem := List.nodup_cons.mp hnodup
    refine ⟨fun v => ?_, hmem.2, fun _ => ?_⟩
    · show v ∈ l ↔ (s.setThread u .receiving).thread v = .suspended
      by_cases hv : v = u
      · subst hv
        simp [hmem.1]
      · rw [setThread_of_ne hv, ← h.suspended v, hfirst]
        simp [hv]
    · obtain ⟨l', hnodup', hl', hready⟩ := h.ready (by simp [hfirst])
      have hul : u ∉ l' := by
        intro hmem
        rw [hl' u hmem] at hu
        cases hu
      refine ⟨u :: l', List.nodup_cons.mpr ⟨hul, hnodup'⟩, fun v hv => ?_, ?_⟩
      · obtain rfl | hv := List.mem_cons.mp hv
        · exact setThread_self
        · have hne : v ≠ u := ne_of_mem_of_not_mem hv hul
          exact (setThread_of_ne hne).trans (hl' v hv)
      · rw [hlength]
        exact Nat.succ_le_succ hready

end MqSystem.Awake

/-- What a thread has: a sender its message in its block, a receiver what it was
given, in its block or copied. -/
def MqThread.Carries (mq : MessageQueue ι α) (given : Option α) : MqThread ι α → Prop
  | .linking urgent msg b => mq.message b = msg ∧ (urgent = false → mq.next b = none)
  | .copying b => given = some (mq.message b)
  | .freeing msg _ => given = some msg
  | .out | .sending _ _ _ | .receiving | .suspended => True

omit [DecidableEq ι] in
theorem MqThread.Carries.congr {mq mq' : MessageQueue ι α} {given : Option α}
    (h : thread.Carries mq given) (hcell : ∀ b, thread.block = some b →
      mq'.message b = mq.message b ∧ mq'.next b = mq.next b) : thread.Carries mq' given := by
  cases thread with
  | linking urgent msg b =>
      obtain ⟨hmessage, hnext⟩ := hcell b rfl
      exact ⟨hmessage.trans h.1, fun hurgent => hnext.trans (h.2 hurgent)⟩
  | copying b => exact h.trans (congrArg some (hcell b rfl).1.symm)
  | freeing msg b => exact h
  | out | sending | receiving | suspended => trivial

/-- The queue holds the messages that wait, and the threads have theirs. -/
structure MqSystem.Carries (s : MqSystem ι τ α) (d : Messages τ α) (queue : List ι) : Prop where
  waiting : queue.map s.mq.message = d.waiting
  thread : ∀ t, (s.thread t).Carries s.mq (d.given t)

namespace MqSystem.Carries

variable {d d' : Messages τ α}

omit [DecidableEq ι] in
/-- What a thread does to its own block and to the lists. -/
theorem setThread (h : s.Carries d queue) (hwaiting : queue'.map mq'.message = d'.waiting)
    (hself : thread.Carries mq' (d'.given t)) (hgiven : ∀ u, u ≠ t → d'.given u = d.given u)
    (hcells : ∀ u b, u ≠ t → (s.thread u).block = some b →
      mq'.message b = s.mq.message b ∧ mq'.next b = s.mq.next b) :
    Carries { s.setThread t thread with mq := mq' } d' queue' where
  waiting := hwaiting
  thread u := by
    show ((s.setThread t thread).thread u).Carries mq' (d'.given u)
    by_cases hu : u = t
    · subst hu
      rw [setThread_self]
      exact hself
    · rw [setThread_of_ne hu, hgiven u hu]
      exact (h.thread u).congr fun b hb => hcells u b hu hb

omit [DecidableEq ι] in
theorem resume (h : s.Carries d queue) : s.resume.Carries d queue := by
  unfold MqSystem.resume
  split
  · exact h
  · rename_i u l hfirst
    refine ⟨h.waiting, fun v => ?_⟩
    show ((s.setThread u .receiving).thread v).Carries s.mq (d.given v)
    by_cases hv : v = u
    · subst hv
      rw [setThread_self]
      trivial
    · rw [setThread_of_ne hv]
      exact h.thread v

end MqSystem.Carries

end

/-! ## what a step keeps -/

/-- The queue, with the lists that it consists of. -/
def MqOk (s : MqSystem ι τ α) (d : Messages τ α) : Prop :=
  ∃ free queue, s.Pool free queue ∧ s.Awake queue ∧ s.Carries d queue

section

variable {d : Messages τ α} {t : τ} {urgent : Bool} {msg : α}

omit [DecidableEq ι] in
theorem MqSystem.Pool.resume {queue' : List ι} (h : s.Pool free queue') (hawake : s.Awake queue) :
    s.resume.Pool free queue' := by
  unfold MqSystem.resume
  split
  · exact h
  · rename_i u l hfirst
    have hu : s.thread u = .suspended := (hawake.suspended u).mp (hfirst ▸ List.mem_cons_self)
    refine ⟨h.lists, ?_⟩
    have hblock : ∀ v, ((s.setThread u .receiving).thread v).block = (s.thread v).block :=
      MqSystem.block_setThread (by rw [hu]; rfl)
    show Owned (fun v => ((s.setThread u .receiving).thread v).block) _
    simpa only [hblock] using h.owned

omit [DecidableEq ι] [DecidableEq τ] in
/-- The block that a thread holds is in none of the lists. -/
theorem MqSystem.Pool.not_mem (h : s.Pool free queue) (hb : (s.thread t).block = some b) :
    b ∉ free ∧ b ∉ queue :=
  not_or.mp (h.owned.held t b hb)

omit [DecidableEq ι] in
/-- A sender has its block linked at one of the ends. -/
theorem MqSystem.Pool.linked {mq' : MessageQueue ι α} {queue' : List ι} (h : s.Pool free queue)
    (hawake : s.Awake queue) (hcarries : s.Carries d queue)
    (ht : s.thread t = .linking urgent msg b) (hlists : mq'.Lists free queue')
    (hmem : ∀ c, c ∈ queue' ↔ c = b ∨ c ∈ queue) (hlength : queue'.length = queue.length + 1)
    (hwaiting : queue'.map mq'.message = (d.add urgent msg).waiting)
    (hcells : ∀ u c, u ≠ t → (s.thread u).block = some c →
      mq'.message c = s.mq.message c ∧ mq'.next c = s.mq.next c) :
    MqOk (MqSystem.resume { s.setThread t .out with mq := mq' }) (d.add urgent msg) := by
  have hb : (s.thread t).block = some b := by rw [ht]; rfl
  have hout : Awake { s.setThread t .out with mq := mq' } queue :=
    hawake.setThread (by simp [ht]) (by simp [ht]) (by simp) mq'
  have hput : Pool { s.setThread t .out with mq := mq' } free queue' := by
    refine h.put hb rfl hlists fun c => ?_
    rw [hmem c]
    tauto
  have hcarried : Carries { s.setThread t .out with mq := mq' } (d.add urgent msg) queue' :=
    hcarries.setThread hwaiting trivial (fun _ _ => rfl) hcells
  exact ⟨free, queue', hput.resume hout, hout.resume hlength, hcarried.resume⟩

/-- A sender links its block. -/
theorem MqOk.link [Fintype ι] (hcard : Fintype.card ι ≤ 65535) (h : MqOk s d)
    (ht : s.thread t = .linking urgent msg b) :
    MqOk { s.setThread t .out with mq := s.mq.link urgent b }.countEntry (d.add urgent msg) := by
  obtain ⟨free, queue, hpool, hawake, hcarries⟩ := h
  have hb : (s.thread t).block = some b := by rw [ht]; rfl
  obtain ⟨hfree, hqueue⟩ := hpool.not_mem hb
  obtain ⟨hmessage, hnext⟩ : s.mq.message b = msg ∧ (urgent = false → s.mq.next b = none) := by
    have hself := hcarries.thread t
    rw [ht] at hself
    exact hself
  -- the pool has a block for every message and for this one
  have hlength : queue.length + 1 ≤ 65535 :=
    Nat.le_trans (List.nodup_cons.mpr ⟨hqueue, hpool.lists.queued.nodup⟩).length_le_card hcard
  have hentry := hpool.lists.entry
  have hroom : s.mq.entry < mqEntryMax := by
    rw [UInt16.lt_iff_toNat_lt, hentry]
    exact hlength
  have hcount : (s.mq.entry + 1).toNat = queue.length + 1 := by
    rw [UInt16.toNat_add, hentry]
    exact Nat.mod_eq_of_lt (Nat.lt_succ_of_le hlength)
  have hother : ∀ u c, u ≠ t → (s.thread u).block = some c → c ≠ b := by
    rintro u c hu hc rfl
    exact hu (hpool.owned.unique u t c hc hb)
  cases urgent with
  | true =>
      have hlinked := hpool.linked hawake hcarries ht
        (hpool.lists.linkHead hfree hqueue (s.mq.entry + 1) hcount) (fun c => List.mem_cons) rfl
        (congrArg₂ List.cons hmessage hcarries.waiting)
        fun u c hu hc => ⟨rfl, Function.update_of_ne (hother u c hu hc) ..⟩
      simpa only [MqSystem.countEntry, MessageQueue.link, if_true, MessageQueue.linkHead,
        if_pos hroom] using hlinked
  | false =>
      have hwaiting : (queue ++ [b]).map s.mq.message = (d.add false msg).waiting := by
        simp [Messages.add, hcarries.waiting, hmessage]
      have hcells : ∀ u c, u ≠ t → (s.thread u).block = some c →
          (s.mq.linkTail b).message c = s.mq.message c ∧
            (s.mq.linkTail b).next c = s.mq.next c := by
        intro u c hu hc
        refine ⟨rfl, ?_⟩
        unfold MessageQueue.linkTail
        cases htail : s.mq.msgQueueTail with
        | none => rfl
        | some v =>
            have hmem : v ∈ queue := List.mem_of_getLast? (hpool.lists.tail.symm.trans htail)
            exact Function.update_of_ne (ne_of_mem_of_not_mem hmem (hpool.not_mem hc).2).symm ..
      have hlinked := hpool.linked hawake hcarries ht
        (hpool.lists.linkTail hfree hqueue (hnext rfl) (s.mq.entry + 1) hcount)
        (fun c => by simp [or_comm]) (by simp) hwaiting hcells
      simpa only [MqSystem.countEntry, MessageQueue.link, Bool.false_eq_true, if_false,
        MessageQueue.linkTail, if_pos hroom] using hlinked

/-- What one step keeps, whoever makes it. -/
theorem MqOk.step [Fintype ι] (hcard : Fintype.card ι ≤ 65535) {s' : MqSystem ι τ α}
    (h : MqOk s d) (hs : s.step priority act = some s') : MqOk s' (d.observe s act s') := by
  obtain ⟨free, queue, hpool, hawake, hcarries⟩ := id h
  cases mqStepped_of_step hs with
  | full ht hfree => exact h
  | @send t urgent msg b ht hfree =>
      obtain ⟨rfl, hnone⟩ | ⟨c, free, rfl, -⟩ := hpool.lists.takeFree_cases
      · simp [MessageQueue.takeFree, hfree] at hnone
      · obtain rfl : c = b := Option.some.inj (hpool.lists.freed.1.symm.trans hfree)
        exact ⟨free, queue, hpool.takeFree (by rw [ht]; rfl) rfl,
          hawake.setThread (by simp [ht]) (by simp [ht]) (by simp) _,
          hcarries.setThread hcarries.waiting trivial (fun _ _ => rfl) fun _ _ _ _ => ⟨rfl, rfl⟩⟩
  | @recv t ht =>
      exact ⟨free, queue, hpool.setThread (by rw [ht]; rfl) hpool.lists,
        hawake.setThread (by simp [ht]) (by simp [ht]) (by simp) _,
        hcarries.setThread hcarries.waiting trivial (fun _ _ => rfl) fun _ _ _ _ => ⟨rfl, rfl⟩⟩
  | @copyIn t urgent msg b ht =>
      have hb : (s.thread t).block = some b := by rw [ht]; rfl
      obtain ⟨hfree, hqueue⟩ := hpool.not_mem hb
      simp only [Messages.observe, ht]
      refine ⟨free, queue, hpool.setThread (by rw [ht]; rfl) (hpool.lists.copyIn hfree hqueue _ _),
        hawake.setThread (by simp [ht]) (by simp [ht]) (by simp) _,
        hcarries.setThread ?_ ⟨Function.update_self .., ?_⟩ (fun _ _ => rfl) fun u c hu hc => ?_⟩
      · refine (List.map_congr_left fun c hc => ?_).trans hcarries.waiting
        exact Function.update_of_ne (ne_of_mem_of_not_mem hc hqueue) ..
      · rintro rfl
        exact Function.update_self ..
      · have hne : c ≠ b := by
          rintro rfl
          exact hu (hpool.owned.unique u t c hc hb)
        refine ⟨Function.update_of_ne hne .., ?_⟩
        cases urgent with
        | true => rfl
        | false => exact Function.update_of_ne hne ..
  | @link t urgent msg b ht =>
      simp only [Messages.observe, ht]
      exact h.link hcard ht
  | @suspend t ht hentry =>
      obtain rfl := hpool.lists.entry_eq_zero hentry
      simp only [Messages.observe, ht, hentry, if_true]
      have hpool' : (s.setThread t .suspended).Pool free [] :=
        hpool.setThread (by rw [ht]; rfl) hpool.lists
      have hcarries' : (s.setThread t .suspended).Carries d [] :=
        hcarries.setThread hcarries.waiting trivial (fun _ _ => rfl) fun _ _ _ _ => ⟨rfl, rfl⟩
      exact ⟨free, [], ⟨hpool.lists, hpool'.owned⟩, hawake.suspend ht priority,
        ⟨hcarries.waiting, hcarries'.thread⟩⟩
  | @take t b ht hentry hhead =>
      obtain ⟨c, queue, rfl, hc⟩ := hpool.lists.exists_cons hentry
      obtain rfl : c = b := Option.some.inj (hc.symm.trans hhead)
      have hwaiting : d.waiting = s.mq.message c :: queue.map s.mq.message := hcarries.waiting.symm
      simp only [Messages.observe, ht, if_neg hentry, Messages.give, hwaiting]
      refine ⟨free, queue, hpool.unlinkHead (by rw [ht]; rfl) rfl, hawake.take (by simp) ht _,
        hcarries.setThread rfl (Function.update_self ..) (fun u hu => Function.update_of_ne hu ..)
          fun _ _ _ _ => ⟨rfl, rfl⟩⟩
  | @copyOut t b ht =>
      have hgiven := hcarries.thread t
      rw [ht] at hgiven
      simp only [Messages.observe, ht]
      exact ⟨free, queue, hpool.setThread (by rw [ht]; rfl) hpool.lists,
        hawake.setThread (by simp [ht]) (by simp [ht]) (by simp) _,
        hcarries.setThread hcarries.waiting hgiven (fun _ _ => rfl) fun _ _ _ _ => ⟨rfl, rfl⟩⟩
  | @putFree t msg b ht =>
      have hb : (s.thread t).block = some b := by rw [ht]; rfl
      obtain ⟨hfree, hqueue⟩ := hpool.not_mem hb
      simp only [Messages.observe, ht]
      refine ⟨b :: free, queue, hpool.put hb rfl (hpool.lists.putFree hfree hqueue) fun c => ?_,
        hawake.setThread (by simp [ht]) (by simp [ht]) (by simp) _,
        hcarries.setThread hcarries.waiting trivial (fun _ _ => rfl) fun u c hu hc => ⟨rfl, ?_⟩⟩
      · rw [List.mem_cons, or_assoc]
      · refine Function.update_of_ne ?_ ..
        rintro rfl
        exact hu (hpool.owned.unique u t c hc hb)

end

/-! ## every run -/

section

variable {maxMsgs : UInt16} {p : MqSystem (Fin maxMsgs.toNat) τ α × Messages τ α}

omit [DecidableEq τ] in
/-- A new queue: every block is free. -/
theorem mqOk_create {n : Nat} (message : Fin n → α) :
    MqOk (⟨.create n message, fun _ => .out, []⟩ : MqSystem (Fin n) τ α)
      ⟨[], fun _ => none⟩ := by
  refine ⟨(List.finRange n).reverse, [], ⟨.create message, ?_⟩, ?_, ⟨rfl, fun _ => trivial⟩⟩
  · refine ⟨fun t b hb => by simp [MqThread.block] at hb, fun t u b hb => ?_, fun b => ?_⟩
    · simp [MqThread.block] at hb
    · exact .inl (.inl (by simp))
  · exact ⟨by simp, List.nodup_nil, fun h => absurd rfl h⟩

theorem mqOk_of_reachable (h : (mqMachine maxMsgs priority).Reachable p) : MqOk p.1 p.2 := by
  have hcard : Fintype.card (Fin maxMsgs.toNat) ≤ 65535 := by
    rw [Fintype.card_fin]
    exact Nat.le_of_lt_succ maxMsgs.toNat_lt
  refine Machine.ReachableVia.invariant (I := fun p => MqOk p.1 p.2) h ?_ ?_
  · rintro p ⟨⟨message, hs⟩, hd⟩
    rw [hs, hd]
    exact mqOk_create message
  · intro p act p' hok _ hs
    obtain ⟨hstep, hobserve⟩ := Machine.observed_step_eq_some.mp hs
    exact hobserve ▸ hok.step hcard hstep

/-- Two blocks, no message, and three threads. -/
def twoBlocks : MqSystem (Fin (2 : UInt16).toNat) (Fin 3) Nat × Messages (Fin 3) Nat :=
  (⟨.create _ fun _ => 0, fun _ => .out, []⟩, ⟨[], fun _ => none⟩)

def twoBlocksRun (acts : List (MqAction (Fin 3) Nat)) :
    Option (MqSystem (Fin (2 : UInt16).toNat) (Fin 3) Nat × Messages (Fin 3) Nat) :=
  (mqMachine 2 fun _ => 0).runFrom twoBlocks acts

theorem reachable_of_twoBlocksRun {acts : List (MqAction (Fin 3) Nat)}
    {p : MqSystem (Fin (2 : UInt16).toNat) (Fin 3) Nat × Messages (Fin 3) Nat}
    (h : twoBlocksRun acts = some p) : (mqMachine 2 fun _ => 0).Reachable p :=
  Machine.Reachable.runFrom (.init ⟨⟨_, rfl⟩, rfl⟩) h

/-- **No block is lost, and none is in two hands.**  However senders, receivers
and interrupts interleave, the free list and the queue are lists that end, with
the tail and the count that the queue says; a block is in one of them if and only
if no thread is filling, linking, copying or freeing it, and no two threads do. -/
theorem mq_pool_intact (h : (mqMachine maxMsgs priority).Reachable p) :
    ∃ free queue, Chained p.1.mq.next p.1.mq.msgQueueFree free ∧
      Chained p.1.mq.next p.1.mq.msgQueueHead queue ∧ p.1.mq.msgQueueTail = queue.getLast? ∧
      p.1.mq.entry.toNat = queue.length ∧ (free ++ queue).Nodup ∧
      (∀ b, b ∈ free ++ queue ↔ ¬∃ t, (p.1.thread t).block = some b) ∧
      ∀ t u b, (p.1.thread t).block = some b → (p.1.thread u).block = some b → t = u := by
  obtain ⟨free, queue, ⟨hlists, howned⟩, -, -⟩ := mqOk_of_reachable h
  refine ⟨free, queue, hlists.freed, hlists.queued, hlists.tail, hlists.entry, ?_, fun b => ?_,
    howned.unique⟩
  · refine List.nodup_append.mpr ⟨hlists.freed.nodup, hlists.queued.nodup, ?_⟩
    rintro b hb c hc rfl
    exact hlists.disjoint b hb hc
  · rw [List.mem_append]
    exact howned.mem_iff

/-- A receiver copies another block than the one that a sender fills. -/
theorem mq_pool_intact_crossing : ∃ p b c,
    twoBlocksRun [.send 0 false 7, .go 0, .go 0, .recv 1, .go 1, .send 0 false 8] = some p ∧
      (p.1.thread 1).block = some b ∧ (p.1.thread 0).block = some c ∧ b ≠ c := by
  have hrun : (twoBlocksRun [.send 0 false 7, .go 0, .go 0, .recv 1, .go 1,
      .send 0 false 8]).map (fun p => ((p.1.thread 1).block, (p.1.thread 0).block)) =
        some (some ⟨1, by decide⟩, some ⟨0, by decide⟩) := by decide +kernel
  obtain ⟨p, hp, hobs⟩ := Option.map_eq_some_iff.mp hrun
  obtain ⟨hb, hc⟩ := Prod.ext_iff.mp hobs
  obtain ⟨-, -, -, -, -, -, -, -, hunique⟩ := mq_pool_intact (reachable_of_twoBlocksRun hp)
  refine ⟨p, _, _, hp, hb, hc, fun hbc => ?_⟩
  exact absurd (hunique 1 0 _ hb (hbc ▸ hc)) (by decide)

/-- **The queue is the list of the messages in it.**  What a walk through the
queue finds is what senders have put at its ends and no receiver has been given;
a receiver that has copied its message has the one that it was given; and a
thread that is in one of the functions and not suspended can go on. -/
theorem mq_delivers (h : (mqMachine maxMsgs priority).Reachable p) :
    (walk p.1.mq.next p.1.mq.msgQueueHead p.1.mq.entry.toNat).map p.1.mq.message = p.2.waiting ∧
      (∀ t msg b, p.1.thread t = .freeing msg b → p.2.given t = some msg) ∧
      ∀ t, p.1.thread t ≠ .out → p.1.thread t ≠ .suspended → (p.1.go priority t).isSome := by
  obtain ⟨free, queue, ⟨hlists, -⟩, -, hcarries⟩ := mqOk_of_reachable h
  refine ⟨?_, fun t msg b ht => ?_, fun t hout hsuspended => ?_⟩
  · rw [hlists.entry, hlists.queued.walk_eq]
    exact hcarries.waiting
  · have hgiven := hcarries.thread t
    rw [ht] at hgiven
    exact hgiven
  · unfold MqSystem.go
    cases ht : p.1.thread t with
    | out => exact absurd ht hout
    | suspended => exact absurd ht hsuspended
    | receiving =>
        dsimp only
        split
        · rfl
        · obtain ⟨b, -, -, hb⟩ := hlists.exists_cons ‹_›
          simp [MessageQueue.takeHead, hb]
    | sending | linking | copying | freeing => rfl

/-- Of two messages the urgent one is received first. -/
theorem mq_delivers_urgent : ∃ p b,
    twoBlocksRun [.send 0 false 7, .go 0, .go 0, .send 0 true 8, .go 0, .go 0, .recv 1, .go 1,
      .go 1] = some p ∧ p.1.thread 1 = .freeing 8 b ∧ p.2.given 1 = some 8 := by
  have hrun : (twoBlocksRun [.send 0 false 7, .go 0, .go 0, .send 0 true 8, .go 0, .go 0,
      .recv 1, .go 1, .go 1]).map (fun p =>
        match p.1.thread 1 with
        | .freeing msg b => some (msg, b)
        | _ => none) = some (some (8, ⟨0, by decide⟩)) := by decide +kernel
  obtain ⟨p, hp, hobs⟩ := Option.map_eq_some_iff.mp hrun
  have ht : p.1.thread 1 = .freeing 8 ⟨0, by decide⟩ := by
    split at hobs
    · simp_all
    · cases hobs
  exact ⟨p, _, hp, ht, (mq_delivers (reachable_of_twoBlocksRun hp)).2.1 1 8 _ ht⟩

/-- **No receiver sleeps over a message.**  The suspended threads are those of
the list that a sender resumes from; and while there is one, as many others are
on their way to take a message as there are messages. -/
theorem mq_no_lost_wakeup (h : (mqMachine maxMsgs priority).Reachable p) :
    (∀ t, t ∈ p.1.suspendThread ↔ p.1.thread t = .suspended) ∧
      (p.1.suspendThread ≠ [] → ∃ l : List τ, l.Nodup ∧
        (∀ t ∈ l, p.1.thread t = .receiving) ∧ p.2.waiting.length ≤ l.length) := by
  obtain ⟨free, queue, -, hawake, hcarries⟩ := mqOk_of_reachable h
  rw [← hcarries.waiting, List.length_map]
  exact ⟨hawake.suspended, hawake.ready⟩

/-- Two receivers wait, and a message has woken one of them. -/
theorem mq_no_lost_wakeup_two : ∃ p,
    twoBlocksRun [.recv 1, .go 1, .recv 2, .go 2, .send 0 false 7, .go 0, .go 0] = some p ∧
      p.1.suspendThread = [2] ∧ p.2.waiting = [7] ∧ ∃ l : List (Fin 3), l.Nodup ∧
        (∀ t ∈ l, p.1.thread t = .receiving) ∧ p.2.waiting.length ≤ l.length := by
  have hrun : (twoBlocksRun [.recv 1, .go 1, .recv 2, .go 2, .send 0 false 7, .go 0,
      .go 0]).map (fun p => (p.1.suspendThread, p.2.waiting)) = some ([2], [7]) := by
    decide +kernel
  obtain ⟨p, hp, hobs⟩ := Option.map_eq_some_iff.mp hrun
  obtain ⟨hsuspended, hwaiting⟩ := Prod.ext_iff.mp hobs
  refine ⟨p, hp, hsuspended, hwaiting,
    (mq_no_lost_wakeup (reachable_of_twoBlocksRun hp)).2 fun hnone => ?_⟩
  exact absurd (hsuspended.symm.trans hnone) (List.cons_ne_nil 2 [])

end

/-! ## the queue of the firmware -/

section

variable {maxMsgs : UInt16} {p p' : MqSystem (Fin maxMsgs.toNat) τ α × Messages τ α}
  {t : τ} {urgent : Bool} {msg : α}

/-- No thread is filling or copying a block, and these are the messages. -/
structure Realises (priority : τ → Nat) (p : MqSystem (Fin maxMsgs.toNat) τ α × Messages τ α)
    (messages : List α) : Prop where
  reachable : (mqMachine maxMsgs priority).Reachable p
  idle : ∀ t, (p.1.thread t).block = none
  waiting : p.2.waiting = messages

/-- A step of the machine is one of the system. -/
theorem mqMachine_step {s' : MqSystem (Fin maxMsgs.toNat) τ α} {act : MqAction τ α}
    (hs : p.1.step priority act = some s') :
    (mqMachine maxMsgs priority).step p act = some (s', p.2.observe p.1 act s') :=
  Machine.observed_step_eq_some.mpr ⟨hs, rfl⟩

omit [DecidableEq ι] in
/-- To resume a thread gives no block away. -/
theorem MqSystem.block_resume {u : τ} (hu : (s.thread u).block = none) :
    (s.resume.thread u).block = none := by
  unfold MqSystem.resume
  split
  · exact hu
  · rename_i v l hfirst
    show ((s.setThread v .receiving).thread u).block = none
    by_cases huv : u = v
    · rw [huv, setThread_self]
      rfl
    · rw [setThread_of_ne huv]
      exact hu

omit [DecidableEq ι] in
theorem MqSystem.thread_resume {u : τ} (hu : u ∉ s.suspendThread) :
    s.resume.thread u = s.thread u := by
  unfold MqSystem.resume
  split
  · rfl
  · rename_i v l hfirst
    refine setThread_of_ne ?_
    rintro rfl
    exact hu (hfirst ▸ List.mem_cons_self)

omit [DecidableEq ι] in
theorem MqSystem.countEntry_cases (s : MqSystem ι τ α) :
    s.countEntry = s ∨
      s.countEntry = MqSystem.resume { s with mq := { s.mq with entry := s.mq.entry + 1 } } := by
  unfold MqSystem.countEntry
  split
  · exact .inr rfl
  · exact .inl rfl

omit [DecidableEq ι] in
theorem MqSystem.block_countEntry {u : τ} (hu : (s.thread u).block = none) :
    (s.countEntry.thread u).block = none := by
  obtain hsame | hresume := s.countEntry_cases
  · rw [hsame]
    exact hu
  · rw [hresume]
    exact block_resume hu

omit [DecidableEq ι] in
theorem MqSystem.thread_countEntry {u : τ} (hu : u ∉ s.suspendThread) :
    s.countEntry.thread u = s.thread u := by
  obtain hsame | hresume := s.countEntry_cases
  · rw [hsame]
  · rw [hresume]
    exact thread_resume hu

namespace Realises

variable {messages : List α}

/-- A block is free unless the queue is full. -/
theorem free_eq_none_iff (h : Realises priority p messages) :
    p.1.mq.msgQueueFree = none ↔ maxMsgs.toNat ≤ messages.length := by
  obtain ⟨free, queue, ⟨hlists, howned⟩, -, hcarries⟩ := mqOk_of_reachable h.reachable
  have hlength : messages.length = queue.length := by
    rw [← h.waiting, ← hcarries.waiting, List.length_map]
  have hnodup : (free ++ queue).Nodup := by
    refine List.nodup_append.mpr ⟨hlists.freed.nodup, hlists.queued.nodup, ?_⟩
    rintro b hb c hc rfl
    exact hlists.disjoint b hb hc
  have hall : ∀ b, b ∈ free ++ queue := fun b => by
    rw [List.mem_append]
    exact howned.mem_iff.mpr fun ⟨t, ht⟩ => by simp [h.idle t] at ht
  have hcount : free.length + queue.length = maxMsgs.toNat := by
    have huniv : (free ++ queue).toFinset = Finset.univ :=
      Finset.eq_univ_of_forall fun b => List.mem_toFinset.mpr (hall b)
    rw [← List.length_append, ← List.toFinset_card_of_nodup hnodup, huniv, Finset.card_univ,
      Fintype.card_fin]
  rw [hlength]
  cases free with
  | nil => exact iff_of_true hlists.freed (Nat.le_of_eq (by simpa using hcount.symm))
  | cons b free =>
      refine iff_of_false (by simp [hlists.freed.1]) ?_
      simp only [List.length_cons] at hcount
      omega

/-- What `rt_mq_send` and `rt_mq_urgent` do to the messages, when no other
thread comes between. -/
def sent (maxMsgs : UInt16) (urgent : Bool) (msg : α) (messages : List α) : List α :=
  if messages.length < maxMsgs.toNat then
    if urgent then msg :: messages else messages ++ [msg]
  else messages

theorem send (h : Realises priority p messages) (ht : p.1.thread t = .out) (urgent : Bool)
    (msg : α) : ∃ acts p', (∀ act ∈ acts, MqAction.thread act = t) ∧
      (mqMachine maxMsgs priority).runFrom p acts = some p' ∧
      Realises priority p' (sent maxMsgs urgent msg messages) ∧ p'.1.thread t = .out := by
  cases hfree : p.1.mq.msgQueueFree with
  | none =>
      have hfull := h.free_eq_none_iff.mp hfree
      have hstep : p.1.step priority (.send t urgent msg) = some p.1 := by
        simp [MqSystem.step, ht, MessageQueue.takeFree, hfree]
      refine ⟨[.send t urgent msg], _, by simp [MqAction.thread],
        by rw [Machine.runFrom, mqMachine_step hstep]; rfl, ?_, ht⟩
      rw [sent, if_neg (Nat.not_lt.mpr hfull)]
      exact ⟨h.reachable.step (mqMachine_step hstep), h.idle, h.waiting⟩
  | some b =>
      have hroom : messages.length < maxMsgs.toNat := by
        by_contra hfull
        simp [h.free_eq_none_iff.mpr (Nat.le_of_not_lt hfull)] at hfree
      -- the three steps of the sender
      obtain ⟨s₁, hs₁, ht₁, hother₁⟩ : ∃ s₁, p.1.step priority (.send t urgent msg) = some s₁ ∧
          s₁.thread t = .sending urgent msg b ∧ ∀ u, u ≠ t → s₁.thread u = p.1.thread u :=
        ⟨{ p.1.setThread t (.sending urgent msg b) with
            mq := { p.1.mq with msgQueueFree := p.1.mq.next b } },
          by simp only [MqSystem.step, ht, MessageQueue.takeFree, hfree, Option.map_some],
          MqSystem.setThread_self, fun u hu => MqSystem.setThread_of_ne hu⟩
      obtain ⟨s₂, hs₂, ht₂, hother₂⟩ : ∃ s₂, s₁.step priority (.go t) = some s₂ ∧
          s₂.thread t = .linking urgent msg b ∧ ∀ u, u ≠ t → s₂.thread u = s₁.thread u :=
        ⟨{ s₁.setThread t (.linking urgent msg b) with mq := s₁.mq.copyIn urgent msg b },
          by simp only [MqSystem.step, MqSystem.go, ht₁],
          MqSystem.setThread_self, fun u hu => MqSystem.setThread_of_ne hu⟩
      have hs₃ : s₂.step priority (.go t) =
          some { s₂.setThread t .out with mq := s₂.mq.link urgent b }.countEntry := by
        simp only [MqSystem.step, MqSystem.go, ht₂]
      have hstep₁ : (mqMachine maxMsgs priority).step p (.send t urgent msg) = some (s₁, p.2) :=
        mqMachine_step hs₁
      have hstep₂ : (mqMachine maxMsgs priority).step (s₁, p.2) (.go t) = some (s₂, p.2) := by
        refine (mqMachine_step (p := (s₁, p.2)) hs₂).trans ?_
        simp only [Messages.observe, ht₁]
      have hstep₃ := mqMachine_step (p := (s₂, p.2)) hs₃
      have hreach₂ := (h.reachable.step hstep₁).step hstep₂
      have hidle : ∀ u, ((s₂.setThread t .out).thread u).block = none := by
        intro u
        by_cases hu : u = t
        · rw [hu, MqSystem.setThread_self]
          rfl
        · rw [MqSystem.setThread_of_ne hu, hother₂ u hu, hother₁ u hu]
          exact h.idle u
      have hlisted : t ∉ MqSystem.suspendThread
          { s₂.setThread t .out with mq := s₂.mq.link urgent b } := by
        obtain ⟨_, _, -, hawake, -⟩ := mqOk_of_reachable hreach₂
        show t ∉ s₂.suspendThread
        simp [hawake.suspended t, ht₂]
      refine ⟨[.send t urgent msg, .go t, .go t], _, by simp [MqAction.thread], ?_,
        ⟨hreach₂.step hstep₃, fun u => MqSystem.block_countEntry (hidle u), ?_⟩, ?_⟩
      · simp only [Machine.runFrom, hstep₁, hstep₂, hstep₃, Option.bind_some]
      · simp only [Messages.observe, ht₂, Messages.add, sent, if_pos hroom, h.waiting]
      · exact (MqSystem.thread_countEntry hlisted).trans MqSystem.setThread_self

/-- A thread that calls `rt_mq_recv` holds no block yet. -/
theorem enter (h : Realises priority p messages) (ht : p.1.thread t = .out) :
    ∃ p', (mqMachine maxMsgs priority).step p (.recv t) = some p' ∧
      Realises priority p' messages ∧ p'.1.thread t = .receiving := by
  have hs : p.1.step priority (.recv t) = some (p.1.setThread t .receiving) := by
    simp only [MqSystem.step, ht]
  have hstep : (mqMachine maxMsgs priority).step p (.recv t) =
      some (p.1.setThread t .receiving, p.2) := mqMachine_step hs
  refine ⟨_, hstep, ⟨h.reachable.step hstep, fun u => ?_, h.waiting⟩, MqSystem.setThread_self⟩
  by_cases hu : u = t
  · rw [hu, MqSystem.setThread_self]
    rfl
  · rw [MqSystem.setThread_of_ne hu]
    exact h.idle u

/-- `rt_mq_recv`, from the test of `entry` on. -/
theorem recv {rest : List α} (h : Realises priority p (msg :: rest))
    (ht : p.1.thread t = .receiving) : ∃ p',
      (mqMachine maxMsgs priority).runFrom p [.go t, .go t, .go t] = some p' ∧
      p'.2.given t = some msg ∧ Realises priority p' rest ∧ p'.1.thread t = .out := by
  obtain ⟨free, queue, ⟨hlists, -⟩, -, hcarries⟩ := mqOk_of_reachable h.reachable
  have hwaiting := hcarries.waiting.trans h.waiting
  obtain ⟨b, queue, rfl⟩ : ∃ b queue', queue = b :: queue' := by
    cases queue with
    | nil => cases hwaiting
    | cons b queue => exact ⟨b, queue, rfl⟩
  have hentry : p.1.mq.entry ≠ 0 := fun hzero => by simpa using hlists.entry_eq_zero hzero
  have hgive : p.2.give t = ⟨rest, Function.update p.2.given t (some msg)⟩ := by
    simp only [Messages.give, h.waiting]
  -- the three steps of the receiver
  obtain ⟨s₁, hs₁, ht₁, hother₁⟩ : ∃ s₁, p.1.step priority (.go t) = some s₁ ∧
      s₁.thread t = .copying b ∧ ∀ u, u ≠ t → s₁.thread u = p.1.thread u :=
    ⟨{ p.1.setThread t (.copying b) with mq := p.1.mq.unlinkHead b },
      by
        simp only [MqSystem.step, MqSystem.go, ht, if_neg hentry, hlists.takeHead, Option.map_some],
      MqSystem.setThread_self, fun u hu => MqSystem.setThread_of_ne hu⟩
  obtain ⟨s₂, hs₂, ht₂, hother₂⟩ : ∃ s₂, s₁.step priority (.go t) = some s₂ ∧
      s₂.thread t = .freeing (s₁.mq.message b) b ∧ ∀ u, u ≠ t → s₂.thread u = s₁.thread u :=
    ⟨s₁.setThread t (.freeing (s₁.mq.message b) b), by simp only [MqSystem.step, MqSystem.go, ht₁],
      MqSystem.setThread_self, fun u hu => MqSystem.setThread_of_ne hu⟩
  obtain ⟨s₃, hs₃, ht₃, hother₃⟩ : ∃ s₃, s₂.step priority (.go t) = some s₃ ∧
      s₃.thread t = .out ∧ ∀ u, u ≠ t → s₃.thread u = s₂.thread u :=
    ⟨{ s₂.setThread t .out with mq := s₂.mq.putFree b },
      by simp only [MqSystem.step, MqSystem.go, ht₂],
      MqSystem.setThread_self, fun u hu => MqSystem.setThread_of_ne hu⟩
  have hstep₁ : (mqMachine maxMsgs priority).step p (.go t) = some (s₁, p.2.give t) := by
    refine (mqMachine_step hs₁).trans ?_
    simp only [Messages.observe, ht, if_neg hentry]
  have hstep₂ : (mqMachine maxMsgs priority).step (s₁, p.2.give t) (.go t) =
      some (s₂, p.2.give t) := by
    refine (mqMachine_step (p := (s₁, p.2.give t)) hs₂).trans ?_
    simp only [Messages.observe, ht₁]
  have hstep₃ : (mqMachine maxMsgs priority).step (s₂, p.2.give t) (.go t) =
      some (s₃, p.2.give t) := by
    refine (mqMachine_step (p := (s₂, p.2.give t)) hs₃).trans ?_
    simp only [Messages.observe, ht₂]
  refine ⟨(s₃, p.2.give t), ?_, ?_, ⟨?_, fun u => ?_, congrArg Messages.waiting hgive⟩, ht₃⟩
  · simp only [Machine.runFrom, hstep₁, hstep₂, hstep₃, Option.bind_some]
  · rw [hgive]
    exact Function.update_self ..
  · exact ((h.reachable.step hstep₁).step hstep₂).step hstep₃
  · by_cases hu : u = t
    · rw [hu, ht₃]
      rfl
    · rw [hother₃ u hu, hother₂ u hu, hother₁ u hu]
      exact h.idle u

end Realises

end

end

end WaterValve
