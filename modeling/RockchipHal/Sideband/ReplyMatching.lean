import RockchipHal.Lib.Ledger
import RockchipHal.Lib.Reach
import RockchipHal.Sideband.Window

/-!
# Which reply a synchronous `send` returns

Any number of senders, and a receiver that replies to the id of each message it has taken.
The slot of an id is armed by each synchronous `send` and set by each reply of the id, so
what a `send` finds there need not be the reply to its own message:

    returned status = that of a reply for the id, issued since the send
    … = that of the reply to the message itself, if no message of the id was unanswered then
        and none has been sent since                                     (send_returns)

A `send` reads the slot once to leave its loop and once for the status.  In between another
can arm it, since that is done under the mutex of the queue.

Messages are numbered, so that each reply in the log names the message it was issued for.
-/

namespace RockchipHal.Sideband

/-- A message by its number, with its id. -/
structure Envelope where
  call : Nat
  id : Int
deriving DecidableEq, Repr

inductive SlotEvent
  /-- The message is in the queue; `waits` for a synchronous `send`. -/
  | sent (e : Envelope) (waits : Bool)
  /-- The receiver's reply after it has received `e`. -/
  | replied (e : Envelope) (status : Int)
  /-- The synchronous `send` of `e` returns. -/
  | returned (e : Envelope) (status : Int)
deriving DecidableEq, Repr

/-- `received` is the message taken and not yet replied to, `waiting` those whose `send` is
in its loop, `leaving` those whose `send` has left it; the log is oldest first. -/
structure Exchange (numReply : Nat) where
  queue : MessageQueue Envelope numReply
  received : Option Envelope
  waiting : List Envelope
  leaving : List Envelope
  calls : Nat
  log : List SlotEvent

inductive ExchangeAction
  | send (id : Int) (sync : Bool)
  | receive
  | reply (status : Int)
  | leavesLoop (e : Envelope)
  | sendReturns (e : Envelope)
deriving DecidableEq, Repr

/-- The messages sent, in order. -/
def sentOf (log : List SlotEvent) : List Envelope :=
  log.filterMap fun
    | .sent e _ => some e
    | _ => none

/-- The messages replied to, in order. -/
def repliedOf (log : List SlotEvent) : List Envelope :=
  log.filterMap fun
    | .replied e _ => some e
    | _ => none

@[simp] theorem sentOf_append (log log' : List SlotEvent) :
    sentOf (log ++ log') = sentOf log ++ sentOf log' := List.filterMap_append

@[simp] theorem repliedOf_append (log log' : List SlotEvent) :
    repliedOf (log ++ log') = repliedOf log ++ repliedOf log' := List.filterMap_append

theorem mem_repliedOf {log : List SlotEvent} {e : Envelope} :
    e ∈ repliedOf log ↔ ∃ status, .replied e status ∈ log := by
  unfold repliedOf
  rw [List.mem_filterMap]
  constructor
  · rintro ⟨ev, hev, he⟩
    cases ev with
    | sent e' waits => cases he
    | replied e' status =>
      cases he
      exact ⟨status, hev⟩
    | returned e' status => cases he
  · rintro ⟨status, hev⟩
    exact ⟨_, hev, rfl⟩

namespace Exchange

variable {numReply : Nat}

def start : Exchange numReply := ⟨.empty, none, [], [], 0, []⟩

/-- A `send` that fails returns `BAD_VALUE` at once and sends nothing. -/
def send (s : Exchange numReply) (id : Int) (sync : Bool) : Exchange numReply :=
  let replyId := if sync then id else noReply
  let sent := s.queue.send ⟨s.calls, id⟩ replyId
  if sent.1 = noError then
    { s with
      queue := sent.2
      waiting := if 0 ≤ replyId then ⟨s.calls, id⟩ :: s.waiting else s.waiting
      calls := s.calls + 1
      log := s.log ++ [.sent ⟨s.calls, id⟩ (0 ≤ replyId)] }
  else { s with calls := s.calls + 1 }

def step (s : Exchange numReply) : ExchangeAction → Option (Exchange numReply)
  | .send id sync => some (s.send id sync)
  | .receive =>
    if s.received = none then
      s.queue.receive.map fun taken => { s with queue := taken.2, received := some taken.1 }
    else none
  | .reply status =>
    s.received.map fun e =>
      { s with
        queue := s.queue.reply e.id status
        received := none
        log := s.log ++ [.replied e status] }
  | .leavesLoop e =>
    if e ∈ s.waiting ∧ s.queue.mReplyStatus e.id ≠ wouldBlock then
      some { s with waiting := s.waiting.erase e, leaving := e :: s.leaving }
    else none
  | .sendReturns e =>
    if e ∈ s.leaving then
      some { s with
        leaving := s.leaving.erase e
        log := s.log ++ [.returned e (s.queue.mReplyStatus e.id)] }
    else none

/-! ## The log -/

/-- Since the synchronous `send` of `e`, a reply for its id has set the status, or another
`send` has armed the slot. -/
def Returnable (log : List SlotEvent) (e : Envelope) (status : Int) : Prop :=
  ∃ before since, log = before ++ .sent e true :: since ∧
    ((∃ m, m.id = e.id ∧ .replied m status ∈ since) ∨
      status = wouldBlock ∧ ∃ m ∈ sentOf since, m.id = e.id)

namespace Returnable

variable {log : List SlotEvent} {e m : Envelope} {status : Int}

theorem append (h : Returnable log e status) (more : List SlotEvent) :
    Returnable (log ++ more) e status := by
  obtain ⟨before, since, rfl, hsince⟩ := h
  refine ⟨before, since ++ more, by simp, ?_⟩
  rcases hsince with ⟨m, hid, hm⟩ | ⟨hblock, m, hm, hid⟩
  · exact .inl ⟨m, hid, List.mem_append_left more hm⟩
  · rw [sentOf_append]
    exact .inr ⟨hblock, m, List.mem_append_left _ hm, hid⟩

theorem of_replied (hsent : .sent e true ∈ log) (hid : m.id = e.id) (status : Int) :
    Returnable (log ++ [.replied m status]) e status := by
  obtain ⟨before, since, rfl⟩ := List.append_of_mem hsent
  exact ⟨before, since ++ [.replied m status], by simp, .inl ⟨m, hid, by simp⟩⟩

theorem of_sent (hsent : .sent e true ∈ log) (hid : m.id = e.id) (waits : Bool) :
    Returnable (log ++ [.sent m waits]) e wouldBlock := by
  obtain ⟨before, since, rfl⟩ := List.append_of_mem hsent
  refine ⟨before, since ++ [.sent m waits], by simp, .inr ⟨rfl, m, ?_, hid⟩⟩
  rw [sentOf_append]
  exact List.mem_append_right _ (List.mem_singleton_self m)

theorem mem (h : Returnable log e status) : .sent e true ∈ log := by
  obtain ⟨before, since, rfl, -⟩ := h
  exact List.mem_append_right _ List.mem_cons_self

end Returnable

/-- What the log is like: messages are replied to in the order they were sent, and each
return had a status to give. -/
structure WellLogged (log : List SlotEvent) : Prop where
  once : (sentOf log).Nodup
  answered : ∀ l, l <+: log → repliedOf l <+: sentOf l
  returned : ∀ l e status r, log = l ++ .returned e status :: r → Returnable l e status

namespace WellLogged

variable {log : List SlotEvent}

theorem nil : WellLogged [] where
  once := List.nodup_nil
  answered := by
    intro l hl
    rw [List.prefix_nil.mp hl]
    exact List.prefix_refl _
  returned := by
    intro l e status r h
    exact absurd h.symm (by simp)

/-- A further event keeps the log as it should be if it is such an event. -/
theorem push (h : WellLogged log) {ev : SlotEvent} (honce : (sentOf (log ++ [ev])).Nodup)
    (hanswered : repliedOf (log ++ [ev]) <+: sentOf (log ++ [ev]))
    (hreturned : ∀ e status, ev = .returned e status → Returnable log e status) :
    WellLogged (log ++ [ev]) where
  once := honce
  answered := by
    intro l hl
    rcases List.prefix_concat_iff.mp hl with rfl | hl
    · exact hanswered
    · exact h.answered l hl
  returned := by
    intro l e status r heq
    rcases append_singleton_split _ _ _ _ _ heq with ⟨-, hev, rfl⟩ | ⟨r', -, hlog⟩
    · exact hreturned e status hev.symm
    · exact h.returned l e status r' hlog

end WellLogged

/-! ## The invariant -/

structure Matched (s : Exchange numReply) : Prop where
  logged : WellLogged s.log
  fresh : ∀ e ∈ sentOf s.log, e.call < s.calls
  queued : sentOf s.log = repliedOf s.log ++ s.received.toList ++ s.queue.mList.reverse
  slots : ∀ e, e ∈ s.waiting ∨ e ∈ s.leaving → 0 ≤ e.id ∧ e.id < numReply
  waiting : ∀ e ∈ s.waiting, .sent e true ∈ s.log ∧
    (s.queue.mReplyStatus e.id = wouldBlock ∨
      Returnable s.log e (s.queue.mReplyStatus e.id))
  leaving : ∀ e ∈ s.leaving, Returnable s.log e (s.queue.mReplyStatus e.id)

theorem matched_start : Matched (start : Exchange numReply) where
  logged := .nil
  fresh := by
    intro e he
    cases he
  queued := rfl
  slots := by
    rintro e (he | he) <;> cases he
  waiting := by
    intro e he
    cases he
  leaving := by
    intro e he
    cases he

namespace Matched

variable {s s' : Exchange numReply}

/-- The queue after a `send` that has not failed: one message more, and its slot armed if
it is synchronous. -/
theorem send_queue {q : MessageQueue Envelope numReply} {e : Envelope} {replyId : Int}
    (h : (q.send e replyId).1 = noError) :
    (q.send e replyId).2.mList = e :: q.mList ∧
      ∀ i, (q.send e replyId).2.mReplyStatus i =
        if 0 ≤ replyId ∧ i = replyId then wouldBlock else q.mReplyStatus i := by
  rcases MessageQueue.send_cases q e h with rfl | ⟨h0, hlt⟩
  · rw [MessageQueue.send_noReply]
    refine ⟨rfl, fun i => (if_neg ?_).symm⟩
    rintro ⟨hneg, -⟩
    exact absurd hneg (by decide)
  · rw [MessageQueue.send_replyId q e h0 hlt]
    refine ⟨rfl, fun i => ?_⟩
    show (if i = replyId then wouldBlock else q.mReplyStatus i) = _
    by_cases hi : i = replyId
    · rw [if_pos hi, if_pos ⟨h0, hi⟩]
    · rw [if_neg hi, if_neg fun h => hi h.2]

/-- The message that a `send` adds to the log is new there, and the last in the queue. -/
theorem sentOf_send (h : Matched s) (id : Int) {replyId : Int} (waits : Bool)
    (hok : (s.queue.send ⟨s.calls, id⟩ replyId).1 = noError) :
    (sentOf (s.log ++ [.sent ⟨s.calls, id⟩ waits])).Nodup ∧
      sentOf (s.log ++ [.sent ⟨s.calls, id⟩ waits]) =
        repliedOf (s.log ++ [.sent ⟨s.calls, id⟩ waits]) ++ s.received.toList ++
          (s.queue.send ⟨s.calls, id⟩ replyId).2.mList.reverse := by
  have hnew : sentOf (s.log ++ [.sent ⟨s.calls, id⟩ waits]) = sentOf s.log ++ [⟨s.calls, id⟩] :=
    sentOf_append _ _
  have hsame : repliedOf (s.log ++ [.sent ⟨s.calls, id⟩ waits]) = repliedOf s.log := by
    rw [repliedOf_append]
    exact List.append_nil _
  rw [hnew, hsame]
  constructor
  · rw [List.nodup_append]
    refine ⟨h.logged.once, by simp, fun e he e' he' heq => ?_⟩
    have hlt := h.fresh e he
    rw [heq, List.mem_singleton.mp he'] at hlt
    exact absurd hlt (Nat.lt_irrefl s.calls)
  · rw [(send_queue hok).1, List.reverse_cons, ← List.append_assoc, ← h.queued]

/-- A `send` that has not failed is asynchronous, or its slot is that of its id. -/
theorem send_slot {q : MessageQueue Envelope numReply} {e : Envelope} (id : Int) (sync : Bool)
    (hok : (q.send e (if sync then id else noReply)).1 = noError)
    (h0 : 0 ≤ if sync then id else noReply) :
    (if sync then id else noReply) = id ∧ 0 ≤ id ∧ id < numReply := by
  cases sync with
  | true =>
    rcases MessageQueue.send_cases q e hok with hnone | hlt
    · rw [hnone] at h0
      exact absurd h0 (by decide)
    · exact ⟨rfl, hlt⟩
  | false => exact absurd (show 0 ≤ noReply from h0) (by decide)

theorem send_failed (h : Matched s) : Matched { s with calls := s.calls + 1 } where
  logged := h.logged
  fresh := fun e he => Nat.lt_succ_of_lt (h.fresh e he)
  queued := h.queued
  slots := h.slots
  waiting := h.waiting
  leaving := h.leaving

theorem send (h : Matched s) (id : Int) (sync : Bool) : Matched (s.send id sync) := by
  unfold Exchange.send
  dsimp only
  by_cases hok : (s.queue.send ⟨s.calls, id⟩ (if sync then id else noReply)).1 = noError
  · have hslot := (send_queue hok).2
    have hsend := send_slot id sync hok
    rw [if_pos hok]
    generalize hreply : (if sync then id else noReply) = replyId at *
    obtain ⟨honce, hqueued⟩ := h.sentOf_send id (0 ≤ replyId) hok
    refine ⟨h.logged.push honce ?_ ?_, ?_, hqueued, ?_, ?_, ?_⟩
    · rw [hqueued, List.append_assoc]
      exact List.prefix_append _ _
    · intro e status hev
      cases hev
    · intro e he
      show e.call < s.calls + 1
      rw [sentOf_append] at he
      rcases List.mem_append.mp he with he | he
      · exact Nat.lt_succ_of_lt (h.fresh e he)
      · rw [List.mem_singleton.mp he]
        exact Nat.lt_succ_self s.calls
    · intro e he
      dsimp only at he
      split at he
      · next h0 =>
        rcases he with he | he
        · rcases List.mem_cons.mp he with rfl | he
          · exact (hsend h0).2
          · exact h.slots e (.inl he)
        · exact h.slots e (.inr he)
      · exact h.slots e he
    · intro e he
      dsimp only at he ⊢
      rw [hslot]
      split at he
      · next h0 =>
        rcases List.mem_cons.mp he with rfl | he
        · rw [if_pos ⟨h0, (hsend h0).1.symm⟩]
          refine ⟨List.mem_append_right _ ?_, .inl rfl⟩
          rw [decide_eq_true h0]
          exact List.mem_singleton_self _
        · obtain ⟨hsent, hstatus⟩ := h.waiting e he
          refine ⟨List.mem_append_left _ hsent, ?_⟩
          split
          · exact .inl rfl
          · exact hstatus.imp_right fun hr => hr.append _
      · next h0 =>
        obtain ⟨hsent, hstatus⟩ := h.waiting e he
        rw [if_neg fun hc => h0 hc.1]
        exact ⟨List.mem_append_left _ hsent, hstatus.imp_right fun hr => hr.append _⟩
    · intro e he
      dsimp only at he ⊢
      rw [hslot]
      split
      · next hc =>
        -- armed once more, behind the back of a `send` that has left its loop
        have hid : id = e.id := by rw [hc.2, (hsend hc.1).1]
        exact .of_sent (h.leaving e he).mem hid _
      · exact (h.leaving e he).append _
  · rw [if_neg hok]
    exact h.send_failed

theorem receive (h : Matched s) {e : Envelope} {queue : MessageQueue Envelope numReply}
    (hnone : s.received = none) (htaken : s.queue.receive = some (e, queue)) :
    Matched { s with queue := queue, received := some e } := by
  have hsame : queue.mReplyStatus = s.queue.mReplyStatus := by
    unfold MessageQueue.receive at htaken
    obtain ⟨m, -, hm⟩ := Option.map_eq_some_iff.mp htaken
    cases hm
    rfl
  refine ⟨h.logged, h.fresh, ?_, h.slots, ?_, ?_⟩
  · have hqueued := h.queued
    have hlist := MessageQueue.receive_eq_some _ _ _ htaken
    rw [hnone, hlist, List.reverse_append] at hqueued
    rw [hqueued]
    simp
  · dsimp only
    rw [hsame]
    exact h.waiting
  · dsimp only
    rw [hsame]
    exact h.leaving

theorem reply (h : Matched s) {e : Envelope} (hreceived : s.received = some e) (status : Int) :
    Matched { s with
      queue := s.queue.reply e.id status
      received := none
      log := s.log ++ [.replied e status] } := by
  have hsame : sentOf (s.log ++ [.replied e status]) = sentOf s.log := by
    rw [sentOf_append]
    exact List.append_nil _
  have hnew : repliedOf (s.log ++ [.replied e status]) = repliedOf s.log ++ [e] :=
    repliedOf_append _ _
  have hqueued : sentOf s.log = repliedOf s.log ++ [e] ++ s.queue.mList.reverse := by
    rw [h.queued, hreceived]
    rfl
  have hstatus : ∀ e' : Envelope, .sent e' true ∈ s.log → e'.id = e.id →
      0 ≤ e'.id ∧ e'.id < numReply →
      Returnable (s.log ++ [.replied e status]) e'
        ((s.queue.reply e.id status).mReplyStatus e'.id) := by
    rintro e' hsent hid ⟨h0, hlt⟩
    have hset := MessageQueue.reply_mReplyStatus_self s.queue h0 hlt status
    rw [hid] at hset ⊢
    rw [hset]
    exact .of_replied hsent hid.symm status
  refine ⟨h.logged.push ?_ ?_ ?_, ?_, ?_, h.slots, ?_, ?_⟩
  · rw [hsame]
    exact h.logged.once
  · rw [hsame, hnew, hqueued]
    exact List.prefix_append _ _
  · intro e' status' hev
    cases hev
  · rw [hsame]
    exact h.fresh
  · rw [hsame, hnew, MessageQueue.reply_mList]
    exact hqueued.trans (by simp)
  · intro e' he'
    obtain ⟨hsent, hslot⟩ := h.waiting e' he'
    refine ⟨List.mem_append_left _ hsent, ?_⟩
    dsimp only
    by_cases hid : e'.id = e.id
    · exact .inr (hstatus e' hsent hid (h.slots e' (.inl he')))
    · rw [MessageQueue.reply_mReplyStatus_ne s.queue hid status]
      exact hslot.imp_right fun hr => hr.append _
  · intro e' he'
    dsimp only
    by_cases hid : e'.id = e.id
    · exact hstatus e' (h.leaving e' he').mem hid (h.slots e' (.inr he'))
    · rw [MessageQueue.reply_mReplyStatus_ne s.queue hid status]
      exact (h.leaving e' he').append _

theorem leavesLoop (h : Matched s) {e : Envelope} (he : e ∈ s.waiting)
    (hset : s.queue.mReplyStatus e.id ≠ wouldBlock) :
    Matched { s with waiting := s.waiting.erase e, leaving := e :: s.leaving } where
  logged := h.logged
  fresh := h.fresh
  queued := h.queued
  slots := by
    rintro e' (he' | he')
    · exact h.slots e' (.inl (List.mem_of_mem_erase he'))
    · rcases List.mem_cons.mp he' with rfl | he'
      · exact h.slots e' (.inl he)
      · exact h.slots e' (.inr he')
  waiting := fun e' he' => h.waiting e' (List.mem_of_mem_erase he')
  leaving := by
    intro e' he'
    rcases List.mem_cons.mp he' with rfl | he'
    · exact (h.waiting e' he).2.resolve_left hset
    · exact h.leaving e' he'

theorem sendReturns (h : Matched s) {e : Envelope} (he : e ∈ s.leaving) :
    Matched { s with
      leaving := s.leaving.erase e
      log := s.log ++ [.returned e (s.queue.mReplyStatus e.id)] } := by
  have hsent : sentOf (s.log ++ [.returned e (s.queue.mReplyStatus e.id)]) = sentOf s.log := by
    rw [sentOf_append]
    exact List.append_nil _
  have hreplied : repliedOf (s.log ++ [.returned e (s.queue.mReplyStatus e.id)]) =
      repliedOf s.log := by
    rw [repliedOf_append]
    exact List.append_nil _
  refine ⟨h.logged.push ?_ ?_ ?_, ?_, ?_, ?_, ?_, ?_⟩
  · rw [hsent]
    exact h.logged.once
  · rw [hsent, hreplied]
    exact h.logged.answered _ (List.prefix_refl _)
  · intro e' status hev
    cases hev
    exact h.leaving e he
  · rw [hsent]
    exact h.fresh
  · rw [hsent, hreplied]
    exact h.queued
  · exact fun e' he' => h.slots e' (he'.imp_right List.mem_of_mem_erase)
  · intro e' he'
    obtain ⟨hmem, hslot⟩ := h.waiting e' he'
    exact ⟨List.mem_append_left _ hmem, hslot.imp_right fun hr => hr.append _⟩
  · exact fun e' he' => (h.leaving e' (List.mem_of_mem_erase he')).append _

theorem step (h : Matched s) {a : ExchangeAction} (hstep : s.step a = some s') : Matched s' := by
  cases a with
  | send id sync =>
    cases hstep
    exact h.send id sync
  | receive =>
    simp only [Exchange.step] at hstep
    split at hstep
    · next hnone =>
      obtain ⟨⟨e, queue⟩, htaken, rfl⟩ := Option.map_eq_some_iff.mp hstep
      exact h.receive hnone htaken
    · cases hstep
  | reply status =>
    obtain ⟨e, hreceived, rfl⟩ := Option.map_eq_some_iff.mp hstep
    exact h.reply hreceived status
  | leavesLoop e =>
    simp only [Exchange.step] at hstep
    split at hstep
    · next hret =>
      cases hstep
      exact h.leavesLoop hret.1 hret.2
    · cases hstep
  | sendReturns e =>
    simp only [Exchange.step] at hstep
    split at hstep
    · next hret =>
      cases hstep
      exact h.sendReturns hret
    · cases hstep

end Matched

theorem matched_reach {s : Exchange numReply}
    (hs : Reach step (fun _ _ => True) start s) : Matched s :=
  hs.inv Matched matched_start fun _ _ _ h _ hstep => h.step hstep

/-! ## What a synchronous send returns -/

theorem WellLogged.own_reply {log : List SlotEvent} (h : WellLogged log)
    {before since : List SlotEvent} {e m : Envelope} {status : Int}
    (hlog : before ++ .sent e true :: since <+: log) (hm : .replied m status ∈ since)
    (hbefore : m ∈ sentOf before → m ∈ repliedOf before) (hsince : m ∉ sentOf since) :
    m = e := by
  have hprefix := h.answered _ hlog
  have hsub : (sentOf (before ++ .sent e true :: since)).Sublist (sentOf log) :=
    hlog.sublist.filterMap _
  have hreplied : repliedOf (before ++ .sent e true :: since) =
      repliedOf before ++ repliedOf since := repliedOf_append _ _
  have hsent : sentOf (before ++ .sent e true :: since) =
      sentOf before ++ e :: sentOf since := sentOf_append _ _
  have hmem : m ∈ repliedOf since := mem_repliedOf.mpr ⟨status, hm⟩
  have hnodup : (repliedOf before ++ repliedOf since).Nodup := by
    rw [← hreplied]
    exact (h.once.sublist hsub).sublist hprefix.sublist
  have hwas : m ∈ sentOf before ++ e :: sentOf since := by
    rw [← hsent]
    refine hprefix.subset ?_
    rw [hreplied]
    exact List.mem_append_right _ hmem
  rcases List.mem_append.mp hwas with hwas | hwas
  · -- replied to before the send, and again since
    exact absurd rfl ((List.nodup_append.mp hnodup).2.2 m (hbefore hwas) m hmem)
  · rcases List.mem_cons.mp hwas with rfl | hwas
    · rfl
    · exact absurd hwas hsince

/-- **Replies are matched by id.**  No message is sent twice.  Unless the slot has been armed
behind its back, the status that a synchronous `send` returns is that of a reply for its id
issued since; and if every earlier message of the id had been replied to when it was sent,
and none of the id has been sent since, it is that of the reply to the message itself. -/
theorem send_returns (s : Exchange numReply) (hs : Reach step (fun _ _ => True) start s) :
    (sentOf s.log).Nodup ∧
      ∀ l e status r, s.log = l ++ .returned e status :: r →
        ∃ before since, l = before ++ .sent e true :: since ∧
          ((status ≠ wouldBlock ∨ ∀ m ∈ sentOf since, m.id ≠ e.id) →
            ∃ m, m.id = e.id ∧ .replied m status ∈ since) ∧
          ((∀ m ∈ sentOf before, m.id = e.id → m ∈ repliedOf before) →
            (∀ m ∈ sentOf since, m.id ≠ e.id) → .replied e status ∈ since) := by
  have hlogged := (matched_reach hs).logged
  refine ⟨hlogged.once, fun l e status r hlog => ?_⟩
  obtain ⟨before, since, hl, hgiven⟩ := hlogged.returned l e status r hlog
  have hreply : (status ≠ wouldBlock ∨ ∀ m ∈ sentOf since, m.id ≠ e.id) →
      ∃ m, m.id = e.id ∧ .replied m status ∈ since := by
    intro hset
    rcases hgiven with hreply | ⟨hblock, m, hm, hid⟩
    · exact hreply
    · rcases hset with hset | hset
      · exact absurd hblock hset
      · exact absurd hid (hset m hm)
  refine ⟨before, since, hl, hreply, fun hbefore hsince => ?_⟩
  obtain ⟨m, hid, hm⟩ := hreply (.inr hsince)
  have hprefix : before ++ .sent e true :: since <+: s.log := by
    rw [← hl, hlog]
    exact List.prefix_append _ _
  have hown : m = e := hlogged.own_reply hprefix hm (fun hmem => hbefore m hmem hid)
    fun hmem => hsince m hmem hid
  rw [← hown]
  exact hm

/-- A synchronous `EXIT`, with no other message. -/
def exitActions : List ExchangeAction :=
  [.send MessageId.exit.code true, .receive, .reply 7, .leavesLoop ⟨0, 1⟩, .sendReturns ⟨0, 1⟩]

/-- It returns the reply to it. -/
theorem send_returns_exit :
    ∃ s ∈ run step (fun _ _ => True) (start : Exchange messageIdMax) exitActions,
      .returned ⟨0, 1⟩ 7 ∈ s.log ∧ .replied ⟨0, 1⟩ 7 ∈ s.log := by
  have hsome : (run step (fun _ _ => True) (start : Exchange messageIdMax) exitActions).isSome :=
    rfl
  have hlog : ((run step (fun _ _ => True) (start : Exchange messageIdMax) exitActions).get
      hsome).log = [.sent ⟨0, 1⟩ true, .replied ⟨0, 1⟩ 7] ++ .returned ⟨0, 1⟩ 7 :: [] := rfl
  obtain ⟨before, since, hl, -, hown⟩ :=
    (send_returns _ (Reach.of_run_get exitActions hsome)).2 _ _ _ _ hlog
  refine ⟨_, Option.get_mem hsome, by rw [hlog]; simp, ?_⟩
  rcases before with _ | ⟨first, rest⟩
  · rw [List.nil_append, List.cons.injEq] at hl
    rw [← hl.2] at hown
    rw [hlog]
    refine List.mem_append_left _ (List.mem_cons_of_mem _ (hown ?_ ?_))
    · intro m hm
      cases hm
    · intro m hm
      cases hm
  · rw [List.cons_append, List.cons.injEq] at hl
    have hmem : SlotEvent.sent ⟨0, 1⟩ true ∈ [SlotEvent.replied ⟨0, 1⟩ 7] := by
      rw [hl.2]
      simp
    simp at hmem

/-- A message of id 2 is received when a second is sent synchronously; the reply to the
first is what the second's `send` returns, before its own message is received.  And a `send`
that has left its loop on the reply 7 returns `WOULD_BLOCK`, as the next one of the id has
armed the slot. -/
theorem send_returns_other :
    (∃ s, Reach step (fun _ _ => True) (start : Exchange messageIdMax) s ∧
      s.log = [.sent ⟨0, 2⟩ false, .sent ⟨1, 2⟩ true, .replied ⟨0, 2⟩ 7, .returned ⟨1, 2⟩ 7] ∧
      ∀ status, SlotEvent.replied ⟨1, 2⟩ status ∉ s.log) ∧
    ∃ s, Reach step (fun _ _ => True) (start : Exchange messageIdMax) s ∧
      s.log = [.sent ⟨0, 2⟩ true, .replied ⟨0, 2⟩ 7, .sent ⟨1, 2⟩ true,
        .returned ⟨0, 2⟩ wouldBlock] := by
  constructor
  · refine ⟨_, Reach.of_run_get [.send 2 false, .receive, .send 2 true, .reply 7,
      .leavesLoop ⟨1, 2⟩, .sendReturns ⟨1, 2⟩] rfl, rfl, fun status h => ?_⟩
    have hlog : SlotEvent.replied ⟨1, 2⟩ status ∈
      [.sent ⟨0, 2⟩ false, .sent ⟨1, 2⟩ true, .replied ⟨0, 2⟩ 7, .returned ⟨1, 2⟩ 7] := h
    simp at hlog
  · exact ⟨_, Reach.of_run_get [.send 2 true, .receive, .reply 7, .leavesLoop ⟨0, 2⟩,
      .send 2 true, .sendReturns ⟨0, 2⟩] rfl, rfl⟩

end Exchange

end RockchipHal.Sideband
