import Mathlib.Data.List.Basic

/-!
# `MessageQueue`

The queue between the sideband window's callers and its render thread.  `send`
pushes at the front of the list and `receive` takes from its back, so messages
are received in the order sent.  A synchronous `send` names a reply slot and goes
on to wait on it; `send` here is the part before the wait, all of an asynchronous
one.
-/

namespace RockchipHal.Sideband

/-! ## utils/Errors.h -/

def noError : Int := 0
def badValue : Int := -22
def wouldBlock : Int := -11

/-- `replyId` of an asynchronous `send`. -/
def noReply : Int := -1

/-- A queue of `M`s with `numReply` reply slots. -/
structure MessageQueue (M : Type) (numReply : Nat) where
  mList : List M
  mReplyStatus : Int → Int

namespace MessageQueue

variable {M : Type} {numReply : Nat}

def empty : MessageQueue M numReply := ⟨[], fun _ => 0⟩

def setReplyStatus (q : MessageQueue M numReply) (replyId status : Int) :
    MessageQueue M numReply :=
  { q with mReplyStatus := fun i => if i = replyId then status else q.mReplyStatus i }

def send (q : MessageQueue M numReply) (msg : M) (replyId : Int) :
    Int × MessageQueue M numReply :=
  if replyId ≠ noReply ∧ numReply = 0 then (badValue, q)
  else if replyId < -1 ∨ (numReply : Int) ≤ replyId then (badValue, q)
  else
    let q := { q with mList := msg :: q.mList }
    if replyId ≠ noReply then (noError, q.setReplyStatus replyId wouldBlock)
    else (noError, q)

/-- The message taken and the queue left; `none` when `receive` has to wait. -/
def receive (q : MessageQueue M numReply) : Option (M × MessageQueue M numReply) :=
  q.mList.getLast?.map fun msg => (msg, { q with mList := q.mList.dropLast })

/-- The test lets `replyId = numReply` through, one past the slots. -/
def reply (q : MessageQueue M numReply) (replyId status : Int) : MessageQueue M numReply :=
  if replyId < 0 ∨ (numReply : Int) < replyId then q
  else q.setReplyStatus replyId status

/-- An asynchronous `send` succeeds and adds the message. -/
theorem send_noReply (q : MessageQueue M numReply) (msg : M) :
    q.send msg noReply = (noError, { q with mList := msg :: q.mList }) := by
  unfold send
  rw [if_neg fun h => h.1 rfl, if_neg]
  · simp
  · show ¬ ((-1 : Int) < -1 ∨ (numReply : Int) ≤ -1)
    omega

/-- A synchronous `send` with a reply slot adds the message too. -/
theorem send_replyId (q : MessageQueue M numReply) (msg : M) {replyId : Int} (h0 : 0 ≤ replyId)
    (hlt : replyId < numReply) :
    q.send msg replyId =
      (noError, { q with mList := msg :: q.mList }.setReplyStatus replyId wouldBlock) := by
  have hreply : replyId ≠ noReply := by
    show replyId ≠ -1
    omega
  unfold send
  rw [if_neg fun h => by omega, if_neg (by omega)]
  simp only [if_pos hreply]

/-- A `send` that does not fail is one of these two. -/
theorem send_cases (q : MessageQueue M numReply) (msg : M) {replyId : Int}
    (h : (q.send msg replyId).1 = noError) :
    replyId = noReply ∨ (0 ≤ replyId ∧ replyId < numReply) := by
  have hbad : badValue ≠ noError := by decide
  unfold send at h
  split at h
  · exact absurd h hbad
  split at h
  · exact absurd h hbad
  · unfold noReply
    omega

theorem receive_eq_some (q q' : MessageQueue M numReply) (msg : M)
    (h : q.receive = some (msg, q')) : q.mList = q'.mList ++ [msg] := by
  unfold receive at h
  rcases List.eq_nil_or_concat q.mList with hl | ⟨l, a, hl⟩
  · simp [hl] at h
  · rw [hl, List.concat_eq_append, List.getLast?_concat, List.dropLast_concat, Option.map_some,
      Option.some.injEq, Prod.mk.injEq] at h
    obtain ⟨rfl, rfl⟩ := h
    rw [hl, List.concat_eq_append]

theorem receive_eq_none (q : MessageQueue M numReply) (h : q.receive = none) : q.mList = [] := by
  unfold receive at h
  rw [Option.map_eq_none_iff] at h
  exact List.getLast?_eq_none_iff.mp h

@[simp] theorem reply_mList (q : MessageQueue M numReply) (replyId status : Int) :
    (q.reply replyId status).mList = q.mList := by
  unfold reply
  split <;> rfl

theorem setReplyStatus_self (q : MessageQueue M numReply) (replyId status : Int) :
    (q.setReplyStatus replyId status).mReplyStatus replyId = status :=
  if_pos rfl

theorem reply_mReplyStatus_self (q : MessageQueue M numReply) {replyId : Int} (h0 : 0 ≤ replyId)
    (hlt : replyId < numReply) (status : Int) :
    (q.reply replyId status).mReplyStatus replyId = status := by
  unfold reply
  rw [if_neg (by omega)]
  exact setReplyStatus_self q replyId status

/-- A reply sets its own slot. -/
theorem reply_mReplyStatus_ne (q : MessageQueue M numReply) {i replyId : Int} (h : i ≠ replyId)
    (status : Int) : (q.reply replyId status).mReplyStatus i = q.mReplyStatus i := by
  unfold reply
  split
  · rfl
  · exact if_neg h

end MessageQueue

end RockchipHal.Sideband
