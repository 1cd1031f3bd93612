import RockchipHal.Lib.Reach
import RockchipHal.Sideband.MessageQueue

/-!
# `MessageQueue`: bounds of the reply slots

The three arrays have `numReply` elements, and do not exist when that is 0.  `send` and `reply`
test a reply id each in its own way, and `remove` leaves the test to `reply`.  The test of
`send` is exact, that of `reply` lets one id too many through:

    every access of a run is in range ↔ no call of it answers at `numReply`     (slots_inRange_iff)
-/

namespace RockchipHal.Sideband

/-- `INVALID_OPERATION` -/
def invalidOperation : Int := -38

inductive ReplyArray
  | mReplyMutex
  | mReplyCondition
  | mReplyStatus
deriving DecidableEq, Repr

/-- An array and the index it is accessed at. -/
abbrev SlotAccess := ReplyArray × Int

/-! ## The accesses of each function -/

/-- The loop of `send`, left after `wakes` turns. -/
def waitAccesses (replyId : Int) : (wakes : Nat) → List SlotAccess
  | 0 => [(.mReplyStatus, replyId)]
  | wakes + 1 =>
    [(.mReplyStatus, replyId), (.mReplyCondition, replyId), (.mReplyStatus, replyId)] ++
      waitAccesses replyId wakes

def sendAccesses (numReply : Nat) (replyId : Int) (wakes : Nat) : List SlotAccess :=
  if replyId ≠ noReply ∧ numReply = 0 then []
  else if replyId < -1 ∨ (numReply : Int) ≤ replyId then []
  else
    (if replyId ≠ noReply then [(.mReplyStatus, replyId)] else []) ++
      if replyId ≠ noReply ∧ 0 ≤ replyId then
        (.mReplyMutex, replyId) :: waitAccesses replyId wakes ++ [(.mReplyStatus, replyId)]
      else []

def replyAccesses (numReply : Nat) (replyId : Int) : List SlotAccess :=
  if replyId < 0 ∨ (numReply : Int) < replyId then []
  else [(.mReplyMutex, replyId), (.mReplyStatus, replyId), (.mReplyCondition, replyId)]

namespace MessageQueue

variable {M : Type} {numReply : Nat} (msgId : M → Int)

/-- The messages removed, and the queue left. -/
def remove (q : MessageQueue M numReply) (id : Int) : List M × MessageQueue M numReply :=
  if q.mList.isEmpty then ([], q)
  else
    let vect := q.mList.filter fun msg => msgId msg = id
    let q := { q with mList := q.mList.filter fun msg => msgId msg ≠ id }
    -- unblock caller if waiting
    if 0 < numReply then (vect, q.reply id invalidOperation) else (vect, q)

def removeAccesses (q : MessageQueue M numReply) (id : Int) : List SlotAccess :=
  if q.mList.isEmpty then []
  else if 0 < numReply then replyAccesses numReply id
  else []

end MessageQueue

/-! ## Runs -/

/-- A call, from any thread.  A synchronous `send` wakes up `wakes` times before it returns;
what the other threads do meanwhile are calls behind it. -/
inductive QueueCall (M : Type)
  | send (msg : M) (replyId : Int) (wakes : Nat)
  | remove (id : Int)
  | receive
  | reply (replyId status : Int)
deriving DecidableEq, Repr

namespace QueueCall

variable {M : Type} {numReply : Nat} (msgId : M → Int)

def step (q : MessageQueue M numReply) : QueueCall M → MessageQueue M numReply
  | send msg replyId _ => (q.send msg replyId).2
  | remove id => (q.remove msgId id).2
  | receive => (q.receive.map Prod.snd).getD q
  | reply replyId status => q.reply replyId status

def accesses (q : MessageQueue M numReply) : QueueCall M → List SlotAccess
  | send _ replyId wakes => sendAccesses numReply replyId wakes
  | remove id => q.removeAccesses id
  | receive => []
  | reply replyId _ => replyAccesses numReply replyId

/-- A reply at the index behind the last slot. -/
def AtNumReply (q : MessageQueue M numReply) : QueueCall M → Prop
  | send _ _ _ => False
  | remove id => q.mList ≠ [] ∧ 0 < numReply ∧ id = numReply
  | receive => False
  | reply replyId _ => replyId = numReply

/-- The accesses of the calls one after the other. -/
def runAccesses (q : MessageQueue M numReply) (calls : List (QueueCall M)) : List SlotAccess :=
  runLog (step msgId) accesses q calls

end QueueCall

def InSlots (numReply : Nat) (a : SlotAccess) : Prop := 0 ≤ a.2 ∧ a.2 < numReply

/-! ## The bounds of a call -/

theorem mem_waitAccesses {replyId : Int} {a : SlotAccess} :
    ∀ wakes : Nat, a ∈ waitAccesses replyId wakes → a.2 = replyId := by
  intro wakes
  induction wakes with
  | zero =>
    intro ha
    rw [List.mem_singleton.mp ha]
  | succ wakes ih =>
    intro ha
    rcases List.mem_append.mp ha with ha | ha
    · simp only [List.mem_cons, List.not_mem_nil, or_false] at ha
      rcases ha with rfl | rfl | rfl <;> rfl
    · exact ih ha

/-- All accesses of a `send` are at its id. -/
theorem mem_sendAccesses {numReply : Nat} {replyId : Int} {wakes : Nat} {a : SlotAccess}
    (ha : a ∈ sendAccesses numReply replyId wakes) : a.2 = replyId := by
  unfold sendAccesses at ha
  split at ha
  · cases ha
  split at ha
  · cases ha
  rcases List.mem_append.mp ha with hstore | hwait
  · split at hstore
    · rw [List.mem_singleton.mp hstore]
    · cases hstore
  · split at hwait
    · rcases List.mem_append.mp hwait with hloop | hstatus
      · rcases List.mem_cons.mp hloop with rfl | hloop
        · rfl
        · exact mem_waitAccesses wakes hloop
      · rw [List.mem_singleton.mp hstatus]
    · cases hwait

/-- The two tests of `send` leave the ids of slots and the one that says there is no reply. -/
theorem inSlots_sendAccesses (numReply : Nat) (replyId : Int) (wakes : Nat) :
    ∀ a ∈ sendAccesses numReply replyId wakes, InSlots numReply a := by
  intro a ha
  have hslot := mem_sendAccesses ha
  unfold sendAccesses at ha
  by_cases hnone : replyId ≠ noReply ∧ numReply = 0
  · rw [if_pos hnone] at ha
    cases ha
  by_cases hrange : replyId < -1 ∨ (numReply : Int) ≤ replyId
  · rw [if_neg hnone, if_pos hrange] at ha
    cases ha
  rw [if_neg hnone, if_neg hrange] at ha
  by_cases hdef : replyId = noReply
  · rw [if_neg (fun h => h hdef), if_neg (fun h => h.1 hdef)] at ha
    cases ha
  · have hne : replyId ≠ -1 := hdef
    unfold InSlots
    omega

/-- The test of `reply` is passed by the ids of slots, and by `numReply`. -/
theorem inSlots_replyAccesses_iff (numReply : Nat) (replyId : Int) :
    (∀ a ∈ replyAccesses numReply replyId, InSlots numReply a) ↔ replyId ≠ numReply := by
  unfold replyAccesses InSlots
  constructor
  · rintro hall rfl
    rw [if_neg (by omega)] at hall
    have hlast := hall _ List.mem_cons_self
    omega
  · intro hne a ha
    split at ha
    · cases ha
    · have hslot : a.2 = replyId := by
        simp only [List.mem_cons, List.not_mem_nil, or_false] at ha
        rcases ha with rfl | rfl | rfl <;> rfl
      omega

/-- A call keeps to the slots, in any state of the queue, unless it answers at `numReply`. -/
theorem QueueCall.inSlots_iff {M : Type} {numReply : Nat} (q : MessageQueue M numReply)
    (call : QueueCall M) :
    (∀ a ∈ call.accesses q, InSlots numReply a) ↔ ¬ call.AtNumReply q := by
  cases call with
  | send msg replyId wakes =>
    exact ⟨fun _ h => h, fun _ => inSlots_sendAccesses numReply replyId wakes⟩
  | receive => exact ⟨fun _ h => h, fun _ a ha => by cases ha⟩
  | reply replyId status => exact inSlots_replyAccesses_iff numReply replyId
  | remove id =>
    show (∀ a ∈ q.removeAccesses id, InSlots numReply a) ↔
      ¬ (q.mList ≠ [] ∧ 0 < numReply ∧ id = numReply)
    unfold MessageQueue.removeAccesses
    by_cases hempty : q.mList = []
    · rw [hempty]
      exact ⟨fun _ h => h.1 rfl, fun _ a ha => by cases ha⟩
    rw [if_neg (by rw [List.isEmpty_iff]; exact hempty)]
    by_cases hpos : 0 < numReply
    · rw [if_pos hpos, inSlots_replyAccesses_iff]
      exact ⟨fun hne h => hne h.2.2, fun h hid => h ⟨hempty, hpos, hid⟩⟩
    · rw [if_neg hpos]
      exact ⟨fun _ h => hpos h.2.1, fun _ a ha => by cases ha⟩

/-! ## The ids that are accepted -/

namespace MessageQueue

/-- `send` takes the id as that of a slot. -/
def SendAccepts {M : Type} {numReply : Nat} (q : MessageQueue M numReply) (msg : M)
    (replyId : Int) : Prop := replyId ≠ noReply ∧ (q.send msg replyId).1 ≠ badValue

/-- `reply` goes on to the slot of the id. -/
def ReplyAccepts (numReply : Nat) (replyId : Int) : Prop := replyAccesses numReply replyId ≠ []

theorem sendAccepts_iff {M : Type} {numReply : Nat} (q : MessageQueue M numReply) (msg : M)
    (replyId : Int) : q.SendAccepts msg replyId ↔ 0 ≤ replyId ∧ replyId < numReply := by
  have hbad : noError ≠ badValue := by decide
  constructor
  · rintro ⟨hne, hsent⟩
    have hne : replyId ≠ -1 := hne
    unfold send at hsent
    by_cases hnone : replyId ≠ noReply ∧ numReply = 0
    · rw [if_pos hnone] at hsent
      exact absurd rfl hsent
    by_cases hrange : replyId < -1 ∨ (numReply : Int) ≤ replyId
    · rw [if_neg hnone, if_pos hrange] at hsent
      exact absurd rfl hsent
    omega
  · rintro ⟨h0, hlt⟩
    refine ⟨show replyId ≠ -1 by omega, ?_⟩
    rw [q.send_replyId msg h0 hlt]
    exact hbad

theorem replyAccepts_iff (numReply : Nat) (replyId : Int) :
    ReplyAccepts numReply replyId ↔ 0 ≤ replyId ∧ replyId ≤ numReply := by
  unfold ReplyAccepts replyAccesses
  split
  · exact ⟨fun h => absurd rfl h, fun h => by omega⟩
  · exact ⟨fun _ => by omega, fun _ => List.cons_ne_nil _ _⟩

end MessageQueue

/-- **Bounds of the reply slots.**  In every run from a new queue all accesses are in range
exactly when no call answers at `numReply`, and that is the only id on which `send` and `reply`
differ. -/
theorem slots_inRange_iff {M : Type} (numReply : Nat) (msgId : M → Int) :
    (∀ calls : List (QueueCall M),
      (∀ a ∈ QueueCall.runAccesses msgId (MessageQueue.empty : MessageQueue M numReply) calls,
        InSlots numReply a) ↔
      ∀ before call after, calls = before ++ call :: after →
        ¬ call.AtNumReply
          (before.foldl (QueueCall.step msgId) (MessageQueue.empty : MessageQueue M numReply))) ∧
      ∀ (q : MessageQueue M numReply) (msg : M) (replyId : Int),
        (q.SendAccepts msg replyId ↔ MessageQueue.ReplyAccepts numReply replyId) ↔
          replyId ≠ numReply := by
  refine ⟨fun calls => ?_, fun q msg replyId => ?_⟩
  · unfold QueueCall.runAccesses
    rw [forall_runLog_iff]
    simp only [QueueCall.inSlots_iff]
  · rw [q.sendAccepts_iff, MessageQueue.replyAccepts_iff]
    omega

/-- A queue with one slot, answered at index 1. -/
theorem slots_not_inRange :
    ¬ ∀ (numReply : Nat) (calls : List (QueueCall Int)),
      ∀ a ∈ QueueCall.runAccesses id (MessageQueue.empty : MessageQueue Int numReply) calls,
        InSlots numReply a := by
  intro hall
  have hin := (hall 1 [.reply 1 noError] (.mReplyMutex, 1) (by decide)).2
  exact absurd hin (by decide)

end RockchipHal.Sideband
