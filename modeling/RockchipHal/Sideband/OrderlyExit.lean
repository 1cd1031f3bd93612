import RockchipHal.Lib.Reach
import RockchipHal.Sideband.Window

/-!
# The exit of the render thread

The clients' sends, the loop of the render thread and the wait in `release`, in single
steps: a send adds one message under the queue's lock, and a turn of the loop receives,
handles and replies one after the other.

    sent = handled ++ received and not yet handled ++ waiting, oldest first   (Orderly.queued)

The loop goes on only while no `EXIT` has been handled (`Orderly.stopped`), and the reply
`release` waits for is set only after its `EXIT` has been (`Orderly.waiting`).
-/

namespace RockchipHal.Sideband

/-- Where the render thread is in its loop. -/
inductive LoopStage
  /-- before `mThreadRunning = true` -/
  | starting
  /-- at the `while` -/
  | looping
  | received (msg : Message)
  /-- before `reply` -/
  | handled (msg : Message) (status : Int)
  | left
deriving DecidableEq

/-- How far the one call of `release` is. -/
inductive ReleaseStage
  | notCalled
  /-- in the synchronous `send` -/
  | waiting
  | sendReturned
deriving DecidableEq, Repr

/-- `dequeuing` counts the `dequeueBuffer` calls between their test and their send.
`sent` and `handled` are the history, oldest first. -/
structure Shutdown where
  window : RTSidebandWindow
  loop : LoopStage
  releasing : ReleaseStage
  dequeuing : Nat
  sent : List Message
  handled : List Message

inductive ShutdownAction
  | remainBuffer (buffer : BufferHandle)
  | queueBuffer (buffer : BufferHandle)
  | dequeueBuffer
  | dequeueSend
  | flush
  | release
  /-- The `send` in `release` finds its reply. -/
  | sendReturns
  | threadStarts
  | receive
  /-- `queue` is what an `erase` from an empty `mRenderingQueue` leaves. -/
  | handle (queue : List BufferHandle)
  | reply
deriving DecidableEq

namespace Shutdown

/-- The window's message queue is empty, and its thread has been created. -/
def start (info : RTSidebandInfo) (queue : List BufferHandle) : Shutdown :=
  ⟨⟨info, .empty, queue, false⟩, .starting, .notCalled, 0, [], []⟩

/-- A call has sent `msg`. -/
def posted (s : Shutdown) (msg : Message) (window : RTSidebandWindow) : Shutdown :=
  { s with window := window, sent := s.sent ++ [msg] }

/-- The thread takes the oldest message, or leaves the loop. -/
def receive (s : Shutdown) : Option Shutdown :=
  if s.window.mThreadRunning then
    s.window.mMessageQueue.receive.map fun taken =>
      { s with
        window := { s.window with mMessageQueue := taken.2 }
        loop := .received taken.1 }
  else some { s with loop := .left }

def handle (s : Shutdown) (msg : Message) (queue : List BufferHandle) : Shutdown :=
  match handleMessage s.window msg with
  | some r =>
    { s with
      window := r.window
      loop := .handled msg r.status
      handled := s.handled ++ [msg] }
  | none =>
    { s with
      window := { s.window with mRenderingQueue := queue }
      loop := .handled msg 0
      handled := s.handled ++ [msg] }

def step (s : Shutdown) : ShutdownAction → Option Shutdown
  | .remainBuffer b => some { s with window := remainBuffer s.window b }
  | .queueBuffer b => some (s.posted ⟨.renderRequest, b⟩ (queueBuffer s.window b).2)
  | .dequeueBuffer =>
    if s.window.mRenderingQueue.length > minBufferCountUndequeue then
      some { s with dequeuing := s.dequeuing + 1 }
    else some s
  | .dequeueSend =>
    if 0 < s.dequeuing then
      some ({ s with dequeuing := s.dequeuing - 1 }.posted (.ofId .dequeueRequest)
        (sendAsync s.window (.ofId .dequeueRequest)).2)
    else none
  | .flush => some (s.posted (.ofId .flush) (flush s.window).2)
  | .release =>
    if s.releasing = .notCalled then
      some ({ s with releasing := .waiting }.posted (.ofId .exit) (requestExit s.window).2)
    else none
  | .sendReturns =>
    if s.releasing = .waiting ∧
        s.window.mMessageQueue.mReplyStatus MessageId.exit.code ≠ wouldBlock then
      some { s with releasing := .sendReturned }
    else none
  | .threadStarts =>
    if s.loop = .starting then
      some { s with window := { s.window with mThreadRunning := true }, loop := .looping }
    else none
  | .receive => if s.loop = .looping then s.receive else none
  | .handle queue =>
    match s.loop with
    | .received msg => some (s.handle msg queue)
    | _ => none
  | .reply =>
    match s.loop with
    | .handled msg status =>
      some { s with
        window := { s.window with
          mMessageQueue := s.window.mMessageQueue.reply msg.id.code status }
        loop := .looping }
    | _ => none

/-! ## The invariant -/

/-- The message the thread has received and not yet handled. -/
def inHand (s : Shutdown) : List Message :=
  match s.loop with
  | .received msg => [msg]
  | _ => []

/-- An `EXIT` has been handled. -/
def Exited (s : Shutdown) : Prop := ∃ msg ∈ s.handled, msg.id = .exit

structure Orderly (s : Shutdown) : Prop where
  queued : s.sent = s.handled ++ s.inHand ++ s.window.mMessageQueue.mList.reverse
  notCalled : s.releasing = .notCalled → ∀ msg ∈ s.sent, msg.id ≠ .exit
  oneExit : s.releasing ≠ .notCalled → ∃ before behind,
    s.sent = before ++ Message.ofId .exit :: behind ∧ ∀ msg ∈ before ++ behind, msg.id ≠ .exit
  stopped : s.Exited →
    s.window.mThreadRunning = false ∧ s.loop ≠ .starting ∧ ∀ msg, s.loop ≠ .received msg
  last : ∀ msg ∈ s.handled.dropLast, msg.id ≠ .exit
  replying : ∀ msg status, s.loop = .handled msg status → msg ∈ s.handled
  waiting : s.releasing = .waiting →
    s.window.mMessageQueue.mReplyStatus MessageId.exit.code = wouldBlock ∨ s.Exited
  returned : s.releasing = .sendReturned → s.Exited

theorem start_orderly (info : RTSidebandInfo) (queue : List BufferHandle) :
    Orderly (start info queue) where
  queued := rfl
  notCalled := by
    intro _ msg hmsg
    cases hmsg
  oneExit := fun h => absurd rfl h
  stopped := by
    rintro ⟨msg, hmsg, -⟩
    cases hmsg
  last := by
    intro msg hmsg
    cases hmsg
  replying := by
    intro msg status h
    cases h
  waiting := by
    intro h
    cases h
  returned := by
    intro h
    cases h

namespace Orderly

variable {s : Shutdown}

/-- A client's message keeps the order. -/
theorem post (h : Orderly s) (msg : Message) (hid : msg.id ≠ .exit) :
    Orderly (s.posted msg (Sideband.post s.window msg)) where
  queued := by
    show s.sent ++ [msg] =
      s.handled ++ s.inHand ++ (msg :: s.window.mMessageQueue.mList).reverse
    rw [h.queued, List.reverse_cons, List.append_assoc]
  notCalled := by
    intro hcall m hm
    rcases List.mem_append.mp hm with hm | hm
    · exact h.notCalled hcall m hm
    · rw [List.mem_singleton.mp hm]
      exact hid
  oneExit := by
    intro hcall
    obtain ⟨before, behind, hsent, hother⟩ := h.oneExit hcall
    refine ⟨before, behind ++ [msg], ?_, ?_⟩
    · show s.sent ++ [msg] = _
      rw [hsent, List.append_assoc, List.cons_append]
    · intro m hm
      rw [← List.append_assoc] at hm
      rcases List.mem_append.mp hm with hm | hm
      · exact hother m hm
      · rw [List.mem_singleton.mp hm]
        exact hid
  stopped := h.stopped
  last := h.last
  replying := h.replying
  waiting := h.waiting
  returned := h.returned

/-- The `EXIT` of `release` keeps it. -/
theorem release (h : Orderly s) (hcall : s.releasing = .notCalled) :
    Orderly ({ s with releasing := .waiting }.posted (.ofId .exit) (requestExit s.window).2) := by
  have hnone := h.notCalled hcall
  rw [requestExit_eq]
  refine ⟨?_, ?_, fun _ => ⟨s.sent, [], rfl, ?_⟩, h.stopped, h.last, h.replying, ?_, ?_⟩
  · show s.sent ++ [Message.ofId .exit] =
      s.handled ++ s.inHand ++ (Message.ofId .exit :: s.window.mMessageQueue.mList).reverse
    rw [h.queued, List.reverse_cons, List.append_assoc]
  · intro hno
    cases hno
  · rw [List.append_nil]
    exact hnone
  · intro _
    left
    exact MessageQueue.setReplyStatus_self _ _ _
  · intro hno
    cases hno

theorem receive {s' : Shutdown} (h : Orderly s) (hloop : s.loop = .looping)
    (hstep : s.receive = some s') : Orderly s' := by
  have hhand : s.inHand = [] := by
    unfold inHand
    rw [hloop]
  unfold Shutdown.receive at hstep
  split at hstep
  · next hrun =>
    obtain ⟨⟨msg, queue⟩, htaken, rfl⟩ := Option.map_eq_some_iff.mp hstep
    have hlist := MessageQueue.receive_eq_some _ _ _ htaken
    have hnot : ¬ s.Exited := by
      intro hexit
      rw [(h.stopped hexit).1] at hrun
      cases hrun
    have hstatus : queue.mReplyStatus = s.window.mMessageQueue.mReplyStatus := by
      obtain ⟨m, -, hm⟩ := Option.map_eq_some_iff.mp htaken
      cases hm
      rfl
    refine ⟨?_, h.notCalled, h.oneExit, fun hexit => absurd hexit hnot, h.last, ?_, ?_, h.returned⟩
    · show s.sent = s.handled ++ [msg] ++ queue.mList.reverse
      rw [h.queued, hhand, hlist, List.reverse_append, List.append_nil, List.append_assoc]
      rfl
    · intro m status hm
      cases hm
    · intro hwait
      show queue.mReplyStatus _ = wouldBlock ∨ _
      rw [hstatus]
      exact h.waiting hwait
  · next hrun =>
    cases hstep
    refine ⟨?_, h.notCalled, h.oneExit, fun hexit => ?_, h.last, ?_, h.waiting, h.returned⟩
    · rw [h.queued, hhand]
      rfl
    · refine ⟨(h.stopped hexit).1, ?_, ?_⟩
      · intro hno
        cases hno
      · intro m hno
        cases hno
    · intro m status hm
      cases hm

/-- The message in hand goes to the end of `handled`, whatever its handler does to the
queue of buffers. -/
theorem handled (h : Orderly s) {msg : Message} (hloop : s.loop = .received msg)
    (window : RTSidebandWindow) (hqueue : window.mMessageQueue = s.window.mMessageQueue)
    (hexit : msg.id = .exit → window.mThreadRunning = false) (status : Int) :
    Orderly { s with
      window := window
      loop := .handled msg status
      handled := s.handled ++ [msg] } := by
  have hnot : ¬ s.Exited := fun hexited => (h.stopped hexited).2.2 msg hloop
  have hnone : ∀ m ∈ s.handled, m.id ≠ .exit := fun m hm hid => hnot ⟨m, hm, hid⟩
  have hhand : s.inHand = [msg] := by
    unfold inHand
    rw [hloop]
  have hgrow : s.Exited →
      Exited { s with
        window := window
        loop := .handled msg status
        handled := s.handled ++ [msg] } := fun hexited => absurd hexited hnot
  refine ⟨?_, h.notCalled, h.oneExit, ?_, ?_, ?_, ?_, fun hret => hgrow (h.returned hret)⟩
  · show s.sent = s.handled ++ [msg] ++ [] ++ window.mMessageQueue.mList.reverse
    rw [h.queued, hhand, hqueue, List.append_nil]
  · rintro ⟨m, hm, hid⟩
    refine ⟨?_, ?_, ?_⟩
    · rcases List.mem_append.mp hm with hm | hm
      · exact absurd hid (hnone m hm)
      · rw [List.mem_singleton.mp hm] at hid
        exact hexit hid
    · intro hno
      cases hno
    · intro m' hno
      cases hno
  · intro m hm
    have hm : m ∈ (s.handled ++ [msg]).dropLast := hm
    rw [List.dropLast_concat] at hm
    exact hnone m hm
  · intro m st hm
    cases hm
    exact List.mem_append_right _ List.mem_cons_self
  · intro hwait
    show window.mMessageQueue.mReplyStatus _ = wouldBlock ∨ _
    rw [hqueue]
    rcases h.waiting hwait with hblock | hexited
    · exact .inl hblock
    · exact .inr (hgrow hexited)

theorem handle (h : Orderly s) {msg : Message} (hloop : s.loop = .received msg)
    (queue : List BufferHandle) : Orderly (s.handle msg queue) := by
  unfold Shutdown.handle
  cases hr : handleMessage s.window msg with
  | some r =>
    refine h.handled hloop r.window (handleMessage_mMessageQueue hr) ?_ r.status
    intro hid
    rw [handleMessage_exit hid hr]
  | none =>
    have hid : msg.id ≠ .exit := by
      rw [(handleMessage_eq_none hr).1]
      decide
    exact h.handled hloop { s.window with mRenderingQueue := queue } rfl
      (fun hexit => absurd hexit hid) 0

/-- Only the reply to the `EXIT` changes what `release` waits for. -/
theorem reply (h : Orderly s) {msg : Message} {status : Int} (hloop : s.loop = .handled msg status) :
    Orderly { s with
      window := { s.window with
        mMessageQueue := s.window.mMessageQueue.reply msg.id.code status }
      loop := .looping } := by
  have hhand : s.inHand = [] := by
    unfold inHand
    rw [hloop]
  refine ⟨?_, h.notCalled, h.oneExit, ?_, h.last, ?_, ?_, h.returned⟩
  · show s.sent = s.handled ++ [] ++ (s.window.mMessageQueue.reply msg.id.code status).mList.reverse
    rw [h.queued, hhand, MessageQueue.reply_mList]
  · intro hexited
    refine ⟨(h.stopped hexited).1, ?_, ?_⟩
    · intro hno
      cases hno
    · intro m hno
      cases hno
  · intro m st hm
    cases hm
  · intro hwait
    by_cases hid : msg.id = .exit
    · exact .inr ⟨msg, h.replying msg status hloop, hid⟩
    · rcases h.waiting hwait with hblock | hexited
      · left
        show (s.window.mMessageQueue.reply msg.id.code status).mReplyStatus _ = wouldBlock
        rw [MessageQueue.reply_mReplyStatus_ne _ (MessageId.code_ne (Ne.symm hid))]
        exact hblock
      · exact .inr hexited

/-- The count of calls between test and send is not part of the order. -/
theorem counted (h : Orderly s) (n : Nat) : Orderly { s with dequeuing := n } :=
  ⟨h.queued, h.notCalled, h.oneExit, h.stopped, h.last, h.replying, h.waiting, h.returned⟩

theorem sendReturns (h : Orderly s) (hwaiting : s.releasing = .waiting)
    (hreplied : s.window.mMessageQueue.mReplyStatus MessageId.exit.code ≠ wouldBlock) :
    Orderly { s with releasing := .sendReturned } := by
  have hexited : s.Exited := (h.waiting hwaiting).resolve_left hreplied
  refine ⟨h.queued, ?_, fun _ => h.oneExit ?_, h.stopped, h.last, h.replying, ?_, fun _ => hexited⟩
  · intro hno
    cases hno
  · rw [hwaiting]
    decide
  · intro hno
    cases hno

theorem threadStarts (h : Orderly s) (hloop : s.loop = .starting) :
    Orderly { s with window := { s.window with mThreadRunning := true }, loop := .looping } := by
  have hhand : s.inHand = [] := by
    unfold inHand
    rw [hloop]
  have hnot : ¬ s.Exited := fun hexited => (h.stopped hexited).2.1 hloop
  refine ⟨?_, h.notCalled, h.oneExit, fun hexited => absurd hexited hnot, h.last, ?_, h.waiting,
    h.returned⟩
  · rw [h.queued, hhand]
    rfl
  · intro m st hm
    cases hm

/-- Every step keeps the order. -/
theorem step {s' : Shutdown} {a : ShutdownAction} (h : Orderly s) (hstep : s.step a = some s') :
    Orderly s' := by
  cases a with
  | remainBuffer b =>
    cases hstep
    exact ⟨h.queued, h.notCalled, h.oneExit, h.stopped, h.last, h.replying, h.waiting, h.returned⟩
  | queueBuffer b =>
    cases hstep
    rw [queueBuffer_eq]
    exact h.post ⟨.renderRequest, b⟩ (show MessageId.renderRequest ≠ .exit by decide)
  | dequeueBuffer =>
    simp only [Shutdown.step] at hstep
    split at hstep
    · cases hstep
      exact h.counted (s.dequeuing + 1)
    · cases hstep
      exact h
  | dequeueSend =>
    simp only [Shutdown.step] at hstep
    split at hstep
    · cases hstep
      rw [sendAsync_eq]
      exact (h.counted (s.dequeuing - 1)).post (.ofId .dequeueRequest)
        (show MessageId.dequeueRequest ≠ .exit by decide)
    · cases hstep
  | flush =>
    cases hstep
    rw [Sideband.flush, sendAsync_eq]
    exact h.post (.ofId .flush) (show MessageId.flush ≠ .exit by decide)
  | release =>
    simp only [Shutdown.step] at hstep
    split at hstep
    · next hcall =>
      cases hstep
      exact h.release hcall
    · cases hstep
  | sendReturns =>
    simp only [Shutdown.step] at hstep
    split at hstep
    · next hwait =>
      cases hstep
      exact h.sendReturns hwait.1 hwait.2
    · cases hstep
  | threadStarts =>
    simp only [Shutdown.step] at hstep
    split at hstep
    · next hloop =>
      cases hstep
      exact h.threadStarts hloop
    · cases hstep
  | receive =>
    simp only [Shutdown.step] at hstep
    split at hstep
    · next hloop => exact h.receive hloop hstep
    · cases hstep
  | handle queue =>
    simp only [Shutdown.step] at hstep
    split at hstep
    · next msg hloop =>
      cases hstep
      exact h.handle hloop queue
    · cases hstep
  | reply =>
    simp only [Shutdown.step] at hstep
    split at hstep
    · next msg status hloop =>
      cases hstep
      exact h.reply hloop
    · cases hstep

end Orderly

/-! ## Runs -/

theorem orderly_run (info : RTSidebandInfo) (queue : List BufferHandle) {s : Shutdown}
    (h : Reach step (fun _ _ => True) (start info queue) s) : Orderly s :=
  h.inv Orderly (start_orderly info queue) fun _ _ _ horderly _ hstep => horderly.step hstep

namespace Orderly

variable {s : Shutdown}

theorem handled_prefix (h : Orderly s) : s.handled <+: s.sent := by
  rw [h.queued, List.append_assoc]
  exact List.prefix_append _ _

/-- The handled messages end with the first `EXIT`, if they have one. -/
theorem handled_of_exit (h : Orderly s) {before behind : List Message}
    (hsent : s.sent = before ++ Message.ofId .exit :: behind) :
    s.handled <+: before ++ [Message.ofId .exit] := by
  have hsplit : before ++ [Message.ofId .exit] <+: s.sent := by
    rw [hsent]
    exact ⟨behind, (List.append_cons _ _ _).symm⟩
  rcases List.prefix_or_prefix_of_prefix h.handled_prefix hsplit with hle | ⟨rest, hrest⟩
  · exact hle
  · rcases List.eq_nil_or_concat rest with rfl | ⟨l, m, rfl⟩
    · rw [List.append_nil] at hrest
      exact ⟨[], (List.append_nil s.handled).trans hrest.symm⟩
    · have hdrop : s.handled.dropLast = (before ++ [Message.ofId .exit]) ++ l := by
        rw [← hrest, List.concat_eq_append, ← List.append_assoc, List.dropLast_concat]
      have hmem : Message.ofId .exit ∈ s.handled.dropLast := by
        rw [hdrop]
        exact List.mem_append_left l List.mem_concat_self
      exact absurd rfl (h.last _ hmem)

/-- `release` is called once. -/
theorem no_exit_before (h : Orderly s) {before behind : List Message}
    (hsent : s.sent = before ++ Message.ofId .exit :: behind) : ∀ msg ∈ before, msg.id ≠ .exit := by
  have hmem : Message.ofId .exit ∈ s.sent := by
    rw [hsent]
    exact List.mem_append_right _ List.mem_cons_self
  have hcall : s.releasing ≠ .notCalled := fun hno => h.notCalled hno _ hmem rfl
  obtain ⟨before', behind', hsent', hother⟩ := h.oneExit hcall
  have hone : s.sent.countP (·.id = .exit) = 1 := by
    have hnone : (before' ++ behind').countP (·.id = .exit) = 0 := by
      rw [List.countP_eq_zero]
      intro m hm
      simpa using hother m hm
    rw [List.countP_append] at hnone
    rw [hsent', List.countP_append, List.countP_cons_of_pos rfl]
    omega
  have hzero : before.countP (·.id = .exit) = 0 := by
    rw [hsent, List.countP_append, List.countP_cons_of_pos rfl] at hone
    omega
  intro m hm
  simpa using List.countP_eq_zero.mp hzero m hm

theorem handled_before (h : Orderly s) (hexited : s.Exited) {before behind : List Message}
    (hsent : s.sent = before ++ Message.ofId .exit :: behind) : before <+: s.handled := by
  have hsplit : before <+: s.sent := by
    rw [hsent]
    exact List.prefix_append _ _
  rcases List.prefix_or_prefix_of_prefix hsplit h.handled_prefix with hle | hle
  · exact hle
  · obtain ⟨m, hm, hid⟩ := hexited
    exact absurd hid (h.no_exit_before hsent m (hle.subset hm))

theorem exit_mem (h : Orderly s) (hexited : s.Exited) : Message.ofId .exit ∈ s.sent := by
  have hcall : s.releasing ≠ .notCalled := by
    intro hno
    obtain ⟨m, hm, hid⟩ := hexited
    exact h.notCalled hno m (h.handled_prefix.subset hm) hid
  obtain ⟨before, behind, hsent, -⟩ := h.oneExit hcall
  rw [hsent]
  exact List.mem_append_right _ List.mem_cons_self

end Orderly

/-- The messages handled are a prefix of those sent.  None behind the `EXIT` is among them,
and when the `send` of the `EXIT` has returned, all before it are. -/
theorem exit_orderly (info : RTSidebandInfo) (queue : List BufferHandle) (s : Shutdown)
    (h : Reach step (fun _ _ => True) (start info queue) s) :
    s.handled <+: s.sent ∧
      (∀ before behind, s.sent = before ++ Message.ofId .exit :: behind →
        s.handled <+: before ++ [Message.ofId .exit] ∧
          (s.releasing = .sendReturned → before <+: s.handled)) ∧
      (s.releasing = .sendReturned → Message.ofId .exit ∈ s.sent) := by
  have horderly := orderly_run info queue h
  refine ⟨horderly.handled_prefix, fun before behind hsent => ⟨?_, fun hret => ?_⟩, fun hret => ?_⟩
  · exact horderly.handled_of_exit hsent
  · exact horderly.handled_before (horderly.returned hret) hsent
  · exact horderly.exit_mem (horderly.returned hret)

/-- Two calls before `release`, one of them overtaken by it, and a `flush` behind it. -/
def lateFlush : List ShutdownAction :=
  [.threadStarts, .queueBuffer 1, .dequeueBuffer, .receive, .release, .dequeueSend, .handle [],
    .reply, .receive, .handle [], .flush, .reply, .sendReturns, .receive]

theorem exit_orderly_lateFlush :
    ∃ s, run step (fun _ _ => True) (start ⟨0, 0, 1920, 1080, 0, 1920, 1080, 1⟩ [2, 3, 4])
        lateFlush = some s ∧
      s.releasing = .sendReturned ∧ s.loop = .left ∧
      s.sent.map Message.id = [.renderRequest, .exit, .dequeueRequest, .flush] ∧
      s.handled <+: s.sent := by
  have h := exit_orderly ⟨0, 0, 1920, 1080, 0, 1920, 1080, 1⟩ [2, 3, 4] _
    (Reach.of_run_get lateFlush rfl)
  exact ⟨_, (Option.some_get rfl).symm, rfl, rfl, rfl, h.1⟩

end Shutdown

end RockchipHal.Sideband
