import RockchipHal.Sideband.MessageQueue

/-!
# `RTSidebandWindow`

The window's calls and its render thread's message handlers.  `mRenderingQueue`
holds the buffers given to the window and not yet handed back, oldest first.  A
`dequeueBuffer` only looks at its front; the entry is erased later, by the render
thread, when it comes to the message sent.

Calls into the gralloc module and into `DrmVopRender` are effects.
-/

namespace RockchipHal.Sideband

/-- `buffer_handle_t`, a pointer. -/
abbrev BufferHandle := UInt64

/-- `NULL`. -/
def null : BufferHandle := 0

structure RTSidebandInfo where
  left : Int32
  top : Int32
  right : Int32
  bottom : Int32
  usage : Int32
  width : Int32
  height : Int32
  format : Int32
deriving DecidableEq

inductive MessageId
  | unknown | exit | renderRequest | dequeueRequest | flush
deriving DecidableEq, Repr

def MessageId.code : MessageId → Int
  | .unknown => 0
  | .exit => 1
  | .renderRequest => 2
  | .dequeueRequest => 3
  | .flush => 4

theorem MessageId.code_ne {i j : MessageId} (h : i ≠ j) : i.code ≠ j.code := by
  cases i <;> cases j <;> first | exact absurd rfl h | decide

/-- `MESSAGE_ID_MAX`. -/
def messageIdMax : Nat := 5

/-- `streamBuffer.buffer` is the only part of the `streamBuffer` ever set. -/
structure Message where
  id : MessageId
  buffer : BufferHandle
deriving DecidableEq, Repr

/-- A message after the `memset`, with its `id` set. -/
def Message.ofId (id : MessageId) : Message := ⟨id, null⟩

inductive Effect
  | unregisterBuffer (buffer : BufferHandle)
  | free (buffer : BufferHandle)
  | setDrmPlane (device : Int32) (width height : Int32) (buffer : BufferHandle)
deriving DecidableEq

structure RTSidebandWindow where
  mSidebandInfo : RTSidebandInfo
  mMessageQueue : MessageQueue Message messageIdMax
  mRenderingQueue : List BufferHandle
  mThreadRunning : Bool

/-- `MIN_BUFFER_COUNT_UNDEQUEUE`. -/
def minBufferCountUndequeue : Nat := 2

/-! ## Calls -/

def freeBuffer (buffer : BufferHandle) : List Effect :=
  if buffer ≠ null then [.unregisterBuffer buffer, .free buffer] else []

def remainBuffer (w : RTSidebandWindow) (buffer : BufferHandle) : RTSidebandWindow :=
  { w with mRenderingQueue := w.mRenderingQueue ++ [buffer] }

/-- `mMessageQueue.send(&msg)`. -/
def sendAsync (w : RTSidebandWindow) (msg : Message) : Int × RTSidebandWindow :=
  let sent := w.mMessageQueue.send msg noReply
  (sent.1, { w with mMessageQueue := sent.2 })

/-- The window once `msg` is in its message queue. -/
def post (w : RTSidebandWindow) (msg : Message) : RTSidebandWindow :=
  { w with mMessageQueue := { w.mMessageQueue with mList := msg :: w.mMessageQueue.mList } }

theorem sendAsync_eq (w : RTSidebandWindow) (msg : Message) :
    sendAsync w msg = (noError, post w msg) := by
  unfold sendAsync
  rw [MessageQueue.send_noReply]
  rfl

structure DequeueResult where
  status : Int
  /-- `*buffer` -/
  buffer : BufferHandle
  window : RTSidebandWindow

def dequeueBuffer (w : RTSidebandWindow) : DequeueResult :=
  if w.mRenderingQueue.length > minBufferCountUndequeue then
    let sent := sendAsync w (.ofId .dequeueRequest)
    ⟨sent.1, w.mRenderingQueue.headD null, sent.2⟩
  else ⟨0, null, w⟩

def queueBuffer (w : RTSidebandWindow) (buffer : BufferHandle) : Int × RTSidebandWindow :=
  sendAsync w { Message.ofId .renderRequest with buffer := buffer }

def flush (w : RTSidebandWindow) : Int × RTSidebandWindow :=
  sendAsync w (.ofId .flush)

theorem queueBuffer_eq (w : RTSidebandWindow) (buffer : BufferHandle) :
    queueBuffer w buffer = (noError, post w ⟨.renderRequest, buffer⟩) :=
  sendAsync_eq w _

theorem dequeueBuffer_of_le (w : RTSidebandWindow)
    (h : w.mRenderingQueue.length ≤ minBufferCountUndequeue) :
    dequeueBuffer w = ⟨0, null, w⟩ := by
  unfold dequeueBuffer
  rw [if_neg (by omega)]

theorem dequeueBuffer_of_lt (w : RTSidebandWindow)
    (h : minBufferCountUndequeue < w.mRenderingQueue.length) :
    dequeueBuffer w =
      ⟨noError, w.mRenderingQueue.headD null, post w (.ofId .dequeueRequest)⟩ := by
  unfold dequeueBuffer
  rw [if_pos h, sendAsync_eq]

theorem exists_front {w : RTSidebandWindow}
    (h : minBufferCountUndequeue < w.mRenderingQueue.length) :
    ∃ b rest, w.mRenderingQueue = b :: rest :=
  List.length_pos_iff_exists_cons.mp (Nat.zero_lt_of_lt h)

/-- `requestExitAndWait` as far as its wait for the reply. -/
def requestExit (w : RTSidebandWindow) : Int × RTSidebandWindow :=
  let sent := w.mMessageQueue.send (.ofId .exit) MessageId.exit.code
  (sent.1, { w with mMessageQueue := sent.2 })

/-- The loop of `release` after `requestExitAndWait`. -/
def releaseBuffers (w : RTSidebandWindow) : List Effect × RTSidebandWindow :=
  (w.mRenderingQueue.map .free, { w with mRenderingQueue := [] })

theorem requestExit_eq (w : RTSidebandWindow) :
    requestExit w = (noError,
      { w with
        mMessageQueue :=
          (post w (.ofId .exit)).mMessageQueue.setReplyStatus MessageId.exit.code wouldBlock }) := by
  unfold requestExit
  rw [MessageQueue.send_replyId _ _ (by decide) (by decide)]
  rfl

/-! ## The render thread -/

/-- What a handler did.  There is none where the code has no defined behaviour. -/
structure Handled where
  status : Int
  effects : List Effect
  window : RTSidebandWindow

def handleMessageExit (w : RTSidebandWindow) : Handled :=
  ⟨0, [], { w with mThreadRunning := false }⟩

def handleRenderRequest (w : RTSidebandWindow) (msg : Message) : Handled :=
  let info := w.mSidebandInfo
  ⟨0, [.setDrmPlane 0 (info.right - info.left) (info.bottom - info.top) msg.buffer],
    { w with mRenderingQueue := w.mRenderingQueue ++ [msg.buffer] }⟩

/-- `erase(begin())` needs an element to erase. -/
def handleDequeueRequest (w : RTSidebandWindow) : Option Handled :=
  match w.mRenderingQueue with
  | [] => none
  | _ :: rest => some ⟨0, [], { w with mRenderingQueue := rest }⟩

def handleFlush (w : RTSidebandWindow) : Handled :=
  ⟨0, w.mRenderingQueue.flatMap freeBuffer, { w with mRenderingQueue := [] }⟩

/-- The `switch` of `messageThreadLoop`. -/
def handleMessage (w : RTSidebandWindow) (msg : Message) : Option Handled :=
  match msg.id with
  | .exit => some (handleMessageExit w)
  | .renderRequest => some (handleRenderRequest w msg)
  | .dequeueRequest => handleDequeueRequest w
  | .flush => some (handleFlush w)
  | .unknown => some ⟨badValue, [], w⟩

theorem handleMessage_renderRequest {w : RTSidebandWindow} {msg : Message} {r : Handled}
    (hid : msg.id = .renderRequest) (h : handleMessage w msg = some r) :
    r.window = { w with mRenderingQueue := w.mRenderingQueue ++ [msg.buffer] } := by
  simp only [handleMessage, hid, Option.some.injEq] at h
  rw [← h]
  rfl

theorem handleMessage_dequeueRequest {w : RTSidebandWindow} {msg : Message} {r : Handled}
    (hid : msg.id = .dequeueRequest) (h : handleMessage w msg = some r) :
    ∃ b rest, w.mRenderingQueue = b :: rest ∧ r.window = { w with mRenderingQueue := rest } := by
  simp only [handleMessage, hid] at h
  unfold handleDequeueRequest at h
  split at h
  · cases h
  · next b rest hq =>
    refine ⟨b, rest, hq, ?_⟩
    rw [← Option.some.inj h]

theorem handleMessage_flush {w : RTSidebandWindow} {msg : Message} {r : Handled}
    (hid : msg.id = .flush) (h : handleMessage w msg = some r) :
    r.effects = w.mRenderingQueue.flatMap freeBuffer ∧
      r.window = { w with mRenderingQueue := [] } := by
  simp only [handleMessage, hid, Option.some.injEq] at h
  rw [← h]
  exact ⟨rfl, rfl⟩

theorem handleMessage_exit {w : RTSidebandWindow} {msg : Message} {r : Handled}
    (hid : msg.id = .exit) (h : handleMessage w msg = some r) :
    r.window = { w with mThreadRunning := false } := by
  simp only [handleMessage, hid, Option.some.injEq] at h
  rw [← h]
  rfl

theorem handleMessage_unknown {w : RTSidebandWindow} {msg : Message} {r : Handled}
    (hid : msg.id = .unknown) (h : handleMessage w msg = some r) : r.window = w := by
  simp only [handleMessage, hid, Option.some.injEq] at h
  rw [← h]

theorem handleMessage_eq_none {w : RTSidebandWindow} {msg : Message}
    (h : handleMessage w msg = none) :
    msg.id = .dequeueRequest ∧ w.mRenderingQueue = [] := by
  unfold handleMessage at h
  split at h
  · cases h
  · cases h
  · next hid =>
    unfold handleDequeueRequest at h
    split at h
    · next hq => exact ⟨hid, hq⟩
    · cases h
  · cases h
  · cases h

/-- All handlers but that of `EXIT` leave the thread in its loop. -/
theorem handleMessage_mThreadRunning {w : RTSidebandWindow} {msg : Message} {r : Handled}
    (hid : msg.id ≠ .exit) (h : handleMessage w msg = some r) :
    r.window.mThreadRunning = w.mThreadRunning := by
  cases hmsg : msg.id with
  | unknown => rw [handleMessage_unknown hmsg h]
  | exit => exact absurd hmsg hid
  | renderRequest => rw [handleMessage_renderRequest hmsg h]
  | dequeueRequest =>
    obtain ⟨b, rest, -, hwindow⟩ := handleMessage_dequeueRequest hmsg h
    rw [hwindow]
  | flush => rw [(handleMessage_flush hmsg h).2]

/-- Only a dequeue and a flush take buffers from the queue. -/
theorem mem_handleMessage {w : RTSidebandWindow} {msg : Message} {r : Handled}
    {b : BufferHandle} (hb : b ∈ w.mRenderingQueue) (hdequeue : msg.id ≠ .dequeueRequest)
    (hflush : msg.id ≠ .flush) (h : handleMessage w msg = some r) :
    b ∈ r.window.mRenderingQueue := by
  cases hmsg : msg.id with
  | unknown => rw [handleMessage_unknown hmsg h]; exact hb
  | exit => rw [handleMessage_exit hmsg h]; exact hb
  | renderRequest =>
    rw [handleMessage_renderRequest hmsg h]
    exact List.mem_append_left _ hb
  | dequeueRequest => exact absurd hmsg hdequeue
  | flush => exact absurd hmsg hflush

/-- A buffer that an effect frees. -/
def Effect.freed? : Effect → Option BufferHandle
  | .free buffer => some buffer
  | _ => none

def frees (effects : List Effect) : List BufferHandle := effects.filterMap Effect.freed?

theorem frees_freeBuffer {b : BufferHandle} (hb : b ≠ null) : frees (freeBuffer b) = [b] := by
  unfold freeBuffer
  rw [if_pos hb]
  rfl

theorem frees_flatMap_freeBuffer (l : List BufferHandle) (h : null ∉ l) :
    frees (l.flatMap freeBuffer) = l := by
  induction l with
  | nil => rfl
  | cons b l ih =>
    rw [List.mem_cons, not_or] at h
    have hhead := frees_freeBuffer (Ne.symm h.1)
    have htail := ih h.2
    unfold frees at hhead htail ⊢
    rw [List.flatMap_cons, List.filterMap_append, hhead, htail]
    rfl

theorem frees_map_free (l : List BufferHandle) : frees (l.map .free) = l := by
  unfold frees
  rw [List.filterMap_map]
  exact List.filterMap_some

theorem mem_frees_freeBuffer {b : BufferHandle} {l : List BufferHandle} (hb : b ∈ l)
    (hne : b ≠ null) : b ∈ frees (l.flatMap freeBuffer) := by
  refine List.mem_filterMap.mpr ⟨.free b, List.mem_flatMap.mpr ⟨b, hb, ?_⟩, rfl⟩
  unfold freeBuffer
  rw [if_pos hne]
  exact List.mem_cons_of_mem _ List.mem_cons_self

/-- Only a flush frees. -/
theorem frees_handleMessage {w : RTSidebandWindow} {msg : Message} {r : Handled}
    (hid : msg.id ≠ .flush) (h : handleMessage w msg = some r) : frees r.effects = [] := by
  unfold handleMessage at h
  split at h
  · rw [← Option.some.inj h]; rfl
  · rw [← Option.some.inj h]; rfl
  · unfold handleDequeueRequest at h
    split at h
    · cases h
    · rw [← Option.some.inj h]; rfl
  · next hflush => exact absurd hflush hid
  · rw [← Option.some.inj h]; rfl

/-- No handler touches the message queue. -/
theorem handleMessage_mMessageQueue {w : RTSidebandWindow} {msg : Message} {r : Handled}
    (h : handleMessage w msg = some r) : r.window.mMessageQueue = w.mMessageQueue := by
  unfold handleMessage at h
  split at h
  · rw [← Option.some.inj h]; rfl
  · rw [← Option.some.inj h]; rfl
  · unfold handleDequeueRequest at h
    split at h
    · cases h
    · rw [← Option.some.inj h]
  · rw [← Option.some.inj h]; rfl
  · rw [← Option.some.inj h]

/-- Why the render thread takes no turn: it waits for a message, it has left its loop,
or a handler erased from an empty `mRenderingQueue`. -/
inductive NoTurn
  | waiting | exited | undefined
deriving DecidableEq, Repr

/-- One turn of `messageThreadLoop`. -/
def messageThreadTurn (w : RTSidebandWindow) : Except NoTurn (List Effect × RTSidebandWindow) :=
  if w.mThreadRunning then
    match w.mMessageQueue.receive with
    | none => .error .waiting
    | some (msg, queue) =>
      match handleMessage { w with mMessageQueue := queue } msg with
      | none => .error .undefined
      | some r =>
        .ok (r.effects,
          { r.window with
            mMessageQueue := r.window.mMessageQueue.reply msg.id.code r.status })
  else .error .exited

/-- What a turn does: it takes the oldest message and handles it. -/
theorem messageThreadTurn_ok {w w' : RTSidebandWindow} {effects : List Effect}
    (h : messageThreadTurn w = .ok (effects, w')) :
    ∃ msg queue r, w.mThreadRunning = true ∧
      w.mMessageQueue.mList = w'.mMessageQueue.mList ++ [msg] ∧
      handleMessage { w with mMessageQueue := queue } msg = some r ∧ effects = r.effects ∧
      w'.mRenderingQueue = r.window.mRenderingQueue ∧
      w'.mThreadRunning = r.window.mThreadRunning := by
  unfold messageThreadTurn at h
  split at h
  · next hrun =>
    cases hq : w.mMessageQueue.receive with
    | none =>
      rw [hq] at h
      cases h
    | some taken =>
      obtain ⟨msg, queue⟩ := taken
      rw [hq] at h
      cases hr : handleMessage { w with mMessageQueue := queue } msg with
      | none =>
        simp only [hr] at h
        cases h
      | some r =>
        simp only [hr] at h
        cases h
        have hqueue : r.window.mMessageQueue = queue := handleMessage_mMessageQueue hr
        refine ⟨msg, queue, r, hrun, ?_, hr, rfl, rfl, rfl⟩
        rw [MessageQueue.reply_mList, hqueue]
        exact MessageQueue.receive_eq_some _ _ _ hq
  · cases h

/-- Without a turn, the thread has left its loop, there is no message, or a
`DEQUEUE_REQUEST` found nothing to erase. -/
theorem messageThreadTurn_error {w : RTSidebandWindow} {e : NoTurn}
    (h : messageThreadTurn w = .error e) :
    w.mThreadRunning = false ∧ e = .exited ∨ w.mMessageQueue.mList = [] ∧ e = .waiting ∨
      ∃ l msg, w.mMessageQueue.mList = l ++ [msg] ∧ msg.id = .dequeueRequest ∧
        w.mRenderingQueue = [] ∧ e = .undefined := by
  unfold messageThreadTurn at h
  split at h
  · cases hq : w.mMessageQueue.receive with
    | none =>
      rw [hq] at h
      cases h
      exact .inr (.inl ⟨MessageQueue.receive_eq_none _ hq, rfl⟩)
    | some taken =>
      obtain ⟨msg, queue⟩ := taken
      rw [hq] at h
      cases hr : handleMessage { w with mMessageQueue := queue } msg with
      | some r =>
        simp only [hr] at h
        cases h
      | none =>
        simp only [hr] at h
        cases h
        obtain ⟨hid, hempty⟩ := handleMessage_eq_none hr
        exact .inr (.inr ⟨queue.mList, msg, MessageQueue.receive_eq_some _ _ _ hq, hid, hempty, rfl⟩)
  · next hrun =>
    cases h
    exact .inl ⟨Bool.eq_false_iff.mpr hrun, rfl⟩

end RockchipHal.Sideband
