import RockchipHal.Sideband.Ownership

/-!
# Freeing sideband buffers

Buffers are freed on three paths: by the client (`freeBuffer`), by the render thread, for
all of `mRenderingQueue` (`handleFlush`), and in `release`, for what is left there.
`freed` is the list of all frees, in order.

Every buffer the client started with is at each moment held, in a render in flight, in
the part of the queue that is still the queue's, or freed, and in one of these only:

    (owned ++ freed).Perm all                                      (Kept.perm)

This needs a `dequeueBuffer` that takes the front only when neither a `DEQUEUE_REQUEST`
nor a `FLUSH` is in flight (`TakesInTurn`).  Otherwise the front is one that was handed out
already, or one that the render thread is about to free.
-/

namespace RockchipHal.Sideband

/-- How far the client is with `release`: not called, waiting for the exit of the render
thread, done. -/
inductive Phase
  | serving | releasing | released
deriving DecidableEq, Repr

structure Session where
  surface : Surface
  freed : List BufferHandle
  phase : Phase

inductive SessionAction
  | remainBuffer (buffer : BufferHandle)
  | queueBuffer (buffer : BufferHandle)
  | dequeueBuffer
  | freeBuffer (buffer : BufferHandle)
  | flush
  | release
  | messageThreadTurn
  /-- The rest of `release`. -/
  | releaseBuffers
deriving DecidableEq

namespace Session

def start (info : RTSidebandInfo) (held : List BufferHandle) : Session :=
  ⟨.start info held, [], .serving⟩

/-- The window is changed, with the effects that has. -/
def onWindow (s : Session) (effects : List Effect) (window : RTSidebandWindow) : Session :=
  { s with
    surface := { s.surface with window := window }
    freed := s.freed ++ frees effects }

/-- The client has taken `buffer`, and a request to erase it is in flight. -/
def taken (s : Session) (buffer : BufferHandle) : Session :=
  { s with
    surface := { s.surface with
      window := post s.surface.window (.ofId .dequeueRequest)
      held := buffer :: s.surface.held } }

/-- A call that frees nothing. -/
def call (s : Session) (a : SurfaceAction) : Option Session :=
  if s.phase = .serving then
    (s.surface.step a).map fun surface => { s with surface := surface }
  else none

/-- The client makes no call after `release`, which goes on when the render thread has
answered and is gone. -/
def step (s : Session) : SessionAction → Option Session
  | .remainBuffer buffer => s.call (.remainBuffer buffer)
  | .queueBuffer buffer => s.call (.queueBuffer buffer)
  | .dequeueBuffer => s.call .dequeueBuffer
  | .freeBuffer buffer =>
    if s.phase = .serving ∧ buffer ∈ s.surface.held then
      some { s with
        surface := { s.surface with held := s.surface.held.erase buffer }
        freed := s.freed ++ frees (freeBuffer buffer) }
    else none
  | .flush =>
    if s.phase = .serving then some (s.onWindow [] (flush s.surface.window).2) else none
  | .release =>
    if s.phase = .serving then
      some { s.onWindow [] (requestExit s.surface.window).2 with phase := .releasing }
    else none
  | .messageThreadTurn =>
    match messageThreadTurn s.surface.window with
    | .ok (effects, window) => some (s.onWindow effects window)
    | .error _ => none
  | .releaseBuffers =>
    if s.phase = .releasing ∧ s.surface.window.mThreadRunning = false ∧
        s.surface.window.mMessageQueue.mReplyStatus MessageId.exit.code ≠ wouldBlock then
      let left := releaseBuffers s.surface.window
      some { s.onWindow left.1 left.2 with phase := .released }
    else none

/-- `dequeueBuffer` takes a front only when no request to erase one, and no `FLUSH`, is in
flight. -/
def TakesInTurn (s : Session) (a : SessionAction) : Prop :=
  a = .dequeueBuffer → minBufferCountUndequeue < s.surface.window.mRenderingQueue.length →
    ∀ msg ∈ s.surface.messages, msg.id ≠ .dequeueRequest ∧ msg.id ≠ .flush

instance (s : Session) (a : SessionAction) : Decidable (TakesInTurn s a) := by
  unfold TakesInTurn
  infer_instance

/-- Nothing freed is held, nothing is freed twice, and the next turn of the render thread
does not erase from an empty queue. -/
structure FreeSafe (s : Session) : Prop where
  not_held : ∀ b ∈ s.freed, b ∉ s.surface.held
  once : s.freed.Nodup
  defined : messageThreadTurn s.surface.window ≠ .error .undefined

/-! ## The invariant -/

/-- What may be in flight behind what: nothing behind an `EXIT`, and no `DEQUEUE_REQUEST`
behind another or behind a `FLUSH`. -/
def InOrder (newer older : Message) : Prop :=
  older.id ≠ .exit ∧
    (newer.id = .dequeueRequest → older.id ≠ .dequeueRequest ∧ older.id ≠ .flush)

structure Kept (all : List BufferHandle) (s : Session) : Prop where
  perm : (s.surface.custody.owned ++ s.freed).Perm all
  covered : s.surface.custody.Covered
  queue_mem : ∀ b ∈ s.surface.window.mRenderingQueue, b ∈ all
  ordered : s.surface.messages.Pairwise InOrder
  running : s.phase = .serving →
    s.surface.window.mThreadRunning = true ∧ ∀ msg ∈ s.surface.messages, msg.id ≠ .exit
  exited : s.surface.window.mThreadRunning = false → s.surface.messages = []

theorem dequeues_eq_zero {l : List Message} (h : ∀ msg ∈ l, msg.id ≠ .dequeueRequest) :
    dequeues (l.filterMap Message.request?) = 0 := by
  unfold dequeues
  rw [List.countP_eq_zero]
  intro r hr hdequeue
  obtain ⟨msg, hmsg, hrequest⟩ := List.mem_filterMap.mp hr
  unfold Message.request? at hrequest
  split at hrequest
  · cases hrequest
    cases hdequeue
  · next hid => exact h msg hmsg hid
  · cases hrequest

namespace Kept

variable {all : List BufferHandle} {s s' : Session}

theorem mem_of_owned (h : Kept all s) {b : BufferHandle} (hb : b ∈ s.surface.custody.owned) :
    b ∈ all :=
  h.perm.mem_iff.mp (List.mem_append_left _ hb)

theorem freeSafe (h : Kept all s) (hn : all.Nodup) : s.FreeSafe := by
  have hnodup : (s.surface.custody.owned ++ s.freed).Nodup := h.perm.nodup_iff.mpr hn
  obtain ⟨-, hfreed, hdisj⟩ := List.nodup_append.mp hnodup
  refine ⟨fun b hb hheld => ?_, hfreed, Surface.turn_defined h.covered⟩
  have howned : b ∈ s.surface.custody.owned :=
    List.mem_append_left _ (List.mem_append_left _ hheld)
  exact hdisj b howned b hb rfl

theorem start (info : RTSidebandInfo) (held : List BufferHandle) :
    Kept held (Session.start info held) where
  perm := by
    show ((held ++ [] ++ []) ++ []).Perm held
    simp only [List.append_nil, List.Perm.refl]
  covered := Nat.zero_le 0
  queue_mem := by
    intro b hb
    cases hb
  ordered := List.Pairwise.nil
  running := fun _ => ⟨rfl, fun msg hmsg => by cases hmsg⟩
  exited := fun _ => rfl

/-- Nothing that is not itself a request to erase comes out of order before `release`. -/
theorem ordered_cons (h : Kept all s) (hphase : s.phase = .serving) {msg : Message}
    (hmsg : msg.id = .dequeueRequest →
      ∀ m ∈ s.surface.messages, m.id ≠ .dequeueRequest ∧ m.id ≠ .flush) :
    (msg :: s.surface.messages).Pairwise InOrder :=
  List.pairwise_cons.mpr
    ⟨fun m hm => ⟨(h.running hphase).2 m hm, fun hid => hmsg hid m hm⟩, h.ordered⟩

theorem running_cons (h : Kept all s) (hphase : s.phase = .serving) {msg : Message}
    (hmsg : msg.id ≠ .exit) :
    s.surface.window.mThreadRunning = true ∧ ∀ m ∈ msg :: s.surface.messages, m.id ≠ .exit := by
  refine ⟨(h.running hphase).1, fun m hm => ?_⟩
  rcases List.mem_cons.mp hm with rfl | hm
  · exact hmsg
  · exact (h.running hphase).2 m hm

/-- A window whose thread runs has not exited. -/
theorem not_exited (h : Kept all s) (hphase : s.phase = .serving) {l : List Message} :
    s.surface.window.mThreadRunning = false → l = [] := by
  intro hfalse
  rw [(h.running hphase).1] at hfalse
  cases hfalse

/-! ### Calls -/

theorem remainBuffer (h : Kept all s) (hphase : s.phase = .serving) {b : BufferHandle}
    (hb : b ∈ s.surface.held) :
    Kept all { s with
      surface := {
        window := Sideband.remainBuffer s.surface.window b
        held := s.surface.held.erase b
        given := b :: s.surface.given } } where
  perm :=
    ((Custody.owned_remain (c := s.surface.custody) h.covered hb).append_right _).trans h.perm
  covered := by
    refine Nat.le_trans h.covered ?_
    show s.surface.window.mRenderingQueue.length ≤ (s.surface.window.mRenderingQueue ++ [b]).length
    rw [List.length_append]
    omega
  queue_mem := by
    intro x hx
    rcases List.mem_append.mp hx with hx | hx
    · exact h.queue_mem x hx
    · rw [List.mem_singleton.mp hx]
      exact h.mem_of_owned (List.mem_append_left _ (List.mem_append_left _ hb))
  ordered := h.ordered
  running := fun _ => h.running hphase
  exited := h.not_exited hphase

theorem queueBuffer (h : Kept all s) (hphase : s.phase = .serving) {b : BufferHandle}
    (hb : b ∈ s.surface.held) :
    Kept all { s with
      surface := {
        window := post s.surface.window ⟨.renderRequest, b⟩
        held := s.surface.held.erase b
        given := b :: s.surface.given } } where
  perm := ((Custody.owned_render (c := s.surface.custody) hb).append_right _).trans h.perm
  covered := h.covered
  queue_mem := h.queue_mem
  ordered := h.ordered_cons hphase fun hid => by cases hid
  running := fun _ => h.running_cons hphase (show MessageId.renderRequest ≠ .exit by decide)
  exited := h.not_exited hphase

theorem take (h : Kept all s) (hphase : s.phase = .serving) {b : BufferHandle}
    {rest : List BufferHandle} (hq : s.surface.window.mRenderingQueue = b :: rest)
    (hturn : ∀ msg ∈ s.surface.messages, msg.id ≠ .dequeueRequest ∧ msg.id ≠ .flush) :
    Kept all (s.taken b) := by
  have hzero : dequeues s.surface.custody.inFlight = 0 :=
    dequeues_eq_zero fun msg hmsg => (hturn msg hmsg).1
  refine ⟨?_, ?_, h.queue_mem, h.ordered_cons hphase fun _ => hturn,
    fun _ => h.running_cons hphase (show MessageId.dequeueRequest ≠ .exit by decide),
    h.not_exited hphase⟩
  · exact ((Custody.owned_take (c := s.surface.custody) hq hzero).append_right _).trans h.perm
  · show dequeues (Request.dequeue :: s.surface.custody.inFlight) ≤
      s.surface.window.mRenderingQueue.length
    rw [dequeues_cons_dequeue, hzero, hq, List.length_cons]
    omega

theorem freeBuffer (h : Kept all s) (hnull : null ∉ all) (hphase : s.phase = .serving)
    {b : BufferHandle} (hb : b ∈ s.surface.held) :
    Kept all { s with
      surface := { s.surface with held := s.surface.held.erase b }
      freed := s.freed ++ frees (Sideband.freeBuffer b) } := by
  have hne : b ≠ null := by
    rintro rfl
    exact hnull (h.mem_of_owned (List.mem_append_left _ (List.mem_append_left _ hb)))
  refine ⟨?_, h.covered, h.queue_mem, h.ordered, fun _ => h.running hphase, h.not_exited hphase⟩
  rw [frees_freeBuffer hne]
  refine List.Perm.trans ?_ h.perm
  obtain ⟨inFlight, hflight⟩ : ∃ l, l = renders s.surface.custody.inFlight ++
      s.surface.custody.queue.drop (dequeues s.surface.custody.inFlight) := ⟨_, rfl⟩
  show ((s.surface.held.erase b ++ renders s.surface.custody.inFlight ++
    s.surface.custody.queue.drop (dequeues s.surface.custody.inFlight)) ++
      (s.freed ++ [b])).Perm ((s.surface.held ++ renders s.surface.custody.inFlight ++
        s.surface.custody.queue.drop (dequeues s.surface.custody.inFlight)) ++ s.freed)
  rw [List.append_assoc _ (renders _), List.append_assoc _ (renders _), ← hflight,
    ← List.append_assoc]
  refine (List.perm_append_singleton b _).trans ?_
  rw [← List.cons_append, ← List.cons_append]
  exact ((List.perm_cons_erase hb).symm.append_right _).append_right _

theorem flush (h : Kept all s) (hphase : s.phase = .serving) :
    Kept all (s.onWindow [] (post s.surface.window (.ofId .flush))) where
  perm := by
    show (s.surface.custody.owned ++ (s.freed ++ [])).Perm all
    rw [List.append_nil]
    exact h.perm
  covered := h.covered
  queue_mem := h.queue_mem
  ordered := h.ordered_cons hphase fun hid => by cases hid
  running := fun _ => h.running_cons hphase (show MessageId.flush ≠ .exit by decide)
  exited := h.not_exited hphase

theorem release (h : Kept all s) (hphase : s.phase = .serving) :
    Kept all
      { s.onWindow [] (requestExit s.surface.window).2 with phase := .releasing } := by
  rw [requestExit_eq]
  refine ⟨?_, h.covered, h.queue_mem, h.ordered_cons hphase (fun hid => ?_),
    (fun hserving => ?_), h.not_exited hphase⟩
  · show (s.surface.custody.owned ++ (s.freed ++ [])).Perm all
    rw [List.append_nil]
    exact h.perm
  · cases hid
  · cases hserving

/-! ### The render thread -/

/-- Frees of the whole queue, when no request to erase is in flight. -/
theorem freeQueue (h : Kept all s) {w : RTSidebandWindow} {effects : List Effect}
    (hzero : dequeues s.surface.custody.inFlight = 0) (hw : w.mRenderingQueue = [])
    (hflight : w.mMessageQueue.mList.filterMap Message.request? = s.surface.custody.inFlight)
    (hfrees : frees effects = s.surface.window.mRenderingQueue) :
    ((s.onWindow effects w).surface.custody.owned ++ (s.onWindow effects w).freed).Perm all := by
  refine List.Perm.trans ?_ h.perm
  show ((s.surface.held ++ renders (w.mMessageQueue.mList.filterMap Message.request?) ++
      w.mRenderingQueue.drop (dequeues (w.mMessageQueue.mList.filterMap Message.request?))) ++
        (s.freed ++ frees effects)).Perm
    ((s.surface.held ++ renders s.surface.custody.inFlight ++
      s.surface.window.mRenderingQueue.drop (dequeues s.surface.custody.inFlight)) ++ s.freed)
  rw [hflight, hzero, hw, hfrees, List.drop_zero, List.drop_zero, List.append_nil,
    List.append_assoc _ _ s.freed]
  exact List.perm_append_comm.append_left _

/-- What is left in flight after the oldest message was taken is in order. -/
theorem ordered_rest (h : Kept all s) {l : List Message} {msg : Message}
    (hl : s.surface.messages = l ++ [msg]) :
    l.Pairwise InOrder ∧ (∀ m ∈ l, InOrder m msg) ∧
      (s.phase = .serving → ∀ m ∈ l, m.id ≠ .exit) := by
  have hordered := h.ordered
  rw [hl] at hordered
  obtain ⟨hrest, -, hbehind⟩ := List.pairwise_append.mp hordered
  refine ⟨hrest, fun m hm => hbehind m hm msg List.mem_cons_self, fun hphase m hm => ?_⟩
  refine (h.running hphase).2 m ?_
  rw [hl]
  exact List.mem_append_left _ hm

/-- Behind a request to erase or a `FLUSH` there is no request to erase. -/
theorem dequeues_behind (h : Kept all s) {l : List Message} {msg : Message}
    (hl : s.surface.messages = l ++ [msg]) (hid : msg.id = .dequeueRequest ∨ msg.id = .flush) :
    dequeues (l.filterMap Message.request?) = 0 := by
  refine dequeues_eq_zero fun m hm hdequeue => ?_
  obtain ⟨hnotDequeue, hnotFlush⟩ := ((h.ordered_rest hl).2.1 m hm).2 hdequeue
  rcases hid with hid | hid
  · exact hnotDequeue hid
  · exact hnotFlush hid

/-- A message that is no request leaves the custody as it is. -/
theorem inFlight_other {l : List Message} {msg : Message} (hl : s.surface.messages = l ++ [msg])
    (hr : msg.request? = none) : l.filterMap Message.request? = s.surface.custody.inFlight := by
  show l.filterMap Message.request? = s.surface.messages.filterMap Message.request?
  rw [hl, List.filterMap_append, List.filterMap_cons_none hr, List.filterMap_nil, List.append_nil]

/-- What every turn keeps, whatever the message. -/
theorem after_turn (h : Kept all s) {w : RTSidebandWindow} {effects : List Effect}
    {msg : Message} (hl : s.surface.messages = w.mMessageQueue.mList ++ [msg])
    (hrun : msg.id ≠ .exit → w.mThreadRunning = true)
    (hperm : ((s.onWindow effects w).surface.custody.owned ++
      (s.onWindow effects w).freed).Perm all)
    (hcovered : (s.onWindow effects w).surface.custody.Covered)
    (hqueue : ∀ b ∈ w.mRenderingQueue, b ∈ all) : Kept all (s.onWindow effects w) := by
  obtain ⟨hordered, hbehind, hnoexit⟩ := h.ordered_rest hl
  refine ⟨hperm, hcovered, hqueue, hordered, fun hphase => ⟨hrun ?_, hnoexit hphase⟩,
    fun hfalse => ?_⟩
  · refine (h.running hphase).2 msg ?_
    rw [hl]
    exact List.mem_append_right _ List.mem_cons_self
  · by_cases hid : msg.id = .exit
    · refine List.eq_nil_iff_forall_not_mem.mpr fun m hm => ?_
      exact (hbehind m hm).1 hid
    · have hfalse : w.mThreadRunning = false := hfalse
      rw [hrun hid] at hfalse
      cases hfalse

/-- A message that is no request and frees nothing. -/
theorem turn_other (h : Kept all s) {w : RTSidebandWindow} {effects : List Effect}
    {msg : Message} (hl : s.surface.messages = w.mMessageQueue.mList ++ [msg])
    (hrun : msg.id ≠ .exit → w.mThreadRunning = true) (hnone : msg.request? = none)
    (hq : w.mRenderingQueue = s.surface.window.mRenderingQueue) (hfrees : frees effects = []) :
    Kept all (s.onWindow effects w) := by
  have hcustody : (s.onWindow effects w).surface.custody = s.surface.custody := by
    show Surface.custody { s.surface with window := w } = s.surface.custody
    rw [Surface.custody_window hq, inFlight_other hl hnone]
    rfl
  refine h.after_turn hl hrun ?_ ?_ ?_
  · rw [hcustody]
    show (s.surface.custody.owned ++ (s.freed ++ frees effects)).Perm all
    rw [hfrees, List.append_nil]
    exact h.perm
  · rw [hcustody]
    exact h.covered
  · rw [hq]
    exact h.queue_mem

theorem turn_render (h : Kept all s) {w : RTSidebandWindow} {effects : List Effect}
    {msg : Message} (hl : s.surface.messages = w.mMessageQueue.mList ++ [msg])
    (hrun : msg.id ≠ .exit → w.mThreadRunning = true) (hid : msg.id = .renderRequest)
    (hq : w.mRenderingQueue = s.surface.window.mRenderingQueue ++ [msg.buffer])
    (hfrees : frees effects = []) : Kept all (s.onWindow effects w) := by
  have hflight := Surface.inFlight_of_messages hl (Surface.request_render hid)
  have hcustody : (s.onWindow effects w).surface.custody = { s.surface.custody with
      inFlight := w.mMessageQueue.mList.filterMap Message.request?
      queue := s.surface.custody.queue ++ [msg.buffer] } := Surface.custody_window hq
  refine h.after_turn hl hrun ?_ ?_ ?_
  · rw [hcustody]
    show (_ ++ (s.freed ++ frees effects)).Perm all
    rw [hfrees, List.append_nil]
    exact ((Custody.owned_shown h.covered hflight).append_right _).trans h.perm
  · rw [hcustody]
    exact Custody.covered_shown h.covered hflight
  · rw [hq]
    intro b hb
    rcases List.mem_append.mp hb with hb | hb
    · exact h.queue_mem b hb
    · rw [List.mem_singleton.mp hb]
      refine h.mem_of_owned (List.mem_append_left _ (List.mem_append_right _ ?_))
      rw [hflight, renders_append]
      exact List.mem_append_right _ List.mem_cons_self

theorem turn_dequeue (h : Kept all s) {w : RTSidebandWindow} {effects : List Effect}
    {msg : Message} (hl : s.surface.messages = w.mMessageQueue.mList ++ [msg])
    (hrun : msg.id ≠ .exit → w.mThreadRunning = true) (hid : msg.id = .dequeueRequest)
    {b : BufferHandle} (hq : s.surface.window.mRenderingQueue = b :: w.mRenderingQueue)
    (hfrees : frees effects = []) : Kept all (s.onWindow effects w) := by
  have hflight := Surface.inFlight_of_messages hl (Surface.request_dequeue hid)
  have hcustody : (s.onWindow effects w).surface.custody = { s.surface.custody with
      inFlight := w.mMessageQueue.mList.filterMap Message.request?
      queue := w.mRenderingQueue } := rfl
  refine h.after_turn hl hrun ?_ ?_ ?_
  · rw [hcustody, Custody.owned_erased hflight hq]
    show (s.surface.custody.owned ++ (s.freed ++ frees effects)).Perm all
    rw [hfrees, List.append_nil]
    exact h.perm
  · rw [hcustody]
    exact Custody.covered_erased h.covered hflight hq
  · intro x hx
    refine h.queue_mem x ?_
    rw [hq]
    exact List.mem_cons_of_mem b hx

theorem turn_flush (h : Kept all s) {w : RTSidebandWindow} {effects : List Effect}
    {msg : Message} (hl : s.surface.messages = w.mMessageQueue.mList ++ [msg])
    (hrun : msg.id ≠ .exit → w.mThreadRunning = true) (hid : msg.id = .flush)
    (hq : w.mRenderingQueue = []) (hfrees : frees effects = s.surface.window.mRenderingQueue) :
    Kept all (s.onWindow effects w) := by
  have hflight : w.mMessageQueue.mList.filterMap Message.request? = s.surface.custody.inFlight :=
    inFlight_other hl (by simp only [Message.request?, hid])
  have hzero : dequeues s.surface.custody.inFlight = 0 := by
    rw [← hflight]
    exact h.dequeues_behind hl (.inr hid)
  refine h.after_turn hl hrun (h.freeQueue hzero hq hflight hfrees) ?_ ?_
  · show dequeues (w.mMessageQueue.mList.filterMap Message.request?) ≤ w.mRenderingQueue.length
    rw [hflight, hzero]
    exact Nat.zero_le _
  · rw [hq]
    intro b hb
    cases hb

theorem turn (h : Kept all s) (hnull : null ∉ all) {effects : List Effect}
    {w : RTSidebandWindow} (hturn : messageThreadTurn s.surface.window = .ok (effects, w)) :
    Kept all (s.onWindow effects w) := by
  obtain ⟨msg, queue, r, hrunning, hl, hr, rfl, hqueue, hthread⟩ := messageThreadTurn_ok hturn
  have hl : s.surface.messages = w.mMessageQueue.mList ++ [msg] := hl
  have hrun : msg.id ≠ .exit → w.mThreadRunning = true := by
    intro hid
    rw [hthread, handleMessage_mThreadRunning hid hr]
    exact hrunning
  cases hid : msg.id with
  | unknown =>
    rw [handleMessage_unknown hid hr] at hqueue
    exact h.turn_other hl hrun (by simp only [Message.request?, hid]) hqueue
      (frees_handleMessage (by rw [hid]; decide) hr)
  | exit =>
    rw [handleMessage_exit hid hr] at hqueue
    exact h.turn_other hl hrun (by simp only [Message.request?, hid]) hqueue
      (frees_handleMessage (by rw [hid]; decide) hr)
  | renderRequest =>
    rw [handleMessage_renderRequest hid hr] at hqueue
    exact h.turn_render hl hrun hid hqueue (frees_handleMessage (by rw [hid]; decide) hr)
  | dequeueRequest =>
    obtain ⟨b, rest, hq, hwindow⟩ := handleMessage_dequeueRequest hid hr
    rw [hwindow] at hqueue
    have hqueue : w.mRenderingQueue = rest := hqueue
    rw [← hqueue] at hq
    exact h.turn_dequeue hl hrun hid hq (frees_handleMessage (by rw [hid]; decide) hr)
  | flush =>
    obtain ⟨heffects, hwindow⟩ := handleMessage_flush hid hr
    rw [hwindow] at hqueue
    refine h.turn_flush hl hrun hid hqueue ?_
    rw [heffects]
    exact frees_flatMap_freeBuffer _ fun hmem => hnull (h.queue_mem null hmem)

/-- When the thread is gone nothing is in flight, so `release` frees what the queue owns. -/
theorem releaseBuffers (h : Kept all s) (hgone : s.surface.window.mThreadRunning = false) :
    Kept all { s.onWindow (Sideband.releaseBuffers s.surface.window).1
      (Sideband.releaseBuffers s.surface.window).2 with phase := .released } := by
  have hnil : s.surface.messages = [] := h.exited hgone
  have hflight : s.surface.custody.inFlight = [] := by
    show s.surface.messages.filterMap Message.request? = []
    rw [hnil]
    rfl
  have hzero : dequeues s.surface.custody.inFlight = 0 := by
    rw [hflight]
    rfl
  refine ⟨h.freeQueue hzero rfl rfl (frees_map_free _), ?_, ?_, h.ordered, ?_, h.exited⟩
  · exact Nat.le_of_eq hzero
  · intro b hb
    cases hb
  · intro hphase
    cases hphase

end Kept

/-! ## Runs -/

theorem call_eq_some {s s' : Session} {a : SurfaceAction} (h : s.call a = some s') :
    s.phase = .serving ∧ ∃ surface, s.surface.step a = some surface ∧
      s' = { s with surface := surface } := by
  unfold call at h
  split at h
  · next hphase =>
    obtain ⟨surface, hstep, rfl⟩ := Option.map_eq_some_iff.mp h
    exact ⟨hphase, surface, hstep, rfl⟩
  · cases h

/-- A `dequeueBuffer` from a long enough queue takes its front. -/
theorem call_dequeueBuffer {all : List BufferHandle} (hnull : null ∉ all) {s : Session}
    (h : Kept all s) (hphase : s.phase = .serving)
    (hlen : minBufferCountUndequeue < s.surface.window.mRenderingQueue.length) :
    ∃ x, s.surface.window.mRenderingQueue.head? = some x ∧ x ≠ null ∧
      s.step .dequeueBuffer = some (s.taken x) := by
  obtain ⟨x, rest, hq⟩ := exists_front hlen
  have hne : x ≠ null := by
    rintro rfl
    refine hnull (h.queue_mem null ?_)
    rw [hq]
    exact List.mem_cons_self
  refine ⟨x, by rw [hq]; rfl, hne, ?_⟩
  show s.call .dequeueBuffer = some (s.taken x)
  unfold call
  rw [if_pos hphase]
  show some { s with surface := s.surface.takes (dequeueBuffer s.surface.window) } = _
  rw [Surface.takes_of_lt hq hne hlen]
  rfl

/-- One step keeps the books. -/
theorem step_kept {all : List BufferHandle} (hnull : null ∉ all) {s s' : Session}
    {a : SessionAction} (h : Kept all s) (hok : TakesInTurn s a) (hstep : s.step a = some s') :
    Kept all s' := by
  cases a with
  | remainBuffer b =>
    obtain ⟨hphase, surface, hsurface, rfl⟩ := call_eq_some hstep
    obtain ⟨hb, rfl⟩ := Surface.give_eq_some hsurface
    exact h.remainBuffer hphase hb
  | queueBuffer b =>
    obtain ⟨hphase, surface, hsurface, rfl⟩ := call_eq_some hstep
    simp only [Surface.step, queueBuffer_eq] at hsurface
    obtain ⟨hb, rfl⟩ := Surface.give_eq_some hsurface
    exact h.queueBuffer hphase hb
  | dequeueBuffer =>
    obtain ⟨hphase, surface, hsurface, rfl⟩ := call_eq_some hstep
    by_cases hlen : minBufferCountUndequeue < s.surface.window.mRenderingQueue.length
    · obtain ⟨b, hhead, -, htake⟩ := call_dequeueBuffer hnull h hphase hlen
      obtain ⟨rest, hq⟩ := List.head?_eq_some_iff.mp hhead
      rw [Option.some.inj (hstep.symm.trans htake)]
      exact h.take hphase hq (hok rfl hlen)
    · have hsame : surface = s.surface.takes (Sideband.dequeueBuffer s.surface.window) :=
        (Option.some.inj hsurface).symm
      rw [hsame, Surface.takes_of_le (Nat.le_of_not_lt hlen)]
      exact h
  | freeBuffer b =>
    obtain ⟨⟨hphase, hb⟩, rfl⟩ := Option.ite_some_none_eq_some.mp hstep
    exact h.freeBuffer hnull hphase hb
  | flush =>
    obtain ⟨hphase, rfl⟩ := Option.ite_some_none_eq_some.mp hstep
    have hflush : (Sideband.flush s.surface.window).2 = post s.surface.window (.ofId .flush) := by
      unfold Sideband.flush
      rw [sendAsync_eq]
    rw [hflush]
    exact h.flush hphase
  | release =>
    obtain ⟨hphase, rfl⟩ := Option.ite_some_none_eq_some.mp hstep
    exact h.release hphase
  | messageThreadTurn =>
    simp only [step] at hstep
    split at hstep
    · next effects w hturn =>
      cases hstep
      exact h.turn hnull hturn
    · cases hstep
  | releaseBuffers =>
    obtain ⟨⟨-, hgone, -⟩, rfl⟩ := Option.ite_some_none_eq_some.mp hstep
    exact h.releaseBuffers hgone

theorem kept_run {info : RTSidebandInfo} {held : List BufferHandle} (hnull : null ∉ held)
    {s : Session} (h : Reach step TakesInTurn (start info held) s) : Kept held s :=
  h.inv (Kept held) (Kept.start info held) fun _ _ _ hkept hok hstep =>
    step_kept hnull hkept hok hstep

/-! ## Out of turn -/

/-- A turn of the render thread, with the message it takes. -/
theorem exists_turn {s : Session} {l : List Message} {msg : Message}
    (hrun : s.surface.window.mThreadRunning = true) (hl : s.surface.messages = l ++ [msg])
    (hid : msg.id ≠ .dequeueRequest) :
    ∃ w queue r, s.step .messageThreadTurn = some (s.onWindow r.effects w) ∧
      w.mMessageQueue.mList = l ∧
      handleMessage { s.surface.window with mMessageQueue := queue } msg = some r ∧
      w.mRenderingQueue = r.window.mRenderingQueue ∧
      w.mThreadRunning = r.window.mThreadRunning := by
  cases hturn : messageThreadTurn s.surface.window with
  | error e =>
    rcases messageThreadTurn_error hturn with ⟨hfalse, -⟩ | ⟨hnil, -⟩ | ⟨l', msg', hl', hid', -⟩
    · rw [hrun] at hfalse
      cases hfalse
    · have hnil : s.surface.messages = [] := hnil
      rw [hl] at hnil
      exact absurd hnil (List.append_ne_nil_of_right_ne_nil l (List.cons_ne_nil msg []))
    · have hl' : s.surface.messages = l' ++ [msg'] := hl'
      rw [hl, List.append_singleton_inj] at hl'
      rw [hl'.2] at hid
      exact absurd hid' hid
  | ok result =>
    obtain ⟨effects, w⟩ := result
    obtain ⟨msg', queue, r, -, hl', hr, rfl, hqueue, hthread⟩ := messageThreadTurn_ok hturn
    have hl' : s.surface.messages = w.mMessageQueue.mList ++ [msg'] := hl'
    rw [hl, List.append_singleton_inj] at hl'
    obtain ⟨hlist, rfl⟩ := hl'
    refine ⟨w, queue, r, ?_, hlist.symm, hr, hqueue, hthread⟩
    simp only [step, hturn]

/-- With a `FLUSH` in flight and no request to erase before it, the render thread comes to
free what is in the queue.  The induction is on the messages behind the newest one. -/
theorem exists_flushed (n : Nat) :
    ∀ (s : Session) (newest : Message) (l : List Message), l.length = n →
      s.surface.messages = newest :: l → s.surface.window.mThreadRunning = true →
      (∀ m ∈ l, m.id ≠ .dequeueRequest ∧ m.id ≠ .exit) → (∃ m ∈ l, m.id = .flush) →
      ∀ x ∈ s.surface.window.mRenderingQueue, x ≠ null →
        ∃ s', Reach step (fun _ a => a = .messageThreadTurn) s s' ∧ x ∈ s'.freed ∧
          s'.surface.held = s.surface.held := by
  induction n with
  | zero =>
    intro s newest l hlen hmessages hrun hids hflush x hx hne
    obtain ⟨m, hm, -⟩ := hflush
    rw [List.eq_nil_of_length_eq_zero hlen] at hm
    cases hm
  | succ n ih =>
    intro s newest l hlen hmessages hrun hids hflush x hx hne
    obtain ⟨older, msg, rfl⟩ : ∃ older msg, l = older ++ [msg] := by
      rcases List.eq_nil_or_concat l with rfl | ⟨older, msg, rfl⟩
      · cases hlen
      · exact ⟨older, msg, List.concat_eq_append⟩
    have hmsg := hids msg (List.mem_append_right _ List.mem_cons_self)
    obtain ⟨w, queue, r, hstep, hlist, hr, hqueue, hthread⟩ :=
      exists_turn (l := newest :: older) hrun hmessages hmsg.1
    have hreach : Reach step (fun _ a => a = .messageThreadTurn) s (s.onWindow r.effects w) :=
      .step .init rfl hstep
    have hrun' : w.mThreadRunning = true := by
      rw [hthread, handleMessage_mThreadRunning hmsg.2 hr]
      exact hrun
    by_cases hid : msg.id = .flush
    · refine ⟨_, hreach, List.mem_append_right _ ?_, rfl⟩
      rw [(handleMessage_flush hid hr).1]
      exact mem_frees_freeBuffer hx hne
    · have hx' : x ∈ w.mRenderingQueue := by
        rw [hqueue]
        exact mem_handleMessage (w := { s.surface.window with mMessageQueue := queue }) hx hmsg.1
          hid hr
      have hflush' : ∃ m ∈ older, m.id = .flush := by
        obtain ⟨m, hm, hmid⟩ := hflush
        rcases List.mem_append.mp hm with hm | hm
        · exact ⟨m, hm, hmid⟩
        · rw [List.mem_singleton.mp hm] at hmid
          exact absurd hmid hid
      have hlen' : older.length = n := by
        rw [List.length_append, List.length_singleton] at hlen
        omega
      obtain ⟨s', hreach', hfreed, hheld⟩ := ih (s.onWindow r.effects w) newest older hlen' hlist
        hrun' (fun m hm => hids m (List.mem_append_left _ hm)) hflush' x hx' hne
      exact ⟨s', hreach.trans hreach', hfreed, hheld⟩

/-- The turns of the render thread, and the client freeing the buffer. -/
def EndsWith (x : BufferHandle) (_ : Session) (a : SessionAction) : Prop :=
  a = .messageThreadTurn ∨ a = .freeBuffer x

/-- The client has not given the front of the queue back: it still holds it, or has freed
it. -/
def FrontKept (s : Session) : Prop :=
  ∀ x ∈ s.surface.window.mRenderingQueue.head?, x ∈ s.surface.held ∨ x ∈ s.freed

/-- A `FLUSH` that the client did not wait for frees the front it took. -/
theorem unsafe_of_flush {all : List BufferHandle} {s : Session} {x : BufferHandle}
    (h : Kept all s) (hphase : s.phase = .serving) (hx : x ∈ s.surface.window.mRenderingQueue)
    (hne : x ≠ null) (hnone : ∀ msg ∈ s.surface.messages, msg.id ≠ .dequeueRequest)
    (hflush : ∃ msg ∈ s.surface.messages, msg.id = .flush) :
    ∃ s', Reach step (EndsWith x) (s.taken x) s' ∧ ¬ s'.FreeSafe := by
  have hids : ∀ m ∈ s.surface.messages, m.id ≠ .dequeueRequest ∧ m.id ≠ .exit :=
    fun m hm => ⟨hnone m hm, (h.running hphase).2 m hm⟩
  obtain ⟨s', hreach, hfreed, hheld⟩ := exists_flushed _ (s.taken x) (.ofId .dequeueRequest)
    s.surface.messages rfl rfl (h.running hphase).1 hids hflush x hx hne
  refine ⟨s', hreach.mono fun _ _ => .inl, fun hsafe => hsafe.not_held x hfreed ?_⟩
  rw [hheld]
  exact List.mem_cons_self

/-- A client that holds the buffer twice frees it once. -/
theorem unsafe_of_held {s : Session} {x : BufferHandle} (hphase : s.phase = .serving)
    (hne : x ≠ null) (hheld : x ∈ s.surface.held) :
    ∃ s', Reach step (EndsWith x) (s.taken x) s' ∧ ¬ s'.FreeSafe := by
  have hmem : x ∈ (s.taken x).surface.held := List.mem_cons_self
  have hfree : (s.taken x).step (.freeBuffer x) = some { s.taken x with
      surface := { (s.taken x).surface with held := (s.taken x).surface.held.erase x }
      freed := (s.taken x).freed ++ frees (freeBuffer x) } := by
    simp only [step]
    rw [if_pos ⟨hphase, hmem⟩]
  refine ⟨_, .step .init (.inr rfl) hfree, fun hsafe => hsafe.not_held x ?_ ?_⟩
  · rw [frees_freeBuffer hne]
    exact List.mem_append_right _ List.mem_cons_self
  · show x ∈ (x :: s.surface.held).erase x
    rw [List.erase_cons_head]
    exact hheld

/-- A `dequeueBuffer` out of turn leads to a wrong free when it is a `FLUSH` that it does
not wait for, or when the front it takes is one the client has not given back. -/
theorem exists_unsafe {all : List BufferHandle} (hnull : null ∉ all) {s : Session}
    (h : Kept all s) (hphase : s.phase = .serving) (hnot : ¬ TakesInTurn s .dequeueBuffer)
    (hfront : (∀ msg ∈ s.surface.messages, msg.id ≠ .dequeueRequest) ∨ s.FrontKept) :
    ∃ x, s.step .dequeueBuffer = some (s.taken x) ∧
      ∃ s', Reach step (EndsWith x) (s.taken x) s' ∧ ¬ s'.FreeSafe := by
  unfold TakesInTurn at hnot
  rw [Classical.not_imp, Classical.not_imp] at hnot
  obtain ⟨-, hlen, hmessages⟩ := hnot
  obtain ⟨x, hhead, hne, htake⟩ := call_dequeueBuffer hnull h hphase hlen
  have hx : x ∈ s.surface.window.mRenderingQueue := List.mem_of_mem_head? hhead
  refine ⟨x, htake, ?_⟩
  rcases hfront with hnone | hkept
  · refine unsafe_of_flush h hphase hx hne hnone ?_
    by_contra hno
    exact hmessages fun m hm => ⟨hnone m hm, fun hid => hno ⟨m, hm, hid⟩⟩
  · rcases hkept x hhead with hheld | hfreed
    · exact unsafe_of_held hphase hne hheld
    · exact ⟨s.taken x, .init, fun hsafe => hsafe.not_held x hfreed List.mem_cons_self⟩

/-- **No wrong free** in runs whose `dequeueBuffer` calls take the front in turn.  After a call
out of turn, by a `FLUSH` in flight or with a front not given back, the render thread and the
client freeing what it took lead to one. -/
theorem free_safe (info : RTSidebandInfo) (held : List BufferHandle) (hn : held.Nodup)
    (hnull : null ∉ held) (s : Session) (h : Reach step TakesInTurn (start info held) s) :
    s.FreeSafe ∧
      (s.phase = .serving → ¬ TakesInTurn s .dequeueBuffer →
        (∀ msg ∈ s.surface.messages, msg.id ≠ .dequeueRequest) ∨ s.FrontKept →
          ∃ x, s.step .dequeueBuffer = some (s.taken x) ∧
            ∃ s', Reach step (EndsWith x) (s.taken x) s' ∧ ¬ s'.FreeSafe) := by
  have hkept := kept_run hnull h
  exact ⟨hkept.freeSafe hn, exists_unsafe hnull hkept⟩

/-- Each of the three paths frees something: the client, a flush and `release`. -/
def threePaths : List SessionAction :=
  [.remainBuffer 1, .remainBuffer 2, .remainBuffer 3, .dequeueBuffer, .freeBuffer 1, .flush,
    .queueBuffer 4, .release, .messageThreadTurn, .messageThreadTurn, .messageThreadTurn,
    .messageThreadTurn, .releaseBuffers]

theorem free_safe_threePaths :
    ∃ s, run step TakesInTurn (start Surface.screen [1, 2, 3, 4]) threePaths = some s ∧
      s.freed = [1, 2, 3, 4] ∧ s.FreeSafe := by
  obtain ⟨hsafe, -⟩ := free_safe Surface.screen [1, 2, 3, 4] (by decide) (by decide) _
    (Reach.of_run_get threePaths rfl)
  exact ⟨_, (Option.some_get rfl).symm, rfl, hsafe⟩

/-- The front is taken while a `FLUSH` is in flight, which is then handled. -/
def flushOvertaken : List SessionAction :=
  [.remainBuffer 1, .remainBuffer 2, .remainBuffer 3, .flush, .dequeueBuffer, .messageThreadTurn]

/-- The flush frees buffer 1, which the client holds by then, and the `DEQUEUE_REQUEST`
behind it finds the queue empty.  When the client frees its buffer, it is freed twice. -/
theorem freed_while_held :
    (∃ s, Reach step (fun _ _ => True) (start Surface.screen [1, 2, 3]) s ∧
      (∃ b ∈ s.freed, b ∈ s.surface.held) ∧
      messageThreadTurn s.surface.window = .error .undefined) ∧
    ∃ s, Reach step (fun _ _ => True) (start Surface.screen [1, 2, 3]) s ∧ ¬ s.freed.Nodup := by
  refine ⟨⟨_, Reach.of_run_get flushOvertaken rfl, ⟨1, by decide, by decide⟩, rfl⟩,
    ⟨_, Reach.of_run_get (flushOvertaken ++ [.freeBuffer 1]) rfl, by decide⟩⟩

end Session

end RockchipHal.Sideband
