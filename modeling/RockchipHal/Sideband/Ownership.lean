import RockchipHal.Lib.Reach
import RockchipHal.Sideband.Custody
import RockchipHal.Sideband.Window

/-!
# Who owns a sideband buffer

A client thread and the render thread share one window.  The client hands in
buffers it holds (`remainBuffer`, `queueBuffer`) and takes buffers back
(`dequeueBuffer`); the render thread works through the messages.  Every call and
every turn of the render thread is one step.

`Surface.custody` forgets all of the window but the messages in flight and
`mRenderingQueue`.  A step in which `dequeueBuffer` waits for the request in flight
is a move of it, or none (`step_moves`), so the books of `Custody` are right in runs
of such steps:

* `owned_exclusive`: no call returns a buffer the client holds, no buffer is
  dropped, and after a call that does not wait one is.
* `dequeued_twice`: two `dequeueBuffer` calls before the render thread's turn
  return the same buffer, and the buffer behind it is lost.
-/

namespace RockchipHal.Sideband

/-- The window, the buffers the client holds and those it ever gave to the window. -/
structure Surface where
  window : RTSidebandWindow
  held : List BufferHandle
  given : List BufferHandle

inductive SurfaceAction
  | remainBuffer (buffer : BufferHandle)
  | queueBuffer (buffer : BufferHandle)
  | dequeueBuffer
  | messageThreadTurn
deriving DecidableEq

def Message.request? (msg : Message) : Option (Request BufferHandle) :=
  match msg.id with
  | .renderRequest => some (.render msg.buffer)
  | .dequeueRequest => some .dequeue
  | _ => none

namespace Surface

/-- The window as `init` leaves it, its render thread in its loop. -/
def start (info : RTSidebandInfo) (held : List BufferHandle) : Surface where
  window :=
    { mSidebandInfo := info
      mMessageQueue := .empty
      mRenderingQueue := []
      mThreadRunning := true }
  held := held
  given := []

/-- The client gives up `buffer`, which it holds. -/
def give (s : Surface) (buffer : BufferHandle) (window : RTSidebandWindow) : Option Surface :=
  if buffer ∈ s.held then
    some { window := window, held := s.held.erase buffer, given := buffer :: s.given }
  else none

/-- The client holds what a call returns, unless it is `NULL`. -/
def takes (s : Surface) (r : DequeueResult) : Surface :=
  { s with window := r.window, held := if r.buffer = null then s.held else r.buffer :: s.held }

def step (s : Surface) : SurfaceAction → Option Surface
  | .remainBuffer buffer => s.give buffer (remainBuffer s.window buffer)
  | .queueBuffer buffer => s.give buffer (queueBuffer s.window buffer).2
  | .dequeueBuffer => some (s.takes (dequeueBuffer s.window))
  | .messageThreadTurn =>
    match messageThreadTurn s.window with
    | .ok (_, window) => some { s with window := window }
    | .error _ => none

def messages (s : Surface) : List Message := s.window.mMessageQueue.mList

def custody (s : Surface) : Custody BufferHandle where
  held := s.held
  given := s.given
  inFlight := s.messages.filterMap Message.request?
  queue := s.window.mRenderingQueue

/-- The render thread is in its loop and has only renders and dequeues to handle. -/
structure Rendering (s : Surface) : Prop where
  running : s.window.mThreadRunning = true
  requests : ∀ msg ∈ s.messages, msg.id = .renderRequest ∨ msg.id = .dequeueRequest

/-- `dequeueBuffer` takes a front only when no `DEQUEUE_REQUEST` is in flight. -/
def DequeuesInTurn (s : Surface) (a : SurfaceAction) : Prop :=
  a = .dequeueBuffer → minBufferCountUndequeue < s.window.mRenderingQueue.length →
    dequeues s.custody.inFlight = 0

instance (s : Surface) (a : SurfaceAction) : Decidable (DequeuesInTurn s a) := by
  unfold DequeuesInTurn
  infer_instance

/-! ## Every step is a move -/

theorem give_eq_some {s s' : Surface} {b : BufferHandle} {w : RTSidebandWindow}
    (h : s.give b w = some s') :
    b ∈ s.held ∧ s' = { window := w, held := s.held.erase b, given := b :: s.given } := by
  unfold give at h
  split at h
  · next hb => exact ⟨hb, (Option.some.inj h).symm⟩
  · cases h

theorem step_messageThreadTurn {s s' : Surface} (h : s.step .messageThreadTurn = some s') :
    ∃ effects w, messageThreadTurn s.window = .ok (effects, w) ∧ s' = { s with window := w } := by
  simp only [step] at h
  split at h
  · next effects w hw => exact ⟨effects, w, hw, (Option.some.inj h).symm⟩
  · cases h

theorem takes_of_le {s : Surface} (h : s.window.mRenderingQueue.length ≤ minBufferCountUndequeue) :
    s.takes (dequeueBuffer s.window) = s := by
  rw [dequeueBuffer_of_le _ h]
  rfl

theorem takes_of_lt {s : Surface} {b : BufferHandle} {rest : List BufferHandle}
    (hq : s.window.mRenderingQueue = b :: rest) (hb : b ≠ null)
    (h : minBufferCountUndequeue < s.window.mRenderingQueue.length) :
    s.takes (dequeueBuffer s.window) =
      { s with window := post s.window (.ofId .dequeueRequest), held := b :: s.held } := by
  rw [dequeueBuffer_of_lt _ h, hq]
  unfold takes
  rw [List.headD_cons, if_neg hb]

/-- The oldest message, as a request. -/
theorem inFlight_of_messages {s : Surface} {l : List Message} {msg : Message}
    {r : Request BufferHandle} (hl : s.messages = l ++ [msg]) (hr : msg.request? = some r) :
    s.custody.inFlight = l.filterMap Message.request? ++ [r] := by
  show s.messages.filterMap Message.request? = _
  rw [hl, List.filterMap_append, List.filterMap_cons_some hr]
  rfl

theorem request_dequeue {msg : Message} (hid : msg.id = .dequeueRequest) :
    msg.request? = some .dequeue := by
  simp only [Message.request?, hid]

theorem request_render {msg : Message} (hid : msg.id = .renderRequest) :
    msg.request? = some (.render msg.buffer) := by
  simp only [Message.request?, hid]

/-- What a turn makes of the custody. -/
theorem custody_window {s : Surface} {w : RTSidebandWindow} {queue : List BufferHandle}
    (hq : w.mRenderingQueue = queue) :
    custody { s with window := w } =
      { s.custody with
        inFlight := w.mMessageQueue.mList.filterMap Message.request?
        queue := queue } := by
  rw [← hq]
  rfl

/-- The turn of the render thread, by the message it takes. -/
theorem turn_moves {s s' : Surface} (hs : Rendering s)
    (h : s.step .messageThreadTurn = some s') :
    Rendering s' ∧ Custody.Move minBufferCountUndequeue s.custody s'.custody ∧
      s'.messages.length < s.messages.length ∧ s'.custody.drained = s.custody.drained ∧
      (s.custody.Covered → s'.custody.Covered) := by
  obtain ⟨effects, w, hw, rfl⟩ := step_messageThreadTurn h
  obtain ⟨msg, queue, r, hrun, hl, hr, -, hqueue, hrun'⟩ := messageThreadTurn_ok hw
  have hl : s.messages = w.mMessageQueue.mList ++ [msg] := hl
  have hrequests := hs.requests
  rw [hl] at hrequests
  have hrest : ∀ m ∈ w.mMessageQueue.mList, m.id = .renderRequest ∨ m.id = .dequeueRequest :=
    fun m hm => hrequests m (List.mem_append_left _ hm)
  have hlength : w.mMessageQueue.mList.length < s.messages.length := by
    rw [hl, List.length_append, List.length_singleton]
    omega
  rcases hrequests msg (by simp) with hid | hid
  · rw [handleMessage_renderRequest hid hr] at hqueue hrun'
    have hqueue : w.mRenderingQueue = s.custody.queue ++ [msg.buffer] := hqueue
    have hflight := inFlight_of_messages hl (request_render hid)
    rw [custody_window hqueue]
    exact ⟨⟨hrun'.trans hrun, hrest⟩, .shown hflight, hlength, Custody.drained_shown hflight,
      fun h => Custody.covered_shown h hflight⟩
  · obtain ⟨b, rest, hq, hwindow⟩ := handleMessage_dequeueRequest hid hr
    have hq : s.custody.queue = b :: rest := hq
    rw [hwindow] at hqueue hrun'
    have hqueue : w.mRenderingQueue = rest := hqueue
    have hflight := inFlight_of_messages hl (request_dequeue hid)
    rw [custody_window hqueue]
    exact ⟨⟨hrun'.trans hrun, hrest⟩, .erased hflight hq, hlength,
      Custody.drained_erased hflight hq, fun h => Custody.covered_erased h hflight hq⟩

/-- Posting a render or a dequeue. -/
theorem Rendering.post {s : Surface} (hs : Rendering s) {msg : Message}
    (hid : msg.id = .renderRequest ∨ msg.id = .dequeueRequest) (held given : List BufferHandle) :
    Rendering { window := Sideband.post s.window msg, held := held, given := given } := by
  refine ⟨hs.running, fun m hm => ?_⟩
  have hm : m ∈ msg :: s.messages := hm
  rcases List.mem_cons.mp hm with rfl | hm
  · exact hid
  · exact hs.requests m hm

theorem step_moves {s s' : Surface} {a : SurfaceAction} (hs : Rendering s)
    (hnull : null ∉ s.window.mRenderingQueue) (hok : DequeuesInTurn s a) (h : s.step a = some s') :
    Rendering s' ∧
      (s'.custody = s.custody ∨ Custody.Move minBufferCountUndequeue s.custody s'.custody) := by
  cases a with
  | remainBuffer b =>
    obtain ⟨hb, rfl⟩ := give_eq_some h
    exact ⟨⟨hs.running, hs.requests⟩, .inr (.remain (c := s.custody) hb)⟩
  | queueBuffer b =>
    simp only [step, queueBuffer_eq] at h
    obtain ⟨hb, rfl⟩ := give_eq_some h
    exact ⟨hs.post (.inl rfl) _ _, .inr (.render (c := s.custody) hb)⟩
  | dequeueBuffer =>
    have h : s' = s.takes (dequeueBuffer s.window) := (Option.some.inj h).symm
    subst h
    by_cases hlen : minBufferCountUndequeue < s.window.mRenderingQueue.length
    · obtain ⟨b, rest, hq⟩ := exists_front hlen
      have hb : b ≠ null := by
        rintro rfl
        rw [hq] at hnull
        exact hnull List.mem_cons_self
      rw [takes_of_lt hq hb hlen]
      exact ⟨hs.post (.inr rfl) _ _, .inr (.take (c := s.custody) hq hlen (hok rfl hlen))⟩
    · rw [takes_of_le (Nat.le_of_not_lt hlen)]
      exact ⟨hs, .inl rfl⟩
  | messageThreadTurn =>
    obtain ⟨hs', hmove, -⟩ := turn_moves hs h
    exact ⟨hs', .inr hmove⟩

/-! ## Runs -/

/-- A turn finds an entry to erase. -/
theorem turn_defined {s : Surface} (hc : s.custody.Covered) :
    messageThreadTurn s.window ≠ .error .undefined := by
  intro h
  rcases messageThreadTurn_error h with ⟨-, he⟩ | ⟨-, he⟩ | ⟨l, msg, hl, hid, hq, -⟩
  · cases he
  · cases he
  · unfold Custody.Covered at hc
    have hqueue : s.custody.queue = [] := hq
    rw [inFlight_of_messages hl (request_dequeue hid), dequeues_append, dequeues_dequeue, hqueue, List.length_nil] at hc
    omega

/-- With a message in flight, the render thread takes its turn. -/
theorem turn_enabled {s : Surface} (hs : Rendering s) (hc : s.custody.Covered)
    (hne : s.messages ≠ []) : ∃ s', s.step .messageThreadTurn = some s' := by
  cases hturn : messageThreadTurn s.window with
  | ok r =>
    refine ⟨{ s with window := r.2 }, ?_⟩
    simp only [step, hturn]
  | error e =>
    rcases messageThreadTurn_error hturn with ⟨hrun, -⟩ | ⟨hl, -⟩ | ⟨l, msg, -, -, -, he⟩
    · rw [hs.running] at hrun
      cases hrun
    · exact absurd hl hne
    · rw [he] at hturn
      exact absurd hturn (turn_defined hc)

theorem drained_of_messages_nil {s : Surface} (h : s.messages = []) :
    s.custody = s.custody.drained := by
  refine (Custody.drained_nil ?_).symm
  show s.messages.filterMap Message.request? = []
  rw [h]
  rfl

/-- The render thread, left alone, handles everything in flight. -/
theorem exists_drained (n : Nat) (s : Surface) (hlen : s.messages.length ≤ n)
    (hs : Rendering s) (hc : s.custody.Covered) :
    ∃ s', Reach step (fun _ a => a = .messageThreadTurn) s s' ∧
      s'.custody = s.custody.drained := by
  induction n generalizing s with
  | zero =>
    have hnil : s.messages = [] := List.eq_nil_of_length_eq_zero (Nat.le_zero.mp hlen)
    exact ⟨s, .init, drained_of_messages_nil hnil⟩
  | succ n ih =>
    by_cases hnil : s.messages = []
    · exact ⟨s, .init, drained_of_messages_nil hnil⟩
    · obtain ⟨s1, hstep⟩ := turn_enabled hs hc hnil
      obtain ⟨hs1, -, hless, hdrained, hcovered⟩ := turn_moves hs hstep
      obtain ⟨s', hreach, hs'⟩ := ih s1 (by omega) hs1 (hcovered hc)
      have hfirst : Reach step (fun _ a => a = .messageThreadTurn) s s1 := .step .init rfl hstep
      exact ⟨s', hfirst.trans hreach, hs'.trans hdrained⟩

theorem start_accounted (info : RTSidebandInfo) (held : List BufferHandle) :
    Custody.Accounted held (start info held).custody where
  perm := by
    show (held ++ [] ++ []).Perm held
    rw [List.append_nil, List.append_nil]
  given_mem := by
    intro b hb
    cases hb
  queue_given := by
    intro b hb
    cases hb
  renders_given := by
    intro b hb
    cases hb
  pending := .inl rfl

theorem start_rendering (info : RTSidebandInfo) (held : List BufferHandle) :
    Rendering (start info held) where
  running := rfl
  requests := by
    intro msg hmsg
    cases hmsg

/-- The invariant of runs in turn. -/
theorem accounted_run {info : RTSidebandInfo} {held : List BufferHandle} (hn : held.Nodup)
    (hnull : null ∉ held) {s : Surface} (h : Reach step DequeuesInTurn (start info held) s) :
    Rendering s ∧ Custody.Accounted held s.custody := by
  refine h.inv (fun s => Rendering s ∧ Custody.Accounted held s.custody)
    ⟨start_rendering info held, start_accounted info held⟩ ?_
  rintro s a s' ⟨hs, hacc⟩ hok hstep
  have hqueue : null ∉ s.window.mRenderingQueue := fun hq => hnull (hacc.mem_of_queue hq)
  obtain ⟨hs', hsame | hmove⟩ := step_moves hs hqueue hok hstep
  · rw [hsame]
    exact ⟨hs', hacc⟩
  · exact ⟨hs', hacc.move hn (by decide) hmove⟩

/-- `b` is with the client, in a render in flight, or in the queue. -/
def Placed (s : Surface) (b : BufferHandle) : Prop := s.custody.Placed b

/-- The next `dequeueBuffer` returns no buffer the client holds. -/
def DequeuesFresh (s : Surface) : Prop := (dequeueBuffer s.window).buffer ∉ s.held

theorem dequeuesFresh {s : Surface} {all : List BufferHandle} (hn : all.Nodup)
    (hnull : null ∉ all) (h : Custody.Accounted all s.custody)
    (hok : DequeuesInTurn s .dequeueBuffer) : s.DequeuesFresh := by
  unfold DequeuesFresh
  by_cases hlen : minBufferCountUndequeue < s.window.mRenderingQueue.length
  · obtain ⟨b, rest, hq⟩ := exists_front hlen
    rw [dequeueBuffer_of_lt _ hlen, hq]
    exact h.fresh hn (hok rfl hlen) hq
  · rw [dequeueBuffer_of_le _ (Nat.le_of_not_lt hlen)]
    exact fun hheld => hnull (h.mem_of_held hheld)

/-- After a `dequeueBuffer` that does not wait, the render thread's turns lose a buffer. -/
theorem exists_lost {s : Surface} {all : List BufferHandle} (hn : all.Nodup) (hnull : null ∉ all)
    (hs : Rendering s) (h : Custody.Accounted all s.custody)
    (hnot : ¬ DequeuesInTurn s .dequeueBuffer) :
    ∃ s', Reach step (fun _ a => a = .messageThreadTurn) (s.takes (dequeueBuffer s.window)) s' ∧
      ∃ b ∈ s'.given, ¬ s'.Placed b := by
  unfold DequeuesInTurn at hnot
  rw [Classical.not_imp, Classical.not_imp] at hnot
  obtain ⟨-, hlen, hpending⟩ := hnot
  obtain ⟨x, rest, hq⟩ := exists_front hlen
  have hx : x ≠ null := by
    rintro rfl
    have hmem : null ∈ s.custody.queue := by
      show null ∈ s.window.mRenderingQueue
      rw [hq]
      exact List.mem_cons_self
    exact hnull (h.mem_of_queue hmem)
  rw [takes_of_lt hq hx hlen]
  have hcovered : dequeues s.custody.inFlight + 1 ≤ s.window.mRenderingQueue.length := by
    have hone : dequeues s.custody.inFlight = 1 := by
      rcases h.pending with hzero | ⟨hone, -⟩
      · exact absurd hzero hpending
      · exact hone
    unfold minBufferCountUndequeue at hlen
    omega
  obtain ⟨s', hreach, hs'⟩ := exists_drained _
    { s with window := post s.window (.ofId .dequeueRequest), held := x :: s.held }
    (Nat.le_refl _) (hs.post (.inr rfl) _ _) (by
      show dequeues (Request.dequeue :: s.custody.inFlight) ≤ _
      rw [dequeues_cons_dequeue]
      exact hcovered)
  obtain ⟨b, hb, hlost⟩ := h.lost hn hpending hq
  refine ⟨s', hreach, b, ?_, ?_⟩
  · show b ∈ s'.custody.given
    rw [hs']
    exact hb
  · unfold Placed
    rw [hs']
    exact hlost

/-- In a run whose `dequeueBuffer` calls wait for the request in flight, no call returns a
buffer the client holds, no buffer is dropped, and the render thread never erases from an
empty queue.  After a call that does not wait the render thread alone drops a buffer. -/
theorem owned_exclusive (info : RTSidebandInfo) (held : List BufferHandle) (hn : held.Nodup)
    (hnull : null ∉ held) (s : Surface)
    (h : Reach step DequeuesInTurn (start info held) s) :
    (DequeuesInTurn s .dequeueBuffer → s.DequeuesFresh) ∧ (∀ b ∈ s.given, s.Placed b) ∧
      messageThreadTurn s.window ≠ .error .undefined ∧
      (¬ DequeuesInTurn s .dequeueBuffer →
        ∃ s', Reach step (fun _ a => a = .messageThreadTurn)
            (s.takes (dequeueBuffer s.window)) s' ∧
          ∃ b ∈ s'.given, ¬ s'.Placed b) := by
  obtain ⟨hs, hacc⟩ := accounted_run hn hnull h
  exact ⟨dequeuesFresh hn hnull hacc, fun b hb => hacc.placed hb, turn_defined hacc.covered,
    exists_lost hn hnull hs hacc⟩

def screen : RTSidebandInfo := ⟨0, 0, 1920, 1080, 0, 1920, 1080, 1⟩

/-- Three buffers go round: the front is dequeued, shown and dequeued again. -/
def oneRound : List SurfaceAction :=
  [.remainBuffer 1, .remainBuffer 2, .remainBuffer 3, .dequeueBuffer, .messageThreadTurn,
    .queueBuffer 1, .messageThreadTurn, .dequeueBuffer]

theorem owned_exclusive_round :
    ∃ s, run step DequeuesInTurn (start screen [1, 2, 3]) oneRound = some s ∧ s.held = [2] ∧
      (DequeuesInTurn s .dequeueBuffer → s.DequeuesFresh) ∧ (∀ b ∈ s.given, s.Placed b) ∧
      messageThreadTurn s.window ≠ .error .undefined := by
  obtain ⟨hfresh, hplaced, hdefined, -⟩ := owned_exclusive screen [1, 2, 3] (by decide)
    (by decide) _ (Reach.of_run_get oneRound rfl)
  exact ⟨_, (Option.some_get rfl).symm, rfl, hfresh, hplaced, hdefined⟩

def oneDequeue : List SurfaceAction :=
  [.remainBuffer 1, .remainBuffer 2, .remainBuffer 3, .dequeueBuffer]

def twoDequeues : List SurfaceAction :=
  oneDequeue ++ [.dequeueBuffer, .messageThreadTurn, .messageThreadTurn]

/-- With every interleaving allowed, two `dequeueBuffer` calls before the render thread's
turn hand out buffer 1 twice, and their two requests erase buffer 2, which then is
nowhere. -/
theorem dequeued_twice :
    (∃ s, Reach step (fun _ _ => True) (start screen [1, 2, 3]) s ∧ ¬ s.DequeuesFresh) ∧
      ∃ s, Reach step (fun _ _ => True) (start screen [1, 2, 3]) s ∧
        ∃ b ∈ s.given, ¬ s.Placed b := by
  refine ⟨⟨_, Reach.of_run_get oneDequeue rfl, ?_⟩, ⟨_, Reach.of_run_get twoDequeues rfl, 2, ?_⟩⟩
  · intro hfresh
    exact hfresh (by decide)
  · refine ⟨by decide, ?_⟩
    rintro (hm | hm | hm)
    · exact absurd hm (by decide)
    · exact absurd hm (by decide)
    · exact absurd hm (by decide)

end Surface

end RockchipHal.Sideband
