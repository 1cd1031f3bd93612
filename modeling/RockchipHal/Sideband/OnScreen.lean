import RockchipHal.Sideband.FreeSafety

/-!
# The buffer on the screen

A buffer that was put on the plane stays in `mRenderingQueue` until it comes to its front, and
`dequeueBuffer` leaves `MIN_BUFFER_COUNT_UNDEQUEUE` buffers there, so that the client is not handed
the one on the screen.  `behind` is how many have come into the queue behind it without being shown:
those of `remainBuffer`, and renders for which there was no plane or no framebuffer.

In a run whose `dequeueBuffer` calls take the front in turn, the client never holds the buffer on
the screen exactly when none of these calls finds it in front of the queue, with just `behind`
buffers after it:

    (∀ states of the run, Untouched) ↔ ∀ steps of the run, TakesBefore       (untouched_iff)

With at most one buffer behind it that is always so (`takesBefore_of_behind_le`).
-/

namespace RockchipHal.Sideband

/-! ## The run, with what is on the screen -/

/-- A buffer that an effect puts on the plane. -/
def Effect.plane? : Effect → Option BufferHandle
  | .setDrmPlane _ _ _ buffer => some buffer
  | _ => none

/-- A session, the buffer on the screen, and how many came into the queue behind it. -/
structure Showing where
  session : Session
  plane : Option BufferHandle
  behind : Nat

/-- A call of the client, or a turn of the render thread; `shows` when for its render there is a
plane and the kernel takes the buffer's framebuffer. -/
structure ShowingAction where
  call : SessionAction
  shows : Bool
deriving DecidableEq

namespace Showing

def start (info : RTSidebandInfo) (held : List BufferHandle) : Showing :=
  ⟨.start info held, none, 0⟩

/-- The buffer that the render thread's turn is to show. -/
def rendered (s : Showing) : Option BufferHandle :=
  match messageThreadTurn s.session.surface.window with
  | .ok (effects, _) => effects.findSome? Effect.plane?
  | .error _ => none

def after (s : Showing) (a : ShowingAction) (session : Session) : Showing :=
  match a.call with
  | .remainBuffer _ => ⟨session, s.plane, s.behind + 1⟩
  | .messageThreadTurn =>
    match s.rendered with
    | some buffer =>
      if a.shows then ⟨session, some buffer, 0⟩ else ⟨session, s.plane, s.behind + 1⟩
    | none => ⟨session, s.plane, s.behind⟩
  | _ => ⟨session, s.plane, s.behind⟩

def step (s : Showing) (a : ShowingAction) : Option Showing :=
  (s.session.step a.call).map (s.after a)

def queue (s : Showing) : List BufferHandle := s.session.surface.window.mRenderingQueue

def InTurn (s : Showing) (a : ShowingAction) : Prop := s.session.TakesInTurn a.call

instance (s : Showing) (a : ShowingAction) : Decidable (InTurn s a) :=
  inferInstanceAs (Decidable (Session.TakesInTurn _ _))

/-- The client does not hold the buffer on the screen. -/
def Untouched (s : Showing) : Prop := ∀ b ∈ s.plane, b ∉ s.session.surface.held

/-- A `dequeueBuffer` that takes a buffer finds more or less in the queue than the buffer on the
screen and those behind it. -/
def TakesBefore (s : Showing) (a : ShowingAction) : Prop :=
  a.call = .dequeueBuffer → minBufferCountUndequeue < s.queue.length → s.plane.isSome →
    s.queue.length ≠ s.behind + 1

/-- What the two buffers that stay are for. -/
theorem takesBefore_of_behind_le {s : Showing} (h : s.behind ≤ 1) (a : ShowingAction) :
    s.TakesBefore a := by
  intro _ hlen _
  unfold minBufferCountUndequeue at hlen
  omega

end Showing

/-! ## Where the buffer is -/

section
variable {β : Type}

/-- The buffer is in the queue, with `behind` others after it and not among the first `pending`
ones, which are as good as erased; or it was freed, and all that is in the queue came later. -/
inductive Located (b : β) (behind : Nat) (queue : List β) (pending : Nat) (freed : List β) : Prop
  | queued (front back : List β) (split : queue = front ++ b :: back)
      (count : back.length = behind) (kept : pending ≤ front.length)
  | gone (mem : b ∈ freed) (later : queue.length ≤ behind)

namespace Located

variable {b x : β} {behind pending : Nat} {queue freed freed' : List β}

theorem append (h : Located b behind queue pending freed) (x : β) :
    Located b (behind + 1) (queue ++ [x]) pending freed := by
  rcases h with ⟨front, back, rfl, rfl, hkept⟩ | ⟨hmem, hlater⟩
  · refine .queued front (back ++ [x]) ?_ ?_ hkept
    · rw [List.append_assoc, List.cons_append]
    · rw [List.length_append, List.length_singleton]
  · refine .gone hmem ?_
    rw [List.length_append, List.length_singleton]
    omega

theorem newest (h : pending ≤ queue.length) (freed : List β) :
    Located b 0 (queue ++ [b]) pending freed := .queued queue [] rfl rfl h

theorem erase (h : Located b behind (x :: queue) (pending + 1) freed) :
    Located b behind queue pending freed := by
  rcases h with ⟨front, back, hsplit, hcount, hkept⟩ | ⟨hmem, hlater⟩
  · cases front with
    | nil =>
      rw [List.length_nil] at hkept
      omega
    | cons y front =>
      rw [List.cons_append, List.cons.injEq] at hsplit
      rw [List.length_cons] at hkept
      exact .queued front back hsplit.2 hcount (by omega)
  · rw [List.length_cons] at hlater
    exact .gone hmem (by omega)

theorem mono (h : Located b behind queue pending freed) (hsub : freed ⊆ freed') :
    Located b behind queue pending freed' := by
  rcases h with ⟨front, back, hsplit, hcount, hkept⟩ | ⟨hmem, hlater⟩
  · exact .queued front back hsplit hcount hkept
  · exact .gone (hsub hmem) hlater

/-- The whole queue is freed. -/
theorem clear (h : Located b behind queue pending freed) (pending' : Nat) :
    Located b behind [] pending' (freed ++ queue) := by
  rcases h with ⟨front, back, rfl, -, -⟩ | ⟨hmem, -⟩
  · refine .gone ?_ (Nat.zero_le _)
    exact List.mem_append_right _ (List.mem_append_right _ List.mem_cons_self)
  · exact .gone (List.mem_append_left _ hmem) (Nat.zero_le _)

/-- The front is taken, and it is another buffer. -/
theorem take (h : Located b behind queue 0 freed) (hlen : queue.length ≠ behind + 1) :
    Located b behind queue 1 freed := by
  rcases h with ⟨front, back, hsplit, hcount, -⟩ | ⟨hmem, hlater⟩
  · refine .queued front back hsplit hcount ?_
    rw [hsplit, List.length_append, List.length_cons] at hlen
    omega
  · exact .gone hmem hlater

/-- The front is taken, and it is the buffer. -/
theorem front (h : Located b behind queue 0 freed) (hlen : queue.length = behind + 1) :
    ∃ back, queue = b :: back := by
  rcases h with ⟨front, back, hsplit, hcount, -⟩ | ⟨-, hlater⟩
  · have hnil : front = [] := by
      rw [hsplit, List.length_append, List.length_cons] at hlen
      exact List.eq_nil_of_length_eq_zero (by omega)
    subst hnil
    exact ⟨back, hsplit⟩
  · omega

theorem mem (h : Located b behind queue pending freed) :
    b ∈ queue.drop pending ∨ b ∈ freed := by
  rcases h with ⟨front, back, rfl, -, hkept⟩ | ⟨hmem, -⟩
  · left
    rw [List.drop_append_of_le_length hkept]
    exact List.mem_append_right _ List.mem_cons_self
  · exact .inr hmem

end Located

end

namespace Showing

/-- The buffer on the screen is where `Located` says. -/
def Placed (s : Showing) : Prop :=
  ∀ b ∈ s.plane, Located b s.behind s.queue (dequeues s.session.surface.custody.inFlight)
    s.session.freed

/-- What a run keeps. -/
structure Kept (all : List BufferHandle) (s : Showing) : Prop where
  session : Session.Kept all s.session
  placed : s.Placed

variable {all : List BufferHandle} {s s' : Showing}

theorem Kept.untouched (h : Kept all s) (hn : all.Nodup) : s.Untouched := by
  intro b hb hheld
  have hnodup : (s.session.surface.custody.owned ++ s.session.freed).Nodup :=
    h.session.perm.nodup_iff.mpr hn
  obtain ⟨howned, -, hdisj⟩ := List.nodup_append.mp hnodup
  rcases (h.placed b hb).mem with hmem | hmem
  · obtain ⟨-, -, hapart⟩ := List.nodup_append.mp howned
    exact hapart b (List.mem_append_left _ hheld) b hmem rfl
  · exact hdisj b (List.mem_append_left _ (List.mem_append_left _ hheld)) b hmem rfl

theorem start_kept (info : RTSidebandInfo) (held : List BufferHandle) :
    Kept held (start info held) where
  session := Session.Kept.start info held
  placed := fun b hb => by cases hb

/-! ## Steps -/

theorem step_eq_some {a : ShowingAction} (h : s.step a = some s') :
    ∃ session, s.session.step a.call = some session ∧ s' = s.after a session := by
  obtain ⟨session, hsession, rfl⟩ := Option.map_eq_some_iff.mp h
  exact ⟨session, hsession, rfl⟩

theorem after_turn_of_some {shows : Bool} {session : Session} {b : BufferHandle}
    (h : s.rendered = some b) :
    s.after ⟨.messageThreadTurn, shows⟩ session =
      if shows then ⟨session, some b, 0⟩ else ⟨session, s.plane, s.behind + 1⟩ := by
  unfold after
  rw [h]

theorem after_turn_of_none {shows : Bool} {session : Session} (h : s.rendered = none) :
    s.after ⟨.messageThreadTurn, shows⟩ session = ⟨session, s.plane, s.behind⟩ := by
  unfold after
  rw [h]

theorem after_session (s : Showing) (a : ShowingAction) (session : Session) :
    (s.after a session).session = session := by
  obtain ⟨call, shows⟩ := a
  cases call with
  | messageThreadTurn =>
    cases hrendered : s.rendered with
    | none => rw [after_turn_of_none hrendered]
    | some b =>
      rw [after_turn_of_some hrendered]
      split <;> rfl
  | remainBuffer | queueBuffer | dequeueBuffer | freeBuffer | flush | release | releaseBuffers => rfl

/-- What the turn of the render thread is to show. -/
theorem rendered_of_turn {effects : List Effect} {w : RTSidebandWindow} {msg : Message}
    {queue : MessageQueue Message messageIdMax} {r : Handled}
    (hturn : messageThreadTurn s.session.surface.window = .ok (effects, w))
    (hr : handleMessage { s.session.surface.window with mMessageQueue := queue } msg = some r)
    (heffects : effects = r.effects) :
    s.rendered = if msg.id = .renderRequest then some msg.buffer else none := by
  unfold rendered
  rw [hturn]
  show effects.findSome? Effect.plane? = _
  rw [heffects]
  cases hid : msg.id with
  | unknown =>
    simp only [handleMessage, hid, Option.some.injEq] at hr
    rw [← hr]
    rfl
  | exit =>
    simp only [handleMessage, hid, Option.some.injEq] at hr
    rw [← hr]
    rfl
  | renderRequest =>
    simp only [handleMessage, hid, Option.some.injEq] at hr
    rw [← hr]
    rfl
  | dequeueRequest =>
    simp only [handleMessage, hid] at hr
    unfold handleDequeueRequest at hr
    split at hr
    · cases hr
    · rw [← Option.some.inj hr]
      rfl
  | flush =>
    rw [(handleMessage_flush hid hr).1, if_neg (by decide), List.findSome?_eq_none_iff]
    intro e he
    obtain ⟨b, -, hb⟩ := List.mem_flatMap.mp he
    unfold freeBuffer at hb
    split at hb
    · rcases List.mem_pair.mp hb with rfl | rfl <;> rfl
    · cases hb

/-- With the front taken in turn, none of those before it waits to be erased. -/
theorem dequeues_of_inTurn {shows : Bool} (hok : InTurn s ⟨.dequeueBuffer, shows⟩)
    (hlen : minBufferCountUndequeue < s.queue.length) :
    dequeues s.session.surface.custody.inFlight = 0 :=
  Session.dequeues_eq_zero fun msg hmsg => (hok rfl hlen msg hmsg).1

/-- What a turn of the render thread makes of the queue, by the message it takes. -/
theorem placed_turn (h : Kept all s) (hnull : null ∉ all) {shows : Bool} {effects : List Effect}
    {w : RTSidebandWindow} (hturn : messageThreadTurn s.session.surface.window = .ok (effects, w)) :
    (s.after ⟨.messageThreadTurn, shows⟩ (s.session.onWindow effects w)).Placed := by
  obtain ⟨msg, queue, r, -, hl, hr, heffects, hqueue, -⟩ := messageThreadTurn_ok hturn
  have hl : s.session.surface.messages = w.mMessageQueue.mList ++ [msg] := hl
  have hrendered := rendered_of_turn hturn hr heffects
  -- a message that is no request leaves queue and requests as they are
  have hother : s.rendered = none → msg.request? = none → w.mRenderingQueue = s.queue →
      (s.after ⟨.messageThreadTurn, shows⟩ (s.session.onWindow effects w)).Placed := by
    intro hnone hrequest hsame
    rw [after_turn_of_none hnone]
    intro b hb
    show Located b s.behind w.mRenderingQueue
      (dequeues (w.mMessageQueue.mList.filterMap Message.request?)) _
    rw [hsame, Session.Kept.inFlight_other hl hrequest]
    exact (h.placed b hb).mono (List.subset_append_left _ _)
  cases hid : msg.id with
  | renderRequest =>
    rw [hid, if_pos rfl] at hrendered
    rw [handleMessage_renderRequest hid hr] at hqueue
    have hqueue : w.mRenderingQueue = s.queue ++ [msg.buffer] := hqueue
    have hflight := Surface.inFlight_of_messages hl (Surface.request_render hid)
    have hdequeues : dequeues s.session.surface.custody.inFlight =
        dequeues (w.mMessageQueue.mList.filterMap Message.request?) := by
      rw [hflight, dequeues_append, dequeues_render]
      rfl
    rw [after_turn_of_some hrendered]
    split
    · intro b hb
      cases hb
      show Located _ 0 w.mRenderingQueue _ _
      rw [hqueue]
      exact .newest (hdequeues ▸ h.session.covered) _
    · intro b hb
      show Located b (s.behind + 1) w.mRenderingQueue
        (dequeues (w.mMessageQueue.mList.filterMap Message.request?)) _
      rw [hqueue, ← hdequeues]
      exact ((h.placed b hb).append _).mono (List.subset_append_left _ _)
  | dequeueRequest =>
    rw [hid, if_neg (by decide)] at hrendered
    obtain ⟨x, rest, hq, hwindow⟩ := handleMessage_dequeueRequest hid hr
    rw [hwindow] at hqueue
    have hqueue : w.mRenderingQueue = rest := hqueue
    have hq : s.queue = x :: rest := hq
    have hflight := Surface.inFlight_of_messages hl (Surface.request_dequeue hid)
    rw [after_turn_of_none hrendered]
    intro b hb
    have hplaced := h.placed b hb
    rw [hq, hflight, dequeues_append, dequeues_dequeue] at hplaced
    show Located b s.behind w.mRenderingQueue _ _
    rw [hqueue]
    exact hplaced.erase.mono (List.subset_append_left _ _)
  | flush =>
    rw [hid, if_neg (by decide)] at hrendered
    obtain ⟨hfreed, hwindow⟩ := handleMessage_flush hid hr
    rw [hwindow] at hqueue
    have hqueue : w.mRenderingQueue = [] := hqueue
    have hfrees : frees effects = s.queue := by
      rw [heffects, hfreed]
      exact frees_flatMap_freeBuffer _ fun hmem => hnull (h.session.queue_mem null hmem)
    rw [after_turn_of_none hrendered]
    intro b hb
    show Located b s.behind w.mRenderingQueue _ (s.session.freed ++ frees effects)
    rw [hqueue, hfrees]
    exact (h.placed b hb).clear _
  | exit =>
    rw [hid, if_neg (by decide)] at hrendered
    rw [handleMessage_exit hid hr] at hqueue
    exact hother hrendered (by simp only [Message.request?, hid]) hqueue
  | unknown =>
    rw [hid, if_neg (by decide)] at hrendered
    rw [handleMessage_unknown hid hr] at hqueue
    exact hother hrendered (by simp only [Message.request?, hid]) hqueue

/-- A step that does not take the buffer on the screen leaves it where it can be found. -/
theorem placed_step (h : Kept all s) (hnull : null ∉ all) {a : ShowingAction}
    {session : Session} (hok : InTurn s a) (hsession : s.session.step a.call = some session)
    (hcond : s.TakesBefore a) : (s.after a session).Placed := by
  obtain ⟨call, shows⟩ := a
  have hplaced := h.placed
  cases call with
  | remainBuffer x =>
    obtain ⟨-, surface, hsurface, rfl⟩ := Session.call_eq_some hsession
    obtain ⟨-, rfl⟩ := Surface.give_eq_some hsurface
    intro b hb
    exact (hplaced b hb).append x
  | queueBuffer x =>
    obtain ⟨-, surface, hsurface, rfl⟩ := Session.call_eq_some hsession
    simp only [Surface.step, queueBuffer_eq] at hsurface
    obtain ⟨-, rfl⟩ := Surface.give_eq_some hsurface
    exact hplaced
  | dequeueBuffer =>
    obtain ⟨hphase, surface, hsurface, rfl⟩ := Session.call_eq_some hsession
    by_cases hlen : minBufferCountUndequeue < s.queue.length
    · obtain ⟨x, -, -, htake⟩ := Session.call_dequeueBuffer hnull h.session hphase hlen
      rw [Option.some.inj (hsession.symm.trans htake)]
      intro b hb
      have hsome : s.plane.isSome = true := Option.isSome_iff_exists.mpr ⟨b, hb⟩
      have hzero := dequeues_of_inTurn hok hlen
      have hfound := hplaced b hb
      rw [hzero] at hfound
      show Located b s.behind s.queue
        (dequeues (Request.dequeue :: s.session.surface.custody.inFlight)) s.session.freed
      rw [dequeues_cons_dequeue, hzero]
      exact hfound.take (hcond rfl hlen hsome)
    · have hsame : surface = s.session.surface.takes
          (Sideband.dequeueBuffer s.session.surface.window) := (Option.some.inj hsurface).symm
      rw [hsame, Surface.takes_of_le (Nat.le_of_not_lt hlen)]
      exact hplaced
  | freeBuffer x =>
    obtain ⟨-, rfl⟩ := Option.ite_some_none_eq_some.mp hsession
    intro b hb
    exact (hplaced b hb).mono (List.subset_append_left _ _)
  | flush =>
    obtain ⟨-, rfl⟩ := Option.ite_some_none_eq_some.mp hsession
    have hflush : (Sideband.flush s.session.surface.window).2 =
        post s.session.surface.window (.ofId .flush) := by
      unfold Sideband.flush
      rw [sendAsync_eq]
    rw [hflush]
    intro b hb
    exact (hplaced b hb).mono (List.subset_append_left _ _)
  | release =>
    obtain ⟨-, rfl⟩ := Option.ite_some_none_eq_some.mp hsession
    rw [requestExit_eq]
    intro b hb
    exact (hplaced b hb).mono (List.subset_append_left _ _)
  | messageThreadTurn =>
    simp only [Session.step] at hsession
    split at hsession
    · next effects w hturn =>
      cases hsession
      exact placed_turn h hnull hturn
    · cases hsession
  | releaseBuffers =>
    obtain ⟨-, rfl⟩ := Option.ite_some_none_eq_some.mp hsession
    intro b hb
    have hfrees : frees (releaseBuffers s.session.surface.window).1 = s.queue := frees_map_free _
    show Located b s.behind [] _
      (s.session.freed ++ frees (releaseBuffers s.session.surface.window).1)
    rw [hfrees]
    exact (hplaced b hb).clear _

/-- The client is handed the buffer on the screen where that is in front. -/
theorem touched_of_front (h : Kept all s) (hnull : null ∉ all) {a : ShowingAction}
    {session : Session} (hok : InTurn s a) (hsession : s.session.step a.call = some session)
    (hnot : ¬ s.TakesBefore a) : ¬ (s.after a session).Untouched := by
  obtain ⟨call, shows⟩ := a
  unfold TakesBefore at hnot
  rw [Classical.not_imp, Classical.not_imp, Classical.not_imp, not_not] at hnot
  obtain ⟨rfl, hlen, hsome, hcount⟩ := hnot
  obtain ⟨b, hb⟩ := Option.isSome_iff_exists.mp hsome
  obtain ⟨hphase, -⟩ := Session.call_eq_some hsession
  have hfound := h.placed b hb
  rw [dequeues_of_inTurn hok hlen] at hfound
  obtain ⟨back, hfront⟩ := hfound.front hcount
  obtain ⟨x, hhead, -, htake⟩ := Session.call_dequeueBuffer hnull h.session hphase hlen
  have hx : x = b := by
    have hhead' : s.queue.head? = some x := hhead
    rw [hfront] at hhead'
    exact (Option.some.inj hhead').symm
  subst hx
  rw [Option.some.inj (hsession.symm.trans htake)]
  exact fun huntouched => huntouched x hb List.mem_cons_self

/-! ## Runs -/

/-- **The client leaves the screen alone** in all states of a run in turn exactly when each of its
`dequeueBuffer` calls that takes a buffer finds more or less in the queue than the buffer on the
screen and those behind it. -/
theorem untouched_iff (info : RTSidebandInfo) (held : List BufferHandle) (hn : held.Nodup)
    (hnull : null ∉ held) (actions : List ShowingAction) (s : Showing)
    (h : run step InTurn (start info held) actions = some s) :
    (∀ before after s', actions = before ++ after →
        run step InTurn (start info held) before = some s' → s'.Untouched) ↔
      ∀ before a after s', actions = before ++ a :: after →
        run step InTurn (start info held) before = some s' → s'.TakesBefore a := by
  refine run_safe_iff (Kept held) Untouched (fun s hs => hs.untouched hn) ?_ actions _ s
    (start_kept info held) h
  intro s a s' hs hok hstep
  obtain ⟨session, hsession, rfl⟩ := step_eq_some hstep
  refine ⟨fun hcond => ⟨?_, placed_step hs hnull hok hsession hcond⟩,
    touched_of_front hs hnull hok hsession⟩
  rw [after_session]
  exact Session.step_kept hnull hs.session hok hsession

/-- Buffer 1 is shown, and then two others are given back behind it. -/
def remainedBehind : List ShowingAction :=
  [⟨.queueBuffer 1, false⟩, ⟨.messageThreadTurn, true⟩, ⟨.remainBuffer 2, false⟩,
    ⟨.remainBuffer 3, false⟩, ⟨.dequeueBuffer, false⟩]

/-- The client is handed buffer 1, which is on the screen. -/
theorem untouched_iff_remained :
    (∃ s, run step InTurn (start Surface.screen [1, 2, 3]) remainedBehind = some s ∧
      s.plane = some 1 ∧ s.session.surface.held = [1]) ∧
    ¬ ∀ before a after s', remainedBehind = before ++ a :: after →
        run step InTurn (start Surface.screen [1, 2, 3]) before = some s' → s'.TakesBefore a := by
  refine ⟨⟨_, (Option.some_get rfl).symm, rfl, rfl⟩, fun hall => ?_⟩
  have huntouched := (untouched_iff Surface.screen [1, 2, 3] (by decide) (by decide)
    remainedBehind _ (Option.some_get rfl).symm).mpr hall remainedBehind [] _
      (List.append_nil _).symm (Option.some_get rfl).symm
  exact huntouched 1 rfl (by decide)

end Showing

end RockchipHal.Sideband
