import RockchipHal.Lib.Ledger
import RockchipHal.Sideband.Window

/-!
# Registrations with the gralloc module

`allocateBuffer` registers each buffer, and three paths free buffers: `freeBuffer`, the flush
on the render thread, which frees through `freeBuffer`, and the loop of `release`.  The first
two unregister before they free; `release` does not.  For calls whose message is handled
before the next call:

    every registered buffer freed has been unregistered once ↔ each call meets its condition
                                                                  (registers_balanced_iff)

where `release` meets it only for queued buffers that were freed before or never registered.
-/

namespace RockchipHal.Sideband

/-! ## Calls of the module and of its allocator -/

inductive GrallocCall
  | registerBuffer (buffer : BufferHandle)
  | unregisterBuffer (buffer : BufferHandle)
  | free (buffer : BufferHandle)
deriving DecidableEq, Repr

def Effect.gralloc? : Effect → Option GrallocCall
  | .unregisterBuffer buffer => some (.unregisterBuffer buffer)
  | .free buffer => some (.free buffer)
  | .setDrmPlane _ _ _ _ => none

def grallocCalls (effects : List Effect) : List GrallocCall :=
  effects.filterMap Effect.gralloc?

/-- `temp_buffer` is what the allocator gives, `NULL` when it fails. -/
def allocateBuffer (temp_buffer : BufferHandle) : List GrallocCall :=
  if temp_buffer ≠ null then [.registerBuffer temp_buffer] else []

/-! ## One call after the other -/

inductive WindowCall
  | allocateBuffer (temp_buffer : BufferHandle)
  | freeBuffer (buffer : BufferHandle)
  | remainBuffer (buffer : BufferHandle)
  | queueBuffer (buffer : BufferHandle)
  | dequeueBuffer
  | flush
deriving DecidableEq, Repr

/-- The render thread handles the message that waits, when one does. -/
def serve (w : RTSidebandWindow) : List GrallocCall × RTSidebandWindow :=
  match messageThreadTurn w with
  | .ok (effects, w') => (grallocCalls effects, w')
  | .error _ => ([], w)

/-- A call, and its message. -/
def WindowCall.result (w : RTSidebandWindow) : WindowCall → List GrallocCall × RTSidebandWindow
  | allocateBuffer temp_buffer => (Sideband.allocateBuffer temp_buffer, w)
  | freeBuffer buffer => (grallocCalls (Sideband.freeBuffer buffer), w)
  | remainBuffer buffer => ([], Sideband.remainBuffer w buffer)
  | queueBuffer buffer => serve (Sideband.queueBuffer w buffer).2
  | dequeueBuffer => serve (Sideband.dequeueBuffer w).window
  | flush => serve (Sideband.flush w).2

/-- `requestExitAndWait`, then the buffers. -/
def release (w : RTSidebandWindow) : List GrallocCall × RTSidebandWindow :=
  let served := serve (requestExit w).2
  let released := releaseBuffers served.2
  (served.1 ++ grallocCalls released.1, released.2)

/-- The calls of a run that `release` ends. -/
def runTrace (w : RTSidebandWindow) : List WindowCall → List GrallocCall
  | [] => (release w).1
  | c :: calls => (c.result w).1 ++ runTrace (c.result w).2 calls

/-! ## The condition -/

/-- How often the buffer has been unregistered since it was last registered; `none` when it
never was. -/
def unregistered (tr : List GrallocCall) (buffer : BufferHandle) : Option Nat :=
  tr.foldl (fun n c =>
    if c = .registerBuffer buffer then some 0
    else if c = .unregisterBuffer buffer then n.map (· + 1)
    else n) none

/-- A buffer that was registered and is freed has been unregistered once. -/
def Balanced (tr : List GrallocCall) : Prop :=
  ∀ pre buffer post, tr = pre ++ .free buffer :: post →
    ∀ n, unregistered pre buffer = some n → n = 1

/-- What is unregistered and freed was never registered, or still is. -/
def FreeOk (tr : List GrallocCall) (buffer : BufferHandle) : Prop :=
  buffer ≠ null → ∀ n, unregistered tr buffer = some n → n = 0

/-- Each buffer in the queue was never registered, or still is and is queued once. -/
def FlushOk (tr : List GrallocCall) (queue : List BufferHandle) : Prop :=
  ∀ buffer ∈ queue, buffer ≠ null → ∀ n, unregistered tr buffer = some n →
    n = 0 ∧ queue.count buffer = 1

/-- Each buffer left in the queue was never registered, or is no more. -/
def ReleaseOk (tr : List GrallocCall) (queue : List BufferHandle) : Prop :=
  ∀ buffer ∈ queue, ∀ n, unregistered tr buffer = some n → n = 1

def CallOk (tr : List GrallocCall) (queue : List BufferHandle) : WindowCall → Prop
  | .freeBuffer buffer => FreeOk tr buffer
  | .flush => FlushOk tr queue
  | _ => True

/-- Each call meets its condition, after the trace so far. -/
def CallsOk (tr : List GrallocCall) (w : RTSidebandWindow) : List WindowCall → Prop
  | [] => ReleaseOk tr w.mRenderingQueue
  | c :: calls =>
    CallOk tr w.mRenderingQueue c ∧ CallsOk (tr ++ (c.result w).1) (c.result w).2 calls

/-! ## Counting -/

theorem unregistered_snoc (tr : List GrallocCall) (c : GrallocCall) (buffer : BufferHandle) :
    unregistered (tr ++ [c]) buffer =
      if c = .registerBuffer buffer then some 0
      else if c = .unregisterBuffer buffer then (unregistered tr buffer).map (· + 1)
      else unregistered tr buffer := by
  unfold unregistered
  rw [List.foldl_append]
  rfl

theorem balanced_snoc (tr : List GrallocCall) (c : GrallocCall) :
    Balanced (tr ++ [c]) ↔ Balanced tr ∧
      ∀ buffer, c = .free buffer → ∀ n, unregistered tr buffer = some n → n = 1 := by
  constructor
  · intro h
    refine ⟨fun pre buffer post he => ?_, fun buffer hc => h tr buffer [] (by rw [hc])⟩
    exact h pre buffer (post ++ [c]) (by rw [he]; simp)
  · rintro ⟨h, hc⟩ pre buffer post he
    rcases append_singleton_split _ _ _ _ _ he with ⟨-, hx, rfl⟩ | ⟨post', -, htr⟩
    · exact hc buffer hx.symm
    · exact h pre buffer post' htr

theorem balanced_register (tr : List GrallocCall) (buffer : BufferHandle) :
    Balanced (tr ++ [.registerBuffer buffer]) ↔ Balanced tr := by
  rw [balanced_snoc]
  refine and_iff_left fun b hb => ?_
  cases hb

theorem balanced_free (tr : List GrallocCall) (buffer : BufferHandle) :
    Balanced (tr ++ [.free buffer]) ↔ Balanced tr ∧
      ∀ n, unregistered tr buffer = some n → n = 1 := by
  rw [balanced_snoc]
  refine and_congr_right fun _ => ⟨fun h => h buffer rfl, fun h b hb => ?_⟩
  cases hb
  exact h

theorem grallocCalls_append (l m : List Effect) :
    grallocCalls (l ++ m) = grallocCalls l ++ grallocCalls m := List.filterMap_append

theorem grallocCalls_freeBuffer {buffer : BufferHandle} (h : buffer ≠ null) :
    grallocCalls (freeBuffer buffer) = [.unregisterBuffer buffer] ++ [.free buffer] := by
  unfold freeBuffer
  rw [if_pos h]
  rfl

theorem grallocCalls_freeBuffer_null : grallocCalls (freeBuffer null) = [] := rfl

/-- What `freeBuffer` frees is unregistered once more. -/
theorem balanced_freeBuffer (tr : List GrallocCall) (buffer : BufferHandle) :
    Balanced (tr ++ grallocCalls (freeBuffer buffer)) ↔ Balanced tr ∧ FreeOk tr buffer := by
  unfold FreeOk
  by_cases hnull : buffer = null
  · rw [hnull, grallocCalls_freeBuffer_null, List.append_nil]
    simp
  · rw [grallocCalls_freeBuffer hnull, ← List.append_assoc, balanced_free, balanced_snoc,
      unregistered_snoc, if_neg (by simp), if_pos rfl]
    constructor
    · rintro ⟨⟨h, -⟩, hone⟩
      refine ⟨h, fun _ n hn => ?_⟩
      have hsucc := hone (n + 1) (by rw [hn]; rfl)
      omega
    · rintro ⟨h, hzero⟩
      refine ⟨⟨h, fun b hb => by cases hb⟩, fun n hn => ?_⟩
      obtain ⟨m, hm, rfl⟩ := Option.map_eq_some_iff.mp hn
      rw [hzero hnull m hm]

theorem unregistered_free (tr : List GrallocCall) (buffer b : BufferHandle) :
    unregistered (tr ++ [.free buffer]) b = unregistered tr b := by
  rw [unregistered_snoc, if_neg (by simp), if_neg (by simp)]

theorem unregistered_freeBuffer_self (tr : List GrallocCall) {buffer : BufferHandle}
    (h : buffer ≠ null) : unregistered (tr ++ grallocCalls (freeBuffer buffer)) buffer =
      (unregistered tr buffer).map (· + 1) := by
  rw [grallocCalls_freeBuffer h, ← List.append_assoc, unregistered_free, unregistered_snoc,
    if_neg (by simp), if_pos rfl]

theorem unregistered_freeBuffer_ne (tr : List GrallocCall) {buffer b : BufferHandle}
    (h : buffer ≠ b) : unregistered (tr ++ grallocCalls (freeBuffer buffer)) b =
      unregistered tr b := by
  by_cases hnull : buffer = null
  · rw [hnull, grallocCalls_freeBuffer_null, List.append_nil]
  · rw [grallocCalls_freeBuffer hnull, ← List.append_assoc, unregistered_free, unregistered_snoc,
      if_neg (by simp), if_neg (by simpa using h)]

/-! ## The queue -/

theorem flushOk_cons (tr : List GrallocCall) (buffer : BufferHandle) (queue : List BufferHandle) :
    FlushOk tr (buffer :: queue) ↔
      FreeOk tr buffer ∧ FlushOk (tr ++ grallocCalls (freeBuffer buffer)) queue := by
  constructor
  · intro h
    refine ⟨fun hnull n hn => (h buffer List.mem_cons_self hnull n hn).1, fun b hb hnull n hn => ?_⟩
    by_cases hbb : buffer = b
    · -- queued twice
      subst hbb
      rw [unregistered_freeBuffer_self tr hnull] at hn
      obtain ⟨m, hm, -⟩ := Option.map_eq_some_iff.mp hn
      have hcount := (h buffer List.mem_cons_self hnull m hm).2
      rw [List.count_cons_self] at hcount
      have hpos := List.count_pos_iff.mpr hb
      omega
    · rw [unregistered_freeBuffer_ne tr hbb] at hn
      obtain ⟨hzero, hcount⟩ := h b (List.mem_cons_of_mem _ hb) hnull n hn
      rw [List.count_cons_of_ne hbb] at hcount
      exact ⟨hzero, hcount⟩
  · rintro ⟨hfree, hqueue⟩ b hb hnull n hn
    by_cases hbb : buffer = b
    · subst hbb
      refine ⟨hfree hnull n hn, ?_⟩
      rw [List.count_cons_self]
      have hnot : buffer ∉ queue := by
        intro hmem
        have hzero := (hqueue buffer hmem hnull (n + 1) (by
          rw [unregistered_freeBuffer_self tr hnull, hn]
          rfl)).1
        omega
      rw [List.count_eq_zero_of_not_mem hnot]
    · have hb : b ∈ queue := (List.mem_cons.mp hb).resolve_left fun h => hbb h.symm
      rw [← unregistered_freeBuffer_ne tr hbb] at hn
      rw [List.count_cons_of_ne hbb]
      exact hqueue b hb hnull n hn

theorem balanced_flush (queue : List BufferHandle) : ∀ tr : List GrallocCall,
    Balanced (tr ++ grallocCalls (queue.flatMap freeBuffer)) ↔ Balanced tr ∧ FlushOk tr queue := by
  induction queue with
  | nil =>
    intro tr
    rw [List.flatMap_nil, show grallocCalls [] = [] from rfl, List.append_nil]
    refine (and_iff_left fun b hb => ?_).symm
    cases hb
  | cons buffer queue ih =>
    intro tr
    rw [List.flatMap_cons, grallocCalls_append, ← List.append_assoc, ih, balanced_freeBuffer,
      flushOk_cons, and_assoc]

theorem balanced_release (queue : List BufferHandle) : ∀ tr : List GrallocCall,
    Balanced (tr ++ grallocCalls (queue.map .free)) ↔ Balanced tr ∧ ReleaseOk tr queue := by
  induction queue with
  | nil =>
    intro tr
    rw [List.map_nil, show grallocCalls [] = [] from rfl, List.append_nil]
    refine (and_iff_left fun b hb => ?_).symm
    cases hb
  | cons buffer queue ih =>
    intro tr
    have hsplit : tr ++ grallocCalls ((buffer :: queue).map .free) =
        (tr ++ [.free buffer]) ++ grallocCalls (queue.map .free) := by
      rw [List.append_assoc]
      rfl
    rw [hsplit, ih, balanced_free, and_assoc]
    refine and_congr_right fun _ => ?_
    unfold ReleaseOk
    simp only [unregistered_free, List.mem_cons, forall_eq_or_imp]

/-! ## One call -/

/-- The render thread waits for a message. -/
structure Idle (w : RTSidebandWindow) : Prop where
  empty : w.mMessageQueue.mList = []
  running : w.mThreadRunning = true

/-- A single message is handled. -/
theorem serve_one {w : RTSidebandWindow} {msg : Message} (hlist : w.mMessageQueue.mList = [msg])
    (hrun : w.mThreadRunning = true)
    (hdequeue : msg.id = .dequeueRequest → w.mRenderingQueue ≠ []) :
    ∃ r queue, handleMessage { w with mMessageQueue := queue } msg = some r ∧
      (serve w).1 = grallocCalls r.effects ∧ (serve w).2.mMessageQueue.mList = [] ∧
      (serve w).2.mRenderingQueue = r.window.mRenderingQueue ∧
      (serve w).2.mThreadRunning = r.window.mThreadRunning := by
  unfold serve
  cases hturn : messageThreadTurn w with
  | error e =>
    rcases messageThreadTurn_error hturn with ⟨hexited, -⟩ | ⟨hnone, -⟩ | ⟨l, m, hm, hid, hq, -⟩
    · rw [hrun] at hexited
      cases hexited
    · rw [hlist] at hnone
      cases hnone
    · rw [hlist] at hm
      obtain ⟨-, hmsg⟩ := List.append_inj' (show [] ++ [msg] = l ++ [m] from hm) rfl
      rw [← List.singleton_inj.mp hmsg] at hid
      exact absurd hq (hdequeue hid)
  | ok served =>
    obtain ⟨effects, w'⟩ := served
    obtain ⟨m, queue, r, -, hm, hr, heffects, hqueue, hrunning⟩ := messageThreadTurn_ok hturn
    rw [hlist] at hm
    obtain ⟨hnil, hmsg⟩ :=
      List.append_inj' (show [] ++ [msg] = w'.mMessageQueue.mList ++ [m] from hm) rfl
    rw [← List.singleton_inj.mp hmsg] at hr
    exact ⟨r, queue, hr, by rw [heffects], hnil.symm, hqueue, hrunning⟩

/-- What a call does to the registrations, with these buffers queued. -/
def WindowCall.calls (queue : List BufferHandle) : WindowCall → List GrallocCall
  | allocateBuffer temp_buffer => Sideband.allocateBuffer temp_buffer
  | freeBuffer buffer => grallocCalls (Sideband.freeBuffer buffer)
  | flush => grallocCalls (queue.flatMap Sideband.freeBuffer)
  | _ => []

/-- Only a flush unregisters and frees. -/
theorem grallocCalls_handleMessage {w : RTSidebandWindow} {msg : Message} {r : Handled}
    (hid : msg.id ≠ .flush) (h : handleMessage w msg = some r) : grallocCalls r.effects = [] := by
  unfold handleMessage at h
  split at h
  · rw [← Option.some.inj h]
    rfl
  · rw [← Option.some.inj h]
    rfl
  · unfold handleDequeueRequest at h
    split at h
    · cases h
    · rw [← Option.some.inj h]
      rfl
  · next hflush => exact absurd hflush hid
  · rw [← Option.some.inj h]
    rfl

/-- The message of a call, handled. -/
theorem serve_post {w : RTSidebandWindow} (h : Idle w) (msg : Message) (hid : msg.id ≠ .exit)
    (hdequeue : msg.id = .dequeueRequest → w.mRenderingQueue ≠ []) :
    Idle (serve (post w msg)).2 ∧ ∃ r queue,
      handleMessage { w with mMessageQueue := queue } msg = some r ∧
        (serve (post w msg)).1 = grallocCalls r.effects := by
  have hlist : (post w msg).mMessageQueue.mList = [msg] := by
    show msg :: w.mMessageQueue.mList = [msg]
    rw [h.empty]
  obtain ⟨r, queue, hr, hcalls, hempty, -, hrunning⟩ := serve_one hlist h.running hdequeue
  refine ⟨⟨hempty, ?_⟩, r, queue, hr, hcalls⟩
  rw [hrunning, handleMessage_mThreadRunning hid hr]
  exact h.running

/-- A call that sends nothing is followed by no turn. -/
theorem serve_idle {w : RTSidebandWindow} (h : Idle w) : serve w = ([], w) := by
  unfold serve
  cases hturn : messageThreadTurn w with
  | error e => rfl
  | ok served =>
    obtain ⟨msg, queue, r, -, hm, -⟩ := messageThreadTurn_ok hturn
    rw [h.empty] at hm
    exact absurd hm.symm (by simp)

/-- Each call leaves the render thread waiting, and does what `calls` says. -/
theorem result_spec {w : RTSidebandWindow} (h : Idle w) (c : WindowCall) :
    Idle (c.result w).2 ∧ (c.result w).1 = c.calls w.mRenderingQueue := by
  cases c with
  | allocateBuffer temp_buffer => exact ⟨h, rfl⟩
  | freeBuffer buffer => exact ⟨h, rfl⟩
  | remainBuffer buffer => exact ⟨⟨h.empty, h.running⟩, rfl⟩
  | queueBuffer buffer =>
    have hresult : (WindowCall.queueBuffer buffer).result w =
        serve (post w ⟨.renderRequest, buffer⟩) := by
      show serve (Sideband.queueBuffer w buffer).2 = _
      rw [queueBuffer_eq]
    obtain ⟨hidle, r, queue, hr, hcalls⟩ := serve_post h ⟨.renderRequest, buffer⟩
      (show MessageId.renderRequest ≠ .exit by decide) (fun hid => by cases hid)
    rw [hresult, hcalls]
    exact ⟨hidle, grallocCalls_handleMessage (show MessageId.renderRequest ≠ .flush by decide) hr⟩
  | dequeueBuffer =>
    by_cases hlen : minBufferCountUndequeue < w.mRenderingQueue.length
    · have hresult : WindowCall.dequeueBuffer.result w =
          serve (post w (.ofId .dequeueRequest)) := by
        show serve (Sideband.dequeueBuffer w).window = _
        rw [dequeueBuffer_of_lt w hlen]
      obtain ⟨b, rest, hqueue⟩ := exists_front hlen
      obtain ⟨hidle, r, queue, hr, hcalls⟩ := serve_post h (.ofId .dequeueRequest)
        (show MessageId.dequeueRequest ≠ .exit by decide) (fun _ => by rw [hqueue]; simp)
      rw [hresult, hcalls]
      exact ⟨hidle,
        grallocCalls_handleMessage (show MessageId.dequeueRequest ≠ .flush by decide) hr⟩
    · have hresult : WindowCall.dequeueBuffer.result w = serve w := by
        show serve (Sideband.dequeueBuffer w).window = _
        rw [dequeueBuffer_of_le w (by omega)]
      rw [hresult, serve_idle h]
      exact ⟨h, rfl⟩
  | flush =>
    have hresult : WindowCall.flush.result w = serve (post w (.ofId .flush)) := by
      show serve (sendAsync w (.ofId .flush)).2 = _
      rw [sendAsync_eq]
    obtain ⟨hidle, r, queue, hr, hcalls⟩ := serve_post h (.ofId .flush)
      (show MessageId.flush ≠ .exit by decide) (fun hid => by cases hid)
    rw [hresult, hcalls, (handleMessage_flush rfl hr).1]
    exact ⟨hidle, rfl⟩

theorem release_calls {w : RTSidebandWindow} (h : Idle w) :
    (release w).1 = grallocCalls (w.mRenderingQueue.map .free) := by
  have hlist : (requestExit w).2.mMessageQueue.mList = [.ofId .exit] := by
    rw [requestExit_eq]
    show Message.ofId .exit :: w.mMessageQueue.mList = [.ofId .exit]
    rw [h.empty]
  have hrun : (requestExit w).2.mThreadRunning = true := by
    rw [requestExit_eq]
    exact h.running
  have hsame : (requestExit w).2.mRenderingQueue = w.mRenderingQueue := by
    rw [requestExit_eq]
  obtain ⟨r, queue, hr, hcalls, -, hqueue, -⟩ :=
    serve_one hlist hrun (fun hid => by cases hid)
  unfold release releaseBuffers
  dsimp only
  rw [hcalls, hqueue, handleMessage_exit rfl hr,
    grallocCalls_handleMessage (show MessageId.exit ≠ .flush by decide) hr, List.nil_append]
  dsimp only
  rw [hsame]

/-! ## A run -/

theorem balanced_call (tr : List GrallocCall) (queue : List BufferHandle) (c : WindowCall) :
    Balanced (tr ++ c.calls queue) ↔ Balanced tr ∧ CallOk tr queue c := by
  have hnone : Balanced (tr ++ []) ↔ Balanced tr ∧ True := by rw [List.append_nil, and_true]
  cases c with
  | allocateBuffer temp_buffer =>
    unfold WindowCall.calls Sideband.allocateBuffer
    by_cases hnull : temp_buffer = null
    · simp only [hnull]
      exact hnone
    · simp only [ne_eq, hnull, not_false_eq_true, if_true]
      rw [balanced_register]
      exact (and_iff_left trivial).symm
  | freeBuffer buffer => exact balanced_freeBuffer tr buffer
  | remainBuffer buffer => exact hnone
  | queueBuffer buffer => exact hnone
  | dequeueBuffer => exact hnone
  | flush => exact balanced_flush queue tr

theorem runTrace_balanced_iff (calls : List WindowCall) : ∀ (tr : List GrallocCall)
    (w : RTSidebandWindow), Idle w →
    (Balanced (tr ++ runTrace w calls) ↔ Balanced tr ∧ CallsOk tr w calls) := by
  induction calls with
  | nil =>
    intro tr w h
    unfold runTrace CallsOk
    rw [release_calls h]
    exact balanced_release w.mRenderingQueue tr
  | cons c calls ih =>
    intro tr w h
    obtain ⟨hidle, hcalls⟩ := result_spec h c
    unfold runTrace CallsOk
    rw [← List.append_assoc, ih _ _ hidle, hcalls, balanced_call, and_assoc]

/-- The window after `init`. -/
def initialWindow (info : RTSidebandInfo) : RTSidebandWindow := ⟨info, .empty, [], true⟩

/-- **Registration balance.**  In a run that `release` ends, every registered buffer that is
freed has been unregistered once before, exactly when each call meets its condition. -/
theorem registers_balanced_iff (info : RTSidebandInfo) (calls : List WindowCall) :
    Balanced (runTrace (initialWindow info) calls) ↔ CallsOk [] (initialWindow info) calls := by
  have hrun := runTrace_balanced_iff calls [] (initialWindow info) ⟨rfl, rfl⟩
  have hnil : Balanced [] := by
    intro pre buffer post h
    simp at h
  rw [List.nil_append] at hrun
  rw [hrun]
  exact and_iff_right hnil

/-- Allocated, queued, released: freed while it is registered. -/
theorem registers_unbalanced :
    runTrace (initialWindow ⟨0, 0, 0, 0, 0, 0, 0, 0⟩) [.allocateBuffer 1, .queueBuffer 1] =
        [.registerBuffer 1, .free 1] ∧
      ¬ Balanced (runTrace (initialWindow ⟨0, 0, 0, 0, 0, 0, 0, 0⟩)
        [.allocateBuffer 1, .queueBuffer 1]) := by
  have htrace : runTrace (initialWindow ⟨0, 0, 0, 0, 0, 0, 0, 0⟩)
      [.allocateBuffer 1, .queueBuffer 1] = [.registerBuffer 1, .free 1] := rfl
  refine ⟨htrace, fun h => ?_⟩
  rw [htrace] at h
  exact absurd (h [.registerBuffer 1] 1 [] rfl 0 rfl) (by decide)

end RockchipHal.Sideband
