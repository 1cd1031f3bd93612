import RockchipHal.Sideband.Window

/-!
# A tunnelled surface from its streams to its destruction

`setSidebandStream` makes a window, calls its `init` and goes on whatever that returns, so
that the calls after it, and the destructor, meet what `init` left.  Where the module or the
device is missing, the sideband handle is allocated through `NULL`; where `init` stops at the
size of the info, or its thread does not start, the destructor sends an `EXIT` that nothing
answers.  The other calls ask nothing more of the window than that:

    no fault ↔ each stream opens its device, and the last one starts its thread
                                                                    (lifecycle_ok_iff)

The path without a tunnel, to the native window, is left out.
-/

namespace RockchipHal.Sideband

/-! ## The window's members -/

/-- What goes wrong: a `NULL` is dereferenced, or an `EXIT` is sent synchronously and there
is no render thread. -/
inductive Fault
  | nullModule | nullAllocDevice | nullVopRender | nullMessageThread | nullWindow
  | exitUnanswered
deriving DecidableEq, Repr

/-- `present` says that the pointer is not `NULL`. -/
def deref (present : Bool) (fault : Fault) : Except Fault Unit :=
  if present then .ok () else .error fault

/-- Which pointers are not `NULL`; `started` says that `pthread_create` has succeeded. -/
structure Members where
  mAllocDevice : Bool
  mVopRender : Bool
  mMessageThread : Bool
  started : Bool

structure SidebandWindow extends RTSidebandWindow, Members

def SidebandWindow.new : SidebandWindow where
  mSidebandInfo := ⟨0, 0, 0, 0, 0, 0, 0, 0⟩
  mMessageQueue := .empty
  mRenderingQueue := []
  mThreadRunning := false
  mAllocDevice := false
  mVopRender := false
  mMessageThread := false
  started := false

/-- `sizeof(RTSidebandInfo)`: twelve `INT32`s. -/
def sizeofRTSidebandInfo : Int32 := 48

/-- The argument of `setSidebandStream`. -/
structure StreamInfo where
  structSize : Int32
  info : RTSidebandInfo

/-- Whether `hw_get_module`, `gralloc_open` and `pthread_create` succeed, and the sideband
handle that the allocator gives, `NULL` when it fails. -/
structure StreamReplies where
  getModule : Bool
  openDevice : Bool
  threadStarts : Bool
  handle : BufferHandle

/-- `gModule` is `g_gralloc_module`, a static of the file. -/
structure InitResult where
  status : Int
  gModule : Bool
  window : SidebandWindow

def SidebandWindow.init (w : SidebandWindow) (gModule : Bool) (arg : StreamInfo)
    (replies : StreamReplies) : InitResult :=
  if (gModule || replies.getModule) = false then ⟨-1, false, w⟩
  else if (w.mAllocDevice || replies.openDevice) = false then ⟨-1, true, w⟩
  else
    let w := { w with mAllocDevice := true }
    if arg.structSize ≠ sizeofRTSidebandInfo then ⟨-1, true, w⟩
    else
      ⟨0, true,
        { w with
          mSidebandInfo := arg.info
          mVopRender := true
          mMessageThread := true
          started := replies.threadStarts
          mThreadRunning := replies.threadStarts }⟩

/-- The pointer an effect goes through. -/
def Effect.deref (gModule : Bool) (w : SidebandWindow) : Effect → Except Fault Unit
  | .unregisterBuffer _ => Sideband.deref gModule .nullModule
  | .free _ => Sideband.deref w.mAllocDevice .nullAllocDevice
  | .setDrmPlane _ _ _ _ => Sideband.deref w.mVopRender .nullVopRender

/-- `alloc`, and `registerBuffer` when there is a buffer. -/
def allocThrough (gModule : Bool) (w : SidebandWindow) (temp_buffer : BufferHandle) :
    Except Fault Unit := do
  deref w.mAllocDevice .nullAllocDevice
  if temp_buffer ≠ null then deref gModule .nullModule

def freeThrough (gModule : Bool) (w : SidebandWindow) (buffer : BufferHandle) :
    Except Fault Unit :=
  (freeBuffer buffer).forM (Effect.deref gModule w)

/-- One turn of the render thread, where it has one to take. -/
def renderTurn (gModule : Bool) (w : SidebandWindow) : Except Fault SidebandWindow :=
  if w.started then
    match messageThreadTurn w.toRTSidebandWindow with
    | .ok (effects, w') => do
      effects.forM (Effect.deref gModule w)
      return { w with toRTSidebandWindow := w' }
    | .error _ => return w
  else return w

/-- At most `n` turns. -/
def renderTurns (gModule : Bool) : Nat → SidebandWindow → Except Fault SidebandWindow
  | 0, w => return w
  | n + 1, w => do renderTurns gModule n (← renderTurn gModule w)

/-- Without a thread the `send` never returns.  With one, the messages in the queue are
handled up to the `EXIT`, the last, before it does. -/
def requestExitAndWait (gModule : Bool) (w : SidebandWindow) : Except Fault SidebandWindow := do
  let w := { w with toRTSidebandWindow := (requestExit w.toRTSidebandWindow).2 }
  if w.started = false then throw .exitUnanswered
  let w ← renderTurns gModule w.mMessageQueue.mList.length w
  deref w.mMessageThread .nullMessageThread
  return w

def releaseWindow (gModule : Bool) (w : SidebandWindow) : Except Fault Unit := do
  let w ← requestExitAndWait gModule w
  (releaseBuffers w.toRTSidebandWindow).1.forM (Effect.deref gModule w)
  deref w.mVopRender .nullVopRender

/-! ## RTSurfaceCallback -/

structure RTSurfaceCallback where
  gModule : Bool
  mTunnel : Bool
  mSidebandHandle : BufferHandle
  mSidebandWindow : Option SidebandWindow

inductive SurfaceCall
  | setSidebandStream (arg : StreamInfo) (replies : StreamReplies)
  | allocateBuffer (temp_buffer : BufferHandle)
  | freeBuffer (buffer : BufferHandle)
  | remainBuffer (buffer : BufferHandle)
  | queueBuffer (buffer : BufferHandle)
  | dequeueBufferAndWait
  | setCrop (left top right bottom : Int32)
  /-- The render thread of the window takes a turn. -/
  | renderTurn

def setCrop (w : RTSidebandWindow) (left top right bottom : Int32) : RTSidebandWindow :=
  { w with
    mSidebandInfo :=
      { w.mSidebandInfo with left := left, top := top, right := right, bottom := bottom } }

namespace RTSurfaceCallback

/-- A new surface in a process that has looked the module up, or has not. -/
def new (gModule : Bool) : RTSurfaceCallback := ⟨gModule, false, null, none⟩

/-- The result of `init` is not looked at. -/
def setSidebandStream (s : RTSurfaceCallback) (arg : StreamInfo) (replies : StreamReplies) :
    Except Fault RTSurfaceCallback := do
  let inited := SidebandWindow.new.init s.gModule arg replies
  allocThrough inited.gModule inited.window replies.handle
  let s := { s with gModule := inited.gModule, mSidebandWindow := some inited.window }
  if replies.handle = null then return s
  else return { s with mSidebandHandle := replies.handle, mTunnel := true }

/-- A call of the window where the surface is tunnelled. -/
def tunnelled (s : RTSurfaceCallback) (call : SidebandWindow → Except Fault SidebandWindow) :
    Except Fault RTSurfaceCallback :=
  if s.mTunnel then
    match s.mSidebandWindow with
    | none => throw .nullWindow
    | some w => do return { s with mSidebandWindow := some (← call w) }
  else return s

def step (s : RTSurfaceCallback) : SurfaceCall → Except Fault RTSurfaceCallback
  | .setSidebandStream arg replies => s.setSidebandStream arg replies
  | .allocateBuffer temp_buffer =>
    s.tunnelled fun w => do
      allocThrough s.gModule w temp_buffer
      return w
  | .freeBuffer buffer =>
    s.tunnelled fun w => do
      freeThrough s.gModule w buffer
      return w
  | .remainBuffer buffer =>
    s.tunnelled fun w =>
      return { w with toRTSidebandWindow := remainBuffer w.toRTSidebandWindow buffer }
  | .queueBuffer buffer =>
    s.tunnelled fun w =>
      return { w with toRTSidebandWindow := (queueBuffer w.toRTSidebandWindow buffer).2 }
  | .dequeueBufferAndWait =>
    s.tunnelled fun w =>
      return { w with toRTSidebandWindow := (dequeueBuffer w.toRTSidebandWindow).window }
  | .setCrop left top right bottom =>
    s.tunnelled fun w =>
      return { w with
        toRTSidebandWindow := Sideband.setCrop w.toRTSidebandWindow left top right bottom }
  | .renderTurn =>
    match s.mSidebandWindow with
    | none => return s
    | some w => do
      return { s with mSidebandWindow := some (← Sideband.renderTurn s.gModule w) }

/-- The destructor. -/
def destroy (s : RTSurfaceCallback) : Except Fault Unit := do
  if s.mSidebandHandle ≠ null then
    match s.mSidebandWindow with
    | none => throw .nullWindow
    | some w => freeThrough s.gModule w s.mSidebandHandle
  match s.mSidebandWindow with
  | none => return ()
  | some w => releaseWindow s.gModule w

/-- The calls, and the destruction. -/
def lifecycle (s : RTSurfaceCallback) (calls : List SurfaceCall) : Except Fault Unit := do
  destroy (← calls.foldlM step s)

end RTSurfaceCallback

/-! ## The condition -/

def SurfaceCall.stream? : SurfaceCall → Option (StreamInfo × StreamReplies)
  | .setSidebandStream arg replies => some (arg, replies)
  | _ => none

/-- What the calls of `setSidebandStream` are given, and meet. -/
def streams (calls : List SurfaceCall) : List (StreamInfo × StreamReplies) :=
  calls.filterMap SurfaceCall.stream?

/-- The module is there, or is found, and its device opens. -/
def Opens (gModule : Bool) (replies : StreamReplies) : Prop :=
  (gModule = true ∨ replies.getModule = true) ∧ replies.openDevice = true

/-- Every stream opens its device; the first of them has the module looked up for the rest. -/
def OpensAll (gModule : Bool) : List (StreamInfo × StreamReplies) → Prop
  | [] => True
  | (_, replies) :: rest => Opens gModule replies ∧ OpensAll true rest

/-- The info has the size that `init` wants, and the thread starts. -/
def StartsThread (arg : StreamInfo) (replies : StreamReplies) : Prop :=
  arg.structSize = sizeofRTSidebandInfo ∧ replies.threadStarts = true

def LastStarts (l : List (StreamInfo × StreamReplies)) : Prop :=
  ∀ arg replies, l.getLast? = some (arg, replies) → StartsThread arg replies

theorem lastStarts_cons (arg : StreamInfo) (replies : StreamReplies)
    (rest : List (StreamInfo × StreamReplies)) :
    LastStarts ((arg, replies) :: rest) ↔
      LastStarts rest ∧ (rest = [] → StartsThread arg replies) := by
  unfold LastStarts
  cases rest with
  | nil =>
    constructor
    · intro h
      exact ⟨nofun, fun _ => h arg replies rfl⟩
    · rintro ⟨-, h⟩ a r hlast
      cases hlast
      exact h rfl
  | cons p rest =>
    rw [List.getLast?_cons_cons]
    exact ⟨fun h => ⟨h, nofun⟩, fun h => h.1⟩

/-! ## Calls of a window whose device is open -/

/-- What `init` leaves once the device is open, and every later call keeps. -/
def Members.Usable (m : Members) : Prop :=
  m.mAllocDevice = true ∧ (m.started = true → m.mVopRender = true ∧ m.mMessageThread = true)

theorem deref_eq_ok {present : Bool} (fault : Fault) (h : present = true) :
    deref present fault = .ok () := by
  unfold deref
  rw [if_pos h]

theorem forM_eq_ok {α ε : Type} {f : α → Except ε Unit} (l : List α)
    (h : ∀ x ∈ l, f x = .ok ()) : l.forM f = .ok () := by
  induction l with
  | nil => rfl
  | cons x l ih =>
    unfold List.forM
    rw [h x List.mem_cons_self]
    exact ih fun y hy => h y (List.mem_cons_of_mem _ hy)

theorem Effect.deref_eq_ok {w : SidebandWindow} (ha : w.mAllocDevice = true)
    (hv : w.mVopRender = true) (e : Effect) : e.deref true w = .ok () := by
  cases e with
  | unregisterBuffer b => rfl
  | free b => exact Sideband.deref_eq_ok _ ha
  | setDrmPlane d width height b => exact Sideband.deref_eq_ok _ hv

theorem allocThrough_eq_ok {w : SidebandWindow} (ha : w.mAllocDevice = true)
    (b : BufferHandle) : allocThrough true w b = .ok () := by
  unfold allocThrough
  rw [deref_eq_ok _ ha]
  by_cases hb : b ≠ null
  · rw [if_pos hb]
    rfl
  · rw [if_neg hb]
    rfl

theorem freeThrough_eq_ok {w : SidebandWindow} (ha : w.mAllocDevice = true)
    (b : BufferHandle) : freeThrough true w b = .ok () := by
  refine forM_eq_ok _ fun e he => ?_
  unfold freeBuffer at he
  by_cases hb : b ≠ null
  · rw [if_pos hb] at he
    rcases List.mem_pair.mp he with rfl | rfl
    · rfl
    · exact deref_eq_ok _ ha
  · rw [if_neg hb] at he
    exact absurd he List.not_mem_nil

/-- A turn goes through the renderer and the device, which a started thread has. -/
theorem renderTurn_ok {w : SidebandWindow} (hw : w.Usable) :
    ∃ w', renderTurn true w = .ok w' ∧ w'.toMembers = w.toMembers := by
  unfold renderTurn
  by_cases hstarted : w.started = true
  · rw [if_pos hstarted]
    cases hturn : messageThreadTurn w.toRTSidebandWindow with
    | error e => exact ⟨w, rfl, rfl⟩
    | ok turn =>
      have heffects : turn.1.forM (Effect.deref true w) = .ok () :=
        forM_eq_ok _ fun e _ => Effect.deref_eq_ok hw.1 (hw.2 hstarted).1 e
      refine ⟨{ w with toRTSidebandWindow := turn.2 }, ?_, rfl⟩
      simp only [heffects]
      rfl
  · rw [if_neg hstarted]
    exact ⟨w, rfl, rfl⟩

theorem renderTurns_ok (n : Nat) {w : SidebandWindow} (hw : w.Usable) :
    ∃ w', renderTurns true n w = .ok w' ∧ w'.toMembers = w.toMembers := by
  induction n generalizing w with
  | zero => exact ⟨w, rfl, rfl⟩
  | succ n ih =>
    obtain ⟨w₁, hturn, hmembers₁⟩ := renderTurn_ok hw
    obtain ⟨w₂, hturns, hmembers₂⟩ := ih (w := w₁) (hmembers₁ ▸ hw)
    refine ⟨w₂, ?_, hmembers₂.trans hmembers₁⟩
    unfold renderTurns
    rw [hturn]
    exact hturns

theorem requestExitAndWait_ok {w : SidebandWindow} (hw : w.Usable)
    (hstarted : w.started = true) :
    ∃ w', requestExitAndWait true w = .ok w' ∧ w'.toMembers = w.toMembers := by
  let sent := { w with toRTSidebandWindow := (requestExit w.toRTSidebandWindow).2 }
  obtain ⟨w', hturns, hmembers⟩ :=
    renderTurns_ok sent.mMessageQueue.mList.length (w := sent) hw
  have hthread : w'.mMessageThread = true := by
    have hsame : w'.mMessageThread = w.mMessageThread := congrArg Members.mMessageThread hmembers
    rw [hsame]
    exact (hw.2 hstarted).2
  refine ⟨w', ?_, hmembers⟩
  unfold requestExitAndWait
  rw [if_neg (by rw [hstarted]; decide)]
  show (renderTurns true sent.mMessageQueue.mList.length sent >>= fun w => do
    deref w.mMessageThread .nullMessageThread
    return w) = .ok w'
  rw [hturns]
  show (deref w'.mMessageThread .nullMessageThread >>= fun _ => .ok w') = .ok w'
  rw [deref_eq_ok _ hthread]
  rfl

theorem requestExitAndWait_error {w : SidebandWindow} (gModule : Bool)
    (hstarted : w.started = false) :
    requestExitAndWait gModule w = .error .exitUnanswered := by
  unfold requestExitAndWait
  rw [if_pos hstarted]
  rfl

/-- A window comes through its release exactly where its thread was started. -/
theorem releaseWindow_eq_ok_iff {w : SidebandWindow} (hw : w.Usable) :
    releaseWindow true w = .ok () ↔ w.started = true := by
  unfold releaseWindow
  cases hstarted : w.started with
  | false =>
    rw [requestExitAndWait_error true hstarted]
    exact ⟨nofun, nofun⟩
  | true =>
    refine ⟨fun _ => rfl, fun _ => ?_⟩
    obtain ⟨w', hexit, hmembers⟩ := requestExitAndWait_ok hw hstarted
    rw [← hmembers] at hw
    have hvop : w'.mVopRender = true := by
      have hsame : w'.started = w.started := congrArg Members.started hmembers
      exact (hw.2 (hsame.trans hstarted)).1
    have hbuffers : (releaseBuffers w'.toRTSidebandWindow).1.forM (Effect.deref true w') = .ok () :=
      forM_eq_ok _ fun e _ => Effect.deref_eq_ok hw.1 hvop e
    rw [hexit]
    show ((releaseBuffers w'.toRTSidebandWindow).1.forM (Effect.deref true w') >>= fun _ =>
      deref w'.mVopRender .nullVopRender) = .ok ()
    rw [hbuffers]
    exact deref_eq_ok _ hvop

/-! ## Calls of a surface -/

namespace RTSurfaceCallback

/-- What a surface has once each of its streams has opened its device. -/
structure Sound (s : RTSurfaceCallback) : Prop where
  hasWindow : s.mTunnel = true ∨ s.mSidebandHandle ≠ null → s.mSidebandWindow ≠ none
  usable : ∀ w, s.mSidebandWindow = some w → s.gModule = true ∧ w.Usable

def Started (s : RTSurfaceCallback) : Prop :=
  ∀ w, s.mSidebandWindow = some w → w.started = true

/-- `s'` is `s` but for what the window's other members hold. -/
structure Keeps (s s' : RTSurfaceCallback) : Prop where
  gModule : s'.gModule = s.gModule
  mTunnel : s'.mTunnel = s.mTunnel
  mSidebandHandle : s'.mSidebandHandle = s.mSidebandHandle
  window : s'.mSidebandWindow.map (·.toMembers) = s.mSidebandWindow.map (·.toMembers)

variable {s s' : RTSurfaceCallback}

theorem Keeps.refl (s : RTSurfaceCallback) : Keeps s s := ⟨rfl, rfl, rfl, rfl⟩

theorem Keeps.symm (h : Keeps s s') : Keeps s' s :=
  ⟨h.gModule.symm, h.mTunnel.symm, h.mSidebandHandle.symm, h.window.symm⟩

theorem Keeps.exists_window (h : Keeps s s') {w' : SidebandWindow}
    (hw' : s'.mSidebandWindow = some w') :
    ∃ w, s.mSidebandWindow = some w ∧ w.toMembers = w'.toMembers := by
  have hmap := h.window
  rw [hw', Option.map_some] at hmap
  exact Option.map_eq_some_iff.mp hmap.symm

theorem Keeps.sound (h : Keeps s s') (hs : s.Sound) : s'.Sound where
  hasWindow := by
    intro hor hnone
    rw [h.mTunnel, h.mSidebandHandle] at hor
    have hmap := h.window
    rw [hnone, Option.map_none] at hmap
    exact hs.hasWindow hor (Option.map_eq_none_iff.mp hmap.symm)
  usable := by
    intro w' hw'
    obtain ⟨w, hw, hmembers⟩ := h.exists_window hw'
    rw [h.gModule, ← hmembers]
    exact hs.usable w hw

theorem Keeps.started (h : Keeps s s') (hs : s.Started) : s'.Started := by
  intro w' hw'
  obtain ⟨w, hw, hmembers⟩ := h.exists_window hw'
  have hsame : w.started = w'.started := congrArg Members.started hmembers
  rw [← hsame]
  exact hs w hw

theorem keeps_window {w w' : SidebandWindow} (hw : s.mSidebandWindow = some w)
    (hmembers : w'.toMembers = w.toMembers) :
    Keeps s { s with mSidebandWindow := some w' } := by
  refine ⟨rfl, rfl, rfl, ?_⟩
  rw [hw, Option.map_some, Option.map_some, hmembers]

/-- A tunnelled call that keeps the members of its window. -/
theorem tunnelled_ok (hs : s.Sound) {call : SidebandWindow → Except Fault SidebandWindow}
    (hcall : ∀ w, s.gModule = true → w.Usable →
      ∃ w', call w = .ok w' ∧ w'.toMembers = w.toMembers) :
    ∃ s', s.tunnelled call = .ok s' ∧ Keeps s s' := by
  unfold tunnelled
  by_cases htunnel : s.mTunnel = true
  · rw [if_pos htunnel]
    cases hw : s.mSidebandWindow with
    | none => exact absurd hw (hs.hasWindow (.inl htunnel))
    | some w =>
      obtain ⟨hmodule, husable⟩ := hs.usable w hw
      obtain ⟨w', hok, hmembers⟩ := hcall w hmodule husable
      refine ⟨{ s with mSidebandWindow := some w' }, ?_, keeps_window hw hmembers⟩
      simp only [hok]
      rfl
  · rw [if_neg htunnel]
    exact ⟨s, rfl, .refl s⟩

theorem step_ok (hs : s.Sound) {c : SurfaceCall} (hc : c.stream? = none) :
    ∃ s', s.step c = .ok s' ∧ Keeps s s' := by
  cases c with
  | setSidebandStream arg replies => cases hc
  | allocateBuffer b =>
    refine tunnelled_ok hs fun w hmodule husable => ⟨w, ?_, rfl⟩
    rw [hmodule, allocThrough_eq_ok husable.1]
    rfl
  | freeBuffer b =>
    refine tunnelled_ok hs fun w hmodule husable => ⟨w, ?_, rfl⟩
    rw [hmodule, freeThrough_eq_ok husable.1]
    rfl
  | remainBuffer b => exact tunnelled_ok hs fun w _ _ => ⟨_, rfl, rfl⟩
  | queueBuffer b => exact tunnelled_ok hs fun w _ _ => ⟨_, rfl, rfl⟩
  | dequeueBufferAndWait => exact tunnelled_ok hs fun w _ _ => ⟨_, rfl, rfl⟩
  | setCrop left top right bottom => exact tunnelled_ok hs fun w _ _ => ⟨_, rfl, rfl⟩
  | renderTurn =>
    unfold step
    cases hw : s.mSidebandWindow with
    | none => exact ⟨s, rfl, .refl s⟩
    | some w =>
      obtain ⟨hmodule, husable⟩ := hs.usable w hw
      obtain ⟨w', hturn, hmembers⟩ := renderTurn_ok husable
      refine ⟨{ s with mSidebandWindow := some w' }, ?_, keeps_window hw hmembers⟩
      simp only [hmodule, hturn]
      rfl

/-! ### Streams -/

theorem init_of_opens {gModule : Bool} {replies : StreamReplies} (arg : StreamInfo)
    (h : Opens gModule replies) :
    (SidebandWindow.new.init gModule arg replies).gModule = true ∧
      (SidebandWindow.new.init gModule arg replies).window.Usable ∧
      ((SidebandWindow.new.init gModule arg replies).window.started = true ↔
        StartsThread arg replies) := by
  have hmodule : ¬ (gModule || replies.getModule) = false := by
    rw [Bool.not_eq_false, Bool.or_eq_true]
    exact h.1
  have hdevice : ¬ (SidebandWindow.new.mAllocDevice || replies.openDevice) = false := by
    rw [h.2, Bool.or_true]
    decide
  unfold SidebandWindow.init StartsThread
  rw [if_neg hmodule, if_neg hdevice]
  by_cases hsize : arg.structSize = sizeofRTSidebandInfo
  · rw [if_neg (not_not_intro hsize)]
    exact ⟨rfl, ⟨rfl, fun _ => ⟨rfl, rfl⟩⟩, fun hstarts => ⟨hsize, hstarts⟩,
      fun hstarts => hstarts.2⟩
  · rw [if_pos hsize]
    exact ⟨rfl, ⟨rfl, nofun⟩, nofun, fun hstarts => absurd hstarts.1 hsize⟩

theorem init_of_not_opens {gModule : Bool} {replies : StreamReplies} (arg : StreamInfo)
    (h : ¬ Opens gModule replies) :
    (SidebandWindow.new.init gModule arg replies).window.mAllocDevice = false := by
  unfold SidebandWindow.init
  by_cases hmodule : (gModule || replies.getModule) = false
  · rw [if_pos hmodule]
    rfl
  · have hdevice : (SidebandWindow.new.mAllocDevice || replies.openDevice) = false := by
      rw [Bool.not_eq_false, Bool.or_eq_true] at hmodule
      exact Bool.eq_false_iff.mpr fun hopen => h ⟨hmodule, hopen⟩
    rw [if_neg hmodule, if_pos hdevice]
    rfl

/-- A stream that opens its device leaves a window behind, started or not. -/
theorem setSidebandStream_ok (arg : StreamInfo) {replies : StreamReplies}
    (h : Opens s.gModule replies) :
    ∃ s', s.setSidebandStream arg replies = .ok s' ∧ s'.Sound ∧ s'.gModule = true ∧
      (s'.Started ↔ StartsThread arg replies) := by
  obtain ⟨hmodule, husable, hstarted⟩ := init_of_opens arg h
  unfold setSidebandStream
  generalize SidebandWindow.new.init s.gModule arg replies = inited at *
  simp only [hmodule, allocThrough_eq_ok husable.1]
  have hwindow : ∀ w, some inited.window = some w → true = true ∧ w.Usable := by
    intro w hw
    cases hw
    exact ⟨rfl, husable⟩
  have hiff : (∀ w, some inited.window = some w → w.started = true) ↔
      StartsThread arg replies := by
    rw [← hstarted]
    refine ⟨fun hall => hall _ rfl, fun hone w hw => ?_⟩
    cases hw
    exact hone
  by_cases hhandle : replies.handle = null
  · rw [if_pos hhandle]
    exact ⟨_, rfl, ⟨fun _ => nofun, hwindow⟩, rfl, hiff⟩
  · rw [if_neg hhandle]
    exact ⟨_, rfl, ⟨fun _ => nofun, hwindow⟩, rfl, hiff⟩

theorem setSidebandStream_error {arg : StreamInfo} {replies : StreamReplies}
    (h : ¬ Opens s.gModule replies) :
    s.setSidebandStream arg replies = .error .nullAllocDevice := by
  unfold setSidebandStream allocThrough
  simp only [init_of_not_opens arg h]
  rfl

/-! ### Whole lives -/

theorem destroy_eq_ok_iff (hs : s.Sound) : s.destroy = .ok () ↔ s.Started := by
  unfold destroy Started
  cases hw : s.mSidebandWindow with
  | none =>
    -- a handle came with a window
    have hhandle : ¬ s.mSidebandHandle ≠ null := fun hne => hs.hasWindow (.inr hne) hw
    rw [if_neg hhandle]
    exact ⟨fun _ => nofun, fun _ => rfl⟩
  | some w =>
    obtain ⟨hmodule, husable⟩ := hs.usable w hw
    have hrelease : releaseWindow true w = .ok () ↔
        ∀ w', some w = some w' → w'.started = true := by
      rw [releaseWindow_eq_ok_iff husable]
      refine ⟨fun hstarted w' hw' => ?_, fun hall => hall w rfl⟩
      cases hw'
      exact hstarted
    by_cases hhandle : s.mSidebandHandle ≠ null
    · rw [if_pos hhandle, hmodule]
      show (freeThrough true w s.mSidebandHandle >>= fun _ => releaseWindow true w) = .ok () ↔ _
      rw [freeThrough_eq_ok husable.1]
      exact hrelease
    · rw [if_neg hhandle, hmodule]
      exact hrelease

theorem sound_new (gModule : Bool) : (new gModule).Sound where
  hasWindow := by
    rintro (h | h)
    · cases h
    · exact absurd rfl h
  usable := nofun

/-- Where there is no stream among the calls, the window that is there already has to have its
thread started. -/
theorem lifecycle_of_sound (calls : List SurfaceCall) (hs : s.Sound) :
    s.lifecycle calls = .ok () ↔
      OpensAll s.gModule (streams calls) ∧ LastStarts (streams calls) ∧
        (streams calls = [] → s.Started) := by
  induction calls generalizing s with
  | nil =>
    show s.destroy = .ok () ↔ _
    rw [destroy_eq_ok_iff hs]
    exact ⟨fun h => ⟨trivial, nofun, fun _ => h⟩, fun h => h.2.2 rfl⟩
  | cons c calls ih =>
    unfold lifecycle at ih ⊢
    rw [List.foldlM_cons]
    cases hc : c.stream? with
    | none =>
      obtain ⟨s', hstep, hkeeps⟩ := step_ok hs hc
      have hstreams : streams (c :: calls) = streams calls := List.filterMap_cons_none hc
      have hstarted : s'.Started ↔ s.Started := ⟨hkeeps.symm.started, hkeeps.started⟩
      rw [hstep, hstreams, ← hkeeps.gModule, ← hstarted]
      exact ih (hkeeps.sound hs)
    | some stream =>
      obtain ⟨arg, replies⟩ := stream
      have hcall : c = .setSidebandStream arg replies := by
        cases c <;> cases hc
        rfl
      have hstreams : streams (c :: calls) = (arg, replies) :: streams calls :=
        List.filterMap_cons_some hc
      rw [hcall] at hstreams ⊢
      rw [hstreams, lastStarts_cons]
      -- whatever the calls before have left is replaced by the stream's window
      by_cases hopens : Opens s.gModule replies
      · obtain ⟨s', hstep, hsound, hmodule, hstarted⟩ := setSidebandStream_ok arg hopens
        have hrest := ih hsound
        rw [hmodule, hstarted] at hrest
        have hbind : s.step (.setSidebandStream arg replies) = .ok s' := hstep
        rw [hbind]
        exact hrest.trans ⟨fun h => ⟨⟨hopens, h.1⟩, h.2, nofun⟩, fun h => ⟨h.1.2, h.2.1⟩⟩
      · have hstep : s.step (.setSidebandStream arg replies) = .error .nullAllocDevice :=
          setSidebandStream_error hopens
        rw [hstep]
        exact ⟨nofun, fun h => absurd h.1.1 hopens⟩

/-- A surface comes through its calls and its destruction exactly where every stream opens its
device and the last one starts its thread. -/
theorem lifecycle_ok_iff (gModule : Bool) (calls : List SurfaceCall) :
    (new gModule).lifecycle calls = .ok () ↔
      OpensAll gModule (streams calls) ∧ LastStarts (streams calls) := by
  rw [lifecycle_of_sound calls (sound_new gModule)]
  exact ⟨fun h => ⟨h.1, h.2.1⟩, fun h => ⟨h.1, h.2, fun _ => nofun⟩⟩

/-- Without the module, the handle is allocated through `NULL`; without the thread, the
destructor waits for an answer to its `EXIT`. -/
theorem lifecycle_faults :
    (new false).lifecycle
        [.setSidebandStream ⟨48, ⟨0, 0, 0, 0, 0, 0, 0, 0⟩⟩ ⟨false, true, true, 1⟩] =
      .error .nullAllocDevice ∧
    (new false).lifecycle
        [.setSidebandStream ⟨48, ⟨0, 0, 0, 0, 0, 0, 0, 0⟩⟩ ⟨true, true, false, 1⟩] =
      .error .exitUnanswered :=
  ⟨rfl, rfl⟩

end RTSurfaceCallback

end RockchipHal.Sideband
