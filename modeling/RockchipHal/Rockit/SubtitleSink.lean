import RockchipHal.Lib.Triples

/-!
# `RTSubteSink`: the subtitle surface

`create` makes a surface composer client, a surface, and on it an EGL display, surface and
context; `destroy` ends the session; drawing goes to the EGL surface between the two.
`createEGLSurface` initialises EGL for every render type; `destoryEGLSurface` returns at once for
`RENDER_RGA`, and is not called where there was no EGL surface.

Calls are those of `RTSubtitleSinkInterface`, taken one at a time; `mRenderLock` is not modelled,
nor are the geometry of the surface and what is drawn.  `initScene` sets the state of GL, of which
it names no object.
-/

namespace RockchipHal.Rockit

/-! ## The sink -/

def renderRGA : Int := 0
def renderGPU : Int := 1

/-- Objects by their address or handle: the three strong pointers, and what EGL and GL make. -/
inductive SinkRes
  | client (c : Nat)
  | control (c : Nat)
  | surface (s : Nat)
  | display (d : Nat)
  | eglSurface (w : Nat)
  | context (c : Nat)
  | texture (t : Nat)
deriving DecidableEq, Repr

/-- `none` is `NULL`, `EGL_NO_DISPLAY`, `EGL_NO_SURFACE` or `EGL_NO_CONTEXT`. -/
structure RTSubteSink where
  mInitialized : Bool
  mClient : Option Nat
  mSurfaceControl : Option Nat
  mSurface : Option Nat
  mRenderType : Int
  mDisplay : Option Nat
  mEGLSurface : Option Nat
  mContext : Option Nat
  mSurfaceShow : Bool
  mBindThread : Bool
deriving DecidableEq, Repr

/-- `hold` and `drop` are a strong pointer set and given up; `window` is what a function of
`Surface` is called on. -/
inductive SinkEvent
  | hold (r : SinkRes)
  | drop (r : SinkRes)
  | createSurface (client : Nat)
  | dispose (client : Nat)
  | transaction (control : Nat)
  | lock (window : Option Nat)
  | unlockAndPost (window : Option Nat)
  | eglInitialize (display : Nat)
  | eglCreateWindowSurface (display : Nat) (window : Option Nat) (made : Nat)
  | eglCreateContext (display made : Nat)
  | eglQuerySurface (display eglSurface : Nat)
  | eglBind (display eglSurface context : Option Nat)
  | eglUnbind (display : Nat)
  | eglSwapBuffers (display eglSurface : Option Nat)
  | eglDestroyContext (display : Option Nat) (context : Nat)
  | eglDestroySurface (display : Option Nat) (eglSurface : Nat)
  | eglTerminate (display : Nat)
  | glGenTextures (texture : Nat)
  | glDeleteTextures (texture : Nat)
deriving DecidableEq, Repr

namespace SinkEvent

def tx : SinkEvent → Option (Tx SinkRes)
  | hold r => some (.acquire r)
  | drop r => some (.release r)
  | eglInitialize d => some (.acquire (.display d))
  | eglCreateWindowSurface _ _ w => some (.acquire (.eglSurface w))
  | eglCreateContext _ c => some (.acquire (.context c))
  | eglDestroyContext _ c => some (.release (.context c))
  | eglDestroySurface _ w => some (.release (.eglSurface w))
  | eglTerminate d => some (.release (.display d))
  | glGenTextures t => some (.acquire (.texture t))
  | glDeleteTextures t => some (.release (.texture t))
  | _ => none

/-- `EGL_NO_CONTEXT` may be bound; nothing else may be missing. -/
def names : SinkEvent → List (Option SinkRes)
  | hold _ | eglInitialize _ | glGenTextures _ => []
  | drop r => [some r]
  | createSurface c | dispose c => [some (.client c)]
  | transaction c => [some (.control c)]
  | lock s | unlockAndPost s => [s.map .surface]
  | eglCreateWindowSurface d s _ => [some (.display d), s.map .surface]
  | eglCreateContext d _ | eglUnbind d | eglTerminate d => [some (.display d)]
  | eglQuerySurface d w => [some (.display d), some (.eglSurface w)]
  | eglBind d w c => d.map .display :: w.map .eglSurface :: c.toList.map fun c => some (.context c)
  | eglSwapBuffers d w => [d.map .display, w.map .eglSurface]
  | eglDestroyContext d c => [d.map .display, some (.context c)]
  | eglDestroySurface d w => [d.map .display, some (.eglSurface w)]
  | glDeleteTextures t => [some (.texture t)]

def vocabulary : Vocabulary SinkEvent SinkRes := ⟨tx, names⟩

end SinkEvent

/-- How far EGL came: after a call that fails, those that follow fail too. -/
inductive EglAnswers
  | noDisplay (display : Option Nat)
  | noSurface (display : Nat)
  | noContext (display eglSurface : Nat)
  | created (display eglSurface context : Nat)
deriving DecidableEq, Repr

structure CreateReplies where
  client : Nat
  createSurface : Option Nat
  getSurface : Option Nat
  egl : EglAnswers
deriving DecidableEq, Repr

structure SinkResult where
  events : List SinkEvent
  sink : RTSubteSink

def SinkResult.andThen (r : SinkResult) (next : RTSubteSink → SinkResult) : SinkResult :=
  ⟨r.events ++ (next r.sink).events, (next r.sink).sink⟩

/-- A pointer given up, if it is not `NULL`. -/
def dropped (o : Option Nat) (res : Nat → SinkRes) : List SinkEvent :=
  o.toList.map fun a => .drop (res a)

namespace RTSubteSink

/-- The constructor writes `mInitialized`; the strong pointers are `NULL`. -/
def new (garbage : RTSubteSink) : RTSubteSink :=
  { garbage with mInitialized := false, mClient := none, mSurfaceControl := none, mSurface := none }

/-- Called with `mClient` at `NULL`. -/
def createSubitleSurface (s : RTSubteSink) (replies : CreateReplies) : SinkResult :=
  let opened := [.hold (.client replies.client), .createSurface replies.client]
  match replies.createSurface with
  | some control =>
    ⟨opened ++ [.hold (.control control), .transaction control] ++
        (replies.getSurface.toList.map fun w => .hold (.surface w)) ++
        dropped s.mSurface .surface,
      { s with
        mClient := some replies.client
        mSurfaceControl := some control
        mSurface := replies.getSurface }⟩
  | none => ⟨opened, { s with mClient := some replies.client }⟩

def createEGLSurface (s : RTSubteSink) (replies : CreateReplies) : SinkResult :=
  if s.mSurfaceControl = none ∨ replies.getSurface = none then ⟨[], s⟩
  else
    match replies.egl with
    | .noDisplay d => ⟨[], { s with mDisplay := d, mEGLSurface := none }⟩
    | .noSurface d => ⟨[.eglInitialize d], { s with mDisplay := some d, mEGLSurface := none }⟩
    | .noContext d w =>
      ⟨[.eglInitialize d, .eglCreateWindowSurface d s.mSurface w],
        { s with mDisplay := some d, mEGLSurface := some w, mContext := none }⟩
    | .created d w c =>
      ⟨[.eglInitialize d, .eglCreateWindowSurface d s.mSurface w, .eglCreateContext d c,
          .eglQuerySurface d w, .eglQuerySurface d w],
        { s with mDisplay := some d, mEGLSurface := some w, mContext := some c }⟩

def «show» (s : RTSubteSink) : SinkResult :=
  if s.mInitialized = false ∨ s.mSurfaceShow then ⟨[], s⟩
  else
    match s.mSurfaceControl with
    | some c => ⟨[.transaction c], { s with mSurfaceShow := true }⟩
    | none => ⟨[], s⟩

def hide (s : RTSubteSink) : SinkResult :=
  if s.mInitialized = false ∨ s.mSurfaceShow = false then ⟨[], s⟩
  else
    match s.mSurfaceControl with
    | some c => ⟨[.transaction c], { s with mSurfaceShow := false }⟩
    | none => ⟨[], s⟩

/-- The members as `create` sets them before it makes anything. -/
def blank (s : RTSubteSink) (renderType : Int) : RTSubteSink :=
  { s with
    mDisplay := none
    mEGLSurface := none
    mContext := none
    mRenderType := renderType
    mClient := none
    mSurfaceControl := none
    mSurfaceShow := false
    mBindThread := false }

def create (s : RTSubteSink) (renderType : Int) (replies : CreateReplies) : SinkResult :=
  if s.mInitialized then ⟨[], s⟩
  else
    let cleared : SinkResult :=
      ⟨dropped s.mClient .client ++ dropped s.mSurfaceControl .control, s.blank renderType⟩
    ((cleared.andThen (createSubitleSurface · replies)).andThen fun s =>
        if s.mSurface.isSome then createEGLSurface s replies else ⟨[], s⟩).andThen fun s =>
      if s.mEGLSurface.isSome then RTSubteSink.show { s with mInitialized := true } else ⟨[], s⟩

/-- `locked` is whether `Surface::lock` succeeds. -/
def clean (s : RTSubteSink) (locked : Bool) : SinkResult :=
  if s.mInitialized = false then ⟨[], s⟩
  else if s.mRenderType = renderRGA then
    ⟨.lock s.mSurface :: if locked then [.unlockAndPost s.mSurface] else [], s⟩
  else if s.mRenderType = renderGPU ∧ s.mEGLSurface.isSome then
    ⟨[.eglSwapBuffers s.mDisplay s.mEGLSurface], s⟩
  else ⟨[], s⟩

def destoryEGLSurface (s : RTSubteSink) : SinkResult :=
  if s.mRenderType = renderRGA then ⟨[], s⟩
  else
    ⟨s.mClient.toList.map .dispose ++ s.mDisplay.toList.map .eglUnbind ++
        s.mContext.toList.map (.eglDestroyContext s.mDisplay) ++
        s.mEGLSurface.toList.map (.eglDestroySurface s.mDisplay) ++
        dropped s.mSurface .surface ++ s.mDisplay.toList.map .eglTerminate,
      { s with mSurface := none, mContext := none, mEGLSurface := none, mDisplay := none }⟩

def destroy (s : RTSubteSink) (locked : Bool) : SinkResult :=
  let ended : SinkResult :=
    if s.mInitialized then (clean s locked).andThen destoryEGLSurface else ⟨[], s⟩
  ended.andThen fun s =>
    ⟨s.mClient.toList.map .dispose ++ dropped s.mClient .client,
      { s with mClient := none, mInitialized := false }⟩

/-- `current` is whether `eglMakeCurrent` succeeds. -/
def bindSurfaceToThread (s : RTSubteSink) (current : Bool) : SinkResult :=
  if s.mRenderType = renderRGA ∨ s.mEGLSurface = none then ⟨[], s⟩
  else
    ⟨[.eglBind s.mDisplay s.mEGLSurface s.mContext],
      { s with mBindThread := s.mBindThread || current }⟩

/-- `frame` is the texture made for the frame, where there is one with data. -/
def gpuRender (s : RTSubteSink) (frame : Option Nat) : SinkResult :=
  if s.mEGLSurface = none then ⟨[], s⟩
  else
    match frame with
    | some t => ⟨[.glGenTextures t, .glDeleteTextures t], s⟩
    | none => ⟨[], s⟩

def render (s : RTSubteSink) (current : Bool) (frame : Option Nat) : SinkResult :=
  if s.mInitialized = false then ⟨[], s⟩
  else
    (if s.mBindThread then ⟨[], s⟩ else bindSurfaceToThread s current).andThen fun s =>
      if s.mRenderType = renderGPU then gpuRender s frame else ⟨[], s⟩

def showScene (s : RTSubteSink) : SinkResult :=
  if s.mInitialized ∧ s.mRenderType = renderGPU ∧ s.mEGLSurface.isSome then
    ⟨[.eglSwapBuffers s.mDisplay s.mEGLSurface], s⟩
  else ⟨[], s⟩

/-- `~RTSubteSink`: `destroy`, then the strong pointers go. -/
def destruct (s : RTSubteSink) (locked : Bool) : List SinkEvent :=
  let r := destroy s locked
  r.events ++ dropped r.sink.mSurface .surface ++ dropped r.sink.mSurfaceControl .control ++
    dropped r.sink.mClient .client

end RTSubteSink

/-! ## Runs -/

inductive SinkCall
  | create (renderType : Int) (replies : CreateReplies)
  | destroy (locked : Bool)
  | initScene
  | render (current : Bool) (frame : Option Nat)
  | showScene
  | clean (locked : Bool)
  | «show»
  | hide
  | isShowing
deriving DecidableEq, Repr

def SinkCall.result (s : RTSubteSink) : SinkCall → SinkResult
  | create renderType replies => s.create renderType replies
  | destroy locked => s.destroy locked
  | initScene | isShowing => ⟨[], s⟩
  | render current frame => s.render current frame
  | showScene => s.showScene
  | clean locked => s.clean locked
  | «show» => s.show
  | hide => s.hide

namespace RTSubteSink

def next (s : RTSubteSink) (c : SinkCall) : RTSubteSink := (c.result s).sink

def events (s : RTSubteSink) (c : SinkCall) : List SinkEvent := (c.result s).events

/-- From the constructor to the end of the destructor. -/
def life (garbage : RTSubteSink) (calls : List SinkCall) (locked : Bool) : List SinkEvent :=
  runLog next events (new garbage) calls ++ (calls.foldl next (new garbage)).destruct locked

end RTSubteSink

end RockchipHal.Rockit
