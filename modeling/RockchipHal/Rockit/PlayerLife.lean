import RockchipHal.Rockit.PlaybackRate
import RockchipHal.Rockit.SubtitleSession

/-!
# The life of a player

`RockitPlayerManager` makes the player of the library, the callbacks the library calls, and the
subtitle sink; the media player service makes its calls, and the library calls the objects it was
handed as it likes between them.  The destructor gives up one callback of each kind.

An event names what the code goes through: the context and the player for a call of the library,
the callback and the sink it wraps for a call on a callback, the subtitle sink for all its events.
`createPlayer` goes on where the library, a function or the player is missing, and what is `NULL`
is followed later.

* Nothing is called, passed or deleted that is not there at that moment, and no null pointer is
  followed, exactly when the library `Serves` the life                    (player_named_iff).
* Then the ledger of the whole life is settled exactly when no call `Loses` something: no audio
  sink is set while there is one, and no EGL object of the subtitle sink is lost
                                                                         (player_settled_iff).

The library's player is taken not to call anything after `reset`, the objects for metadata and
the audio sinks to be there; the window of a tunnelled video is not part of the ledger.
-/

namespace RockchipHal.Rockit

variable {Rate : Type}

/-! ## The player -/

/-- `window` is the `Surface` of the video, `audioSink` a reference on a sink of the service. -/
inductive PlayerRes
  | ctx
  | player
  | library
  | impl
  | msgCallback
  | subteSink
  | videoSink
  | drm (fd : Int)
  | window (w : Nat)
  | audioSinkCB (a : Nat)
  | audioSink (k : Nat)
  | metaData (m : Nat)
  | subtitle (r : SinkRes)
deriving DecidableEq, Repr

/-- `via` is what the code goes through to make or give up an object, `names` what a call is made
on, goes through or is handed; `subtitle` is an event of the subtitle sink's functions. -/
inductive PlayerEvent
  | get (r : PlayerRes) (via : List (Option PlayerRes))
  | drop (r : PlayerRes) (via : List (Option PlayerRes))
  | use (names : List (Option PlayerRes))
  | subtitle (e : SinkEvent)
deriving DecidableEq, Repr

namespace PlayerEvent

def tx : PlayerEvent → Option (Tx PlayerRes)
  | get r _ => some (.acquire r)
  | drop r _ => some (.release r)
  | use _ => none
  | subtitle e => e.tx.map (Tx.map .subtitle)

def names : PlayerEvent → List (Option PlayerRes)
  | get _ via => via
  | drop r via => via ++ [some r]
  | use names => names
  | subtitle e => some .subteSink :: e.names.map (Option.map .subtitle)

def vocabulary : Vocabulary PlayerEvent PlayerRes := ⟨tx, names⟩

end PlayerEvent

/-- Objects that are there. -/
abbrev on (rs : List PlayerRes) : List (Option PlayerRes) := rs.map some

/-- `RockitPlayer`: which of its members are not `NULL` after `createPlayer`. -/
structure RockitPlayer where
  mPlayerLibFd : Bool
  mCreatePlayerFunc : Bool
  mDestroyPlayerFunc : Bool
  mCreateMetaDataFunc : Bool
  mDestroyMetaDataFunc : Bool
  mPlayerImpl : Bool
deriving DecidableEq, Repr

namespace RockitPlayer

def library (k : RockitPlayer) : List PlayerRes := if k.mPlayerLibFd then [.library] else []

def impl (k : RockitPlayer) : Option PlayerRes := if k.mPlayerImpl then some .impl else none

/-- A call of one of the four functions.  One that `dlsym` found without the library is another
library's. -/
def func (k : RockitPlayer) (found : Bool) : List (Option PlayerRes) :=
  on [.ctx, .player] ++ if found then on k.library else [none]

/-- A call of the library's player. -/
def call (k : RockitPlayer) (passed : List PlayerRes) : PlayerEvent :=
  .use (on ([.ctx, .player] ++ k.library) ++ k.impl :: on passed)

/-- `RockitPlayer` after `createPlayer`, which fails nowhere. -/
def createPlayer (k : RockitPlayer) : List PlayerEvent :=
  k.library.map (.get · (on [.ctx, .player])) ++
    [if k.mPlayerImpl then .get .impl (k.func k.mCreatePlayerFunc)
      else .use (k.func k.mCreatePlayerFunc)]

def destroyPlayer (k : RockitPlayer) : List PlayerEvent :=
  (if k.mPlayerImpl then .drop .impl (k.func k.mDestroyPlayerFunc)
    else .use (k.func k.mDestroyPlayerFunc)) :: k.library.map (.drop · (on [.ctx, .player]))

def createMetaData (k : RockitPlayer) (m : Nat) : PlayerEvent :=
  .get (.metaData m) (k.func k.mCreateMetaDataFunc)

def destroyMetaData (k : RockitPlayer) (m : Nat) : PlayerEvent :=
  .drop (.metaData m) (k.func k.mDestroyMetaDataFunc)

/-- A command put into an object for metadata, or a reply taken out of it. -/
def readMetaData (m : Nat) : PlayerEvent := .use (on [.ctx, .player, .metaData m])

/-- A command given to the library's player. -/
def setPlaybackSettings (k : RockitPlayer) (metaData : Nat) : List PlayerEvent :=
  [k.createMetaData metaData, readMetaData metaData, k.call [.metaData metaData],
    k.destroyMetaData metaData]

/-- `reply` is whether there is one. -/
def invoke (k : RockitPlayer) (reply : Bool) (metaIn metaOut : Nat) : List PlayerEvent :=
  if reply then
    [k.createMetaData metaIn, k.createMetaData metaOut, readMetaData metaIn,
      k.call [.metaData metaIn, .metaData metaOut], readMetaData metaOut,
      k.destroyMetaData metaIn, k.destroyMetaData metaOut]
  else [.use (on [.ctx, .player])]

end RockitPlayer

/-- `RTSurfaceCallback`, as far as it owns something. -/
structure VideoSink where
  mDrmFd : Int
  mNativeWindow : Nat
deriving DecidableEq, Repr

/-- What its destructor gives up. -/
def VideoSink.parts (cb : VideoSink) : List PlayerRes :=
  (if 0 ≤ cb.mDrmFd then [.drm cb.mDrmFd] else []) ++ [.window cb.mNativeWindow]

/-- `RTAudioSinkCallback`: which object it is, and the sink it wraps. -/
structure AudioSinkCB where
  obj : Nat
  mAudioSink : Nat
deriving DecidableEq, Repr

/-- A call on it, which it hands on. -/
def AudioSinkCB.through (cb : AudioSinkCB) : List PlayerRes :=
  [.audioSinkCB cb.obj, .audioSink cb.mAudioSink]

/-- `ROCKIT_PLAYER_CTX`.  The player, the message callback and the subtitle sink are there from
`initPlayer` on. -/
structure RockitPlayerCtx where
  mPlayer : RockitPlayer
  mAudioSink : Option Nat
  mAudioSinkCB : Option AudioSinkCB
  mVideoSinkCB : Option VideoSink
  mSubteSink : RTSubteSink
  mAudioPlayRateChanged : Bool
deriving DecidableEq, Repr

structure PlayerResult where
  events : List PlayerEvent
  ctx : RockitPlayerCtx

namespace RockitPlayerCtx

/-- `RockitPlayerManager()` with `initPlayer`; `garbage` is in the new subtitle sink. -/
def construct (player : RockitPlayer) (garbage : RTSubteSink) : PlayerResult :=
  ⟨[.get .ctx [], .get .player (on [.ctx])] ++ player.createPlayer ++
      [.get .msgCallback (on [.ctx]), player.call [.msgCallback],
        .get .subteSink (on [.ctx]), player.call [.subteSink]],
    ⟨player, none, none, none, .new garbage, false⟩⟩

/-- The descriptor and the `Surface` are what the constructor of a new callback gets.  An older
one has a window, so `setNativeWindow` keeps it. -/
def setVideoSurfaceTexture (p : RockitPlayerCtx) (drmFd : Int) (window : Nat) : PlayerResult :=
  match p.mVideoSinkCB with
  | none =>
    let cb : VideoSink := ⟨drmFd, window⟩
    ⟨.get .videoSink (on [.ctx]) :: cb.parts.map (.get · (on [.ctx, .videoSink])) ++
        [p.mPlayer.call [.videoSink]],
      { p with mVideoSinkCB := some cb }⟩
  | some cb => ⟨[.use (on [.ctx, .videoSink, .window cb.mNativeWindow])], p⟩

/-- The new callback wraps the sink; nothing is done with an older one. -/
def setAudioSink (p : RockitPlayerCtx) (audioSink obj : Nat) : PlayerResult :=
  let cb : AudioSinkCB := ⟨obj, audioSink⟩
  ⟨.get (.audioSink audioSink) (on [.ctx]) ::
      (p.mAudioSink.toList.map fun k => .drop (.audioSink k) (on [.ctx])) ++
      [.get (.audioSinkCB obj) (on [.ctx]),
        .get (.audioSink audioSink) (on [.ctx, .audioSinkCB obj]),
        p.mPlayer.call [.audioSinkCB obj]] ++
      (if p.mAudioPlayRateChanged then [.use (on (.ctx :: cb.through))] else []),
    { p with
      mAudioSink := some audioSink
      mAudioSinkCB := some cb
      mAudioPlayRateChanged := false }⟩

def callAudioSinkCB (p : RockitPlayerCtx) : List PlayerEvent :=
  .use (on [.ctx]) :: p.mAudioSinkCB.toList.map fun cb => .use (on (.ctx :: cb.through))

/-- `metaData` is made for the library's player. -/
def setPlaybackSettings (rules : RateRules Rate) (p : RockitPlayerCtx) (rate : Rate)
    (metaData : Nat) : PlayerResult :=
  if rules.inRange rate then
    ⟨p.mPlayer.setPlaybackSettings metaData ++ p.callAudioSinkCB,
      { p with mAudioPlayRateChanged := p.mAudioPlayRateChanged || p.mAudioSinkCB.isNone }⟩
  else ⟨[], p⟩

def getPlaybackSettings (p : RockitPlayerCtx) : PlayerResult := ⟨p.callAudioSinkCB, p⟩

def invoke (p : RockitPlayerCtx) (reply : Bool) (metaIn metaOut : Nat) : PlayerResult :=
  ⟨p.mPlayer.invoke reply metaIn metaOut, p⟩

/-- `delete mVideoSinkCB`. -/
def deleteVideoSinkCB (p : RockitPlayerCtx) : List PlayerEvent :=
  p.mVideoSinkCB.elim [] fun cb =>
    cb.parts.map (.drop · (on [.ctx, .videoSink])) ++ [.drop .videoSink (on [.ctx])]

/-- `delete mAudioSinkCB`. -/
def deleteAudioSinkCB (p : RockitPlayerCtx) : List PlayerEvent :=
  p.mAudioSinkCB.elim [] fun cb =>
    [.drop (.audioSink cb.mAudioSink) (on [.ctx, .audioSinkCB cb.obj]),
      .drop (.audioSinkCB cb.obj) (on [.ctx])]

/-- `delete mSubteSink`. -/
def deleteSubteSink (p : RockitPlayerCtx) (locked : Bool) : List PlayerEvent :=
  .use (on [.ctx, .subteSink]) :: (p.mSubteSink.destruct locked).map .subtitle ++
    [.drop .subteSink (on [.ctx])]

/-- `~RockitPlayerManager`: `reset`, `deinitPlayer`, and the context with its strong pointers. -/
def destroy (p : RockitPlayerCtx) (locked : Bool) : List PlayerEvent :=
  p.mPlayer.call [] :: (p.deleteVideoSinkCB ++ p.deleteAudioSinkCB ++
    [.drop .msgCallback (on [.ctx])] ++ p.deleteSubteSink locked ++ p.mPlayer.destroyPlayer ++
    (p.mAudioSink.toList.map fun k => .drop (.audioSink k) (on [.ctx])) ++
    [.drop .player (on [.ctx]), .drop .ctx []])

end RockitPlayerCtx

/-! ## Runs -/

/-- What the library was handed last of each kind. -/
inductive Handed
  | listener
  | videoSink
  | audioSink
deriving DecidableEq, Repr

/-- `control` is any call that is only handed on: `prepare`, `start`, `seekTo`, `reset` and so
on.  `callback` and `subtitle` are calls of the library. -/
inductive PlayerCall (Rate : Type)
  | setVideoSurfaceTexture (drmFd : Int) (window : Nat)
  | setAudioSink (audioSink obj : Nat)
  | setPlaybackSettings (rate : Rate) (metaData : Nat)
  | getPlaybackSettings
  | invoke (reply : Bool) (metaIn metaOut : Nat)
  | control
  | callback (h : Handed)
  | subtitle (c : SinkCall)

/-- The call on the object, where the library has one. -/
def RockitPlayerCtx.callback (p : RockitPlayerCtx) : Handed → List PlayerEvent
  | .listener => [.use (on [.msgCallback])]
  | .videoSink => p.mVideoSinkCB.toList.map fun cb => .use (on (.videoSink :: cb.parts))
  | .audioSink => p.mAudioSinkCB.toList.map fun cb => .use (on cb.through)

variable (rules : RateRules Rate)

def PlayerCall.result (p : RockitPlayerCtx) : PlayerCall Rate → PlayerResult
  | setVideoSurfaceTexture drmFd window => p.setVideoSurfaceTexture drmFd window
  | setAudioSink audioSink obj => p.setAudioSink audioSink obj
  | setPlaybackSettings rate metaData => p.setPlaybackSettings rules rate metaData
  | getPlaybackSettings => p.getPlaybackSettings
  | invoke reply metaIn metaOut => p.invoke reply metaIn metaOut
  | control => ⟨[p.mPlayer.call []], p⟩
  | callback h => ⟨p.callback h, p⟩
  | subtitle c =>
    ⟨.use (on [.subteSink]) :: (p.mSubteSink.events c).map .subtitle,
      { p with mSubteSink := p.mSubteSink.next c }⟩

/-- The library's functions for metadata are called. -/
def PlayerCall.MakesMetaData : PlayerCall Rate → Prop
  | setPlaybackSettings rate _ => rules.inRange rate
  | invoke reply _ _ => reply
  | _ => False

/-- The library has what a life with these calls follows. -/
structure RockitPlayer.Serves (k : RockitPlayer) (calls : List (PlayerCall Rate)) : Prop where
  createPlayer : k.mCreatePlayerFunc
  player : k.mPlayerImpl
  destroyPlayer : k.mDestroyPlayerFunc
  metaData : ∀ c ∈ calls, c.MakesMetaData rules → k.mCreateMetaDataFunc ∧ k.mDestroyMetaDataFunc

namespace RockitPlayerCtx

def next (p : RockitPlayerCtx) (c : PlayerCall Rate) : RockitPlayerCtx := (c.result rules p).ctx

def events (p : RockitPlayerCtx) (c : PlayerCall Rate) : List PlayerEvent :=
  (c.result rules p).events

def start (player : RockitPlayer) (garbage : RTSubteSink) : RockitPlayerCtx :=
  (construct player garbage).ctx

/-- From the constructor to the end of the destructor. -/
def life (player : RockitPlayer) (garbage : RTSubteSink) (calls : List (PlayerCall Rate))
    (locked : Bool) : List PlayerEvent :=
  (construct player garbage).events ++
    runLog (next rules) (events rules) (start player garbage) calls ++
    (calls.foldl (next rules) (start player garbage)).destroy locked

end RockitPlayerCtx

/-! ## What the player holds -/

/-- What a call of the library's player goes through. -/
def RockitPlayer.opened (k : RockitPlayer) : List PlayerRes :=
  [.ctx, .player] ++ k.library ++ k.impl.toList

/-- What `initPlayer` makes. -/
def RockitPlayer.base (k : RockitPlayer) : List PlayerRes :=
  k.opened ++ [.msgCallback, .subteSink]

namespace RockitPlayerCtx

def video (p : RockitPlayerCtx) : List PlayerRes :=
  p.mVideoSinkCB.elim [] fun cb => cb.parts ++ [.videoSink]

def audioCB (p : RockitPlayerCtx) : List PlayerRes :=
  p.mAudioSinkCB.elim [] fun cb => [.audioSink cb.mAudioSink, .audioSinkCB cb.obj]

def audio (p : RockitPlayerCtx) : List PlayerRes := p.mAudioSink.toList.map .audioSink

def held (p : RockitPlayerCtx) : List PlayerRes :=
  p.mPlayer.base ++ (p.video ++ (p.audioCB ++ (p.audio ++ p.mSubteSink.held.map .subtitle)))

end RockitPlayerCtx

/-- What a call makes that nothing will give up, or leaves behind. -/
def PlayerCall.lost (p : RockitPlayerCtx) : PlayerCall Rate → List PlayerRes
  | setAudioSink _ _ => p.audioCB
  | subtitle c => (c.lost p.mSubteSink).map .subtitle
  | _ => []

/-- A second audio sink, or an EGL display that the subtitle sink will not end. -/
def PlayerCall.Loses (p : RockitPlayerCtx) : PlayerCall Rate → Prop
  | setAudioSink _ _ => p.mAudioSinkCB.isSome
  | subtitle c => c.Loses p.mSubteSink
  | _ => False

theorem PlayerCall.lost_eq_nil_iff (p : RockitPlayerCtx) (c : PlayerCall Rate) :
    c.lost p = [] ↔ ¬ c.Loses p := by
  cases c with
  | setAudioSink _ _ =>
    show p.audioCB = [] ↔ ¬ p.mAudioSinkCB.isSome
    unfold RockitPlayerCtx.audioCB
    cases p.mAudioSinkCB <;> simp
  | subtitle c =>
    show (c.lost p.mSubteSink).map PlayerRes.subtitle = [] ↔ ¬ c.Loses p.mSubteSink
    rw [List.map_eq_nil_iff, SinkCall.lost_eq_nil_iff]
  | setVideoSurfaceTexture _ _ | setPlaybackSettings _ _ | getPlaybackSettings | invoke _ _ _
  | control | callback _ => simp [lost, Loses]

/-! ### One lemma for each kind of event -/

section
variable {k : RockitPlayer} {l : List PlayerRes}

theorem get_triple (r : PlayerRes) (rs : List PlayerRes) (h : rs ⊆ l) :
    PlayerEvent.vocabulary.Triple l [.get r (on rs)] (r :: l) :=
  .get rfl (Vocabulary.present_map h)

theorem gets_triple (made rs : List PlayerRes) (h : rs ⊆ l) :
    PlayerEvent.vocabulary.Triple l (made.map (PlayerEvent.get · (on rs))) (made ++ l) := by
  have hall : PlayerEvent.vocabulary.Triple l (made.map (PlayerEvent.get · (on rs)))
      (made.map id ++ l) :=
    Vocabulary.Triple.acquireAll made (fun _ _ => rfl) fun _ _ => Vocabulary.present_map h
  rw [List.map_id] at hall
  exact hall

theorem among_drop {r : PlayerRes} {via : List (Option PlayerRes)}
    (h : Vocabulary.Present l via) :
    PlayerEvent.vocabulary.Among (r :: l) (.drop r via) :=
  Vocabulary.present_append (h.mono (List.subset_cons_self r l))
    (Vocabulary.present_map (l := [r]) (by simp))

theorem drop_triple (r : PlayerRes) (rs : List PlayerRes) (h : rs ⊆ l) :
    PlayerEvent.vocabulary.Triple (r :: l) [.drop r (on rs)] l :=
  .drop rfl (among_drop (Vocabulary.present_map h))

theorem drops_triple (given rs : List PlayerRes) (h : rs ⊆ l) :
    PlayerEvent.vocabulary.Triple (given ++ l) (given.map (PlayerEvent.drop · (on rs))) l := by
  have hall : PlayerEvent.vocabulary.Triple (given.map id ++ l)
      (given.map (PlayerEvent.drop · (on rs))) l :=
    Vocabulary.Triple.releaseAll given (fun _ _ => rfl)
      fun _ _ => among_drop (Vocabulary.present_map h)
  rw [List.map_id] at hall
  exact hall

theorem use_triple {rs : List PlayerRes} (h : rs ⊆ l) :
    PlayerEvent.vocabulary.Triple l [.use (on rs)] l :=
  .keep rfl (Vocabulary.present_map h)

/-- The sink's functions run on it. -/
theorem subtitle_triple {held held' : List SinkRes} {es : List SinkEvent}
    (h : SinkEvent.vocabulary.Triple held es held') :
    PlayerEvent.vocabulary.Triple (held.map .subtitle ++ [.subteSink]) (es.map .subtitle)
      (held'.map .subtitle ++ [.subteSink]) :=
  h.map (fun _ => rfl) fun _ => rfl

namespace RockitPlayer

/-- A function that was found. -/
theorem func_present {found : Bool} (hfound : found) (h : [.ctx, .player] ++ k.library ⊆ l) :
    Vocabulary.Present l (k.func found) := by
  unfold func
  rw [if_pos hfound, ← List.map_append]
  exact Vocabulary.present_map h

theorem library_subset_opened : [.ctx, .player] ++ k.library ⊆ k.opened :=
  List.subset_append_left _ _

theorem call_triple (hplayer : k.mPlayerImpl) (passed : List PlayerRes) (h : k.opened ⊆ l)
    (hpassed : passed ⊆ l) : PlayerEvent.vocabulary.Triple l [k.call passed] l := by
  have himpl : k.impl = some .impl := if_pos hplayer
  have hmem : PlayerRes.impl ∈ l := by
    refine h (List.mem_append_right _ ?_)
    rw [himpl]
    exact List.mem_singleton_self _
  refine .keep rfl (Vocabulary.present_append (Vocabulary.present_map
    (List.Subset.trans library_subset_opened h)) ?_)
  rw [himpl]
  exact Vocabulary.present_map (l := .impl :: passed) (List.cons_subset.mpr ⟨hmem, hpassed⟩)

/-! ### `RockitPlayer` -/

theorem createPlayer_triple (hfunc : k.mCreatePlayerFunc) (hplayer : k.mPlayerImpl)
    (h : [.ctx, .player] ⊆ l) :
    PlayerEvent.vocabulary.Triple l k.createPlayer (k.impl.toList ++ (k.library ++ l)) := by
  have himpl : k.impl = some .impl := if_pos hplayer
  unfold createPlayer
  rw [if_pos hplayer, himpl]
  refine (gets_triple k.library _ h).append (.get rfl (func_present hfunc ?_))
  exact List.append_subset.mpr ⟨List.Subset.trans h (List.subset_append_right _ _),
    List.subset_append_left _ _⟩

theorem destroyPlayer_triple (hfunc : k.mDestroyPlayerFunc) (hplayer : k.mPlayerImpl)
    (h : [.ctx, .player] ⊆ l) :
    PlayerEvent.vocabulary.Triple (k.impl.toList ++ (k.library ++ l)) k.destroyPlayer l := by
  have himpl : k.impl = some .impl := if_pos hplayer
  unfold destroyPlayer
  rw [if_pos hplayer, himpl]
  have hdrop : PlayerEvent.vocabulary.Triple (.impl :: (k.library ++ l))
      [.drop .impl (k.func k.mDestroyPlayerFunc)] (k.library ++ l) := by
    refine .drop rfl (among_drop (func_present hfunc ?_))
    exact List.append_subset.mpr ⟨List.Subset.trans h (List.subset_append_right _ _),
      List.subset_append_left _ _⟩
  exact hdrop.append (drops_triple k.library _ h)

theorem createMetaData_triple (hfunc : k.mCreateMetaDataFunc) (h : k.opened ⊆ l) (m : Nat) :
    PlayerEvent.vocabulary.Triple l [k.createMetaData m] (.metaData m :: l) :=
  .get rfl (func_present hfunc (List.Subset.trans library_subset_opened h))

theorem destroyMetaData_triple (hfunc : k.mDestroyMetaDataFunc) (h : k.opened ⊆ l) (m : Nat) :
    PlayerEvent.vocabulary.Triple (.metaData m :: l) [k.destroyMetaData m] l :=
  .drop rfl (among_drop (func_present hfunc (List.Subset.trans library_subset_opened h)))

theorem readMetaData_triple {m : Nat} (h : k.opened ⊆ l) (hm : .metaData m ∈ l) :
    PlayerEvent.vocabulary.Triple l [readMetaData m] l := by
  refine use_triple ?_
  have hboth : [.ctx, .player] ⊆ l := List.Subset.trans (List.subset_append_left _ _)
    (List.Subset.trans library_subset_opened h)
  exact List.cons_subset.mpr ⟨hboth (by simp), List.cons_subset.mpr ⟨hboth (by simp), by simp [hm]⟩⟩

/-- The library makes an object, its player is called with it, and it goes. -/
theorem setPlaybackSettings_triple (hplayer : k.mPlayerImpl)
    (hmeta : k.mCreateMetaDataFunc ∧ k.mDestroyMetaDataFunc) (h : k.opened ⊆ l) (metaData : Nat) :
    PlayerEvent.vocabulary.Triple l (k.setPlaybackSettings metaData) l := by
  have hopened : k.opened ⊆ .metaData metaData :: l := List.subset_cons_of_subset _ h
  exact (((createMetaData_triple hmeta.1 h metaData).append
    (readMetaData_triple hopened List.mem_cons_self)).append
      (call_triple hplayer [.metaData metaData] hopened (by simp))).append
        (destroyMetaData_triple hmeta.2 h metaData)

theorem invoke_triple (hplayer : k.mPlayerImpl) {reply : Bool}
    (hmeta : reply → k.mCreateMetaDataFunc ∧ k.mDestroyMetaDataFunc) (h : k.opened ⊆ l)
    (metaIn metaOut : Nat) :
    PlayerEvent.vocabulary.Triple l (k.invoke reply metaIn metaOut) l := by
  unfold invoke
  split
  next hreply =>
    obtain ⟨hcreate, hdestroy⟩ := hmeta hreply
    have hin : k.opened ⊆ .metaData metaIn :: l := List.subset_cons_of_subset _ h
    have hout : k.opened ⊆ .metaData metaOut :: l := List.subset_cons_of_subset _ h
    have hboth : k.opened ⊆ .metaData metaOut :: .metaData metaIn :: l :=
      List.subset_cons_of_subset _ hin
    have hmade := (createMetaData_triple hcreate h metaIn).append
      (createMetaData_triple hcreate hin metaOut)
    have hcalled := ((readMetaData_triple hboth (m := metaIn) (by simp)).append
      (call_triple hplayer [.metaData metaIn, .metaData metaOut] hboth (by simp))).append
        (readMetaData_triple hboth (m := metaOut) (by simp))
    have hgone := ((destroyMetaData_triple hdestroy hout metaIn).append
      (destroyMetaData_triple hdestroy h metaOut)).perm_left (List.Perm.swap _ _ _)
    exact (hmade.append hcalled).append hgone
  · refine use_triple (List.Subset.trans ?_ (List.Subset.trans library_subset_opened h))
    exact List.subset_append_left _ _

end RockitPlayer
end

namespace RockitPlayerCtx

variable {p : RockitPlayerCtx} {l : List PlayerRes}

/-! ### A call -/

theorem opened_subset_held : p.mPlayer.opened ⊆ p.held :=
  List.Subset.trans (List.subset_append_left _ _) (List.subset_append_left _ _)

theorem ctx_mem_held : PlayerRes.ctx ∈ p.held := opened_subset_held (by simp [RockitPlayer.opened])

theorem callAudioSinkCB_triple : PlayerEvent.vocabulary.Triple p.held p.callAudioSinkCB p.held := by
  have hctx : PlayerEvent.vocabulary.Triple p.held [.use (on [.ctx])] p.held :=
    use_triple (List.cons_subset.mpr ⟨ctx_mem_held, List.nil_subset _⟩)
  unfold callAudioSinkCB
  cases hcb : p.mAudioSinkCB with
  | none => exact hctx
  | some cb =>
    refine hctx.append (use_triple (List.cons_subset.mpr ⟨ctx_mem_held, ?_⟩))
    unfold held audioCB AudioSinkCB.through
    rw [hcb]
    simp

theorem setVideoSurfaceTexture_triple (hplayer : p.mPlayer.mPlayerImpl) (drmFd : Int)
    (window : Nat) :
    PlayerEvent.vocabulary.Triple p.held (p.setVideoSurfaceTexture drmFd window).events
      (p.setVideoSurfaceTexture drmFd window).ctx.held := by
  unfold setVideoSurfaceTexture
  cases hvideo : p.mVideoSinkCB with
  | some cb =>
    refine use_triple (List.cons_subset.mpr ⟨ctx_mem_held, ?_⟩)
    unfold held video VideoSink.parts
    rw [hvideo]
    simp
  | none =>
    let cb : VideoSink := ⟨drmFd, window⟩
    have hopened : p.mPlayer.opened ⊆ cb.parts ++ .videoSink :: p.held :=
      List.subset_append_of_subset_right _ (List.subset_cons_of_subset _ opened_subset_held)
    have hall := ((get_triple .videoSink [.ctx] (by simp [ctx_mem_held (p := p)])).append
      (gets_triple cb.parts [.ctx, .videoSink] (by simp [ctx_mem_held (p := p)]))).append
        (RockitPlayer.call_triple hplayer [.videoSink] hopened (by simp))
    refine hall.perm (List.Perm.refl _) ?_
    unfold held video
    rw [hvideo]
    refine List.perm_iff_count.mpr fun r => ?_
    simp only [cb, audioCB, audio, Option.elim_some, Option.elim_none, List.count_append,
      List.count_cons, List.count_nil, List.nil_append]
    omega

/-- The manager's own reference on its audio sink goes. -/
theorem dropAudioSink_triple (h : .ctx ∈ l) : PlayerEvent.vocabulary.Triple (p.audio ++ l)
    (p.mAudioSink.toList.map fun k => .drop (.audioSink k) (on [.ctx])) l := by
  have hdrop := drops_triple (l := l) p.audio [.ctx] (by simp [h])
  unfold audio at hdrop ⊢
  rw [List.map_map] at hdrop
  exact hdrop

/-- The older callback is left behind, with its reference on the older sink. -/
theorem setAudioSink_triple (hplayer : p.mPlayer.mPlayerImpl) (audioSink obj : Nat) :
    PlayerEvent.vocabulary.Triple p.held (p.setAudioSink audioSink obj).events
      ((p.setAudioSink audioSink obj).ctx.held ++ p.audioCB) := by
  let rest := p.mPlayer.base ++ (p.video ++ (p.audioCB ++ p.mSubteSink.held.map .subtitle))
  let after := .audioSink audioSink :: .audioSinkCB obj :: .audioSink audioSink :: rest
  have hopened : p.mPlayer.opened ⊆ rest := List.subset_append_of_subset_left _
    (List.subset_append_left _ _)
  have hctx : PlayerRes.ctx ∈ rest := hopened (by simp [RockitPlayer.opened])
  have hswap : PlayerEvent.vocabulary.Triple p.held
      (.get (.audioSink audioSink) (on [.ctx]) ::
        p.mAudioSink.toList.map fun k => .drop (.audioSink k) (on [.ctx]))
      (.audioSink audioSink :: rest) := by
    have hdrop := dropAudioSink_triple (p := p) (l := .audioSink audioSink :: rest)
      (by simp [hctx])
    refine (get_triple _ _ (by simp [ctx_mem_held])).append (hdrop.perm_left ?_)
    unfold held audio
    refine List.perm_iff_count.mpr fun r => ?_
    simp only [rest, List.count_append, List.count_cons]
    omega
  have hmake : PlayerEvent.vocabulary.Triple (.audioSink audioSink :: rest)
      [.get (.audioSinkCB obj) (on [.ctx]),
        .get (.audioSink audioSink) (on [.ctx, .audioSinkCB obj]),
        p.mPlayer.call [.audioSinkCB obj]] after := by
    refine ((get_triple _ _ (by simp [hctx])).append (get_triple _ _ (by simp [hctx]))).append
      (RockitPlayer.call_triple hplayer _ ?_ (by simp))
    exact List.Subset.trans hopened fun r hr => by simp [hr]
  have hrate : PlayerEvent.vocabulary.Triple after
      (if p.mAudioPlayRateChanged then
        [.use (on (.ctx :: (⟨obj, audioSink⟩ : AudioSinkCB).through))] else []) after := by
    split
    · exact use_triple (by simp [after, hctx, AudioSinkCB.through])
    · exact .nil (List.Perm.refl _)
  refine ((hswap.append hmake).append hrate).perm (List.Perm.refl _) ?_
  refine List.perm_iff_count.mpr fun r => ?_
  simp only [setAudioSink, held, audio, video, audioCB, after, rest, Option.elim_some,
    Option.toList_some, List.map_cons, List.map_nil, List.count_append, List.count_cons,
    List.count_nil]
  omega

/-- The library finds what it was handed. -/
theorem callback_triple (h : Handed) :
    PlayerEvent.vocabulary.Triple p.held (p.callback h) p.held := by
  cases h with
  | listener => exact use_triple (by simp [held, RockitPlayer.base])
  | videoSink =>
    unfold callback
    cases hvideo : p.mVideoSinkCB with
    | none => exact .nil (List.Perm.refl _)
    | some cb =>
      refine use_triple ?_
      unfold held video
      rw [hvideo]
      intro r hr
      rcases List.mem_cons.mp hr with rfl | hr
      · simp
      · simp [hr]
  | audioSink =>
    unfold callback
    cases hcb : p.mAudioSinkCB with
    | none => exact .nil (List.Perm.refl _)
    | some cb =>
      refine use_triple ?_
      unfold held audioCB AudioSinkCB.through
      rw [hcb]
      simp

/-- A call that the subtitle sink serves, on what the player holds besides. -/
theorem subtitle_held_triple {s s' : List SinkRes} {es : List SinkEvent}
    (hs : p.mSubteSink.held = s) (h : SinkEvent.vocabulary.Triple s es s') :
    PlayerEvent.vocabulary.Triple p.held (.use (on [.subteSink]) :: es.map .subtitle)
      (p.mPlayer.base ++ (p.video ++ (p.audioCB ++ (p.audio ++ s'.map .subtitle)))) := by
  have hcalled : PlayerEvent.vocabulary.Triple p.held [.use (on [.subteSink])] p.held :=
    use_triple (by simp [held, RockitPlayer.base])
  have hframe := (subtitle_triple h).frame
    (p.mPlayer.opened ++ .msgCallback :: (p.video ++ (p.audioCB ++ p.audio)))
  refine hcalled.append (hframe.perm ?_ ?_)
  · unfold held RockitPlayer.base
    rw [hs]
    refine List.perm_iff_count.mpr fun r => ?_
    simp only [List.count_append, List.count_cons, List.count_nil]
    omega
  · unfold RockitPlayer.base
    refine List.perm_iff_count.mpr fun r => ?_
    simp only [List.count_append, List.count_cons, List.count_nil]
    omega

/-- What the calls keep: the player that was made, and a subtitle sink that has what it uses. -/
structure Serving (k : RockitPlayer) (p : RockitPlayerCtx) : Prop where
  player : p.mPlayer = k
  ready : p.mSubteSink.Ready

theorem Serving.next {k : RockitPlayer} (h : p.Serving k) (c : PlayerCall Rate) :
    (p.next rules c).Serving k := by
  cases c with
  | setVideoSurfaceTexture drmFd window =>
    show (p.setVideoSurfaceTexture drmFd window).ctx.Serving k
    unfold setVideoSurfaceTexture
    split
    · exact ⟨h.player, h.ready⟩
    · exact h
  | setPlaybackSettings rate metaData =>
    show (p.setPlaybackSettings rules rate metaData).ctx.Serving k
    unfold setPlaybackSettings
    split
    · exact ⟨h.player, h.ready⟩
    · exact h
  | setAudioSink _ _ => exact ⟨h.player, h.ready⟩
  | getPlaybackSettings | invoke _ _ _ | control | callback _ => exact h
  | subtitle c => exact ⟨h.player, (RTSubteSink.call_triple h.ready c).1⟩

/-- A call takes what the player holds to what it then holds and what is lost. -/
theorem call_triple {calls : List (PlayerCall Rate)} {c : PlayerCall Rate} (hc : c ∈ calls)
    (hserves : p.mPlayer.Serves rules calls) (hready : p.mSubteSink.Ready) :
    PlayerEvent.vocabulary.Triple p.held (p.events rules c)
      ((p.next rules c).held ++ c.lost p) := by
  cases c with
  | setVideoSurfaceTexture drmFd window =>
    exact (setVideoSurfaceTexture_triple hserves.player drmFd window).lose_nothing
  | setAudioSink audioSink obj => exact setAudioSink_triple hserves.player audioSink obj
  | setPlaybackSettings rate metaData =>
    refine .lose_nothing ?_
    show PlayerEvent.vocabulary.Triple p.held (p.setPlaybackSettings rules rate metaData).events
      (p.setPlaybackSettings rules rate metaData).ctx.held
    unfold setPlaybackSettings
    split
    next hrate =>
      exact (RockitPlayer.setPlaybackSettings_triple hserves.player
        (hserves.metaData _ hc hrate) opened_subset_held metaData).append callAudioSinkCB_triple
    · exact .nil (List.Perm.refl _)
  | getPlaybackSettings => exact callAudioSinkCB_triple.lose_nothing
  | invoke reply metaIn metaOut =>
    exact (RockitPlayer.invoke_triple hserves.player (hserves.metaData _ hc)
      opened_subset_held metaIn metaOut).lose_nothing
  | control =>
    exact (RockitPlayer.call_triple hserves.player [] opened_subset_held
      (List.nil_subset _)).lose_nothing
  | callback h => exact (callback_triple h).lose_nothing
  | subtitle c =>
    refine (subtitle_held_triple rfl (RTSubteSink.call_triple hready c).2).perm
      (List.Perm.refl _) (List.Perm.of_eq ?_)
    show _ = (p.mPlayer.base ++ (p.video ++ (p.audioCB ++ (p.audio ++
      (p.mSubteSink.next c).held.map .subtitle)))) ++ (c.lost p.mSubteSink).map .subtitle
    rw [List.map_append]
    simp only [List.append_assoc]

/-! ### The whole life -/

theorem construct_triple {k : RockitPlayer} (hfunc : k.mCreatePlayerFunc)
    (hplayer : k.mPlayerImpl) (garbage : RTSubteSink) :
    PlayerEvent.vocabulary.Triple [] (construct k garbage).events (start k garbage).held := by
  let made := k.impl.toList ++ (k.library ++ [.player, .ctx])
  have hopened : k.opened ⊆ made := by
    intro r hr
    simp only [RockitPlayer.opened, List.mem_append, List.mem_cons, List.not_mem_nil,
      or_false] at hr
    simp only [made, List.mem_append, List.mem_cons, List.not_mem_nil, or_false]
    tauto
  have hctx : PlayerRes.ctx ∈ made := hopened (by simp [RockitPlayer.opened])
  have hmade : PlayerEvent.vocabulary.Triple []
      ([.get .ctx [], .get .player (on [.ctx])] ++ k.createPlayer) made :=
    ((get_triple .ctx _ (List.nil_subset _)).append (get_triple .player _ (by simp))).append
      (RockitPlayer.createPlayer_triple hfunc hplayer (by simp))
  have hlistener := (get_triple .msgCallback [.ctx] (l := made) (by simp [hctx])).append
    (RockitPlayer.call_triple hplayer [.msgCallback] (List.subset_cons_of_subset _ hopened)
      (by simp))
  have hsink := (get_triple .subteSink [.ctx] (l := .msgCallback :: made)
    (by simp [hctx])).append (RockitPlayer.call_triple hplayer [.subteSink]
      (List.subset_cons_of_subset _ (List.subset_cons_of_subset _ hopened)) (by simp))
  refine (hmade.append (hlistener.append hsink)).perm (List.Perm.refl _) ?_
  have hheld : (start k garbage).held = k.base := by
    show k.base ++ (RTSubteSink.new garbage).held.map .subtitle = k.base
    rw [RTSubteSink.held_of_not_initialized rfl]
    exact List.append_nil _
  rw [hheld]
  refine List.perm_iff_count.mpr fun r => ?_
  simp only [made, RockitPlayer.base, RockitPlayer.opened, List.count_append, List.count_cons,
    List.count_nil]
  omega

theorem deleteVideoSinkCB_triple (h : .ctx ∈ l) :
    PlayerEvent.vocabulary.Triple (p.video ++ l) p.deleteVideoSinkCB l := by
  unfold deleteVideoSinkCB video
  cases p.mVideoSinkCB with
  | none => exact .nil (List.Perm.refl _)
  | some cb =>
    refine ((drops_triple (l := .videoSink :: l) cb.parts _ (by simp [h])).append
      (drop_triple .videoSink _ (by simp [h]))).perm_left ?_
    exact List.Perm.of_eq (List.append_assoc _ _ _)

theorem deleteAudioSinkCB_triple (h : .ctx ∈ l) :
    PlayerEvent.vocabulary.Triple (p.audioCB ++ l) p.deleteAudioSinkCB l := by
  unfold deleteAudioSinkCB audioCB
  cases p.mAudioSinkCB with
  | none => exact .nil (List.Perm.refl _)
  | some cb =>
    exact (drop_triple _ _ (by simp [h])).append (drop_triple (.audioSinkCB cb.obj) _ (by simp [h]))

theorem deleteSubteSink_triple (hready : p.mSubteSink.Ready) (locked : Bool) (h : .ctx ∈ l) :
    PlayerEvent.vocabulary.Triple (p.mSubteSink.held.map .subtitle ++ .subteSink :: l)
      (p.deleteSubteSink locked) l := by
  have hdestruct := (subtitle_triple (RTSubteSink.destruct_triple hready locked)).frame l
  rw [List.append_assoc] at hdestruct
  exact ((use_triple (by simp [h])).append hdestruct).append
    (drop_triple .subteSink _ (by simp [h]))

theorem destroy_triple (hserves : p.mPlayer.mPlayerImpl) (hfunc : p.mPlayer.mDestroyPlayerFunc)
    (hready : p.mSubteSink.Ready) (locked : Bool) :
    PlayerEvent.vocabulary.Triple p.held (p.destroy locked) [] := by
  let last : List PlayerRes := [.player, .ctx]
  let player := p.mPlayer.impl.toList ++ (p.mPlayer.library ++ (p.audio ++ last))
  let sink := p.mSubteSink.held.map .subtitle ++ .subteSink :: player
  have hplayer : PlayerRes.ctx ∈ player := by simp [player, last]
  have hsink : PlayerRes.ctx ∈ sink := by simp [sink, hplayer]
  have hreset : PlayerEvent.vocabulary.Triple p.held [p.mPlayer.call []] p.held :=
    RockitPlayer.call_triple hserves [] opened_subset_held (List.nil_subset _)
  have hvideo : PlayerEvent.vocabulary.Triple (p.video ++ (p.audioCB ++ .msgCallback :: sink))
      p.deleteVideoSinkCB (p.audioCB ++ .msgCallback :: sink) :=
    deleteVideoSinkCB_triple (by simp [hsink])
  have haudio : PlayerEvent.vocabulary.Triple (p.audioCB ++ .msgCallback :: sink)
      p.deleteAudioSinkCB (.msgCallback :: sink) :=
    deleteAudioSinkCB_triple (by simp [hsink])
  have hlistener : PlayerEvent.vocabulary.Triple (.msgCallback :: sink)
      [.drop .msgCallback (on [.ctx])] sink :=
    drop_triple .msgCallback _ (by simp [hsink])
  have hsubtitle : PlayerEvent.vocabulary.Triple sink (p.deleteSubteSink locked) player :=
    deleteSubteSink_triple hready locked hplayer
  have hdestroy : PlayerEvent.vocabulary.Triple player p.mPlayer.destroyPlayer (p.audio ++ last) :=
    RockitPlayer.destroyPlayer_triple hfunc hserves (by simp [last])
  have hrefs : PlayerEvent.vocabulary.Triple (p.audio ++ last)
      (p.mAudioSink.toList.map fun k => .drop (.audioSink k) (on [.ctx])) last :=
    dropAudioSink_triple (by simp [last])
  have hlast : PlayerEvent.vocabulary.Triple last [.drop .player (on [.ctx]), .drop .ctx []] [] :=
    (drop_triple .player _ (by simp)).append (drop_triple .ctx _ (List.nil_subset _))
  refine hreset.append ?_
  refine ((((((hvideo.append haudio).append hlistener).append hsubtitle).append hdestroy).append
    hrefs).append hlast).perm_left ?_
  unfold held RockitPlayer.base RockitPlayer.opened
  refine List.perm_iff_count.mpr fun r => ?_
  simp only [sink, player, last, List.count_append, List.count_cons, List.count_nil]
  omega

variable {k : RockitPlayer} {calls : List (PlayerCall Rate)}

/-- What a life leaves behind is what its calls lost. -/
theorem life_triple (h : k.Serves rules calls) (garbage : RTSubteSink) (locked : Bool) :
    PlayerEvent.vocabulary.Triple [] (life rules k garbage calls locked)
      (runLog (next rules) (fun p c => c.lost p) (start k garbage) calls) := by
  obtain ⟨⟨hk, hready⟩, hrun⟩ := Vocabulary.Triple.run held (fun p c => PlayerCall.lost p c)
    (Serving k) calls
    (fun p c hc hp => ⟨hp.next rules c, call_triple rules hc (by rw [hp.player]; exact h) hp.ready⟩)
    (start k garbage) ⟨rfl, fun hinit => by cases hinit⟩
  have hdestroy : PlayerEvent.vocabulary.Triple
      (calls.foldl (next rules) (start k garbage)).held
      ((calls.foldl (next rules) (start k garbage)).destroy locked) [] :=
    destroy_triple (by rw [hk]; exact h.player) (by rw [hk]; exact h.destroyPlayer) hready locked
  exact ((construct_triple h.createPlayer h.player garbage).append hrun).append
    (hdestroy.frame _)

/-- The ledger of a life is paired and settled when none of its calls loses something. -/
theorem player_settled_iff (h : k.Serves rules calls) (garbage : RTSubteSink) (locked : Bool) :
    (Paired (PlayerEvent.vocabulary.ledger (life rules k garbage calls locked)) ∧
        Settled (PlayerEvent.vocabulary.ledger (life rules k garbage calls locked))) ↔
      ∀ before c after, calls = before ++ c :: after →
        ¬ c.Loses (before.foldl (next rules) (start k garbage)) := by
  rw [(life_triple rules h garbage locked).settled_iff, runLog_eq_nil_iff]
  refine forall_congr' fun before => forall_congr' fun c => forall_congr' fun after => ?_
  rw [PlayerCall.lost_eq_nil_iff]

/-- A rate, a video, a sink and a session of subtitles. -/
def movie : List (PlayerCall Nat) :=
  [.setPlaybackSettings 200 0, .setVideoSurfaceTexture 5 1, .setAudioSink 1 0,
    .callback .audioSink, .subtitle (.create renderGPU ⟨0, some 1, some 2, .created 0 1 2⟩),
    .subtitle (.render true (some 3)), .invoke true 1 2, .control]

def movieLife : List PlayerEvent :=
  life Player.percent ⟨true, true, true, true, true, true⟩
    ⟨false, none, none, none, 0, none, none, none, false, false⟩ movie true

theorem player_settled_movie :
    Paired (PlayerEvent.vocabulary.ledger movieLife) ∧
      Settled (PlayerEvent.vocabulary.ledger movieLife) := by
  refine (player_settled_iff Player.percent ⟨rfl, rfl, rfl, fun _ _ _ => ⟨rfl, rfl⟩⟩ _ true).mpr ?_
  intro before c after hsplit
  refine (PlayerCall.lost_eq_nil_iff _ c).mp ?_
  refine (runLog_eq_nil_iff (next Player.percent) (fun p c => PlayerCall.lost p c) _ movie).mp ?_
    before c after hsplit
  rfl

/-! ### Null pointers -/

theorem next_mPlayer (p : RockitPlayerCtx) (c : PlayerCall Rate) :
    (p.next rules c).mPlayer = p.mPlayer := by
  cases c with
  | setVideoSurfaceTexture drmFd window =>
    show (p.setVideoSurfaceTexture drmFd window).ctx.mPlayer = p.mPlayer
    unfold setVideoSurfaceTexture
    split <;> rfl
  | setPlaybackSettings rate metaData =>
    show (p.setPlaybackSettings rules rate metaData).ctx.mPlayer = p.mPlayer
    unfold setPlaybackSettings
    split <;> rfl
  | setAudioSink _ _ | getPlaybackSettings | invoke _ _ _ | control | callback _ | subtitle _ =>
    rfl

theorem foldl_mPlayer (p : RockitPlayerCtx) :
    (calls.foldl (next rules) p).mPlayer = p.mPlayer := by
  induction calls generalizing p with
  | nil => rfl
  | cons c calls ih => rw [List.foldl_cons, ih, next_mPlayer]

/-- What is called or handed on is in every life. -/
theorem mem_life (garbage : RTSubteSink) (locked : Bool) {e : PlayerEvent}
    {c : PlayerCall Rate} (hc : c ∈ calls) (he : ∀ p : RockitPlayerCtx, p.mPlayer = k →
      e ∈ p.events rules c) : e ∈ life rules k garbage calls locked := by
  obtain ⟨before, after, rfl⟩ := List.append_of_mem hc
  refine List.mem_append_left _ (List.mem_append_right _ ((mem_runLog _ _ _ _ _).mpr
    ⟨before, c, after, rfl, he _ ?_⟩))
  rw [foldl_mPlayer]
  rfl

/-- A function that is called was found. -/
theorem found_of_named (k : RockitPlayer) {found : Bool} {e : PlayerEvent} (h : none ∉ e.names)
    (he : k.func found ⊆ e.names) : found := by
  by_contra hnot
  refine h (he ?_)
  unfold RockitPlayer.func
  rw [if_neg hnot]
  simp

theorem makesMetaData_events (k : RockitPlayer) {c : PlayerCall Rate}
    (h : c.MakesMetaData rules) : ∃ m, ∀ p : RockitPlayerCtx, p.mPlayer = k →
      k.createMetaData m ∈ p.events rules c ∧ k.destroyMetaData m ∈ p.events rules c := by
  cases c with
  | setPlaybackSettings rate metaData =>
    have hrate : rules.inRange rate = true := h
    refine ⟨metaData, fun p hp => ?_⟩
    simp [events, PlayerCall.result, setPlaybackSettings, RockitPlayer.setPlaybackSettings,
      hrate, hp]
  | invoke reply metaIn metaOut =>
    have hreply : reply = true := h
    refine ⟨metaIn, fun p hp => ?_⟩
    simp [events, PlayerCall.result, invoke, RockitPlayer.invoke, hreply, hp]
  | setVideoSurfaceTexture _ _ | setAudioSink _ _ | getPlaybackSettings | control | callback _
  | subtitle _ => exact h.elim

end RockitPlayerCtx

end RockchipHal.Rockit
