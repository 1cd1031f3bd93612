import RockchipHal.Rockit.SubtitleSink

/-!
# What a subtitle sink holds

An initialized sink holds three strong pointers and, where its session will be ended by
`destoryEGLSurface`, the EGL objects.  One triple for each function says what it does to that,
and that the objects it names are there.  Over a life what is left is what `SinkCall.lost` lists:

    V.Triple [] (life garbage calls locked) (runLog next lost (new garbage) calls)
                                                                    (RTSubteSink.life_triple)
-/

namespace RockchipHal.Rockit

/-! ## What the sink holds -/

def EglAnswers.made : EglAnswers → List SinkRes
  | noDisplay _ => []
  | noSurface d => [.display d]
  | noContext d w => [.display d, .eglSurface w]
  | created d w c => [.display d, .eglSurface w, .context c]

def EglAnswers.eglSurface : EglAnswers → Option Nat
  | noDisplay _ | noSurface _ => none
  | noContext _ w | created _ w _ => some w

/-- `createEGLSurface` gets past its test. -/
def CreateReplies.ReachesEgl (replies : CreateReplies) : Prop :=
  replies.createSurface.isSome ∧ replies.getSurface.isSome

instance (replies : CreateReplies) : Decidable replies.ReachesEgl :=
  inferInstanceAs (Decidable (_ ∧ _))

/-- What a call makes that nothing will end: all EGL objects of a session of type `RENDER_RGA`,
and the display of a session that got no EGL surface. -/
def SinkCall.lost (s : RTSubteSink) : SinkCall → List SinkRes
  | create renderType replies =>
    if s.mInitialized = false ∧ replies.ReachesEgl ∧
        (renderType = renderRGA ∨ replies.egl.eglSurface = none) then replies.egl.made
    else []
  | _ => []

/-- A new session that initialises an EGL display and will not end it. -/
def SinkCall.Loses (s : RTSubteSink) : SinkCall → Prop
  | create renderType replies =>
    s.mInitialized = false ∧ replies.ReachesEgl ∧ replies.egl.made ≠ [] ∧
      (renderType = renderRGA ∨ replies.egl.eglSurface = none)
  | _ => False

theorem SinkCall.lost_eq_nil_iff (s : RTSubteSink) (c : SinkCall) :
    c.lost s = [] ↔ ¬ c.Loses s := by
  cases c with
  | create renderType replies =>
    show (if _ then _ else _) = [] ↔ ¬ (_ ∧ _ ∧ _ ∧ _)
    split
    next h => simp [h]
    next h =>
      refine ⟨fun _ hloses => h ⟨hloses.1, hloses.2.1, hloses.2.2.2⟩, fun _ => rfl⟩
  | destroy _ | initScene | render _ _ | showScene | clean _ | «show» | hide | isShowing =>
    simp [lost, Loses]

namespace RTSubteSink

/-- The strong pointers. -/
def refs (s : RTSubteSink) : List SinkRes :=
  s.mClient.toList.map .client ++ s.mSurfaceControl.toList.map .control ++
    s.mSurface.toList.map .surface

def handles (s : RTSubteSink) : List SinkRes :=
  s.mDisplay.toList.map .display ++ s.mEGLSurface.toList.map .eglSurface ++
    s.mContext.toList.map .context

/-- What `destroy` or the destructor will give back. -/
def held (s : RTSubteSink) : List SinkRes :=
  s.refs ++ if s.mInitialized ∧ s.mRenderType ≠ renderRGA then s.handles else []

/-- An initialized sink has what its calls use. -/
def Ready (s : RTSubteSink) : Prop :=
  s.mInitialized = true → s.mSurface.isSome ∧ s.mDisplay.isSome ∧ s.mEGLSurface.isSome

theorem held_of_not_initialized {s : RTSubteSink} (h : s.mInitialized = false) :
    s.held = s.refs := by
  unfold held
  rw [if_neg fun hboth => absurd hboth.1 (by rw [h]; exact Bool.false_ne_true), List.append_nil]

/-! ### One lemma for each function -/

theorem dropped_triple (o : Option Nat) (res : Nat → SinkRes) (l : List SinkRes) :
    SinkEvent.vocabulary.Triple (o.toList.map res ++ l) (dropped o res) l := by
  refine Vocabulary.Triple.releaseAll _ (fun _ _ => rfl) fun a _ => ?_
  intro r hr
  exact ⟨res a, List.mem_cons_self, List.mem_singleton.mp hr⟩

theorem andThen_triple {l : List SinkRes} {r : SinkResult} {next : RTSubteSink → SinkResult}
    (h : SinkEvent.vocabulary.Triple l r.events r.sink.held)
    (hnext : ∀ t, SinkEvent.vocabulary.Triple t.held (next t).events (next t).sink.held) :
    SinkEvent.vocabulary.Triple l (r.andThen next).events (r.andThen next).sink.held :=
  h.append (hnext r.sink)

theorem createSubitleSurface_triple (s : RTSubteSink) (replies : CreateReplies)
    (hclient : s.mClient = none) (hcontrol : s.mSurfaceControl = none) :
    SinkEvent.vocabulary.Triple s.refs (createSubitleSurface s replies).events
      (createSubitleSurface s replies).sink.refs := by
  have hrefs : s.refs = s.mSurface.toList.map .surface := by
    unfold refs
    rw [hclient, hcontrol]
    rfl
  have hopened : SinkEvent.vocabulary.Triple s.refs
      [.hold (.client replies.client), .createSurface replies.client]
      (.client replies.client :: s.refs) := by
    refine .acquire rfl (Vocabulary.among_of_names_nil rfl) ?_
    refine .keep rfl ?_
    exact Vocabulary.among_of_names (l := [.client replies.client]) rfl (by simp)
  unfold createSubitleSurface
  cases hsurface : replies.createSurface with
  | none =>
    refine hopened.perm (List.Perm.refl _) (List.Perm.of_eq ?_)
    rw [hrefs]
    unfold refs
    rw [hcontrol]
    rfl
  | some control =>
    have hplaced : SinkEvent.vocabulary.Triple (.client replies.client :: s.refs)
        [.hold (.control control), .transaction control]
        (.control control :: .client replies.client :: s.refs) := by
      refine .acquire rfl (Vocabulary.among_of_names_nil rfl) ?_
      refine .keep rfl ?_
      exact Vocabulary.among_of_names (l := [.control control]) rfl (by simp)
    have hwindow : SinkEvent.vocabulary.Triple
        (.control control :: .client replies.client :: s.refs)
        (replies.getSurface.toList.map fun w => .hold (.surface w))
        (replies.getSurface.toList.map .surface ++
          .control control :: .client replies.client :: s.refs) :=
      Vocabulary.Triple.acquireAll _ (fun _ _ => rfl)
        fun _ _ => Vocabulary.among_of_names_nil rfl
    have hdrop := dropped_triple s.mSurface .surface
      (replies.getSurface.toList.map .surface ++ [.control control, .client replies.client])
    refine (((hopened.append hplaced).append hwindow).append
      (hdrop.perm ?_ (List.Perm.refl _))).perm (List.Perm.refl _) ?_
    · rw [hrefs]
      refine List.perm_iff_count.mpr fun r => ?_
      simp only [List.count_append, List.count_cons, List.count_nil]
      omega
    · unfold refs
      refine List.perm_iff_count.mpr fun r => ?_
      simp only [List.count_append, List.count_cons, List.count_nil, Option.toList_some,
        List.map_cons, List.map_nil]
      omega

theorem createEGLSurface_refused {s : RTSubteSink} {replies : CreateReplies}
    (h : s.mSurfaceControl = none ∨ replies.getSurface = none) :
    createEGLSurface s replies = ⟨[], s⟩ := by
  unfold createEGLSurface
  rw [if_pos h]

/-- The members after `createEGLSurface` got past its test. -/
structure EglLeft (s : RTSubteSink) (replies : CreateReplies) (t : RTSubteSink) : Prop where
  refs : t.refs = s.refs
  mRenderType : t.mRenderType = s.mRenderType
  mInitialized : t.mInitialized = s.mInitialized
  mSurface : t.mSurface = s.mSurface
  mEGLSurface : t.mEGLSurface = replies.egl.eglSurface
  handles : t.mEGLSurface.isSome → t.mDisplay.isSome ∧ t.handles = replies.egl.made

theorem createEGLSurface_left {s : RTSubteSink} {replies : CreateReplies}
    (h : ¬ (s.mSurfaceControl = none ∨ replies.getSurface = none)) :
    EglLeft s replies (createEGLSurface s replies).sink := by
  unfold createEGLSurface
  rw [if_neg h]
  cases hegl : replies.egl with
  | noDisplay d =>
    refine ⟨rfl, rfl, rfl, rfl, (congrArg EglAnswers.eglSurface hegl).symm, ?_⟩
    intro hsome
    cases hsome
  | noSurface d =>
    refine ⟨rfl, rfl, rfl, rfl, (congrArg EglAnswers.eglSurface hegl).symm, ?_⟩
    intro hsome
    cases hsome
  | noContext d w =>
    refine ⟨rfl, rfl, rfl, rfl, (congrArg EglAnswers.eglSurface hegl).symm, fun _ => ⟨rfl, ?_⟩⟩
    rw [hegl]
    rfl
  | created d w c =>
    refine ⟨rfl, rfl, rfl, rfl, (congrArg EglAnswers.eglSurface hegl).symm, fun _ => ⟨rfl, ?_⟩⟩
    rw [hegl]
    rfl

theorem createEGLSurface_triple {s : RTSubteSink} {replies : CreateReplies}
    (h : ¬ (s.mSurfaceControl = none ∨ replies.getSurface = none)) (hwindow : s.mSurface.isSome) :
    SinkEvent.vocabulary.Triple s.refs (createEGLSurface s replies).events
      (s.refs ++ replies.egl.made) := by
  obtain ⟨w₀, hw₀⟩ := Option.isSome_iff_exists.mp hwindow
  have hmem : SinkRes.surface w₀ ∈ s.refs := by
    unfold refs
    rw [hw₀]
    simp
  have hdisplay : ∀ {d es l}, SinkEvent.vocabulary.Triple (.display d :: s.refs) es l →
      SinkEvent.vocabulary.Triple s.refs (.eglInitialize d :: es) l := fun hrest =>
    .acquire rfl (Vocabulary.among_of_names_nil rfl) hrest
  have hsurface : ∀ {d w es l},
      SinkEvent.vocabulary.Triple (.eglSurface w :: .display d :: s.refs) es l →
      SinkEvent.vocabulary.Triple (.display d :: s.refs)
        (.eglCreateWindowSurface d s.mSurface w :: es) l := by
    intro d w es l hrest
    refine .acquire rfl (Vocabulary.among_of_names (l := [.display d, .surface w₀]) ?_ ?_) hrest
    · rw [hw₀]
      rfl
    · simp [hmem]
  unfold createEGLSurface
  rw [if_neg h]
  cases replies.egl with
  | noDisplay d => exact .nil (List.Perm.of_eq (List.append_nil _).symm)
  | noSurface d => exact hdisplay (.nil (List.perm_append_singleton _ _).symm)
  | noContext d w =>
    refine hdisplay (hsurface (.nil ((List.Perm.swap _ _ _).trans ?_)))
    show List.Perm ([.display d, .eglSurface w] ++ s.refs) _
    exact List.perm_append_comm
  | created d w c =>
    have hquery : SinkEvent.vocabulary.Among (.context c :: .eglSurface w :: .display d :: s.refs)
        (.eglQuerySurface d w) :=
      Vocabulary.among_of_names (l := [.display d, .eglSurface w]) rfl (by simp)
    refine hdisplay (hsurface (.acquire (r := .context c) rfl ?_
      (.use rfl hquery (.use rfl hquery (.nil ?_)))))
    · exact Vocabulary.among_of_names (l := [.display d]) rfl (by simp)
    · show List.Perm ([.context c, .eglSurface w, .display d] ++ s.refs) _
      refine (List.Perm.append_right _ (List.reverse_perm _).symm).trans ?_
      exact List.perm_append_comm

/-- `show` and `hide` make a transaction on a surface they find. -/
theorem transaction_triple {s : RTSubteSink} {c : Nat} (h : s.mSurfaceControl = some c) :
    SinkEvent.vocabulary.Triple s.held [.transaction c] s.held := by
  refine .keep rfl ?_
  refine Vocabulary.among_of_names (l := [.control c]) rfl ?_
  unfold held refs
  rw [h]
  simp

theorem show_triple (s : RTSubteSink) :
    SinkEvent.vocabulary.Triple s.held s.show.events s.show.sink.held := by
  unfold RTSubteSink.show
  split
  · exact .nil (List.Perm.refl _)
  · split
    next c hc => exact transaction_triple hc
    · exact .nil (List.Perm.refl _)

theorem hide_triple (s : RTSubteSink) :
    SinkEvent.vocabulary.Triple s.held s.hide.events s.hide.sink.held := by
  unfold hide
  split
  · exact .nil (List.Perm.refl _)
  · split
    next c hc => exact transaction_triple hc
    · exact .nil (List.Perm.refl _)

/-- An EGL call on display, surface and perhaps context, in a session not of type `RENDER_RGA`. -/
theorem among_handles {s : RTSubteSink} (hready : s.Ready) (hinit : s.mInitialized = true)
    (hrga : s.mRenderType ≠ renderRGA) {e : SinkEvent}
    (hnames : SinkEvent.names e = [s.mDisplay.map .display, s.mEGLSurface.map .eglSurface] ∨
      SinkEvent.names e = s.mDisplay.map .display :: s.mEGLSurface.map .eglSurface ::
        s.mContext.toList.map fun c => some (.context c)) :
    SinkEvent.vocabulary.Among s.held e := by
  obtain ⟨-, hd, hw⟩ := hready hinit
  obtain ⟨d, hd⟩ := Option.isSome_iff_exists.mp hd
  obtain ⟨w, hw⟩ := Option.isSome_iff_exists.mp hw
  have hheld : s.handles ⊆ s.held := by
    unfold held
    rw [if_pos ⟨hinit, hrga⟩]
    exact List.subset_append_right _ _
  unfold handles at hheld
  rw [hd, hw] at hnames hheld
  rcases hnames with hnames | hnames
  · refine Vocabulary.among_of_names (l := [.display d, .eglSurface w]) hnames ?_
    exact List.Subset.trans (List.subset_append_left _ _) hheld
  · refine Vocabulary.among_of_names (l := .display d :: .eglSurface w ::
      s.mContext.toList.map .context) ?_ hheld
    rw [List.map_cons, List.map_cons, List.map_map]
    exact hnames

theorem clean_sink (s : RTSubteSink) (locked : Bool) : (clean s locked).sink = s := by
  unfold clean
  split
  · rfl
  split
  · rfl
  split <;> rfl

theorem clean_triple {s : RTSubteSink} (hready : s.Ready) (locked : Bool) :
    SinkEvent.vocabulary.Triple s.held (clean s locked).events s.held := by
  unfold clean
  split
  · exact .nil (List.Perm.refl _)
  next hinit =>
    have hinit : s.mInitialized = true := eq_true_of_ne_false hinit
    obtain ⟨w, hw⟩ := Option.isSome_iff_exists.mp (hready hinit).1
    have hmem : SinkRes.surface w ∈ s.held := by
      unfold held refs
      rw [hw]
      simp
    have hwindow : ∀ {e}, SinkEvent.names e = [s.mSurface.map .surface] →
        SinkEvent.vocabulary.Among s.held e := by
      intro e he
      rw [hw] at he
      exact Vocabulary.among_of_names (l := [.surface w]) he (by simp [hmem])
    split
    · refine .use rfl (hwindow rfl) ?_
      split
      · exact .keep rfl (hwindow rfl)
      · exact .nil (List.Perm.refl _)
    next hrga =>
      split
      · exact .keep rfl (among_handles hready hinit hrga (.inl rfl))
      · exact .nil (List.Perm.refl _)

theorem showScene_triple {s : RTSubteSink} (hready : s.Ready) :
    SinkEvent.vocabulary.Triple s.held s.showScene.events s.held := by
  unfold showScene
  split
  next h =>
    have hrga : s.mRenderType ≠ renderRGA := by
      rw [h.2.1]
      decide
    exact .keep rfl (among_handles hready h.1 hrga (.inl rfl))
  · exact .nil (List.Perm.refl _)

theorem bindSurfaceToThread_triple {s : RTSubteSink} (hready : s.Ready)
    (hinit : s.mInitialized = true) (current : Bool) :
    SinkEvent.vocabulary.Triple s.held (bindSurfaceToThread s current).events
      (bindSurfaceToThread s current).sink.held := by
  unfold bindSurfaceToThread
  split
  · exact .nil (List.Perm.refl _)
  next h =>
    have hrga : s.mRenderType ≠ renderRGA := fun hrga => h (.inl hrga)
    exact .keep rfl (among_handles hready hinit hrga (.inr rfl))

theorem gpuRender_triple (s : RTSubteSink) (frame : Option Nat) (l : List SinkRes) :
    SinkEvent.vocabulary.Triple l (gpuRender s frame).events l := by
  unfold gpuRender
  split
  · exact .nil (List.Perm.refl _)
  · split
    next t =>
      refine .acquire (r := .texture t) rfl (Vocabulary.among_of_names_nil rfl) ?_
      refine .drop rfl ?_
      exact Vocabulary.among_of_names (l := [.texture t]) rfl (by simp)
    · exact .nil (List.Perm.refl _)

theorem gpuRender_sink (s : RTSubteSink) (frame : Option Nat) : (gpuRender s frame).sink = s := by
  unfold gpuRender
  split
  · rfl
  · split <;> rfl

theorem render_triple {s : RTSubteSink} (hready : s.Ready) (current : Bool) (frame : Option Nat) :
    SinkEvent.vocabulary.Triple s.held (render s current frame).events
      (render s current frame).sink.held := by
  unfold render
  split
  · exact .nil (List.Perm.refl _)
  next hinit =>
    have hinit : s.mInitialized = true := eq_true_of_ne_false hinit
    have hbind : SinkEvent.vocabulary.Triple s.held
        (if s.mBindThread then ⟨[], s⟩ else bindSurfaceToThread s current : SinkResult).events
        (if s.mBindThread then ⟨[], s⟩
          else bindSurfaceToThread s current : SinkResult).sink.held := by
      split
      · exact .nil (List.Perm.refl _)
      · exact bindSurfaceToThread_triple hready hinit current
    refine andThen_triple hbind fun t => ?_
    split
    · rw [gpuRender_sink]
      exact gpuRender_triple t frame _
    · exact .nil (List.Perm.refl _)

theorem dispose_triple (o : Option Nat) (l : List SinkRes) :
    SinkEvent.vocabulary.Triple (o.toList.map .client ++ l) (o.toList.map .dispose)
      (o.toList.map .client ++ l) := by
  cases o with
  | none => exact .nil (List.Perm.refl _)
  | some c =>
    refine .keep rfl ?_
    exact Vocabulary.among_of_names (l := [.client c]) rfl (by simp)

/-- The EGL objects of a session are destroyed, the display last. -/
theorem endSession_triple (d : Nat) (context eglSurface window : Option Nat) (l : List SinkRes) :
    SinkEvent.vocabulary.Triple
      (.display d :: (context.toList.map .context ++ (eglSurface.toList.map .eglSurface ++
        (window.toList.map .surface ++ l))))
      (.eglUnbind d :: (context.toList.map (.eglDestroyContext (some d)) ++
        (eglSurface.toList.map (.eglDestroySurface (some d)) ++
          (dropped window .surface ++ [.eglTerminate d])))) l := by
  have hdisplay : ∀ {e l}, SinkEvent.names e = [some (.display d)] →
      SinkEvent.vocabulary.Among (.display d :: l) e := fun he =>
    Vocabulary.among_of_names (l := [.display d]) he (by simp)
  have hcontext : ∀ l, SinkRes.display d ∈ l → SinkEvent.vocabulary.Triple
      (context.toList.map .context ++ l)
      (context.toList.map (.eglDestroyContext (some d))) l := by
    intro l hl
    refine Vocabulary.Triple.releaseAll _ (fun _ _ => rfl) fun c _ => ?_
    exact Vocabulary.among_of_names (l := [.display d, .context c]) rfl (by simp [hl])
  have hsurface : ∀ l, SinkRes.display d ∈ l → SinkEvent.vocabulary.Triple
      (eglSurface.toList.map .eglSurface ++ l)
      (eglSurface.toList.map (.eglDestroySurface (some d))) l := by
    intro l hl
    refine Vocabulary.Triple.releaseAll _ (fun _ _ => rfl) fun w _ => ?_
    exact Vocabulary.among_of_names (l := [.display d, .eglSurface w]) rfl (by simp [hl])
  have hterminate : SinkEvent.vocabulary.Triple (.display d :: l) [.eglTerminate d] l :=
    .drop rfl (hdisplay rfl)
  have hwindow := (dropped_triple window .surface (.display d :: l)).append hterminate
  have hsurfaces := (hsurface (window.toList.map .surface ++ .display d :: l) (by simp)).append
    hwindow
  have hcontexts := (hcontext (eglSurface.toList.map .eglSurface ++
    (window.toList.map .surface ++ .display d :: l)) (by simp)).append hsurfaces
  refine .use rfl (hdisplay rfl) (hcontexts.perm_left ?_)
  refine List.perm_iff_count.mpr fun r => ?_
  simp only [List.count_append, List.count_cons]
  omega

/-- It ends with the strong pointers that are left, in a session of any type. -/
theorem destoryEGLSurface_triple {s : RTSubteSink} (hready : s.Ready)
    (hinit : s.mInitialized = true) :
    SinkEvent.vocabulary.Triple s.held (destoryEGLSurface s).events
      (destoryEGLSurface s).sink.refs := by
  unfold destoryEGLSurface
  split
  next hrga =>
    unfold held
    rw [if_neg fun h => h.2 hrga, List.append_nil]
    exact .nil (List.Perm.refl _)
  next hrga =>
    obtain ⟨-, hd, -⟩ := hready hinit
    obtain ⟨d, hd⟩ := Option.isSome_iff_exists.mp hd
    have hend := endSession_triple d s.mContext s.mEGLSurface s.mSurface
      (s.mClient.toList.map .client ++ s.mSurfaceControl.toList.map .control)
    have hboth := (dispose_triple s.mClient (.display d :: (s.mContext.toList.map .context ++
      (s.mEGLSurface.toList.map .eglSurface ++ (s.mSurface.toList.map .surface ++
        s.mSurfaceControl.toList.map .control))))).append (hend.perm_left ?_)
    · have hheld : s.held.Perm (s.mClient.toList.map .client ++ .display d ::
          (s.mContext.toList.map .context ++ (s.mEGLSurface.toList.map .eglSurface ++
            (s.mSurface.toList.map .surface ++ s.mSurfaceControl.toList.map .control)))) := by
        unfold held
        rw [if_pos ⟨hinit, hrga⟩]
        unfold refs handles
        rw [hd]
        refine List.perm_iff_count.mpr fun r => ?_
        simp only [List.count_append, List.count_cons, List.count_nil, Option.toList_some,
          List.map_cons, List.map_nil]
        omega
      have hall := hboth.perm_left hheld
      unfold refs
      rw [hd]
      simp only [List.append_assoc, List.cons_append, List.nil_append, Option.toList_some,
        Option.toList_none, List.map_cons, List.map_nil, List.append_nil]
      exact hall
    · refine List.perm_iff_count.mpr fun r => ?_
      simp only [List.count_append, List.count_cons]
      omega

theorem destroy_ready (s : RTSubteSink) (locked : Bool) : (destroy s locked).sink.Ready := by
  intro h
  cases h

/-- What `destroy` leaves are strong pointers. -/
theorem destroy_triple {s : RTSubteSink} (hready : s.Ready) (locked : Bool) :
    SinkEvent.vocabulary.Triple s.held (destroy s locked).events (destroy s locked).sink.held := by
  have hended : SinkEvent.vocabulary.Triple s.held
      (if s.mInitialized then (clean s locked).andThen destoryEGLSurface
        else ⟨[], s⟩ : SinkResult).events
      (if s.mInitialized then (clean s locked).andThen destoryEGLSurface
        else ⟨[], s⟩ : SinkResult).sink.refs := by
    split
    next hinit =>
      have hclean := clean_triple hready locked
      unfold SinkResult.andThen
      rw [clean_sink]
      exact hclean.append (destoryEGLSurface_triple hready hinit)
    next hinit =>
      rw [held_of_not_initialized (eq_false_of_ne_true hinit)]
      exact .nil (List.Perm.refl _)
  unfold destroy
  dsimp only
  generalize (if s.mInitialized then (clean s locked).andThen destoryEGLSurface
    else ⟨[], s⟩ : SinkResult) = ended at hended ⊢
  have hdrop := (dispose_triple ended.sink.mClient
    (ended.sink.mSurfaceControl.toList.map .control ++
      ended.sink.mSurface.toList.map .surface)).append (dropped_triple ended.sink.mClient .client _)
  refine hended.append ?_
  rw [held_of_not_initialized rfl]
  unfold refs
  rw [List.append_assoc]
  exact hdrop

/-! ### A call -/

theorem andThen_ready {r : SinkResult} {next : RTSubteSink → SinkResult} (h : r.sink.Ready)
    (hnext : ∀ t : RTSubteSink, t.Ready → (next t).sink.Ready) : (r.andThen next).sink.Ready :=
  hnext r.sink h

theorem show_ready {s : RTSubteSink} (h : s.Ready) : s.show.sink.Ready := by
  unfold RTSubteSink.show
  split
  · exact h
  · split <;> exact h

theorem hide_ready {s : RTSubteSink} (h : s.Ready) : s.hide.sink.Ready := by
  unfold hide
  split
  · exact h
  · split <;> exact h

theorem render_ready {s : RTSubteSink} (h : s.Ready) (current : Bool) (frame : Option Nat) :
    (render s current frame).sink.Ready := by
  have hbind : (if s.mBindThread then ⟨[], s⟩ else bindSurfaceToThread s current :
      SinkResult).sink.Ready := by
    split
    · exact h
    · unfold bindSurfaceToThread
      split <;> exact h
  unfold render
  split
  · exact h
  · refine andThen_ready hbind fun t ht => ?_
    split
    · rw [gpuRender_sink]
      exact ht
    · exact ht

theorem createSubitleSurface_sink (s : RTSubteSink) (replies : CreateReplies)
    (hcontrol : s.mSurfaceControl = none) :
    (createSubitleSurface s replies).sink = { s with
      mClient := some replies.client
      mSurfaceControl := replies.createSurface
      mSurface := if replies.createSurface.isSome then replies.getSurface else s.mSurface } := by
  unfold createSubitleSurface
  cases replies.createSurface with
  | none =>
    cases s
    subst hcontrol
    rfl
  | some c => rfl

/-- The EGL part of `create`, on the sink that `createSubitleSurface` leaves. -/
def eglPart (t : RTSubteSink) (replies : CreateReplies) : SinkResult :=
  (if t.mSurface.isSome then createEGLSurface t replies else ⟨[], t⟩ : SinkResult).andThen fun s =>
    if s.mEGLSurface.isSome then RTSubteSink.show { s with mInitialized := true } else ⟨[], s⟩

theorem create_eq {s : RTSubteSink} (h : s.mInitialized = false) (renderType : Int)
    (replies : CreateReplies) :
    create s renderType replies =
      ((⟨dropped s.mClient .client ++ dropped s.mSurfaceControl .control, s.blank renderType⟩ :
        SinkResult).andThen (createSubitleSurface · replies)).andThen (eglPart · replies) := by
  unfold create eglPart SinkResult.andThen
  rw [if_neg (by rw [h]; exact Bool.false_ne_true)]
  dsimp only
  rw [List.append_assoc]

theorem eglPart_skipped {t : RTSubteSink} {replies : CreateReplies} (hnone : t.mEGLSurface = none)
    (h : t.mSurface.isSome → t.mSurfaceControl = none ∨ replies.getSurface = none) :
    eglPart t replies = ⟨[], t⟩ := by
  have hfirst : (if t.mSurface.isSome then createEGLSurface t replies else ⟨[], t⟩ : SinkResult) =
      ⟨[], t⟩ := by
    split
    next hsome => exact createEGLSurface_refused (h hsome)
    · rfl
  unfold eglPart
  rw [hfirst]
  unfold SinkResult.andThen
  dsimp only
  rw [hnone]
  rfl

/-- Of the EGL objects made, the sink keeps those of a session that it will destroy. -/
theorem eglPart_triple {t : RTSubteSink} {replies : CreateReplies}
    (hinit : t.mInitialized = false) (hwindow : t.mSurface.isSome)
    (h : ¬ (t.mSurfaceControl = none ∨ replies.getSurface = none)) :
    (eglPart t replies).sink.Ready ∧
      SinkEvent.vocabulary.Triple t.refs (eglPart t replies).events
        ((eglPart t replies).sink.held ++
          if t.mRenderType = renderRGA ∨ replies.egl.eglSurface = none then replies.egl.made
          else []) := by
  have hleft := createEGLSurface_left h
  have htriple := createEGLSurface_triple h hwindow
  unfold eglPart
  rw [if_pos hwindow]
  generalize createEGLSurface t replies = r at hleft htriple ⊢
  have hinit' : r.sink.mInitialized = false := hleft.mInitialized.trans hinit
  unfold SinkResult.andThen
  dsimp only
  by_cases hsome : r.sink.mEGLSurface.isSome
  · obtain ⟨hdisplay, hhandles⟩ := hleft.handles hsome
    have hready : ({ r.sink with mInitialized := true } : RTSubteSink).Ready := by
      intro _
      refine ⟨?_, hdisplay, hsome⟩
      show r.sink.mSurface.isSome
      rw [hleft.mSurface]
      exact hwindow
    have hegl : replies.egl.eglSurface ≠ none := by
      rw [hleft.mEGLSurface] at hsome
      exact Option.isSome_iff_ne_none.mp hsome
    rw [if_pos hsome]
    refine ⟨show_ready hready, ?_⟩
    refine htriple.append (((show_triple _).frame _).perm_left (List.Perm.of_eq ?_))
    show t.refs ++ replies.egl.made = r.sink.refs ++ (if true ∧ r.sink.mRenderType ≠ renderRGA then
      r.sink.handles else []) ++ _
    rw [hleft.refs, hleft.mRenderType, hhandles]
    by_cases hrga : t.mRenderType = renderRGA
    · rw [if_neg fun hboth => hboth.2 hrga, if_pos (.inl hrga), List.append_nil]
    · rw [if_pos ⟨rfl, hrga⟩, if_neg fun h => h.elim hrga hegl, List.append_nil]
  · have hegl : replies.egl.eglSurface = none := by
      rw [hleft.mEGLSurface] at hsome
      exact Option.not_isSome_iff_eq_none.mp hsome
    rw [if_neg hsome, if_pos (.inr hegl), List.append_nil]
    refine ⟨fun hon => absurd (hinit'.symm.trans hon) Bool.false_ne_true, ?_⟩
    rw [held_of_not_initialized hinit', hleft.refs]
    exact htriple

theorem create_ready_triple {s : RTSubteSink} (hready : s.Ready) (renderType : Int)
    (replies : CreateReplies) :
    (create s renderType replies).sink.Ready ∧
      SinkEvent.vocabulary.Triple s.held (create s renderType replies).events
        ((create s renderType replies).sink.held ++
          (SinkCall.create renderType replies).lost s) := by
  have hlost : (SinkCall.create renderType replies).lost s =
      if s.mInitialized = false ∧ replies.ReachesEgl ∧
          (renderType = renderRGA ∨ replies.egl.eglSurface = none) then replies.egl.made
      else [] := rfl
  rw [hlost]
  cases hinit : s.mInitialized with
  | true =>
    have hsame : create s renderType replies = ⟨[], s⟩ := if_pos hinit
    rw [hsame]
    exact ⟨hready, .nil (List.Perm.of_eq (List.append_nil _).symm)⟩
  | false =>
    have hdrops : SinkEvent.vocabulary.Triple s.held
        (dropped s.mClient .client ++ dropped s.mSurfaceControl .control)
        (s.blank renderType).refs := by
      rw [held_of_not_initialized hinit]
      unfold refs
      rw [List.append_assoc]
      exact (dropped_triple s.mClient .client _).append
        (dropped_triple s.mSurfaceControl .control _)
    have hopened := createSubitleSurface_triple (s.blank renderType) replies rfl rfl
    have hsink := createSubitleSurface_sink (s.blank renderType) replies rfl
    rw [create_eq hinit]
    unfold SinkResult.andThen
    dsimp only
    generalize createSubitleSurface (s.blank renderType) replies = r at hopened hsink ⊢
    have hbefore := hdrops.append hopened
    have hinit' : r.sink.mInitialized = false := by
      rw [hsink]
      exact hinit
    have htype : r.sink.mRenderType = renderType := by
      rw [hsink]
      rfl
    have hnone : r.sink.mEGLSurface = none := by
      rw [hsink]
      rfl
    by_cases hreaches : replies.ReachesEgl
    · have hcontrol : r.sink.mSurfaceControl = replies.createSurface := by rw [hsink]
      have hwindow : r.sink.mSurface = replies.getSurface := by
        rw [hsink]
        exact if_pos hreaches.1
      have hpast : ¬ (r.sink.mSurfaceControl = none ∨ replies.getSurface = none) := by
        rw [hcontrol]
        rintro (hno | hno)
        · exact Option.isSome_iff_ne_none.mp hreaches.1 hno
        · exact Option.isSome_iff_ne_none.mp hreaches.2 hno
      obtain ⟨hends, hegl⟩ := eglPart_triple hinit' (by rw [hwindow]; exact hreaches.2) hpast
      rw [htype] at hegl
      refine ⟨hends, (hbefore.append hegl).perm (List.Perm.refl _) (List.Perm.of_eq ?_)⟩
      simp only [hreaches, true_and]
    · have hskip : eglPart r.sink replies = ⟨[], r.sink⟩ := by
        refine eglPart_skipped hnone fun hsome => ?_
        rw [hsink]
        by_cases hsurface : replies.createSurface.isSome
        · refine .inr (Option.not_isSome_iff_eq_none.mp fun hget => hreaches ⟨hsurface, hget⟩)
        · exact .inl (Option.not_isSome_iff_eq_none.mp hsurface)
      rw [hskip, if_neg fun h => hreaches h.2.1, List.append_nil, List.append_nil,
        held_of_not_initialized hinit']
      exact ⟨fun hon => absurd (hinit'.symm.trans hon) Bool.false_ne_true, hbefore⟩

/-- A call takes what the sink holds to what it then holds and what is lost. -/
theorem call_triple {s : RTSubteSink} (hready : s.Ready) (c : SinkCall) :
    (next s c).Ready ∧
      SinkEvent.vocabulary.Triple s.held (events s c) ((next s c).held ++ c.lost s) := by
  cases c with
  | create renderType replies => exact create_ready_triple hready renderType replies
  | destroy locked => exact ⟨destroy_ready s locked, (destroy_triple hready locked).lose_nothing⟩
  | render current frame =>
    exact ⟨render_ready hready current frame, (render_triple hready current frame).lose_nothing⟩
  | showScene =>
    have hsame : s.showScene.sink = s := by
      unfold RTSubteSink.showScene
      split <;> rfl
    show s.showScene.sink.Ready ∧
      SinkEvent.vocabulary.Triple s.held s.showScene.events (s.showScene.sink.held ++ [])
    rw [hsame]
    exact ⟨hready, (showScene_triple hready).lose_nothing⟩
  | clean locked =>
    show (s.clean locked).sink.Ready ∧
      SinkEvent.vocabulary.Triple s.held (s.clean locked).events ((s.clean locked).sink.held ++ [])
    rw [clean_sink]
    exact ⟨hready, (clean_triple hready locked).lose_nothing⟩
  | «show» => exact ⟨show_ready hready, (show_triple s).lose_nothing⟩
  | hide => exact ⟨hide_ready hready, (hide_triple s).lose_nothing⟩
  | initScene | isShowing => exact ⟨hready, .lose_nothing (.nil (List.Perm.refl _))⟩

/-! ## The life of the sink -/

theorem destruct_triple {s : RTSubteSink} (hready : s.Ready) (locked : Bool) :
    SinkEvent.vocabulary.Triple s.held (s.destruct locked) [] := by
  have hdestroy := destroy_triple hready locked
  rw [held_of_not_initialized (s := (destroy s locked).sink) rfl] at hdestroy
  unfold destruct
  dsimp only
  generalize destroy s locked = r at hdestroy ⊢
  have hdrops := ((dropped_triple r.sink.mSurface .surface
    (r.sink.mSurfaceControl.toList.map .control ++
      (r.sink.mClient.toList.map .client ++ []))).append
        (dropped_triple r.sink.mSurfaceControl .control _)).append
          (dropped_triple r.sink.mClient .client [])
  have hall := hdestroy.append (hdrops.perm_left ?_)
  · rw [← List.append_assoc, ← List.append_assoc] at hall
    exact hall
  · unfold refs
    refine List.perm_iff_count.mpr fun res => ?_
    simp only [List.count_append, List.count_nil]
    omega

/-- What a life leaves behind is what its calls lost. -/
theorem life_triple (garbage : RTSubteSink) (calls : List SinkCall) (locked : Bool) :
    SinkEvent.vocabulary.Triple [] (life garbage calls locked)
      (runLog next (fun s c => c.lost s) (new garbage) calls) := by
  have hnew : (new garbage).held = [] := held_of_not_initialized rfl
  obtain ⟨hready, hrun⟩ := Vocabulary.Triple.run held (fun s c => c.lost s) Ready
    calls
    (fun _ c _ hs => call_triple hs c) (new garbage) (fun h => by cases h)
  rw [hnew] at hrun
  exact hrun.append ((destruct_triple hready locked).frame _)

end RTSubteSink

end RockchipHal.Rockit
