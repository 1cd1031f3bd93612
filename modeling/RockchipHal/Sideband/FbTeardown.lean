import RockchipHal.Sideband.OutputDetect

/-!
# Framebuffers over sessions

A session of the renderer is between `initialize`, which opens the DRM device, and
`deinitialize`, which closes it and then removes the framebuffers of `mFbidMap`.  By that
time the descriptor is 0; and the map keeps its entries, so that the next session finds
ids of this one.

    mFbidMap is empty after a run ↔ the run has no GetFbid     (run_mFbidMap)

So a run's sessions end as they should exactly when `GetFbid` is not called before the
last of them ends (`runs_tearDown_iff`); no framebuffer is ever removed on the descriptor
it was made on (`run_rmFB`).
-/

namespace RockchipHal.Sideband

/-! ## Calls of the renderer -/

/-- A call into the kernel, with the descriptor it goes to. -/
inductive VopCall
  | openDevice (fd : Int)
  | addFB2 (fd : Int) (fbId : Int)
  | rmFB (fd : Int) (fbId : Int)
  | close (fd : Int)
deriving DecidableEq, Repr

/-- The renderer afterwards, and the calls made. -/
structure VopResult where
  render : DrmVop
  calls : List VopCall

/-- `initialize`, where `open` returns `fd`; whether it opens the device anew is
`DrmVop.Opens`.  The gralloc module it looks up last is outside the renderer. -/
def vopInit (r : DrmVop) (fd : Int) : VopResult :=
  if r.mInitialized then ⟨r, []⟩
  else if fd < 0 then ⟨{ r with mDrmFd := fd }, []⟩
  else
    ⟨{ r with mDrmFd := fd, mInitialized := true, mOutputs := fun _ => emptyOutput },
      [.openDevice fd]⟩

def DrmVop.Opens (r : DrmVop) (fd : Int) : Prop := r.mInitialized = false ∧ 0 ≤ fd

instance (r : DrmVop) (fd : Int) : Decidable (r.Opens fd) :=
  inferInstanceAs (Decidable (r.mInitialized = false ∧ 0 ≤ fd))

/-- The framebuffers a call of `GetFbid` makes, with their descriptor: none on a hit. -/
def fbMade (r : DrmVop) (attributes : GrallocAttributes) (replies : FbReplies) :
    List (Int × Int) :=
  if r.mFbidMap.lookup attributes.fd = none then
    (addFramebuffer attributes replies).toList.map fun fb => (r.mDrmFd, (fb.id : Int))
  else []

def vopGetFbid (r : DrmVop) (attributes : GrallocAttributes) (replies : FbReplies) :
    VopResult :=
  ⟨{ r with toDrmVopRender := (getFbid r.toDrmVopRender attributes replies).2 },
    (fbMade r attributes replies).map fun fb => .addFB2 fb.1 fb.2⟩

/-- The framebuffer of an output itself. -/
def resetCalls (fd : Int) (out : DrmOutput) : List VopCall :=
  if out.fbId ≠ 0 then [.rmFB fd out.fbId.toNat] else []

/-- `deinitialize`: the outputs, the device, and the framebuffers, on a descriptor that is
then 0. -/
def vopDeinit (r : DrmVop) : VopResult where
  render :=
    { r with
      mDrmFd := 0
      mInitialized := false
      mOutputs := fun i => resetOutput (r.mOutputs i) }
  calls :=
    resetCalls r.mDrmFd (r.mOutputs .primary) ++ resetCalls r.mDrmFd (r.mOutputs .external) ++
      (if r.mDrmFd ≠ 0 then [.close r.mDrmFd] else []) ++
      r.mFbidMap.map fun entry => .rmFB 0 entry.2

/-! ## Runs -/

inductive VopOp
  | init (fd : Int)
  | getFbid (attributes : GrallocAttributes) (replies : FbReplies)
  | deinit

/-- The renderer, and the framebuffers made since the device was last opened. -/
structure VopRun where
  render : DrmVop
  created : List (Int × Int)

namespace VopRun

/-- As constructed. -/
def start : VopRun := ⟨⟨⟨[]⟩, 0, false, fun _ => emptyOutput⟩, []⟩

def step (s : VopRun) : VopOp → VopRun
  | .init fd => ⟨(vopInit s.render fd).render, if s.render.Opens fd then [] else s.created⟩
  | .getFbid attributes replies =>
    ⟨(vopGetFbid s.render attributes replies).render,
      s.created ++ fbMade s.render attributes replies⟩
  | .deinit => ⟨(vopDeinit s.render).render, s.created⟩

def run (ops : List VopOp) : VopRun := ops.foldl step start

/-- What `deinitialize` should do in this state: remove each framebuffer of the session
before its descriptor is closed, and forget their ids. -/
structure TearsDown (s : VopRun) : Prop where
  removes : ∀ fb ∈ s.created, ∃ before after,
    (vopDeinit s.render).calls = before ++ .rmFB fb.1 fb.2 :: after ∧ .close fb.1 ∉ before
  forgets : (vopDeinit s.render).render.mFbidMap = []

end VopRun

def VopOp.isGetFbid : VopOp → Bool
  | .getFbid _ _ => true
  | .init _ => false
  | .deinit => false

/-! ## What a step does to the map -/

theorem vopInit_mFbidMap (r : DrmVop) (fd : Int) :
    (vopInit r fd).render.mFbidMap = r.mFbidMap := by
  unfold vopInit
  split
  · rfl
  · split
    · rfl
    · rfl

/-- Hit or miss, there is an entry afterwards. -/
theorem vopGetFbid_mFbidMap (r : DrmVop) (attributes : GrallocAttributes) (replies : FbReplies) :
    (vopGetFbid r attributes replies).render.mFbidMap ≠ [] := by
  show (getFbid r.toDrmVopRender attributes replies).2.mFbidMap ≠ []
  unfold getFbid
  cases hlookup : r.mFbidMap.lookup attributes.fd with
  | none => exact List.cons_ne_nil _ _
  | some fbid =>
    intro hnil
    have hnil : r.mFbidMap = [] := hnil
    rw [hnil] at hlookup
    cases hlookup

namespace VopRun

theorem step_mFbidMap (s : VopRun) (op : VopOp) :
    (s.step op).render.mFbidMap = [] ↔ s.render.mFbidMap = [] ∧ op.isGetFbid = false := by
  cases op with
  | init fd =>
    show (vopInit s.render fd).render.mFbidMap = [] ↔ _
    rw [vopInit_mFbidMap]
    simp [VopOp.isGetFbid]
  | getFbid attributes replies =>
    refine iff_of_false (vopGetFbid_mFbidMap s.render attributes replies) ?_
    simp [VopOp.isGetFbid]
  | deinit =>
    show s.render.mFbidMap = [] ↔ _
    simp [VopOp.isGetFbid]

/-- The map is filled by `GetFbid` and emptied by nothing. -/
theorem run_mFbidMap (ops : List VopOp) (s : VopRun) :
    (ops.foldl step s).render.mFbidMap = [] ↔
      s.render.mFbidMap = [] ∧ ∀ op ∈ ops, op.isGetFbid = false := by
  induction ops generalizing s with
  | nil => simp
  | cons op ops ih =>
    rw [List.foldl_cons, ih, step_mFbidMap, List.forall_mem_cons, and_assoc]

/-- A framebuffer made has an entry. -/
theorem step_created (s : VopRun) (h : s.render.mFbidMap = [] → s.created = []) (op : VopOp)
    (hnil : (s.step op).render.mFbidMap = []) : (s.step op).created = [] := by
  obtain ⟨hmap, hop⟩ := (step_mFbidMap s op).mp hnil
  cases op with
  | init fd =>
    show (if s.render.Opens fd then [] else s.created) = []
    rw [h hmap, ite_self]
  | getFbid attributes replies => cases hop
  | deinit => exact h hmap

theorem run_created (ops : List VopOp) (s : VopRun)
    (h : s.render.mFbidMap = [] → s.created = []) :
    (ops.foldl step s).render.mFbidMap = [] → (ops.foldl step s).created = [] := by
  induction ops generalizing s with
  | nil => exact h
  | cons op ops ih => exact ih (s.step op) (step_created s h op)

/-- A session ends as it should exactly when there has been no `GetFbid` at all. -/
theorem tearsDown_iff (ops : List VopOp) :
    (run ops).TearsDown ↔ ∀ op ∈ ops, op.isGetFbid = false := by
  have hmap : (run ops).render.mFbidMap = [] ↔ ∀ op ∈ ops, op.isGetFbid = false := by
    unfold run
    rw [run_mFbidMap]
    exact and_iff_right rfl
  rw [← hmap]
  constructor
  · exact TearsDown.forgets
  · intro hnil
    have hnone : (run ops).created = [] := run_created ops start (fun _ => rfl) hnil
    refine ⟨fun fb hfb => ?_, hnil⟩
    rw [hnone] at hfb
    cases hfb

/-- For every run: each `deinitialize` ends its session as it should exactly when no
`GetFbid` comes before a `deinitialize`. -/
theorem runs_tearDown_iff (ops : List VopOp) :
    (∀ before after, ops = before ++ .deinit :: after → (run before).TearsDown) ↔
      ∀ before after, ops = before ++ .deinit :: after →
        ∀ op ∈ before, op.isGetFbid = false := by
  simp only [tearsDown_iff]

/-! ## Where framebuffers are removed -/

/-- Outputs have no framebuffer of their own. -/
theorem run_fbId (ops : List VopOp) (s : VopRun) (h : ∀ i, (s.render.mOutputs i).fbId = 0)
    (i : OutputIndex) : ((ops.foldl step s).render.mOutputs i).fbId = 0 := by
  induction ops generalizing s with
  | nil => exact h i
  | cons op ops ih =>
    refine ih (s.step op) fun i => ?_
    cases op with
    | init fd =>
      show ((vopInit s.render fd).render.mOutputs i).fbId = 0
      unfold vopInit
      split
      · exact h i
      · split
        · exact h i
        · rfl
    | getFbid attributes replies => exact h i
    | deinit => rfl

/-- Every framebuffer is removed on descriptor 0, whichever it was made on. -/
theorem run_rmFB (ops : List VopOp) (fd fbId : Int)
    (h : .rmFB fd fbId ∈ (vopDeinit (run ops).render).calls) : fd = 0 := by
  have hreset : ∀ i, resetCalls (run ops).render.mDrmFd ((run ops).render.mOutputs i) = [] :=
    fun i => if_neg (not_not_intro (run_fbId ops start (fun _ => rfl) i))
  unfold vopDeinit at h
  dsimp only at h
  rw [hreset, hreset, List.nil_append, List.nil_append] at h
  rcases List.mem_append.mp h with h | h
  · split at h
    · simp at h
    · cases h
  · obtain ⟨entry, -, he⟩ := List.mem_map.mp h
    cases he
    rfl

/-- A buffer whose descriptor number is 5. -/
def bufferFive : GrallocAttributes := ⟨5, 16, 16, .rgba8888, 64⟩

/-- Framebuffer 1 is made for it on device 3, which is then closed; the next session, on
device 4, is given its id for the buffer that then has the number. -/
theorem run_not_tearsDown :
    ¬ (run [.init 3, .getFbid bufferFive
        ⟨some 1, 0, fun _ => some ⟨1, by decide, by decide⟩⟩]).TearsDown ∧
      (run [.init 3, .getFbid bufferFive
        ⟨some 1, 0, fun _ => some ⟨1, by decide, by decide⟩⟩]).created = [(3, 1)] ∧
      (getFbid (run [.init 3, .getFbid bufferFive
        ⟨some 1, 0, fun _ => some ⟨1, by decide, by decide⟩⟩, .deinit, .init 4]).render.toDrmVopRender
          bufferFive ⟨some 1, 0, fun _ => some ⟨2, by decide, by decide⟩⟩).1 = 1 := by
  refine ⟨fun h => ?_, rfl, rfl⟩
  have hnil := h.forgets
  cases hnil

end VopRun

end RockchipHal.Sideband
