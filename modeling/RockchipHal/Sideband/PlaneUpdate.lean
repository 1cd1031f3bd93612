import RockchipHal.Sideband.SidebandPlane
import RockchipHal.Sideband.SurfaceLifecycle

/-!
# What a render request puts on the screen

The render thread's handler passes the differences of the crop to `SetDrmPlane`, which
looks for the sideband plane and for the buffer's framebuffer, and shifts the sizes to
16.16 fixed point.  Only the plane's id is checked before the kernel is called.

A size is exact where the crop's edges differ by less than `2 ^ 16` (`srcSize_iff`).  So
the call is sound exactly when there is a crtc wherever it is used, and, when there is a
plane, a framebuffer and such a crop (`renderRequest_sound_iff`).
-/

namespace RockchipHal.Sideband

/-! ## SetDrmPlane -/

/-- The `dst` numbers `sscanf` reads from the property `sideband.crop`. -/
structure SidebandCrop where
  left : Int32
  top : Int32
  right : Int32
  bottom : Int32
deriving DecidableEq, Repr

/-- What the handler meets: gralloc's and the kernel's answers, and the property, if set. -/
structure RenderReplies where
  attributes : BufferHandle → GrallocAttributes
  planes : PlaneReplies
  fb : FbReplies
  crop : Option SidebandCrop

/-- The arguments of `drmModeSetPlane`, without the flags and the source's corner, all 0. -/
structure SetPlane where
  planeId : Int32
  crtcId : UInt32
  fbId : Int
  dstLeft : Int32
  dstTop : Int32
  dstW : Int32
  dstH : Int32
  srcW : UInt32
  srcH : UInt32
deriving DecidableEq, Repr

/-- A `NULL` that is dereferenced, the call made, and the renderer afterwards. -/
structure PlaneUpdate where
  fault : Option VopFault
  call : Option SetPlane
  render : DrmVop

def OutputIndex.device : OutputIndex → Int32
  | .primary => hwcDisplayPrimary
  | .external => hwcDisplayExternal

/-- Where the plane goes: the property, or the whole crtc, which is not checked. -/
def dstRect (crtc : Option DrmCrtc) : Option SidebandCrop → Option SidebandCrop
  | some crop => some ⟨crop.left, crop.top, crop.right - crop.left, crop.bottom - crop.top⟩
  | none => crtc.map fun crtc => ⟨0, 0, crtc.width.toInt32, crtc.height.toInt32⟩

/-- `size << 16`, as the unsigned argument. -/
def srcSize (size : Int32) : UInt32 := size.toUInt32 <<< 16

def setDrmPlane (r : DrmVop) (index : OutputIndex) (width height : Int32)
    (buffer : BufferHandle) (replies : RenderReplies) : PlaneUpdate :=
  match (findSidebandPlane r index.device replies.planes).ret with
  | .error fault => ⟨some fault, none, r⟩
  | .ok planeId =>
    let fb := getFbid r.toDrmVopRender (replies.attributes buffer) replies.fb
    let r := { r with toDrmVopRender := fb.2 }
    let crtc := (r.mOutputs index).crtc
    match dstRect crtc replies.crop with
    | none => ⟨some .nullCrtc, none, r⟩
    | some dst =>
      if planeId > 0 then
        match crtc with
        | none => ⟨some .nullCrtc, none, r⟩
        | some crtc =>
          ⟨none, some ⟨planeId, crtc.crtcId, fb.1, dst.left, dst.top, dst.right, dst.bottom,
            srcSize width, srcSize height⟩, r⟩
      else ⟨none, none, r⟩

/-- The handler's effects on the renderer; its device is 0. -/
def performPlane (r : DrmVop) (replies : RenderReplies) : Effect → Option PlaneUpdate
  | .setDrmPlane device width height buffer =>
    (getOutputIndex device).map fun index => setDrmPlane r index width height buffer replies
  | .unregisterBuffer _ | .free _ => none

/-! ## Fixed point -/

/-- Of the difference of two edges the low 16 bits are left. -/
theorem srcSize_sub (left right : Int32) :
    ((srcSize (right - left)).toNat : Int) = (right.toInt - left.toInt) % 65536 * 65536 := by
  have hsub : (right - left).toUInt32 = right.toUInt32 - left.toUInt32 := Int32.toUInt32_sub ..
  have hright : right.toInt = Int.bmod right.toUInt32.toNat (2 ^ 32) :=
    BitVec.toInt_eq_toNat_bmod _
  have hleft : left.toInt = Int.bmod left.toUInt32.toNat (2 ^ 32) := BitVec.toInt_eq_toNat_bmod _
  have hrlt := right.toUInt32.toNat_lt
  have hllt := left.toUInt32.toNat_lt
  unfold srcSize
  rw [UInt32.toNat_shiftLeft, Nat.shiftLeft_eq, hsub, UInt32.toNat_sub, hright, hleft,
    show UInt32.toNat 16 % 32 = 16 from rfl, Int.bmod_def, Int.bmod_def]
  generalize right.toUInt32.toNat = a at *
  generalize left.toUInt32.toNat = b at *
  split <;> split <;> omega

/-- The size passed is the exact 16.16 value of an extent that is not negative. -/
def ExactSize (extent : Int) (size : UInt32) : Prop :=
  0 ≤ extent ∧ (size.toNat : Int) = extent * 65536

theorem srcSize_iff (left right : Int32) :
    ExactSize (right.toInt - left.toInt) (srcSize (right - left)) ↔
      0 ≤ right.toInt - left.toInt ∧ right.toInt - left.toInt < 65536 := by
  unfold ExactSize
  rw [srcSize_sub]
  omega

/-! ## The render request -/

/-- No `NULL` crtc is dereferenced, and the kernel is called with a plane, a framebuffer and
the exact size of the crop only. -/
structure PlaneUpdate.Sound (u : PlaneUpdate) (width height : Int) : Prop where
  noNullCrtc : u.fault ≠ some .nullCrtc
  planeId : ∀ args, u.call = some args → 0 < args.planeId
  fbId : ∀ args, u.call = some args → 0 < args.fbId
  srcW : ∀ args, u.call = some args → ExactSize width args.srcW
  srcH : ∀ args, u.call = some args → ExactSize height args.srcH

/-- What decides: the crtc where it is used, and what is not checked before the call. -/
def PlaneReady (r : DrmVop) (index : OutputIndex) (width height : Int) (buffer : BufferHandle)
    (replies : RenderReplies) (planeId : Int32) : Prop :=
  ((r.mOutputs index).crtc.isSome = true ∨ replies.crop.isSome = true ∧ ¬ planeId > 0) ∧
    (planeId > 0 →
      0 < (getFbid r.toDrmVopRender (replies.attributes buffer) replies.fb).1 ∧
        (0 ≤ width ∧ width < 65536) ∧ 0 ≤ height ∧ height < 65536)

/-- Nothing is dereferenced and nothing called. -/
theorem sound_none (r : DrmVop) (width height : Int) :
    (⟨none, none, r⟩ : PlaneUpdate).Sound width height where
  noNullCrtc := fun h => by cases h
  planeId := fun args h => by cases h
  fbId := fun args h => by cases h
  srcW := fun args h => by cases h
  srcH := fun args h => by cases h

/-- A call made. -/
theorem sound_call_iff (r : DrmVop) (args : SetPlane) (width height : Int) :
    (⟨none, some args, r⟩ : PlaneUpdate).Sound width height ↔
      0 < args.planeId ∧ 0 < args.fbId ∧ ExactSize width args.srcW ∧
        ExactSize height args.srcH := by
  constructor
  · intro h
    exact ⟨h.planeId args rfl, h.fbId args rfl, h.srcW args rfl, h.srcH args rfl⟩
  · rintro ⟨hplane, hfb, hw, hh⟩
    refine ⟨(fun h => by cases h), ?_, ?_, ?_, ?_⟩
    all_goals
      intro a ha
      obtain rfl := Option.some.inj ha
      assumption

theorem setDrmPlane_sound_iff (r : DrmVop) (index : OutputIndex) (left top right bottom : Int32)
    (buffer : BufferHandle) (replies : RenderReplies) :
    (setDrmPlane r index (right - left) (bottom - top) buffer replies).Sound
        (right.toInt - left.toInt) (bottom.toInt - top.toInt) ↔
      ∀ planeId, (findSidebandPlane r index.device replies.planes).ret = .ok planeId →
        PlaneReady r index (right.toInt - left.toInt) (bottom.toInt - top.toInt) buffer replies
          planeId := by
  unfold setDrmPlane
  cases hplane : (findSidebandPlane r index.device replies.planes).ret with
  | error fault =>
    have hfault := findSidebandPlane_fault r index.device replies.planes
    rw [hplane] at hfault
    refine iff_of_true ⟨fun h => hfault ?_, ?_, ?_, ?_, ?_⟩ fun planeId h => by cases h
    · rw [Option.some.inj h]
    all_goals exact fun args h => by cases h
  | ok planeId =>
    have hforall : (∀ id, (Except.ok planeId : Except VopFault Int32) = .ok id →
        PlaneReady r index (right.toInt - left.toInt) (bottom.toInt - top.toInt) buffer replies
          id) ↔
        PlaneReady r index (right.toInt - left.toInt) (bottom.toInt - top.toInt) buffer replies
          planeId := by
      simp
    rw [hforall]
    unfold PlaneReady
    dsimp only
    cases hcrtc : (r.mOutputs index).crtc with
    | none =>
      cases hcrop : replies.crop with
      | none =>
        refine iff_of_false (fun h => h.noNullCrtc rfl) ?_
        simp
      | some crop =>
        dsimp only [dstRect]
        by_cases hpos : planeId > 0
        · rw [if_pos hpos]
          refine iff_of_false (fun h => h.noNullCrtc rfl) ?_
          simp [hpos]
        · rw [if_neg hpos]
          exact iff_of_true (sound_none _ _ _) ⟨.inr ⟨rfl, hpos⟩, fun h => absurd h hpos⟩
    | some crtc =>
      obtain ⟨dst, hdst⟩ : ∃ dst, dstRect (some crtc) replies.crop = some dst := by
        cases replies.crop with
        | none => exact ⟨_, rfl⟩
        | some crop => exact ⟨_, rfl⟩
      rw [hdst]
      dsimp only
      by_cases hpos : planeId > 0
      · rw [if_pos hpos, sound_call_iff, srcSize_iff, srcSize_iff]
        simp [hpos]
      · rw [if_neg hpos]
        exact iff_of_true (sound_none _ _ _) ⟨.inl rfl, fun h => absurd h hpos⟩

/-- For every state of the renderer, every crop, buffer and reply: the update a render
request makes is sound exactly when the plane found, if the search returns, is one the
output is ready for. -/
theorem renderRequest_sound_iff (r : DrmVop) (w : RTSidebandWindow)
    (left top right bottom : Int32) (msg : Message) (replies : RenderReplies) :
    (∀ e ∈ (handleRenderRequest (setCrop w left top right bottom) msg).effects,
        ∀ u, performPlane r replies e = some u →
          u.Sound (right.toInt - left.toInt) (bottom.toInt - top.toInt)) ↔
      ∀ planeId, (findSidebandPlane r 0 replies.planes).ret = .ok planeId →
        PlaneReady r .primary (right.toInt - left.toInt) (bottom.toInt - top.toInt) msg.buffer
          replies planeId := by
  have heffects : (handleRenderRequest (setCrop w left top right bottom) msg).effects =
      [.setDrmPlane 0 (right - left) (bottom - top) msg.buffer] := rfl
  have hperform : performPlane r replies
      (.setDrmPlane 0 (right - left) (bottom - top) msg.buffer) =
      some (setDrmPlane r .primary (right - left) (bottom - top) msg.buffer replies) := rfl
  rw [heffects]
  refine Iff.trans ?_ (setDrmPlane_sound_iff r .primary left top right bottom msg.buffer replies)
  constructor
  · intro h
    exact h _ List.mem_cons_self _ hperform
  · intro h e he u hu
    rw [List.mem_singleton.mp he, hperform] at hu
    rw [← Option.some.inj hu]
    exact h

/-! ## Behind `detect` -/

/-- Where `detect` returns, an output without a crtc is not connected. -/
theorem detect_noCrtc {r : DrmVop} {device : Int32} {index : OutputIndex}
    (hindex : getOutputIndex device = some index) {topo : DrmTopology} {ret : Bool}
    (hret : (detect r device topo).outcome = .ok ret)
    (hcrtc : ((detect r device topo).render.mOutputs index).crtc = none) :
    ((detect r device topo).render.mOutputs index).connected = false := by
  have hreset : ((r.setOutput index (resetOutput (r.mOutputs index))).mOutputs index).connected =
      false := by
    rw [DrmVop.setOutput_self]
    rfl
  unfold detect at hret hcrtc ⊢
  rw [hindex] at hret hcrtc ⊢
  dsimp only at hret hcrtc ⊢
  cases hres : topo.resources with
  | none => exact hreset
  | some res =>
    rw [hres] at hret hcrtc
    dsimp only at hret hcrtc ⊢
    split at hret
    · next hcap =>
      rw [if_pos hcap]
      exact hreset
    · next hcap =>
      rw [if_neg hcap] at hcrtc ⊢
      split at hret
      · next hatomic =>
        rw [if_pos hatomic]
        exact hreset
      · next hatomic =>
        rw [if_neg hatomic] at hcrtc
        generalize connectorLoop topo res device 0 res.connectors _ = found at hret hcrtc
        obtain ⟨-, hkept⟩ := finishDetect_output topo r index found
        rw [hkept] at hcrtc
        unfold finishDetect at hret
        cases hfault : found.fault with
        | some fault =>
          rw [hfault] at hret
          cases hret
        | none =>
          rw [hfault, hcrtc] at hret
          cases hret

/-- There the crtc is missing only for a plane that is not found: with a crtc, or with the
property, it is for framebuffer and crop to decide. -/
theorem planeReady_detected {r : DrmVop} {topo : DrmTopology} {ret : Bool}
    (hret : (detect r 0 topo).outcome = .ok ret) (width height : Int) (buffer : BufferHandle)
    (replies : RenderReplies) {planeId : Int32}
    (hplane : (findSidebandPlane (detect r 0 topo).render 0 replies.planes).ret = .ok planeId)
    (hcrtc : ((detect r 0 topo).render.mOutputs .primary).crtc = none) :
    PlaneReady (detect r 0 topo).render .primary width height buffer replies planeId ↔
      replies.crop.isSome = true := by
  have hoff := detect_noCrtc rfl hret hcrtc
  have hzero : planeId = 0 := by
    unfold findSidebandPlane at hplane
    rw [show getOutputIndex 0 = some .primary from rfl] at hplane
    dsimp only at hplane
    rw [if_pos hoff] at hplane
    exact (Except.ok.inj hplane).symm
  unfold PlaneReady
  rw [hcrtc, hzero]
  simp

/-- A plane that matches, on the display plugged in. -/
def planeDisplay : DrmTopology := { oneDisplay .connected with planes := some [8] }

/-- A buffer of 16 by 16; its framebuffer is made, or is not. -/
def renderReplies (fb : Option FbId) (crop : Option SidebandCrop) : RenderReplies where
  attributes := fun _ => ⟨5, 16, 16, .rgba8888, 64⟩
  planes := twoPlanes
  fb := ⟨some 1, 0, fun _ => fb⟩
  crop := crop

/-- No resources; no framebuffer; a crop from -1 to 65535. -/
theorem renderRequest_not_sound :
    (detect freshVop 0 { planeDisplay with resources := none }).outcome = .ok false ∧
      ¬ (setDrmPlane (detect freshVop 0 { planeDisplay with resources := none }).render .primary
        (16 - 0) (16 - 0) 1 (renderReplies (some ⟨1, by decide, by decide⟩) none)).Sound 16 16 ∧
      (detect freshVop 0 planeDisplay).outcome = .ok false ∧
      ¬ (setDrmPlane (detect freshVop 0 planeDisplay).render .primary (16 - 0) (16 - 0) 1
        (renderReplies none none)).Sound 16 16 ∧
      ¬ (setDrmPlane (detect freshVop 0 planeDisplay).render .primary (65535 - -1) (16 - 0) 1
        (renderReplies (some ⟨1, by decide, by decide⟩) none)).Sound 65536 16 := by
  refine ⟨rfl, fun h => h.noNullCrtc rfl, rfl, fun h => ?_, fun h => ?_⟩
  · exact absurd (h.fbId _ rfl) (by decide)
  · obtain ⟨-, hsize⟩ := h.srcW _ rfl
    exact absurd hsize (by decide)

end RockchipHal.Sideband
