import Mathlib.Algebra.GroupWithZero.Nat
import RockchipHal.Sideband.Window

/-!
# `DrmVopRender`: the framebuffer of a buffer

`GetFbid` asks gralloc for the buffer's prime file descriptor and looks the number up
in `mFbidMap`.  When it is not there, it makes a framebuffer and inserts the id, also
the 0 a failure leaves; nothing is ever taken out of the map.

An `int` that gralloc answers with is its bit pattern.
-/

namespace RockchipHal.Sideband

/-- The HAL pixel formats with a case of their own. -/
inductive HalPixelFormat
  | rgb888 | bgra8888 | rgbx8888 | rgba8888 | rgb565 | yv12 | yCrCbNV12 | yCrCbNV12_10
  | other (code : UInt32)
deriving DecidableEq, Repr

/-- The DRM formats, and what an unknown HAL format becomes. -/
inductive DrmFormat
  | bgr888 | argb8888 | xbgr8888 | abgr8888 | rgb565 | yvu420 | nv12 | nv12_10 | minusEinval
deriving DecidableEq, Repr

def convertHalFormatToDrm : HalPixelFormat → DrmFormat
  | .rgb888 => .bgr888
  | .bgra8888 => .argb8888
  | .rgbx8888 => .xbgr8888
  | .rgba8888 => .abgr8888
  | .rgb565 => .rgb565
  | .yv12 => .yvu420
  | .yCrCbNV12 => .nv12
  | .yCrCbNV12_10 => .nv12_10
  | .other _ => .minusEinval

/-- What gralloc answers for a handle. -/
structure GrallocAttributes where
  fd : Int
  width : UInt32
  height : UInt32
  format : HalPixelFormat
  byteStride : UInt32
deriving DecidableEq, Repr

/-- `hwc_drm_bo_t`, with the first two planes; the other two stay 0. -/
structure Bo where
  width : UInt32
  height : UInt32
  format : DrmFormat
  pitches : UInt32 × UInt32
  offsets : UInt32 × UInt32
  gemHandles : UInt32 × UInt32
deriving DecidableEq, Repr

/-- A framebuffer's id.  The kernel numbers its mode objects from 1, within an `int`. -/
structure FbId where
  id : Nat
  pos : 0 < id
  lt : id < 2 ^ 31
deriving DecidableEq, Repr

/-- The kernel's answers in one call: the handle `drmPrimeFDToHandle` stores, or else what
lies in the uninitialised `gem_handle`; and the id `drmModeAddFB2` stores. -/
structure FbReplies where
  primeFDToHandle : Option UInt32
  garbage : UInt32
  addFB2 : Bo → Option FbId

def FbReplies.gemHandle (replies : FbReplies) : UInt32 :=
  replies.primeFDToHandle.getD replies.garbage

def alignDown (value base : UInt32) : UInt32 := value &&& ~~~(base - 1)

/-- The `bo` that `drmModeAddFB2` gets.  `src_w / 1.25` is cut to an integer. -/
def makeBo (attributes : GrallocAttributes) (gemHandle : UInt32) : Bo :=
  let format := attributes.format
  let hasChroma : Bool := format = .yCrCbNV12 ∨ format = .yCrCbNV12_10
  { width :=
      if format = .yCrCbNV12_10 then alignDown (UInt32.ofNat (attributes.width.toNat * 4 / 5)) 2
      else attributes.width
    height := attributes.height
    format := convertHalFormatToDrm format
    pitches := (attributes.byteStride, if hasChroma then attributes.byteStride else 0)
    offsets := (0, if hasChroma then attributes.byteStride * attributes.height else 0)
    gemHandles := (gemHandle, if hasChroma then gemHandle else 0) }

/-- The framebuffer a call makes, if it can. -/
def addFramebuffer (attributes : GrallocAttributes) (replies : FbReplies) : Option FbId :=
  replies.addFB2 (makeBo attributes replies.gemHandle)

/-- `bo.fb_id` as an `int`: 0 after a failure. -/
def boFbId (fb : Option FbId) : Int :=
  match fb with
  | some fb => fb.id
  | none => 0

structure DrmVopRender where
  mFbidMap : List (Int × Int)
deriving DecidableEq, Repr

/-- An id that is not positive is answered with -1. -/
def checkFbid (fbid : Int) : Int := if fbid ≤ 0 then -1 else fbid

/-- The id returned, and the renderer afterwards. -/
def getFbid (r : DrmVopRender) (attributes : GrallocAttributes) (replies : FbReplies) :
    Int × DrmVopRender :=
  match r.mFbidMap.lookup attributes.fd with
  | none =>
    let fbid := boFbId (addFramebuffer attributes replies)
    (checkFbid fbid, ⟨(attributes.fd, fbid) :: r.mFbidMap⟩)
  | some fbid => (checkFbid fbid, r)

theorem boFbId_some (fb : FbId) : 0 < boFbId (some fb) := by
  have hpos := fb.pos
  show (0 : Int) < fb.id
  omega

theorem checkFbid_of_pos {fbid : Int} (h : 0 < fbid) : checkFbid fbid = fbid := by
  unfold checkFbid
  rw [if_neg (by omega)]

theorem checkFbid_of_nonpos {fbid : Int} (h : ¬ 0 < fbid) : checkFbid fbid = -1 := by
  unfold checkFbid
  rw [if_pos (by omega)]

theorem checkFbid_eq_iff (fbid : Int) : checkFbid fbid = -1 ↔ ¬ 0 < fbid := by
  by_cases h : 0 < fbid
  · rw [checkFbid_of_pos h]
    omega
  · exact iff_of_true (checkFbid_of_nonpos h) h

end RockchipHal.Sideband
