import Mathlib.Data.List.Basic

/-!
# `RTMetadataRetrieverCallback`: the frames of the metadata retriever

The retriever of the rockit library calls `init` with the formats of a video and
`fillVideoFrame` with a decoded buffer.  Each `fillVideoFrame` allocates a frame and makes
it the frame of the object (`setFrame`) before it knows whether it can convert the buffer,
and nothing ever takes a frame back:

    (afterCalls isValid cb calls).mFrameMemory = some m, m new   some call stored a frame
    (afterCalls isValid cb calls).mFrameMemory = cb.mFrameMemory none did

`filled` are the frames of the calls that returned 0.  `lastStore` is the last call that
stores a frame, found without running the conversions; on it depends whether the frame
kept is the last one filled (`kept_eq_filled_iff`).
-/

namespace RockchipHal.Rockit

/-! ## Colour formats -/

def rtFmtYUV420SP : Int := 0
def rtFmtYUV420SP10Bit : Int := 1
def rtFmtRGB565 : Int := 0x10000
def rtFmtARGB8888 : Int := 0x1000a

def omxColorFormatUnused : Int := 0
def omxColorFormat16bitRGB565 : Int := 6
def omxColorFormat32bitBGRA8888 : Int := 15
def omxColorFormat32bitARGB8888 : Int := 16
def omxColorFormatYUV420SemiPlanar : Int := 21
def omxColorFormat32BitRGBA8888 : Int := 0x7F00A000

def transfRT2OmxColorFormat (src : Int) : Int :=
  if src = rtFmtYUV420SP ∨ src = rtFmtYUV420SP10Bit then omxColorFormatYUV420SemiPlanar
  else if src = rtFmtRGB565 then omxColorFormat16bitRGB565
  else if src = rtFmtARGB8888 then omxColorFormat32bitARGB8888
  else omxColorFormatUnused

/-! ## Metadata, frames and the object -/

/-- The keys of an `RtMetaData` that the retriever and its callback set or look up. -/
structure RtMetaData where
  /-- `kKeyFrameW`, `kKeyFrameH` -/
  frameW : Option Int
  frameH : Option Int
  /-- `kKeyVCodecWidth`, `kKeyVCodecHeight`, `kKeyVCodecRotation` -/
  vCodecWidth : Option Int
  vCodecHeight : Option Int
  vCodecRotation : Option Int
  /-- `kKeyCodecFormat` -/
  codecFormat : Option Int
  retrieverDstColorFormat : Option Int
  retrieverBufferAddress : Option Nat
  retrieverFrameAtTime : Option Int
  retrieverFrameOption : Option Int
  retrieverFrameMetaOnly : Option Bool
  /-- Whether `kRetrieverCallbackContext` is the callback of the retriever. -/
  retrieverCallbackContext : Bool
  retrieverReadMaxTime : Option Int
deriving DecidableEq, Repr

/-- After `clear`. -/
def RtMetaData.empty : RtMetaData :=
  ⟨none, none, none, none, none, none, none, none, none, none, none, false, none⟩

structure MetaDataCallBackCtx where
  mBpp : Int
  mSrcFormat : Int
  mDstFormat : Int
  mWidth : Int
  mHeight : Int
  mWStride : Int
  mHStride : Int
  mRotation : Int
deriving DecidableEq, Repr

/-- A call of `ColorConverter::convert` into a frame. -/
structure Conversion where
  srcFormat : Int
  dstFormat : Int
  /-- The buffer of the decoder; `tenBit` when `convert10bitTo8bit` copied it first. -/
  address : Nat
  tenBit : Bool
  width : Int
  height : Int
  stride : Int
  cropRight : Int
  cropBottom : Int
deriving DecidableEq, Repr

/-- A frame in shared memory, and what was converted into it. -/
structure VideoFrame where
  mWidth : Int
  mHeight : Int
  mDisplayWidth : Int
  mDisplayHeight : Int
  mTileWidth : Int
  mTileHeight : Int
  mRotationAngle : Int
  mBytesPerPixel : Int
  data : Option Conversion
deriving DecidableEq, Repr

/-- `memory` are the frames allocated so far, and `mFrameMemory` is one of them by its
number. -/
structure RTMetadataRetrieverCallback where
  mCtx : MetaDataCallBackCtx
  mFrameMemory : Option Nat
  memory : List VideoFrame
deriving DecidableEq, Repr

/-- Whether the two allocations of a `fillVideoFrame` succeed. -/
structure Granted where
  frameMem : Bool
  dstYuvAddr : Bool
deriving DecidableEq, Repr

namespace RTMetadataRetrieverCallback

/-- The constructor.  The width is what the source sets it to. -/
def new : RTMetadataRetrieverCallback :=
  ⟨⟨2, rtFmtYUV420SP, omxColorFormat16bitRGB565, rtFmtRGB565, 0, 0, 0, 0⟩, none, []⟩

/-- The formats that `init` takes from the metadata. -/
def initCtx (info : RtMetaData) : MetaDataCallBackCtx :=
  let dstFormat := info.retrieverDstColorFormat.getD omxColorFormat16bitRGB565
  { mBpp := if dstFormat = omxColorFormat16bitRGB565 then 2 else 4
    mSrcFormat := info.codecFormat.getD rtFmtYUV420SP
    mDstFormat := dstFormat
    mWidth := info.vCodecWidth.getD 0
    mHeight := info.vCodecHeight.getD 0
    mWStride := info.frameW.getD 0
    mHStride := info.frameH.getD 0
    mRotation := info.vCodecRotation.getD 0 }

def init (cb : RTMetadataRetrieverCallback) (info : Option RtMetaData) :
    Int × RTMetadataRetrieverCallback :=
  match info with
  | none => (-1, cb)
  | some info => (0, { cb with mCtx := initCtx info })

def setFrame (cb : RTMetadataRetrieverCallback) (frameMem : Nat) : RTMetadataRetrieverCallback :=
  { cb with mFrameMemory := some frameMem }

def extractFrames (cb : RTMetadataRetrieverCallback) : Option Nat := cb.mFrameMemory

/-- The number of the new frame; `none` when there is no memory for it. -/
def allocVideoFrame (cb : RTMetadataRetrieverCallback) (granted : Granted) :
    Option (Nat × RTMetadataRetrieverCallback) :=
  if granted.frameMem then
    let frame : VideoFrame := ⟨cb.mCtx.mWidth, cb.mCtx.mHeight, cb.mCtx.mWidth, cb.mCtx.mHeight,
      0, 0, cb.mCtx.mRotation, cb.mCtx.mBpp, none⟩
    some (cb.memory.length, { cb with memory := cb.memory ++ [frame] })
  else none

/-- `converter.convert`; its result is not looked at. -/
def convert (cb : RTMetadataRetrieverCallback) (frameMem : Nat) (c : Conversion) :
    RTMetadataRetrieverCallback :=
  { cb with memory := cb.memory.modify frameMem fun frame => { frame with data := some c } }

/-- `isValid` is `ColorConverter::isValid` for a source and a destination format. -/
def fillVideoFrame (isValid : Int → Int → Bool) (cb : RTMetadataRetrieverCallback)
    (info : Option RtMetaData) (granted : Granted) : Int × RTMetadataRetrieverCallback :=
  match info with
  | none => (-1, cb)
  | some info =>
    match cb.allocVideoFrame granted with
    | none => (-1, cb)
    | some (frameMem, allocated) =>
      let cb := allocated.setFrame frameMem
      let srcFormat := transfRT2OmxColorFormat cb.mCtx.mSrcFormat
      let dstFormat := cb.mCtx.mDstFormat
      if srcFormat = omxColorFormatUnused ∨ dstFormat = omxColorFormatUnused then (-1, cb)
      else
        match info.retrieverBufferAddress with
        | none => (-1, cb)
        | some srcYuvAddr =>
          if isValid srcFormat dstFormat then
            let tenBit := decide (cb.mCtx.mSrcFormat = rtFmtYUV420SP10Bit)
            if tenBit ∧ ¬ granted.dstYuvAddr then (-1, cb)
            else
              (0, cb.convert frameMem ⟨srcFormat, dstFormat, srcYuvAddr, tenBit,
                cb.mCtx.mWStride, cb.mCtx.mHStride, cb.mCtx.mWStride, cb.mCtx.mWidth - 1,
                cb.mCtx.mHeight - 1⟩)
          else (0, cb)

end RTMetadataRetrieverCallback

/-! ## The calls of one frame request -/

inductive CallbackCall
  | init (info : Option RtMetaData)
  | fillVideoFrame (info : Option RtMetaData) (granted : Granted)
deriving DecidableEq, Repr

namespace RTMetadataRetrieverCallback

def afterCall (isValid : Int → Int → Bool) (cb : RTMetadataRetrieverCallback) :
    CallbackCall → RTMetadataRetrieverCallback
  | .init info => (cb.init info).2
  | .fillVideoFrame info granted => (cb.fillVideoFrame isValid info granted).2

def afterCalls (isValid : Int → Int → Bool) (cb : RTMetadataRetrieverCallback)
    (calls : List CallbackCall) : RTMetadataRetrieverCallback :=
  calls.foldl (afterCall isValid) cb

/-- The frames of the `fillVideoFrame` calls that returned 0, in order.  The frame of a
call is the one it allocates. -/
def filled (isValid : Int → Int → Bool) :
    RTMetadataRetrieverCallback → List CallbackCall → List Nat
  | _, [] => []
  | cb, .init info :: calls => filled isValid (cb.init info).2 calls
  | cb, .fillVideoFrame info granted :: calls =>
    let made := cb.fillVideoFrame isValid info granted
    (if made.1 = 0 then [cb.memory.length] else []) ++ filled isValid made.2 calls

/-- A `fillVideoFrame` that gets as far as storing its frame: the formats it works with,
its metadata and its allocations. -/
structure Store where
  ctx : MetaDataCallBackCtx
  info : RtMetaData
  granted : Granted

/-- The call that would store. -/
def storeOf (ctx : MetaDataCallBackCtx) (info : Option RtMetaData) (granted : Granted) :
    Option Store :=
  if granted.frameMem then info.map fun info => ⟨ctx, info, granted⟩ else none

/-- The last of the calls that stores a frame. -/
def lastStore : MetaDataCallBackCtx → List CallbackCall → Option Store
  | _, [] => none
  | ctx, .init none :: calls => lastStore ctx calls
  | _, .init (some info) :: calls => lastStore (initCtx info) calls
  | ctx, .fillVideoFrame info granted :: calls =>
    (lastStore ctx calls).or (storeOf ctx info granted)

/-- Both formats are known, there is a buffer, and, where the converter takes ten-bit
samples, there is memory for the eight-bit copy. -/
structure Store.Usable (isValid : Int → Int → Bool) (s : Store) : Prop where
  src : transfRT2OmxColorFormat s.ctx.mSrcFormat ≠ omxColorFormatUnused
  dst : s.ctx.mDstFormat ≠ omxColorFormatUnused
  address : s.info.retrieverBufferAddress.isSome
  yuv : isValid (transfRT2OmxColorFormat s.ctx.mSrcFormat) s.ctx.mDstFormat →
    s.ctx.mSrcFormat = rtFmtYUV420SP10Bit → s.granted.dstYuvAddr

/-! ### One call -/

variable (isValid : Int → Int → Bool)

theorem storeOf_eq_some {ctx : MetaDataCallBackCtx} {info : Option RtMetaData}
    {granted : Granted} {st : Store} (h : storeOf ctx info granted = some st) :
    info = some st.info ∧ granted.frameMem = true ∧ st.ctx = ctx ∧ st.granted = granted := by
  unfold storeOf at h
  split at h
  · next hframe =>
    obtain ⟨i, hi, rfl⟩ := Option.map_eq_some_iff.mp h
    exact ⟨hi, hframe, rfl, rfl⟩
  · cases h

theorem fillVideoFrame_refused {cb : RTMetadataRetrieverCallback} {info : Option RtMetaData}
    {granted : Granted} (h : storeOf cb.mCtx info granted = none) :
    cb.fillVideoFrame isValid info granted = (-1, cb) := by
  cases info with
  | none => rfl
  | some i =>
    have hframe : granted.frameMem = false := by
      by_contra hgranted
      unfold storeOf at h
      rw [if_pos (by simpa using hgranted)] at h
      cases h
    have halloc : cb.allocVideoFrame granted = none := by
      unfold allocVideoFrame
      rw [hframe]
      rfl
    simp only [fillVideoFrame, halloc]

/-- The object right after `setFrame`: the new frame is kept, and nothing is in it. -/
def stored (cb : RTMetadataRetrieverCallback) : RTMetadataRetrieverCallback :=
  { cb with
    mFrameMemory := some cb.memory.length
    memory := cb.memory ++ [⟨cb.mCtx.mWidth, cb.mCtx.mHeight, cb.mCtx.mWidth, cb.mCtx.mHeight,
      0, 0, cb.mCtx.mRotation, cb.mCtx.mBpp, none⟩] }

theorem allocVideoFrame_granted {cb : RTMetadataRetrieverCallback} {granted : Granted}
    (h : granted.frameMem = true) :
    cb.allocVideoFrame granted =
      some (cb.memory.length, { cb with memory := cb.stored.memory }) := by
  unfold allocVideoFrame
  rw [if_pos h]
  rfl

theorem setFrame_stored (cb : RTMetadataRetrieverCallback) :
    ({ cb with memory := cb.stored.memory } : RTMetadataRetrieverCallback).setFrame
      cb.memory.length = cb.stored := rfl

/-- What a call that stores returns and leaves: the new frame is kept whether or not
something could be converted into it. -/
theorem fillVideoFrame_store {cb : RTMetadataRetrieverCallback} {info : Option RtMetaData}
    {granted : Granted} {st : Store} (h : storeOf cb.mCtx info granted = some st) :
    ((cb.fillVideoFrame isValid info granted).1 = 0 ↔ st.Usable isValid) ∧
      ((cb.fillVideoFrame isValid info granted).2 = cb.stored ∨
        ∃ c, (cb.fillVideoFrame isValid info granted).2 = cb.stored.convert cb.memory.length c) := by
  obtain ⟨rfl, hframe, hctx, hgranted⟩ := storeOf_eq_some h
  have hfail : ∀ P : Prop, ¬ P → ((-1 : Int) = 0 ↔ P) := fun P hP =>
    ⟨fun h0 => absurd h0 (by decide), fun hp => absurd hp hP⟩
  have hmCtx : cb.stored.mCtx = cb.mCtx := rfl
  simp only [fillVideoFrame, allocVideoFrame_granted hframe, setFrame_stored, hmCtx]
  split
  · next hunused =>
    refine ⟨hfail _ fun hu => ?_, .inl rfl⟩
    rcases hunused with hsrc | hdst
    · exact hu.src (by rw [hctx]; exact hsrc)
    · exact hu.dst (by rw [hctx]; exact hdst)
  · next hused =>
    obtain ⟨hsrc, hdst⟩ := not_or.mp hused
    cases haddr : st.info.retrieverBufferAddress with
    | none =>
      refine ⟨hfail _ fun hu => ?_, .inl rfl⟩
      have haddress := hu.address
      rw [haddr] at haddress
      cases haddress
    | some srcYuvAddr =>
      have hsome : st.info.retrieverBufferAddress.isSome := by rw [haddr]; rfl
      rw [← hctx] at hsrc hdst
      simp only []
      rw [← hctx, ← hgranted]
      split
      · next hvalid =>
        split
        · next hyuv =>
          refine ⟨hfail _ fun hu => ?_, .inl rfl⟩
          exact hyuv.2 (hu.yuv hvalid (by simpa using hyuv.1))
        · next hyuv =>
          refine ⟨⟨fun _ => ⟨hsrc, hdst, hsome, fun _ hten => ?_⟩, fun _ => rfl⟩, .inr ⟨_, rfl⟩⟩
          by_contra hno
          exact hyuv ⟨by simpa using hten, hno⟩
      · next hvalid =>
        exact ⟨⟨fun _ => ⟨hsrc, hdst, hsome, fun hv => absurd hv hvalid⟩, fun _ => rfl⟩, .inl rfl⟩

/-- The parts of the object after a call that stores. -/
theorem fillVideoFrame_kept {cb : RTMetadataRetrieverCallback} {info : Option RtMetaData}
    {granted : Granted} {st : Store} (h : storeOf cb.mCtx info granted = some st) :
    (cb.fillVideoFrame isValid info granted).2.mCtx = cb.mCtx ∧
      (cb.fillVideoFrame isValid info granted).2.mFrameMemory = some cb.memory.length ∧
      (cb.fillVideoFrame isValid info granted).2.memory.length = cb.memory.length + 1 := by
  have hlength : cb.stored.memory.length = cb.memory.length + 1 := by simp [stored]
  rcases (fillVideoFrame_store isValid h).2 with heq | ⟨c, heq⟩
  · rw [heq]
    exact ⟨rfl, rfl, hlength⟩
  · rw [heq]
    refine ⟨rfl, rfl, ?_⟩
    unfold convert
    rw [List.length_modify]
    exact hlength

/-- No call writes into a frame that was there before it. -/
theorem afterCall_memory (cb : RTMetadataRetrieverCallback) (call : CallbackCall) {i : Nat}
    (hi : i < cb.memory.length) :
    i < (afterCall isValid cb call).memory.length ∧
      (afterCall isValid cb call).memory[i]? = cb.memory[i]? := by
  cases call with
  | init info =>
    cases info with
    | none => exact ⟨hi, rfl⟩
    | some info => exact ⟨hi, rfl⟩
  | fillVideoFrame info granted =>
    show i < (cb.fillVideoFrame isValid info granted).2.memory.length ∧
      (cb.fillVideoFrame isValid info granted).2.memory[i]? = cb.memory[i]?
    cases hst : storeOf cb.mCtx info granted with
    | none =>
      rw [fillVideoFrame_refused isValid hst]
      exact ⟨hi, rfl⟩
    | some st =>
      have hkept := (fillVideoFrame_kept isValid hst).2.2
      refine ⟨by omega, ?_⟩
      have hstored : cb.stored.memory[i]? = cb.memory[i]? := List.getElem?_append_left hi
      rcases (fillVideoFrame_store isValid hst).2 with heq | ⟨c, heq⟩
      · rw [heq]
        exact hstored
      · rw [heq, ← hstored]
        show (cb.stored.memory.modify cb.memory.length _)[i]? = cb.stored.memory[i]?
        exact List.getElem?_modify_ne _ _ (Nat.ne_of_gt hi)

/-- A frame that the client got in an earlier request keeps its contents. -/
theorem afterCalls_memory (calls : List CallbackCall) :
    ∀ (cb : RTMetadataRetrieverCallback) (i : Nat), i < cb.memory.length →
      (afterCalls isValid cb calls).memory[i]? = cb.memory[i]? := by
  induction calls with
  | nil =>
    intro cb i hi
    rfl
  | cons call calls ih =>
    intro cb i hi
    obtain ⟨hlt, heq⟩ := afterCall_memory isValid cb call hi
    show (afterCalls isValid (afterCall isValid cb call) calls).memory[i]? = cb.memory[i]?
    rw [ih _ i hlt, heq]

/-! ### All calls of a request -/

/-- Without a call that stores, the frame kept is the one from before. -/
theorem lastStore_none (calls : List CallbackCall) :
    ∀ cb : RTMetadataRetrieverCallback, lastStore cb.mCtx calls = none →
      (afterCalls isValid cb calls).mFrameMemory = cb.mFrameMemory ∧
        filled isValid cb calls = [] := by
  induction calls with
  | nil =>
    intro cb h
    exact ⟨rfl, rfl⟩
  | cons call calls ih =>
    intro cb h
    cases call with
    | init info =>
      cases info with
      | none => exact ih cb h
      | some info => exact ih (cb.init (some info)).2 h
    | fillVideoFrame info granted =>
      obtain ⟨htail, hst⟩ := Option.or_eq_none_iff.mp h
      have hrefused := fillVideoFrame_refused isValid hst
      obtain ⟨hkept, hfilled⟩ := ih cb htail
      constructor
      · show (afterCalls isValid (cb.fillVideoFrame isValid info granted).2 calls).mFrameMemory =
          cb.mFrameMemory
        rw [hrefused]
        exact hkept
      · simp only [filled, hrefused, hfilled]
        rfl

/-- With one, the frame kept is new. -/
theorem lastStore_some (calls : List CallbackCall) :
    ∀ (cb : RTMetadataRetrieverCallback) (st : Store), lastStore cb.mCtx calls = some st →
      ∃ m, cb.memory.length ≤ m ∧ (afterCalls isValid cb calls).mFrameMemory = some m := by
  induction calls with
  | nil =>
    intro cb st h
    cases h
  | cons call calls ih =>
    intro cb st h
    cases call with
    | init info =>
      cases info with
      | none => exact ih cb st h
      | some info => exact ih (cb.init (some info)).2 st h
    | fillVideoFrame info granted =>
      show ∃ m, cb.memory.length ≤ m ∧
        (afterCalls isValid (cb.fillVideoFrame isValid info granted).2 calls).mFrameMemory = some m
      cases hst : storeOf cb.mCtx info granted with
      | none =>
        rw [fillVideoFrame_refused isValid hst]
        refine ih cb st ?_
        simpa [lastStore, hst] using h
      | some st' =>
        obtain ⟨hctx, hframe, hlength⟩ := fillVideoFrame_kept isValid hst
        cases htail : lastStore cb.mCtx calls with
        | none =>
          have hkept := (lastStore_none isValid calls _ (by rw [hctx]; exact htail)).1
          exact ⟨_, Nat.le_refl _, by rw [hkept, hframe]⟩
        | some st'' =>
          obtain ⟨m, hm, hkept⟩ := ih _ st'' (by rw [hctx]; exact htail)
          exact ⟨m, by omega, hkept⟩

/-- The frame kept is the last one filled: without a call that stores when no frame was
kept before, and otherwise when the last one that stores is usable. -/
def KeepsFilled (cb : RTMetadataRetrieverCallback) (calls : List CallbackCall) : Prop :=
  match lastStore cb.mCtx calls with
  | none => cb.mFrameMemory = none
  | some st => st.Usable isValid

/-- One more call in front changes the answer only when no later call stores. -/
theorem keepsFilled_cons {cb : RTMetadataRetrieverCallback} {info : Option RtMetaData}
    {granted : Granted} {st : Store} {calls : List CallbackCall}
    (hst : storeOf cb.mCtx info granted = some st) :
    KeepsFilled isValid cb (.fillVideoFrame info granted :: calls) ↔
      match lastStore cb.mCtx calls with
      | none => st.Usable isValid
      | some st' => st'.Usable isValid := by
  have hlast : lastStore cb.mCtx (.fillVideoFrame info granted :: calls) =
      (lastStore cb.mCtx calls).or (some st) := by
    rw [← hst]
    rfl
  unfold KeepsFilled
  rw [hlast]
  cases lastStore cb.mCtx calls with
  | none => rfl
  | some st' => rfl

theorem filled_cons (cb : RTMetadataRetrieverCallback) (info : Option RtMetaData)
    (granted : Granted) (calls : List CallbackCall) :
    filled isValid cb (.fillVideoFrame info granted :: calls) =
      (if (cb.fillVideoFrame isValid info granted).1 = 0 then [cb.memory.length] else []) ++
        filled isValid (cb.fillVideoFrame isValid info granted).2 calls := rfl

theorem afterCalls_cons (cb : RTMetadataRetrieverCallback) (info : Option RtMetaData)
    (granted : Granted) (calls : List CallbackCall) :
    afterCalls isValid cb (.fillVideoFrame info granted :: calls) =
      afterCalls isValid (cb.fillVideoFrame isValid info granted).2 calls := rfl

/-- The last call that stores: its frame stays, and is filled if the call is usable. -/
theorem kept_eq_filled_last {cb : RTMetadataRetrieverCallback} {info : Option RtMetaData}
    {granted : Granted} {st : Store} {calls : List CallbackCall}
    (hst : storeOf cb.mCtx info granted = some st) (htail : lastStore cb.mCtx calls = none) :
    (afterCalls isValid cb (.fillVideoFrame info granted :: calls)).mFrameMemory =
        (filled isValid cb (.fillVideoFrame info granted :: calls)).getLast? ↔
      st.Usable isValid := by
  obtain ⟨hctx, hframe, -⟩ := fillVideoFrame_kept isValid hst
  obtain ⟨hkept, hfilled⟩ := lastStore_none isValid calls _ (by rw [hctx]; exact htail)
  rw [afterCalls_cons, filled_cons, hkept, hfilled, hframe, List.append_nil,
    ← (fillVideoFrame_store isValid hst).1]
  split
  · next h0 => exact ⟨fun _ => h0, fun _ => rfl⟩
  · next h0 =>
    refine ⟨fun h => ?_, fun h => absurd h h0⟩
    cases h

/-- An earlier call that stores: its frame does not stay, so only the later calls count. -/
theorem kept_eq_filled_earlier {cb : RTMetadataRetrieverCallback} {info : Option RtMetaData}
    {granted : Granted} {st st' : Store} {calls : List CallbackCall}
    (hst : storeOf cb.mCtx info granted = some st)
    (htail : lastStore cb.mCtx calls = some st') :
    (afterCalls isValid cb (.fillVideoFrame info granted :: calls)).mFrameMemory =
        (filled isValid cb (.fillVideoFrame info granted :: calls)).getLast? ↔
      (afterCalls isValid (cb.fillVideoFrame isValid info granted).2 calls).mFrameMemory =
        (filled isValid (cb.fillVideoFrame isValid info granted).2 calls).getLast? := by
  obtain ⟨hctx, -, hlength⟩ := fillVideoFrame_kept isValid hst
  obtain ⟨m, hm, hkept⟩ := lastStore_some isValid calls _ st' (by rw [hctx]; exact htail)
  rw [afterCalls_cons, filled_cons, hkept, List.getLast?_append]
  cases (filled isValid (cb.fillVideoFrame isValid info granted).2 calls).getLast? with
  | some f => rfl
  | none =>
    split
    · constructor
      · intro h
        have hm' : m = cb.memory.length := by simpa using h
        omega
      · intro h
        cases h
    · rfl

theorem kept_eq_filled_iff (calls : List CallbackCall) :
    ∀ cb : RTMetadataRetrieverCallback,
      ((afterCalls isValid cb calls).mFrameMemory = (filled isValid cb calls).getLast? ↔
        KeepsFilled isValid cb calls) := by
  induction calls with
  | nil =>
    intro cb
    rfl
  | cons call calls ih =>
    intro cb
    cases call with
    | init info =>
      cases info with
      | none => exact ih cb
      | some info => exact ih (cb.init (some info)).2
    | fillVideoFrame info granted =>
      cases hst : storeOf cb.mCtx info granted with
      | none =>
        -- The call leaves no trace.
        rw [afterCalls_cons, filled_cons, fillVideoFrame_refused isValid hst,
          if_neg (show ¬ (-1 : Int) = 0 by decide), List.nil_append, ih cb]
        unfold KeepsFilled
        simp only [lastStore, hst, Option.or_none]
      | some st =>
        rw [keepsFilled_cons isValid hst]
        cases htail : lastStore cb.mCtx calls with
        | none => exact kept_eq_filled_last isValid hst htail
        | some st' =>
          rw [kept_eq_filled_earlier isValid hst htail, ih]
          unfold KeepsFilled
          rw [(fillVideoFrame_kept isValid hst).1, htail]

end RTMetadataRetrieverCallback

end RockchipHal.Rockit
