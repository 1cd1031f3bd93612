import RockchipHal.Rockit.MetadataRetrieverCallback

/-!
# `RockitMetadataRetriever`: freshness of frames

A frame request hands the callback object to the retriever, which calls it as often as it
likes, and then returns `extractFrames()`: whatever frame the object keeps.  Neither a new
request nor a new data source takes that frame away, and a `fillVideoFrame` that fails
after `setFrame` leaves its empty frame there.

    AllFresh isValid r calls ↔ AllFit isValid false r calls        (frames_fresh_iff)

for every sequence of calls on a new object: each request returns the last frame filled in
it exactly when each request that stores a frame ends with a usable store, and no request
without one comes after one with.
-/

namespace RockchipHal.Rockit

open RTMetadataRetrieverCallback

def halPixelFormatRGBA8888 : Int := 1
def halPixelFormatRGB565 : Int := 4
def halPixelFormatBGRA8888 : Int := 5

/-- `MediaSource::ReadOptions::SEEK_FRAME_INDEX` -/
def seekFrameIndex : Int := 4

def ok : Int := 0
/-- `INT32_MIN` -/
def unknownError : Int := -0x80000000

/-- The parts of `mCtx` are listed with the members. -/
structure RockitMetadataRetriever where
  mEnable : Bool
  mParsedMetaData : Bool
  mMetaData : List (Int × List Char)
  mAlbumArt : Option (List UInt8)
  /-- Whether the library has made a retriever. -/
  mRetriever : Bool
  mRtMetaData : Option RtMetaData
  mCallBack : Option RTMetadataRetrieverCallback

/-- The calls of the client.  What the library answers is part of the call: the result of
`setDataSource`, and the calls made on the callback during a frame request. -/
inductive RetrieverCall
  | setDataSourceUrl (url : List Char) (headers : Option (List (List Char × List Char)))
      (retriever : List Char → List Char → Int)
  | setDataSourceFd (fd offset length : Int) (retriever : Int → Int → Int → Int)
  | setDataSource
  | getFrameAtTime (timeUs option colorFormat : Int) (metaOnly : Bool)
      (retriever : RtMetaData → List CallbackCall)
  | getFrameAtIndex (frameIndex colorFormat : Int) (metaOnly : Bool)
      (retriever : RtMetaData → List CallbackCall)

namespace RockitMetadataRetriever

/-- The constructor: the property, whether the library opens, and what it can make. -/
def new (enable library retriever metaData : Bool) : RockitMetadataRetriever :=
  if enable && library then
    ⟨enable, false, [], none, retriever, if metaData then some .empty else none, some .new⟩
  else ⟨enable, false, [], none, false, none, none⟩

def isEnable (r : RockitMetadataRetriever) : Bool := r.mEnable

def check (r : RockitMetadataRetriever) : Bool :=
  r.mRetriever && r.mRtMetaData.isSome && r.isEnable

/-- The format, and the bytes of a pixel. -/
def getDstColorFormat (colorFormat : Int) : Option (Int × Int) :=
  if colorFormat = halPixelFormatRGB565 then some (omxColorFormat16bitRGB565, 2)
  else if colorFormat = halPixelFormatRGBA8888 then some (omxColorFormat32BitRGBA8888, 4)
  else if colorFormat = halPixelFormatBGRA8888 then some (omxColorFormat32bitBGRA8888, 4)
  else none

def clearRTMetadata (r : RockitMetadataRetriever) : RockitMetadataRetriever :=
  { r with mRtMetaData := r.mRtMetaData.map fun _ => .empty }

def clearMetadata (r : RockitMetadataRetriever) : RockitMetadataRetriever :=
  clearRTMetadata { r with mParsedMetaData := false, mMetaData := [], mAlbumArt := none }

def prepareUrlHeader (headers : Option (List (List Char × List Char))) (str : List Char) :
    List Char :=
  match headers with
  | none => str
  | some headers =>
    headers.foldl (fun str h => str ++ (h.1 ++ ": ".toList ++ h.2 ++ "\r\n".toList)) str

def setDataSourceUrl (r : RockitMetadataRetriever) (url : List Char)
    (headers : Option (List (List Char × List Char))) (retriever : List Char → List Char → Int) :
    Int × RockitMetadataRetriever :=
  if r.check then
    (if retriever url (prepareUrlHeader headers []) = 0 then ok else unknownError,
      r.clearMetadata)
  else (unknownError, r)

def setDataSourceFd (r : RockitMetadataRetriever) (fd offset length : Int)
    (retriever : Int → Int → Int → Int) : Int × RockitMetadataRetriever :=
  if r.check then
    (if retriever fd offset length = 0 then ok else unknownError, r.clearMetadata)
  else (unknownError, r)

def setDataSource (r : RockitMetadataRetriever) : Int × RockitMetadataRetriever :=
  if r.check then (ok, r.clearMetadata) else (unknownError, r)

/-- The keys that a request sets in the cleared metadata. -/
def frameMetaData (timeUs option dstFormat : Int) (metaOnly : Bool) : RtMetaData :=
  { RtMetaData.empty with
    retrieverFrameAtTime := some timeUs
    retrieverFrameOption := some option
    retrieverDstColorFormat := some dstFormat
    retrieverFrameMetaOnly := some metaOnly
    retrieverCallbackContext := true
    retrieverReadMaxTime := some 3000000 }

def getFrameInternal (isValid : Int → Int → Bool) (r : RockitMetadataRetriever)
    (timeUs option colorFormat : Int) (metaOnly : Bool)
    (retriever : RtMetaData → List CallbackCall) : Option Nat × RockitMetadataRetriever :=
  match getDstColorFormat colorFormat with
  | none => (none, r)
  | some (dstFormat, _) =>
    match r.mCallBack with
    | none => (none, r)
    | some callBackCtx =>
      let info := frameMetaData timeUs option dstFormat metaOnly
      let served := callBackCtx.afterCalls isValid (retriever info)
      (served.extractFrames, { r with mRtMetaData := some info, mCallBack := some served })

def getFrameAtTime (isValid : Int → Int → Bool) (r : RockitMetadataRetriever)
    (timeUs option colorFormat : Int) (metaOnly : Bool)
    (retriever : RtMetaData → List CallbackCall) : Option Nat × RockitMetadataRetriever :=
  if r.check then r.getFrameInternal isValid timeUs option colorFormat metaOnly retriever
  else (none, r)

def getFrameAtIndex (isValid : Int → Int → Bool) (r : RockitMetadataRetriever)
    (frameIndex colorFormat : Int) (metaOnly : Bool) (retriever : RtMetaData → List CallbackCall) :
    Option Nat × RockitMetadataRetriever :=
  if r.check then
    r.getFrameInternal isValid frameIndex seekFrameIndex colorFormat metaOnly retriever
  else (none, r)

/-! ## Sequences of calls -/

/-- The frame returned, and the object afterwards. -/
def serve (isValid : Int → Int → Bool) (r : RockitMetadataRetriever) :
    RetrieverCall → Option Nat × RockitMetadataRetriever
  | .setDataSourceUrl url headers retriever => (none, (r.setDataSourceUrl url headers retriever).2)
  | .setDataSourceFd fd offset length retriever =>
    (none, (r.setDataSourceFd fd offset length retriever).2)
  | .setDataSource => (none, r.setDataSource.2)
  | .getFrameAtTime timeUs option colorFormat metaOnly retriever =>
    r.getFrameAtTime isValid timeUs option colorFormat metaOnly retriever
  | .getFrameAtIndex frameIndex colorFormat metaOnly retriever =>
    r.getFrameAtIndex isValid frameIndex colorFormat metaOnly retriever

/-- The callback object that a request hands out, and the calls made on it: there are such
only when the checks let the request through to the retriever. -/
def handedOut (r : RockitMetadataRetriever) (timeUs option colorFormat : Int) (metaOnly : Bool)
    (retriever : RtMetaData → List CallbackCall) :
    Option (RTMetadataRetrieverCallback × List CallbackCall) :=
  if r.check then
    (getDstColorFormat colorFormat).bind fun dst =>
      r.mCallBack.map fun cb => (cb, retriever (frameMetaData timeUs option dst.1 metaOnly))
  else none

def request (r : RockitMetadataRetriever) :
    RetrieverCall → Option (RTMetadataRetrieverCallback × List CallbackCall)
  | .setDataSourceUrl _ _ _ => none
  | .setDataSourceFd _ _ _ _ => none
  | .setDataSource => none
  | .getFrameAtTime timeUs option colorFormat metaOnly retriever =>
    r.handedOut timeUs option colorFormat metaOnly retriever
  | .getFrameAtIndex frameIndex colorFormat metaOnly retriever =>
    r.handedOut frameIndex seekFrameIndex colorFormat metaOnly retriever

variable (isValid : Int → Int → Bool)

/-- The frames that were filled during the call. -/
def filledBy (r : RockitMetadataRetriever) (call : RetrieverCall) : List Nat :=
  match r.request call with
  | none => []
  | some (cb, calls) => cb.filled isValid calls

/-- A frame is returned only when one was filled during the call, and then the last one. -/
def Fresh (r : RockitMetadataRetriever) (call : RetrieverCall) : Prop :=
  (r.serve isValid call).1 = (r.filledBy isValid call).getLast?

def AllFresh : RockitMetadataRetriever → List RetrieverCall → Prop
  | _, [] => True
  | r, call :: calls => Fresh isValid r call ∧ AllFresh (r.serve isValid call).2 calls

/-- The last call on the callback that stores a frame during the call. -/
def storesBy (r : RockitMetadataRetriever) (call : RetrieverCall) : Option Store :=
  (r.request call).bind fun p => lastStore p.1.mCtx p.2

/-- `stored` says whether an earlier request has stored a frame. -/
def Fits (stored : Bool) (r : RockitMetadataRetriever) (call : RetrieverCall) : Prop :=
  match r.storesBy call with
  | some st => st.Usable isValid
  | none => (r.request call).isSome → stored = false

def AllFit : Bool → RockitMetadataRetriever → List RetrieverCall → Prop
  | _, _, [] => True
  | stored, r, call :: calls => Fits isValid stored r call ∧
    AllFit (stored || (r.storesBy call).isSome) (r.serve isValid call).2 calls

/-! ## One call -/

theorem getFrame_eq (r : RockitMetadataRetriever) (timeUs option colorFormat : Int)
    (metaOnly : Bool) (retriever : RtMetaData → List CallbackCall) :
    match r.handedOut timeUs option colorFormat metaOnly retriever with
    | none => r.getFrameAtTime isValid timeUs option colorFormat metaOnly retriever = (none, r)
    | some (cb, calls) => r.mCallBack = some cb ∧
      (r.getFrameAtTime isValid timeUs option colorFormat metaOnly retriever).1 =
        (cb.afterCalls isValid calls).mFrameMemory ∧
      (r.getFrameAtTime isValid timeUs option colorFormat metaOnly retriever).2.mCallBack =
        some (cb.afterCalls isValid calls) := by
  unfold handedOut getFrameAtTime getFrameInternal
  by_cases hcheck : r.check
  · rw [if_pos hcheck, if_pos hcheck]
    cases getDstColorFormat colorFormat with
    | none => rfl
    | some dst =>
      cases hcb : r.mCallBack with
      | none => rfl
      | some cb => exact ⟨rfl, rfl, rfl⟩
  · rw [if_neg hcheck, if_neg hcheck]

/-- Setting a data source, in each of the three ways, leaves the callback as it is. -/
theorem mCallBack_cleared (r : RockitMetadataRetriever) (ret : Int) :
    (if r.check then (ret, r.clearMetadata) else (unknownError, r)).2.mCallBack =
      r.mCallBack := by
  split <;> rfl

/-- A call that does not get to the retriever returns no frame and leaves the callback as
it is. -/
theorem serve_of_none {r : RockitMetadataRetriever} {call : RetrieverCall}
    (h : r.request call = none) :
    (r.serve isValid call).1 = none ∧ (r.serve isValid call).2.mCallBack = r.mCallBack := by
  cases call with
  | setDataSourceUrl url headers retriever => exact ⟨rfl, r.mCallBack_cleared _⟩
  | setDataSourceFd fd offset length retriever => exact ⟨rfl, r.mCallBack_cleared _⟩
  | setDataSource => exact ⟨rfl, r.mCallBack_cleared _⟩
  | getFrameAtTime timeUs option colorFormat metaOnly retriever =>
    have hget := r.getFrame_eq isValid timeUs option colorFormat metaOnly retriever
    rw [show r.handedOut timeUs option colorFormat metaOnly retriever = none from h] at hget
    exact ⟨congrArg Prod.fst hget, congrArg (fun p => p.2.mCallBack) hget⟩
  | getFrameAtIndex frameIndex colorFormat metaOnly retriever =>
    have hget := r.getFrame_eq isValid frameIndex seekFrameIndex colorFormat metaOnly retriever
    rw [show r.handedOut frameIndex seekFrameIndex colorFormat metaOnly retriever = none from h]
      at hget
    exact ⟨congrArg Prod.fst hget, congrArg (fun p => p.2.mCallBack) hget⟩

/-- A request that does returns the frame the callback keeps after the calls made on it. -/
theorem serve_of_some {r : RockitMetadataRetriever} {call : RetrieverCall}
    {cb : RTMetadataRetrieverCallback} {calls : List CallbackCall}
    (h : r.request call = some (cb, calls)) :
    r.mCallBack = some cb ∧
      (r.serve isValid call).1 = (cb.afterCalls isValid calls).mFrameMemory ∧
      (r.serve isValid call).2.mCallBack = some (cb.afterCalls isValid calls) := by
  cases call with
  | setDataSourceUrl url headers retriever => cases h
  | setDataSourceFd fd offset length retriever => cases h
  | setDataSource => cases h
  | getFrameAtTime timeUs option colorFormat metaOnly retriever =>
    have hget := r.getFrame_eq isValid timeUs option colorFormat metaOnly retriever
    rw [show r.handedOut timeUs option colorFormat metaOnly retriever = some (cb, calls) from h]
      at hget
    exact hget
  | getFrameAtIndex frameIndex colorFormat metaOnly retriever =>
    have hget := r.getFrame_eq isValid frameIndex seekFrameIndex colorFormat metaOnly retriever
    rw [show r.handedOut frameIndex seekFrameIndex colorFormat metaOnly retriever =
      some (cb, calls) from h] at hget
    exact hget

/-! ## All calls -/

/-- `stored` is right about the callback object. -/
def Remembers (stored : Bool) (r : RockitMetadataRetriever) : Prop :=
  ∀ cb ∈ r.mCallBack, (cb.mFrameMemory = none ↔ stored = false)

theorem new_remembers (enable library retriever metaData : Bool) :
    Remembers false (new enable library retriever metaData) := by
  intro cb hcb
  unfold new at hcb
  split at hcb
  · cases hcb
    exact ⟨fun _ => rfl, fun _ => rfl⟩
  · cases hcb

theorem serve_remembers {stored : Bool} {r : RockitMetadataRetriever} (h : Remembers stored r)
    (call : RetrieverCall) :
    Remembers (stored || (r.storesBy call).isSome) (r.serve isValid call).2 := by
  intro cb' hcb'
  cases hreq : r.request call with
  | none =>
    rw [(serve_of_none isValid hreq).2] at hcb'
    have hstores : r.storesBy call = none := by
      unfold storesBy
      rw [hreq]
      rfl
    rw [hstores, Option.isSome_none, Bool.or_false]
    exact h cb' hcb'
  | some p =>
    obtain ⟨cb, calls⟩ := p
    obtain ⟨hcb, -, hafter⟩ := serve_of_some isValid hreq
    have hstores : r.storesBy call = lastStore cb.mCtx calls := by
      unfold storesBy
      rw [hreq]
      rfl
    rw [hafter] at hcb'
    cases hcb'
    rw [hstores]
    cases hlast : lastStore cb.mCtx calls with
    | none =>
      rw [(lastStore_none isValid calls cb hlast).1, Option.isSome_none, Bool.or_false]
      exact h cb hcb
    | some st =>
      obtain ⟨m, -, hm⟩ := lastStore_some isValid calls cb st hlast
      rw [hm]
      simp

theorem fresh_iff {stored : Bool} {r : RockitMetadataRetriever} (h : Remembers stored r)
    (call : RetrieverCall) : Fresh isValid r call ↔ Fits isValid stored r call := by
  unfold Fresh Fits filledBy storesBy
  cases hreq : r.request call with
  | none =>
    rw [(serve_of_none isValid hreq).1]
    simp
  | some p =>
    obtain ⟨cb, calls⟩ := p
    obtain ⟨hcb, hframe, -⟩ := serve_of_some isValid hreq
    rw [hframe]
    simp only [Option.bind_some, Option.isSome_some, true_implies]
    rw [kept_eq_filled_iff, KeepsFilled]
    cases lastStore cb.mCtx calls with
    | none => exact h cb hcb
    | some st => rfl

theorem allFresh_iff (calls : List RetrieverCall) :
    ∀ (stored : Bool) (r : RockitMetadataRetriever), Remembers stored r →
      (AllFresh isValid r calls ↔ AllFit isValid stored r calls) := by
  induction calls with
  | nil =>
    intro stored r h
    rfl
  | cons call calls ih =>
    intro stored r h
    unfold AllFresh AllFit
    rw [fresh_iff isValid h call, ih _ _ (serve_remembers isValid h call)]

/-- **Fresh frames**, for every sequence of calls on a new object. -/
theorem frames_fresh_iff (enable library retriever metaData : Bool) (calls : List RetrieverCall) :
    AllFresh isValid (new enable library retriever metaData) calls ↔
      AllFit isValid false (new enable library retriever metaData) calls :=
  allFresh_iff isValid calls false _ (new_remembers enable library retriever metaData)

/-- Metadata of a decoded picture in the given source format. -/
def decoded (codecFormat : Int) : RtMetaData :=
  { RtMetaData.empty with
    frameW := some 64
    frameH := some 64
    vCodecWidth := some 64
    vCodecHeight := some 64
    codecFormat := some codecFormat
    retrieverBufferAddress := some 0x1000 }

/-- The retriever announces the picture and has it filled in. -/
def fillOnce (codecFormat : Int) (_ : RtMetaData) : List CallbackCall :=
  [.init (some (decoded codecFormat)), .fillVideoFrame (some (decoded codecFormat)) ⟨true, true⟩]

/-- The retriever finds no picture. -/
def fillNothing (_ : RtMetaData) : List CallbackCall := []

/-- The frame of the first data source is returned for the second one, which has none; and
a picture in a format without a converter (`RT_FMT_YUV422SP`) makes `fillVideoFrame` fail,
but its empty frame is returned. -/
theorem frame_stale :
    ¬ AllFresh (fun _ _ => true) (new true true true true)
        [.getFrameAtTime 0 0 halPixelFormatRGB565 false (fillOnce rtFmtYUV420SP),
          .setDataSourceFd 5 0 100 (fun _ _ _ => 0),
          .getFrameAtTime 0 0 halPixelFormatRGB565 false fillNothing] ∧
      ¬ AllFresh (fun _ _ => true) (new true true true true)
        [.getFrameAtTime 0 0 halPixelFormatRGB565 false (fillOnce 2)] := by
  constructor
  · rintro ⟨-, -, hfresh, -⟩
    have hstale : some 0 = (none : Option Nat) := hfresh
    cases hstale
  · rintro ⟨hfresh, -⟩
    have hempty : some 0 = (none : Option Nat) := hfresh
    cases hempty

end RockitMetadataRetriever

end RockchipHal.Rockit
