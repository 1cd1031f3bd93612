import RockchipHal.Lib.Bytes
import RockchipHal.Lib.KeyedList
import RockchipHal.RockitHw.Interface
import RockchipHal.RockitHw.Drm

/-!
# `RockitHwMpi`

The decoder object behind the Rockit HW HAL: its two buffer lists and the calls
of `RockitHwInterface` on it.  `mCommitList` are the frame buffers the client
committed to the decoder, `mDataList` the bitstream buffers that are mapped; both
are searched by the buffer id.

Each call is a function of the object, its arguments and the answers it gets
from outside; its `Result` is the return code, the object afterwards and the
effects.  Calls that look parameters up log where they read (`Reads`).
-/

namespace RockchipHal.RockitHw

/-! ## The object -/

inductive BufferSite
  | byMpi | byRockit
deriving DecidableEq, Repr

structure MppBufferCtx where
  mFd : Int
  mUniqueID : UInt32
  mMppBuffer : Option MppBuffer
  mSite : BufferSite
deriving DecidableEq, Repr

structure DataBufferCtx where
  mFd : Int
  mUniqueID : UInt32
  mData : Nat
  mSize : UInt32
  mSite : BufferSite
deriving DecidableEq, Repr

/-- `~DataBufferCtx`. -/
def DataBufferCtx.delete (b : DataBufferCtx) : List Event :=
  (if b.mData ≠ 0 then [.munmap b.mData b.mSize] else []) ++
    (if 0 ≤ b.mFd then [.close b.mFd] else [])

structure MpiCodecContext where
  mppCtx : Nat
  frmGrp : Nat
  mCommitList : List MppBufferCtx
  mDataList : List DataBufferCtx
deriving DecidableEq, Repr

structure RockitHwMpi where
  mCtx : Option MpiCodecContext
  mDrmFd : Int
  mWStride : UInt32
  mHStride : UInt32
  mDebug : Bool
deriving DecidableEq, Repr

structure Result where
  ret : Int
  hal : RockitHwMpi
  events : List Event
deriving DecidableEq, Repr

/-- The context, when the object has one and its DRM device is open. -/
def RockitHwMpi.openCtx (m : RockitHwMpi) : Option MpiCodecContext :=
  if m.mDrmFd < 0 then none else m.mCtx

/-! ## The buffer lists -/

def findMppBuffer (l : List MppBufferCtx) (fd : UInt32) : Option MppBufferCtx :=
  l.find? fun b => b.mUniqueID = fd

/-- Changes the entry `findMppBuffer` returns, through its pointer. -/
def modifyMppBuffer (l : List MppBufferCtx) (fd : UInt32) (f : MppBufferCtx → MppBufferCtx) :
    List MppBufferCtx :=
  modifyKey MppBufferCtx.mUniqueID fd f l

/-- The loop of `cleanMppBuffer(site)` over the indices below `i`, from the last one. -/
def cleanMppBufferBelow (site : BufferSite) : (i : Nat) → List MppBufferCtx → List MppBufferCtx
  | 0, l => l
  | i + 1, l =>
    if l[i]?.any fun b => b.mSite = site then cleanMppBufferBelow site i (l.eraseIdx i)
    else cleanMppBufferBelow site i l

def cleanMppBuffer (site : BufferSite) (l : List MppBufferCtx) : List MppBufferCtx :=
  cleanMppBufferBelow site l.length l

/-- The loop runs over every index, but looks at `editItemAt(0)` each time. -/
def findDataBuffer (l : List DataBufferCtx) (fd : UInt32) : Option DataBufferCtx :=
  (List.range l.length).findSome? fun _ => l[0]?.filter fun b => b.mUniqueID = fd

def addDataBufferList (ctx : MpiCodecContext) (b : DataBufferCtx) : MpiCodecContext :=
  { ctx with mDataList := ctx.mDataList ++ [b] }

/-- Removes and deletes the first entry with the id. -/
def freeDataBuffer (l : List DataBufferCtx) (bufferId : UInt32) :
    List DataBufferCtx × List Event :=
  match l with
  | [] => ([], [])
  | b :: l =>
    if b.mUniqueID = bufferId then (l, b.delete)
    else
      let rest := freeDataBuffer l bufferId
      (b :: rest.1, rest.2)

/-- Deletes every entry, first to last. -/
def freeDataBufferList (l : List DataBufferCtx) : List Event := l.flatMap DataBufferCtx.delete

/-! ## init -/

structure InitReplies where
  /-- whether the context can be allocated -/
  malloc : Bool
  mppCreate : Except Int Nat
  mppInit : Int
  groupGet : Except Int Nat
  /-- strides of the frame after `MPP_DEC_SET_FRAME_INFO`, from those before -/
  setFrameInfo : UInt32 × UInt32 → UInt32 × UInt32

structure InitParams where
  type : UInt32
  width : UInt32
  height : UInt32
  format : UInt32
  fastMode : UInt32
  fbcOutput : UInt32
  timeMode : UInt32
  debug : UInt32

def initParams (pairs : RockitHWParamPairs) : Reads InitParams := do
  let type ← getValue pairs RockitHWParamKey.codecId.code
  let width ← getValue pairs RockitHWParamKey.width.code
  let height ← getValue pairs RockitHWParamKey.height.code
  let format ← getValue pairs RockitHWParamKey.format.code
  let fastMode ← getValue pairs RockitHWParamKey.fastMode.code
  let fbcOutput ← getValue pairs RockitHWParamKey.fbcOutput.code
  let timeMode ← getValue pairs RockitHWParamKey.presentTimeOrder.code
  let debug ← getValue pairs RockitHWParamKey.debug.code
  return ⟨type.toUInt32, width.toUInt32, height.toUInt32, format.toUInt32, fastMode.toUInt32,
    fbcOutput.toUInt32, timeMode.toUInt32, debug.toUInt32⟩

/-- Strides and effects of telling the decoder the frame's geometry. -/
def setFrameInfo (replies : InitReplies) (mppCtx : Nat) (p : InitParams) :
    (UInt32 × UInt32) × List Event :=
  let strides := replies.setFrameInfo (0, 0)
  let fbc : List Event := if p.fbcOutput ≠ 0 then [.mppControl mppCtx .setOutputFormat] else []
  if strides.1 = 0 ∨ strides.2 = 0 then
    (replies.setFrameInfo (p.width, p.height),
      fbc ++ [.mppControl mppCtx .setFrameInfo, .mppControl mppCtx .setFrameInfo])
  else (strides, fbc ++ [.mppControl mppCtx .setFrameInfo])

/-- `MPP_VIDEO_CodingUnused`. -/
def mppVideoCodingUnused : UInt32 := 0

/-- The part of `init` behind the lookups; `mpp_ctx` has been created. -/
def initWith (m : RockitHwMpi) (replies : InitReplies) (mppCtx : Nat) (p : InitParams) : Result :=
  let m := if p.debug > 0 then { m with mDebug := true } else m
  let fail (m : RockitHwMpi) (events : List Event) : Result :=
    ⟨-1, { m with mCtx := none }, events ++ [.mppDestroy mppCtx, .free]⟩
  let events : List Event := [.malloc, .mppCreate mppCtx]
  if p.type = 0 ∨ p.width = 0 ∨ p.height = 0 then fail m events
  else if p.type = mppVideoCodingUnused then fail m events
  else if p.width = 0 ∨ p.height = 0 then fail m events
  else
    let events := events ++
      (if p.fastMode > 0 then [.mppControl mppCtx .setParserFastMode] else []) ++
      [.mppInit mppCtx p.type]
    if replies.mppInit ≠ 0 then fail m events
    else
      let info := setFrameInfo replies mppCtx p
      let m := { m with mWStride := info.1.1, mHStride := info.1.2 }
      let events := events ++ info.2 ++
        (if p.timeMode > 0 then [.mppControl mppCtx .setPresentTimeOrder] else [])
      match replies.groupGet with
      | .error _ => fail m events
      | .ok group =>
        ⟨0, { m with mCtx := some ⟨mppCtx, group, [], []⟩ },
          events ++ [.groupGet group, .mppControl mppCtx .setExtBufGroup, .groupClear group]⟩

def init (m : RockitHwMpi) (replies : InitReplies) (pairs : RockitHWParamPairs) : Reads Result :=
  if replies.malloc = false then pure ⟨-1, { m with mCtx := none }, []⟩
  else
    match replies.mppCreate with
    | .error _ => pure ⟨-1, { m with mCtx := none }, [.malloc, .free]⟩
    | .ok mppCtx => initWith m replies mppCtx <$> initParams pairs

/-! ## enqueue -/

structure EnqueueReplies where
  drm : DrmReplies
  decodePutPacket : Int

structure EnqueueParams where
  flags : UInt32
  pts : UInt64
  dts : UInt64

def enqueueParams (pairs : RockitHWParamPairs) : Reads EnqueueParams := do
  let flags ← getValue pairs RockitHWParamKey.flags.code
  let pts ← getValue pairs RockitHWParamKey.pts.code
  let dts ← getValue pairs RockitHWParamKey.dts.code
  return ⟨flags.toUInt32, pts, dts⟩

def EnqueueParams.eos (p : EnqueueParams) : Bool := p.flags &&& hwFlagsEos ≠ 0

/-- The miss path: opens and maps the buffer.  On a failure only the effects are
left, those at `EXIT` included. -/
def mapDataBuffer (replies : DrmReplies) (bufferId : UInt32) :
    Except (List Event) (DataBufferCtx × List Event) :=
  match drmGetInfoFromName replies with
  | .error _ => .error []
  | .ok (handle, size) =>
    let map := drmMap replies handle size
    let events := .gemOpen bufferId handle :: map.events
    if map.ret < 0 then
      .error (events ++ (if map.ptr ≠ 0 then [.munmap map.ptr size] else []) ++
        (if 0 ≤ map.mapFd then [.close map.mapFd] else []))
    else .ok (⟨map.mapFd, bufferId, map.ptr, size, .byMpi⟩, events)

def mppPacket (p : EnqueueParams) (data : Nat) (length : UInt32) : MppPacket :=
  { data, length, eos := p.eos, pts := p.pts, dts := p.dts
    extraData := p.flags &&& hwFlagsExtraDatas ≠ 0 }

/-- Sends the packet; `m` and `events` are the object and the effects so far. -/
def putPacket (m : RockitHwMpi) (events : List Event) (pkt : MppPacket) (err : Int) : Result :=
  ⟨if err ≠ 0 then -1 else 0, m,
    events ++ [.packetInit pkt.data pkt.length, .decodePutPacket pkt, .packetDeinit]⟩

/-- The part of `enqueue` behind the lookups. -/
def enqueueWith (m : RockitHwMpi) (ctx : MpiCodecContext) (replies : EnqueueReplies)
    (buffer : RockitHWBuffer) (p : EnqueueParams) : Result :=
  if p.eos then putPacket m [] (mppPacket p 0 0) replies.decodePutPacket
  else
    match findDataBuffer ctx.mDataList buffer.bufferId with
    | some b => putPacket m [] (mppPacket p b.mData buffer.length) replies.decodePutPacket
    | none =>
      match mapDataBuffer replies.drm buffer.bufferId with
      | .error events => ⟨-1, m, events⟩
      | .ok (b, events) =>
        putPacket { m with mCtx := some (addDataBufferList ctx b) } events
          (mppPacket p b.mData buffer.length) replies.decodePutPacket

def enqueue (m : RockitHwMpi) (replies : EnqueueReplies) (buffer : RockitHWBuffer) :
    Reads Result :=
  match m.openCtx with
  | none => pure ⟨-1, m, []⟩
  | some ctx => enqueueWith m ctx replies buffer <$> enqueueParams buffer.pair

/-! ## dequeue -/

structure MppFrame where
  infoChange : Bool
  eos : Bool
  /-- `mpp_frame_get_buffer` -/
  buffer : Option MppBuffer
  width : UInt32
  height : UInt32
  horStride : UInt32
  verStride : UInt32
  pts : UInt64
  dts : UInt64
  errInfo : Bool
  discard : Bool
  mode : UInt32
deriving DecidableEq, Repr

/-- `MPP_FRAME_FLAG_IEP_DEI_MASK`, `MPP_FRAME_FLAG_IEP_DEI_I4O2`. -/
def MppFrame.isI4O2 (f : MppFrame) : Bool := f.mode &&& 0xf00 = 0x200

/-- The buffer `dequeue` takes from the frame: none on an info change. -/
def MppFrame.media (f : MppFrame) : Option MppBuffer := if f.infoChange then none else f.buffer

/-- The value of `HW_KEY_FLAGS`. -/
def MppFrame.hwFlags (f : MppFrame) : UInt32 :=
  (if f.errInfo || f.discard then hwFlagsErrorInfor else 0) |||
    (if f.isI4O2 then hwFlagsI4O2 else 0) |||
    (if f.infoChange then hwFlagsInforChange else if f.eos then hwFlagsEos else 0)

/-- The parameters of a dequeued buffer. -/
def frameParams (f : MppFrame) (param : RockitHWParamPairs) : RockitHWParamPairs :=
  let param := setValue param RockitHWParamKey.widthStride.code f.horStride.toUInt64
  let param := setValue param RockitHWParamKey.heightStride.code f.verStride.toUInt64
  let param := setValue param RockitHWParamKey.width.code f.width.toUInt64
  let param := setValue param RockitHWParamKey.height.code f.height.toUInt64
  let param := setValue param RockitHWParamKey.pts.code f.pts
  let param := setValue param RockitHWParamKey.dts.code f.dts
  setValue param RockitHWParamKey.flags.code f.hwFlags.toUInt64

/-- The frame's buffer, if it is listed, is the client's now. -/
def handOut (ctx : MpiCodecContext) (media : Option MppBuffer) : MpiCodecContext :=
  match media with
  | none => ctx
  | some b =>
    { ctx with
      mCommitList := modifyMppBuffer ctx.mCommitList b.index fun e => { e with mSite := .byRockit } }

/-- `hwBuffer` as `dequeue` fills it in for a frame. -/
def frameBuffer (f : MppFrame) (hwBuffer : RockitHWBuffer) : RockitHWBuffer :=
  { hwBuffer with
    bufferId := match f.media with
      | some b => b.index
      | none => 0xffffffff
    length :=
      if f.infoChange || f.eos then (if f.media.isSome then hwBuffer.length else 0)
      else f.horStride * f.verStride * 3 / 2
    pair := frameParams f hwBuffer.pair }

/-- The call, and `hwBuffer` afterwards. -/
def dequeue (m : RockitHwMpi) (reply : Except Int (Option MppFrame)) (hwBuffer : RockitHWBuffer) :
    Result × RockitHWBuffer :=
  match m.openCtx with
  | none => (⟨-1, m, []⟩, hwBuffer)
  | some ctx =>
    let hwBuffer :=
      { hwBuffer with
        bufferId := 0xffffffff
        pair := ⟨0, hwBuffer.pair.pairs.resize 10 ⟨0, 0⟩⟩ }
    match reply with
    | .error _ => (⟨-1, m, [.decodeGetFrame]⟩, hwBuffer)
    | .ok none => (⟨-1, m, [.decodeGetFrame]⟩, hwBuffer)
    | .ok (some f) =>
      if f.media = none ∧ f.infoChange = false ∧ f.eos = false then
        -- "null mpp buffer..."
        (⟨-1, m, [.decodeGetFrame, .frameDeinit]⟩, hwBuffer)
      else
        (⟨0, { m with mCtx := some (handOut ctx f.media) },
          .decodeGetFrame :: (f.media.toList.map Event.bufferIncRef ++ [.frameDeinit])⟩,
          frameBuffer f hwBuffer)

/-! ## commitBuffer, giveBackBuffer -/

structure CommitReplies where
  drm : DrmReplies
  /-- the object `mpp_buffer_import_with_tag` returns, if it returns one -/
  importBuffer : Option Nat

/-- What lies behind `__FAILED`; `handle` is unsigned, so it is always freed. -/
def commitExit (mapFd : Int) (handle : UInt32) : List Event :=
  (if 0 ≤ mapFd then [.close mapFd] else []) ++ [.gemDestroy handle]

/-- A fresh entry, unless the id is listed ("add buffer fail, already in it"). -/
def addMppBuffer (ctx : MpiCodecContext) (mapFd : Int) (bufferId : UInt32)
    (mppBuffer : Option MppBuffer) : MpiCodecContext :=
  match findMppBuffer ctx.mCommitList bufferId with
  | none => { ctx with mCommitList := ctx.mCommitList ++ [⟨mapFd, bufferId, mppBuffer, .byMpi⟩] }
  | some _ => ctx

def commitBuffer (m : RockitHwMpi) (replies : CommitReplies) (buffer : RockitHWBuffer) : Result :=
  match m.openCtx with
  | none => ⟨-1, m, []⟩
  | some ctx =>
    match drmGetInfoFromName replies.drm with
    | .error _ => ⟨-1, m, commitExit (-1) 0xffffffff⟩
    | .ok (handle, _) =>
      let toFd := drmHandleToFd replies.drm handle
      let events := .gemOpen buffer.bufferId handle :: toFd.events
      if toFd.ret ≠ 0 then ⟨-1, m, events ++ commitExit toFd.mapFd handle⟩
      else
        let mppBuffer := replies.importBuffer.map fun obj => MppBuffer.mk obj buffer.bufferId
        ⟨0, { m with mCtx := some (addMppBuffer ctx toFd.mapFd buffer.bufferId mppBuffer) },
          events ++ mppBuffer.toList.map Event.bufferImport ++ commitExit toFd.mapFd handle⟩

def giveBackBuffer (m : RockitHwMpi) (buffer : RockitHWBuffer) : Result :=
  match m.mCtx with
  | none => ⟨-1, m, []⟩
  | some ctx =>
    match findMppBuffer ctx.mCommitList buffer.bufferId with
    | none => ⟨0, m, []⟩
    | some e =>
      let ctx :=
        { ctx with
          mCommitList := modifyMppBuffer ctx.mCommitList buffer.bufferId fun e =>
            { e with mSite := .byMpi } }
      ⟨0, { m with mCtx := some ctx }, e.mMppBuffer.toList.map Event.bufferPut⟩

/-! ## reset, flush, control, query -/

/-- `err` is the answer of the decoder. -/
def reset (m : RockitHwMpi) (err : Int) : Result :=
  match m.mCtx with
  | none => ⟨-1, m, []⟩
  | some ctx => ⟨if err ≠ 0 then -1 else 0, m, [.mppReset ctx.mppCtx]⟩

def flush (m : RockitHwMpi) (err : Int) : Result :=
  match m.mCtx with
  | none => ⟨-1, m, []⟩
  | some ctx => ⟨if err ≠ 0 then -1 else 0, m, [.mppReset ctx.mppCtx]⟩

/-- Context and group are never `NULL` once `init` has returned 0. -/
def bufferReady (ctx : MpiCodecContext) : Int × List Event :=
  (0, [.mppControl ctx.mppCtx .setExtBufGroup, .mppControl ctx.mppCtx .setInfoChangeReady])

/-- `HW_CMD_BUFFER_GROUP_CLEAR`. -/
def bufferGroupClear (m : RockitHwMpi) (ctx : MpiCodecContext) : Result :=
  ⟨0, { m with
        mCtx := some { ctx with
          mCommitList := cleanMppBuffer .byMpi ctx.mCommitList
          mDataList := [] } },
    freeDataBufferList ctx.mDataList ++ [.groupClear ctx.frmGrp]⟩

/-- `HW_CMD_BUFFER_DATA_CLEAR`; the id is the low half of the value. -/
def bufferDataClear (m : RockitHwMpi) (ctx : MpiCodecContext) (value : UInt64) : Result :=
  let freed := freeDataBuffer ctx.mDataList value.toUInt32
  ⟨0, { m with mCtx := some { ctx with mDataList := freed.1 } }, freed.2⟩

def control (m : RockitHwMpi) (cmd : Int) (param : RockitHWParamPairs) : Reads Result :=
  match m.mCtx with
  | none => pure ⟨-1, m, []⟩
  | some ctx =>
    match RockitHWCtrCmd.ofInt cmd with
    | some .bufferGroupClear => pure (bufferGroupClear m ctx)
    | some .bufferReady => pure ⟨(bufferReady ctx).1, m, (bufferReady ctx).2⟩
    | some .bufferDataClear =>
      bufferDataClear m ctx <$> getValue param RockitHWParamKey.dataBuffer.code
    | none => pure ⟨-1, m, []⟩

/-- The call, and `out` afterwards; `unused` is the decoder's count of unused buffers. -/
def query (m : RockitHwMpi) (cmd : Int) (unused : UInt32) (out : RockitHWParamPairs) :
    Result × RockitHWParamPairs :=
  match m.mCtx with
  | none => (⟨-1, m, []⟩, out)
  | some _ =>
    let one : RockitHWParamPairs := ⟨0, out.pairs.resize 1 ⟨0, 0⟩⟩
    match RockitHWQueryCmd.ofInt cmd with
    | some .widthStride =>
      (⟨0, m, []⟩, setValue one RockitHWParamKey.widthStride.code (intToUInt64 m.mWStride))
    | some .heightStride =>
      (⟨0, m, []⟩, setValue one RockitHWParamKey.heightStride.code (intToUInt64 m.mHStride))
    | some .unusedBufferCounter =>
      (⟨0, m, []⟩, setValue one RockitHWParamKey.token.code (intToUInt64 unused))
    | none => (⟨-1, m, []⟩, out)

end RockchipHal.RockitHw
