import RockchipHal.Lib.Simulation
import RockchipHal.RockitHw.ClientSession

/-!
# Through client, service and manager to the decoder

`PlainDecoder` is the decoder without the layers in front of it: it finds the application's
values in the application's arrays, and puts what a frame says into pairs.  It keeps three rules
of the manager: `init` answers 0 whatever the decoder's `init` returned, any other failure is
answered -1, and `enqueue` and `dequeue` without a decoder do not return.  Application and decoder
cannot tell whether the layers are between them:

    serveAll session (.new found) calls and serveAll decoderAlone (.new found) calls
      give the same answers and do the same to codec and kernel        (session_refines)

for calls that bring the pairs they count and room for the pairs of an answer.
-/

namespace RockchipHal.RockitHw

/-! ## What the application brings -/

/-- Pairs an application can send: as many as are counted, and an `int` counts them. -/
structure RTHWParamPairs.Sendable (rt : RTHWParamPairs) : Prop where
  there : rt.counter.toNat ≤ rt.array.length
  fits : rt.counter.toNat ≤ intMax

/-- An array with room for the `n` pairs of an answer. -/
def RTHWParamPairs.HasRoom (rt : RTHWParamPairs) (n : Nat) : Prop :=
  ∃ dst, rt.pairs = some dst ∧ n ≤ dst.size

/-- The pairs of a dequeued buffer. -/
def framePairCount : Nat := 7

def SessionCall.WellFormed : SessionCall → Prop
  | .init _ param _ _ | .control _ param => ∀ rt, param = some rt → rt.Sendable
  | .enqueue _ buffer | .commitBuffer _ buffer | .giveBackBuffer buffer => buffer.pair.Sendable
  | .dequeue _ _ buffer => ∀ rt, buffer = some rt → rt.pair.HasRoom framePairCount
  | .query _ _ _ param => ∃ rt, param = some rt ∧ rt.Sendable ∧ rt.HasRoom 1
  | .process | .flush _ | .reset _ => True

/-- A call an application may make. -/
structure GoodCall where
  call : SessionCall
  wf : call.WellFormed

/-- The value of the first pair counted that has the key, or 0. -/
def valueOf (param : Option RTHWParamPairs) (key : RockitHWParamKey) : UInt64 :=
  ((param.elim [] RTHWParamPairs.counted).find? fun p => p.key = key.code).elim 0
    RTHWParamPair.value

/-! ## The decoder without the layers -/

namespace RTHWParamPairs

def initParams (rt : RTHWParamPairs) : InitParams :=
  let value := fun key => (valueOf (some rt) key).toUInt32
  ⟨value .codecId, value .width, value .height, value .format, value .fastMode, value .fbcOutput,
    value .presentTimeOrder, value .debug⟩

def enqueueParams (rt : RTHWParamPairs) : EnqueueParams :=
  ⟨(valueOf (some rt) .flags).toUInt32, valueOf (some rt) .pts, valueOf (some rt) .dts⟩

end RTHWParamPairs

/-- The buffer itself, its parameters aside. -/
def RTHWBuffer.bare (rt : RTHWBuffer) : RockitHWBuffer :=
  ⟨rt.bufferType, rt.bufferId, rt.size, rt.length, RockitHwClient.emptyPairs⟩

namespace RockitHwMpi

def initPlain (m : RockitHwMpi) (replies : InitReplies) (p : InitParams) : Result :=
  if replies.malloc = false then ⟨-1, { m with mCtx := none }, []⟩
  else
    match replies.mppCreate with
    | .error _ => ⟨-1, { m with mCtx := none }, [.malloc, .free]⟩
    | .ok mppCtx => initWith m replies mppCtx p

def enqueuePlain (m : RockitHwMpi) (replies : EnqueueReplies) (buffer : RockitHWBuffer)
    (p : EnqueueParams) : Result :=
  match m.openCtx with
  | none => ⟨-1, m, []⟩
  | some ctx => enqueueWith m ctx replies buffer p

/-- `bufferId` is the value of `HW_KEY_DATABUFFER`. -/
def controlPlain (m : RockitHwMpi) (cmd : Int) (bufferId : UInt64) : Result :=
  match m.mCtx with
  | none => ⟨-1, m, []⟩
  | some ctx =>
    match RockitHWCtrCmd.ofInt cmd with
    | some .bufferGroupClear => bufferGroupClear m ctx
    | some .bufferReady => ⟨(bufferReady ctx).1, m, (bufferReady ctx).2⟩
    | some .bufferDataClear => bufferDataClear m ctx bufferId
    | none => ⟨-1, m, []⟩

/-- The frame `dequeue` succeeds with. -/
def frameOf (m : RockitHwMpi) (reply : Except Int (Option MppFrame)) : Option MppFrame :=
  match m.openCtx, reply with
  | some _, .ok (some f) =>
    if f.media = none ∧ f.infoChange = false ∧ f.eos = false then none else some f
  | _, _ => none

/-- The pair `query` succeeds with. -/
def pairOf (m : RockitHwMpi) (cmd : Int) (unused : UInt32) : Option RTHWParamPair :=
  match m.mCtx, RockitHWQueryCmd.ofInt cmd with
  | some _, some .widthStride =>
    some ⟨RockitHWParamKey.widthStride.code, intToUInt64 m.mWStride⟩
  | some _, some .heightStride =>
    some ⟨RockitHWParamKey.heightStride.code, intToUInt64 m.mHStride⟩
  | some _, some .unusedBufferCounter =>
    some ⟨RockitHWParamKey.token.code, intToUInt64 unused⟩
  | _, _ => none

end RockitHwMpi

/-- What a frame says, as the application reads it. -/
def MppFrame.pairs (f : MppFrame) : List RTHWParamPair :=
  [⟨RockitHWParamKey.widthStride.code, f.horStride.toUInt64⟩,
    ⟨RockitHWParamKey.heightStride.code, f.verStride.toUInt64⟩,
    ⟨RockitHWParamKey.width.code, f.width.toUInt64⟩,
    ⟨RockitHWParamKey.height.code, f.height.toUInt64⟩,
    ⟨RockitHWParamKey.pts.code, f.pts⟩, ⟨RockitHWParamKey.dts.code, f.dts⟩,
    ⟨RockitHWParamKey.flags.code, f.hwFlags.toUInt64⟩]

def MppFrame.seen (f : MppFrame) : SeenBuffer :=
  ⟨0, f.media.elim 0xffffffff MppBuffer.index, 0,
    if f.infoChange || f.eos then 0 else f.horStride * f.verStride * 3 / 2, f.pairs⟩

/-- There is no service, or no decoder yet, or this one. -/
inductive PlainDecoder
  | unreachable
  | unmade
  | made (m : RockitHwMpi)

namespace PlainDecoder

def new (found : Bool) : PlainDecoder := if found then unmade else unreachable

def status (ret : Int) : Int := if ret = 0 then 0 else -1

/-- A call that is not carried out. -/
def refuse (s : PlainDecoder) (out : SeenOut) : Option (Seen × PlainDecoder) :=
  some (⟨-1, out, []⟩, s)

/-- The decoder, if there is one, carries out the call. -/
def carry (s : PlainDecoder) (act : RockitHwMpi → Result) : Option (Seen × PlainDecoder) :=
  match s with
  | made m => some (⟨status (act m).ret, .nothing, (act m).events⟩, made (act m).hal)
  | s => s.refuse .nothing

def init (s : PlainDecoder) (type : Int32) (param : Option RTHWParamPairs) (drmFd : Int)
    (replies : InitReplies) : Option (Seen × PlainDecoder) :=
  match s, param with
  | unreachable, _ => s.refuse .nothing
  | _, none => s.refuse .nothing
  | s, some rt =>
    if RockitHWType.ofInt type = .decoderMpi then
      let r := RockitHwMpi.initPlain (.new drmFd) replies rt.initParams
      some (⟨0, .nothing, r.events⟩, made r.hal)
    else some (⟨0, .nothing, []⟩, s)

/-- Before there is a decoder the call does not return. -/
def enqueue (s : PlainDecoder) (replies : EnqueueReplies) (buffer : RTHWBuffer) :
    Option (Seen × PlainDecoder) :=
  match s with
  | unmade => none
  | s => s.carry fun m => m.enqueuePlain replies buffer.bare buffer.pair.enqueueParams

/-- Nor does this one. -/
def dequeue (s : PlainDecoder) (reply : Except Int (Option MppFrame))
    (buffer : Option RTHWBuffer) : Option (Seen × PlainDecoder) :=
  match buffer with
  | none => s.refuse (.buffer none)
  | some rt =>
    let blank : SeenBuffer := ⟨rt.bufferType, 0, 0, 0, []⟩
    match s with
    | unreachable => s.refuse (.buffer (some blank))
    | unmade => none
    | made m =>
      let r := (RockitHw.dequeue m reply RockitHwManager.zeroBuffer).1
      let seen := (m.frameOf reply).elim (-1, blank) fun f => (0, f.seen)
      some (⟨seen.1, .buffer (some seen.2), r.events⟩, made r.hal)

def query (s : PlainDecoder) (cmd unused : UInt32) (param : Option RTHWParamPairs) :
    Option (Seen × PlainDecoder) :=
  let before : SeenOut := .param (param.map RTHWParamPairs.counted)
  match s with
  | made m =>
    match m.pairOf cmd.toInt32.toInt unused with
    | some pair => some (⟨0, .param (some [pair]), []⟩, s)
    | none => s.refuse before
  | s => s.refuse before

def serve (s : PlainDecoder) : SessionCall → Option (Seen × PlainDecoder)
  | .init type param drmFd replies => s.init type param drmFd replies
  | .enqueue replies buffer => s.enqueue replies buffer
  | .dequeue _ reply buffer => s.dequeue reply buffer
  | .commitBuffer replies buffer => s.carry fun m => commitBuffer m replies buffer.bare
  | .giveBackBuffer buffer => s.carry fun m => giveBackBuffer m buffer.bare
  | .process => some (⟨0, .nothing, []⟩, s)
  | .control cmd param =>
    s.carry fun m => m.controlPlain cmd.toInt32.toInt (valueOf param .dataBuffer)
  | .query _ cmd unused param => s.query cmd unused param
  | .flush err => s.carry fun m => flush m err
  | .reset err => s.carry fun m => reset m err

end PlainDecoder

/-! ## The two machines -/

def session : Machine RockitHwClientInterface GoodCall Seen := fun i c =>
  (i.serve c.call).map fun r => (r.1.seen, r.2)

def decoderAlone : Machine PlainDecoder GoodCall Seen := fun s c => s.serve c.call

/-- The client's service is the decoder's. -/
inductive Fronts : RockitHwClientInterface → PlainDecoder → Prop
  | unreachable {c : RockitHwClient} (service : c.service = none) : Fronts ⟨some c⟩ .unreachable
  | unmade {c : RockitHwClient} {m : RockitHwManager} (service : c.service = some m)
      (impl : m.mImpl = none) : Fronts ⟨some c⟩ .unmade
  | made {c : RockitHwClient} {m : RockitHwManager} {impl : Impl} (service : c.service = some m)
      (current : m.mImpl = some impl) : Fronts ⟨some c⟩ (.made impl.hal)

theorem fronts_new (found : Bool) : Fronts (.new found) (.new found) := by
  cases found with
  | true => exact .unmade (m := .new) rfl rfl
  | false => exact .unreachable rfl

/-! ## The parameters on their way -/

/-- What is sent are the pairs counted. -/
theorem conversion_counted (hw : RockitHWParamPairs) {rt : RTHWParamPairs} (h : rt.Sendable) :
    ∃ hw', rthwParam2RockitHWParam hw (some rt) = some hw' ∧ hw'.counter = rt.counter ∧
      hw'.pairs.data = rt.counted.map RTHWParamPair.toHW := by
  obtain ⟨counter, pairs⟩ := rt
  have hthere : counter.toNat ≤ (RTHWParamPairs.array ⟨counter, pairs⟩).length := h.there
  unfold rthwParam2RockitHWParam
  cases pairs with
  | none =>
    have hzero : counter.toNat = 0 := Nat.le_zero.mp hthere
    dsimp only
    rw [if_pos ((counter_eq_zero_iff _).mpr hzero)]
    refine ⟨_, rfl, rfl, ?_⟩
    show (hw.pairs.resize counter.toNat ⟨0, 0⟩).data = (List.take counter.toNat []).map _
    rw [List.take_nil, List.map_nil]
    refine List.eq_nil_of_length_eq_zero ?_
    show (hw.pairs.resize counter.toNat ⟨0, 0⟩).size = 0
    rw [UncheckedVec.size_resize, hzero]
  | some src =>
    have hsrc : counter.toNat ≤ src.data.length := hthere
    obtain ⟨c, hc, -, hsize, hget⟩ := copyPairs_eq_some RTHWParamPair.toHW src counter.toNat 0
      (hw.pairs.resize counter.toNat ⟨0, 0⟩) h.fits
    rw [UncheckedVec.size_resize] at hsize
    refine ⟨⟨counter, c.dst⟩, ?_, rfl, ?_⟩
    · dsimp only
      rw [hc]
      rfl
    · show c.dst.data = (src.data.take counter.toNat).map RTHWParamPair.toHW
      have hlen : c.dst.data.length = counter.toNat := hsize
      refine List.ext_getElem ?_ fun i hi _ => ?_
      · rw [List.length_map, List.length_take, hlen, Nat.min_eq_left hsrc]
      · rw [List.getElem_map, List.getElem_take, ← c.dst.get_of_lt i hi, hget,
          if_pos (by omega), src.get_of_lt i (by omega)]

/-- `hw` has the pairs `param` counts. -/
def Sent (param : Option RTHWParamPairs) (hw : RockitHWParamPairs) : Prop :=
  ∀ key : RockitHWParamKey, (getValue hw key.code).val = valueOf param key

theorem find?_toHW (key : UInt32) (l : List RTHWParamPair) :
    ((l.map RTHWParamPair.toHW).find? fun p => p.key = key).elim keyNoValues
        RockitHWParamPair.value =
      (l.find? fun p => p.key = key).elim 0 RTHWParamPair.value := by
  rw [List.find?_map]
  show ((l.find? fun p => p.key = key).map RTHWParamPair.toHW).elim _ _ = _
  cases l.find? fun p => p.key = key <;> rfl

theorem sent_of_sendable (hw : RockitHWParamPairs) {rt : RTHWParamPairs} (h : rt.Sendable) :
    ∃ hw', rthwParam2RockitHWParam hw (some rt) = some hw' ∧ Sent (some rt) hw' := by
  obtain ⟨hw', hconv, hcounter, hpairs⟩ := conversion_counted hw h
  refine ⟨hw', hconv, fun key => ?_⟩
  have hsize : hw'.counter.toNat = hw'.pairs.size := by
    show _ = hw'.pairs.data.length
    rw [hcounter, hpairs, List.length_map]
    show _ = (rt.array.take rt.counter.toNat).length
    rw [List.length_take, Nat.min_eq_left h.there]
  rw [val_getValue hw' key.code hsize, hpairs]
  exact find?_toHW key.code rt.counted

theorem sent_none (hw : RockitHWParamPairs) :
    ∃ hw', rthwParam2RockitHWParam hw none = some hw' ∧ Sent none hw' :=
  ⟨_, rfl, fun _ => rfl⟩

theorem sent_of_call (hw : RockitHWParamPairs) (param : Option RTHWParamPairs)
    (h : ∀ rt, param = some rt → rt.Sendable) :
    ∃ hw', rthwParam2RockitHWParam hw param = some hw' ∧ Sent param hw' := by
  cases param with
  | none => exact sent_none hw
  | some rt => exact sent_of_sendable hw (h rt rfl)

theorem sent_buffer {rt : RTHWBuffer} (h : rt.pair.Sendable) :
    ∃ pair, rtBuffer2HwBuffer rt emptyBuffer =
        some ⟨rt.bufferType, rt.bufferId, rt.size, rt.length, pair⟩ ∧ Sent (some rt.pair) pair := by
  obtain ⟨pair, hconv, hsent⟩ := sent_of_sendable emptyBuffer.pair h
  refine ⟨pair, ?_, hsent⟩
  unfold rtBuffer2HwBuffer
  rw [hconv]
  rfl

/-! ## The decoder on what was sent -/

theorem init_plain (m : RockitHwMpi) (replies : InitReplies) {hw : RockitHWParamPairs}
    {rt : RTHWParamPairs} (h : Sent (some rt) hw) :
    (init m replies hw).val = m.initPlain replies rt.initParams := by
  have hparams : (RockitHw.initParams hw).val = rt.initParams := by
    unfold RockitHw.initParams RTHWParamPairs.initParams
    simp only [Reads.val_bind, Reads.val_pure]
    rw [h .codecId, h .width, h .height, h .format, h .fastMode, h .fbcOutput,
      h .presentTimeOrder, h .debug]
  unfold init RockitHwMpi.initPlain
  split
  · rfl
  · cases replies.mppCreate with
    | error e => rfl
    | ok mppCtx =>
      rw [Reads.val_map, hparams]

theorem enqueue_plain (m : RockitHwMpi) (replies : EnqueueReplies) (rt : RTHWBuffer)
    {pair : RockitHWParamPairs} (h : Sent (some rt.pair) pair) :
    (enqueue m replies ⟨rt.bufferType, rt.bufferId, rt.size, rt.length, pair⟩).val =
      m.enqueuePlain replies rt.bare rt.pair.enqueueParams := by
  have hparams : (RockitHw.enqueueParams pair).val = rt.pair.enqueueParams := by
    unfold RockitHw.enqueueParams RTHWParamPairs.enqueueParams
    simp only [Reads.val_bind, Reads.val_pure]
    rw [h .flags, h .pts, h .dts]
  unfold enqueue RockitHwMpi.enqueuePlain
  cases m.openCtx with
  | none => rfl
  | some ctx =>
    rw [Reads.val_map, hparams]
    rfl

theorem control_plain (m : RockitHwMpi) (cmd : Int) (param : Option RTHWParamPairs)
    {hw : RockitHWParamPairs} (h : Sent param hw) :
    (control m cmd hw).val = m.controlPlain cmd (valueOf param .dataBuffer) := by
  unfold control RockitHwMpi.controlPlain
  cases m.mCtx with
  | none => rfl
  | some ctx =>
    cases RockitHWCtrCmd.ofInt cmd with
    | none => rfl
    | some cmd =>
      cases cmd with
      | bufferGroupClear => rfl
      | bufferReady => rfl
      | bufferDataClear =>
        show (bufferDataClear m ctx <$> getValue hw RockitHWParamKey.dataBuffer.code).val = _
        rw [Reads.val_map, h .dataBuffer]

/-! ## What comes back -/

/-- The reply's pairs, in an array with room for them. -/
theorem reply_counted (grant : Option (Nat → RTHWParamPair)) (hw : RockitHWParamPairs)
    {rt : RTHWParamPairs} (hroom : rt.HasRoom hw.counter.toNat) (hpos : 0 < hw.counter.toNat)
    (hmax : hw.counter.toNat ≤ intMax) (hthere : hw.counter.toNat ≤ hw.pairs.size) :
    ∃ c, rockitHWParam2RTHWParam grant hw rt = some c ∧
      c.rt.counted = (hw.pairs.data.take hw.counter.toNat).map RockitHWParamPair.toRT := by
  obtain ⟨dst, hpairs, hdst⟩ := hroom
  obtain ⟨c, hc, -, hsize, hget⟩ :=
    copyPairs_eq_some RockitHWParamPair.toRT hw.pairs hw.counter.toNat 0 dst hmax
  rw [rockitHWParam2RTHWParam_of_pos grant hw rt hpos, hpairs, Option.some_or]
  refine ⟨⟨⟨hw.counter, some c.dst⟩, c.writes⟩, ?_, ?_⟩
  · dsimp only
    rw [hc]
    rfl
  · show (c.dst.data.take hw.counter.toNat) = _
    have hlen : c.dst.data.length = dst.size := hsize
    have hthere : hw.counter.toNat ≤ hw.pairs.data.length := hthere
    refine List.ext_getElem ?_ fun i hi _ => ?_
    · rw [List.length_map, List.length_take, List.length_take]
      omega
    · rw [List.length_take] at hi
      rw [List.getElem_map, List.getElem_take, List.getElem_take,
        ← c.dst.get_of_lt i (by omega), hget, if_pos (by omega), hw.pairs.get_of_lt i (by omega)]

/-! ### dequeue -/

/-- The buffer `dequeue` fills in, before the frame. -/
def blankFrameBuffer : RockitHWBuffer :=
  { RockitHwManager.zeroBuffer with
    bufferId := 0xffffffff
    pair := ⟨0, RockitHwManager.zeroBuffer.pair.pairs.resize 10 ⟨0, 0⟩⟩ }

theorem dequeue_of_frame {m : RockitHwMpi} {reply : Except Int (Option MppFrame)} {f : MppFrame}
    (h : m.frameOf reply = some f) :
    (dequeue m reply RockitHwManager.zeroBuffer).1.ret = 0 ∧
      (dequeue m reply RockitHwManager.zeroBuffer).2 = frameBuffer f blankFrameBuffer := by
  unfold RockitHwMpi.frameOf at h
  unfold dequeue
  split at h
  · next ctx g hctx =>
    split at h
    · cases h
    · next hframe =>
      cases h
      rw [hctx]
      dsimp only
      rw [if_neg hframe]
      exact ⟨rfl, rfl⟩
  · cases h

theorem dequeue_of_noFrame {m : RockitHwMpi} {reply : Except Int (Option MppFrame)}
    (h : m.frameOf reply = none) : (dequeue m reply RockitHwManager.zeroBuffer).1.ret = -1 := by
  unfold RockitHwMpi.frameOf at h
  unfold dequeue
  cases hctx : m.openCtx with
  | none => rfl
  | some ctx =>
    rw [hctx] at h
    cases reply with
    | error e => rfl
    | ok frame =>
      cases frame with
      | none => rfl
      | some f =>
        dsimp only at h ⊢
        split at h
        · next hnull =>
          rw [if_pos hnull]
        · cases h

/-- Into an array with room, the application finds what the frame says. -/
theorem frame_seen (grant : Option (Nat → RTHWParamPair)) (f : MppFrame) (rt : RTHWBuffer)
    (hroom : rt.pair.HasRoom framePairCount) :
    ∃ b, hwBuffer2RTBuffer grant (frameBuffer f blankFrameBuffer) rt = some b ∧
      b.1.seen = f.seen := by
  have hcounter : (frameBuffer f blankFrameBuffer).pair.counter.toNat = framePairCount := rfl
  obtain ⟨c, hc, hcounted⟩ := reply_counted grant (frameBuffer f blankFrameBuffer).pair
    (by rw [hcounter]; exact hroom) (by rw [hcounter]; decide) (by rw [hcounter]; decide)
    (by rw [hcounter]; exact (by decide : 7 ≤ 10))
  refine ⟨_, congrArg (Option.map _) hc, ?_⟩
  unfold RTHWBuffer.seen MppFrame.seen
  dsimp only
  rw [hcounted, hcounter]
  refine congr (congr (congr (congr rfl ?_) rfl) ?_) rfl
  · unfold frameBuffer
    cases f.media <;> rfl
  · unfold frameBuffer
    dsimp only
    split
    · exact ite_self _
    · rfl

/-! ### query -/

theorem query_of_pair {m : RockitHwMpi} {cmd : Int} {unused : UInt32} {pair : RTHWParamPair}
    (h : m.pairOf cmd unused = some pair) :
    (query m cmd unused RockitHwClient.emptyPairs).1 = ⟨0, m, []⟩ ∧
      ∃ past, (query m cmd unused RockitHwClient.emptyPairs).2 = ⟨1, [pair.toHW], past⟩ := by
  unfold RockitHwMpi.pairOf at h
  unfold query
  split at h
  · next hctx hcmd =>
    cases h
    rw [hctx, hcmd]
    exact ⟨rfl, _, rfl⟩
  · next hctx hcmd =>
    cases h
    rw [hctx, hcmd]
    exact ⟨rfl, _, rfl⟩
  · next hctx hcmd =>
    cases h
    rw [hctx, hcmd]
    exact ⟨rfl, _, rfl⟩
  · cases h

theorem query_of_noPair {m : RockitHwMpi} {cmd : Int} {unused : UInt32}
    (h : m.pairOf cmd unused = none) :
    (query m cmd unused RockitHwClient.emptyPairs).1 = ⟨-1, m, []⟩ := by
  unfold RockitHwMpi.pairOf at h
  unfold query
  cases hctx : m.mCtx with
  | none => rfl
  | some ctx =>
    rw [hctx] at h
    cases hcmd : RockitHWQueryCmd.ofInt cmd with
    | none => rfl
    | some cmd =>
      rw [hcmd] at h
      cases cmd <;> cases h

/-! ## Call by call -/

theorem RockitHwManager.effects_of_implCall (m : RockitHwManager) {c : ManagerCall} {call : Call}
    (h : c.implCall = some call) :
    m.effects c = m.mImpl.elim [] fun impl => (call.result impl.hal).events := by
  cases c with
  | init _ _ _ _ => cases h
  | process => cases h
  | enqueue _ _ | dequeue _ | commitBuffer _ _ | giveBackBuffer _ | reset _ | flush _
  | control _ _ | query _ _ =>
    cases h
    rfl

theorem status2Int_int2Status (ret : Int) :
    status2Int (int2Status ret) = PlainDecoder.status ret := by
  unfold int2Status PlainDecoder.status
  split <;> rfl

/-- Client and decoder after a call that may not return. -/
def Same (x : Option (Answer × RockitHwClient)) (y : Option (Seen × PlainDecoder)) : Prop :=
  Option.Rel (fun r r' => r.1.seen = r'.1 ∧ Fronts ⟨some r.2⟩ r'.2) x y

theorem Same.delegate {c : RockitHwClient} (out : Out)
    (call : RockitHwClient → Option (Answer × RockitHwClient)) {y : Option (Seen × PlainDecoder)}
    (h : Same (call c) y) :
    Agree Fronts ((RockitHwClientInterface.delegate ⟨some c⟩ out call).map
      fun r => (r.1.seen, r.2)) y := by
  unfold Same at h
  unfold RockitHwClientInterface.delegate
  dsimp only
  generalize call c = x at h
  cases h with
  | none => exact .none
  | some hboth => exact .some hboth

variable {c : RockitHwClient} {m : RockitHwManager} {impl : Impl}

theorem fronts_served (impl : Impl) {r : Reply} {hal : RockitHwMpi}
    (h : r.manager.mImpl = some { impl with hal := hal }) :
    Fronts ⟨some (RockitHwClient.served r)⟩ (.made hal) :=
  .made (c := RockitHwClient.served r) rfl h

theorem ask_unreachable (service : c.service = none) (call : Option ManagerCall)
    (act : RockitHwMpi → Result) : Same (c.ask call) (PlainDecoder.unreachable.carry act) := by
  unfold RockitHwClient.ask
  rw [service]
  exact .some ⟨rfl, .unreachable service⟩

theorem ask_unmade (service : c.service = some m) (unmade : m.mImpl = none) {call : ManagerCall}
    {done : Call} (hcall : call.implCall = some done) (hreply : call.reply m = some ⟨.badValue, m⟩)
    (act : RockitHwMpi → Result) : Same (c.ask (some call)) (PlainDecoder.unmade.carry act) := by
  unfold RockitHwClient.ask
  rw [service]
  dsimp only
  rw [Option.bind_some, hreply, m.effects_of_implCall hcall, unmade]
  exact .some ⟨rfl, .unmade (c := RockitHwClient.served ⟨.badValue, m⟩) rfl unmade⟩

theorem ask_made (service : c.service = some m) (current : m.mImpl = some impl)
    {call : ManagerCall} {done : Call} (hcall : call.implCall = some done)
    (hreply : call.reply m = some (m.forward impl done)) (act : RockitHwMpi → Result)
    (hact : done.result impl.hal = act impl.hal) :
    Same (c.ask (some call)) ((PlainDecoder.made impl.hal).carry act) := by
  unfold RockitHwClient.ask PlainDecoder.carry
  rw [service]
  dsimp only
  rw [Option.bind_some, hreply, m.effects_of_implCall hcall, current, ← hact]
  refine .some ⟨?_, fronts_served impl rfl⟩
  unfold Answer.seen RockitHwManager.forward
  dsimp only
  rw [status2Int_int2Status]
  rfl

/-- A guarded call of the manager, whatever stands behind the client. -/
theorem ask_guarded {s : PlainDecoder} (hfronts : Fronts ⟨some c⟩ s) {call : ManagerCall}
    {done : Call} (hcall : call.implCall = some done)
    (hreply : ∀ m : RockitHwManager, call.reply m = m.guarded done) {act : RockitHwMpi → Result}
    (hact : ∀ hal, done.result hal = act hal) : Same (c.ask (some call)) (s.carry act) := by
  cases hfronts with
  | unreachable service => exact ask_unreachable service _ act
  | @unmade _ m service unmade =>
    refine ask_unmade service unmade hcall ?_ act
    rw [hreply]
    unfold RockitHwManager.guarded
    rw [unmade]
  | @made _ m impl service current =>
    refine ask_made service current hcall ?_ act (hact impl.hal)
    rw [hreply]
    unfold RockitHwManager.guarded
    rw [current]

theorem initAnswer_of_sent (service : c.service = some m) (type : Int32) {rt : RTHWParamPairs}
    (drmFd : Int) (replies : InitReplies) {hw : RockitHWParamPairs}
    (hconv : rthwParam2RockitHWParam RockitHwClient.emptyPairs (some rt) = some hw) :
    c.initAnswer type (some rt) drmFd replies =
      some (⟨0, .nothing, m.effects (.init (.ofInt type) hw drmFd replies)⟩,
        RockitHwClient.served (m.init (.ofInt type) hw drmFd replies)) := by
  unfold RockitHwClient.initAnswer RockitHwClient.init RockitHwClient.sent
  rw [service]
  dsimp only
  rw [hconv, Option.map_some, Option.map_some, manager_init_ok]
  rfl

theorem init_unsupported (m : RockitHwManager) {type : RockitHWType} (htype : type ≠ .decoderMpi)
    (hw : RockitHWParamPairs) (drmFd : Int) (replies : InitReplies) :
    m.init type hw drmFd replies = ⟨.ok, m⟩ ∧ m.effects (.init type hw drmFd replies) = [] := by
  cases type with
  | decoderMpi => exact absurd rfl htype
  | decoderVpuapi | encoderMpi | encoderVpuapi | iep | rga | isp | other _ =>
    refine ⟨rfl, ?_⟩
    unfold RockitHwManager.effects
    cases m.mImpl <;> rfl

/-- With a service, a decoder that is asked for is made, whatever was there before. -/
theorem init_same_sent {s : PlainDecoder} (service : c.service = some m)
    (hfronts : Fronts ⟨some c⟩ s) (type : Int32) {rt : RTHWParamPairs} (drmFd : Int)
    (replies : InitReplies) (hrt : rt.Sendable) (hs : s ≠ .unreachable) :
    Same (c.initAnswer type (some rt) drmFd replies) (s.init type (some rt) drmFd replies) := by
  obtain ⟨hw, hconv, hsent⟩ := sent_of_sendable RockitHwClient.emptyPairs hrt
  rw [initAnswer_of_sent service type drmFd replies hconv]
  have hplain : s.init type (some rt) drmFd replies =
      if RockitHWType.ofInt type = .decoderMpi then
        some (⟨0, .nothing, (RockitHwMpi.initPlain (.new drmFd) replies rt.initParams).events⟩,
          .made (RockitHwMpi.initPlain (.new drmFd) replies rt.initParams).hal)
      else some (⟨0, .nothing, []⟩, s) := by
    cases s with
    | unreachable => exact absurd rfl hs
    | unmade => rfl
    | made hal => rfl
  rw [hplain]
  by_cases htype : RockitHWType.ofInt type = .decoderMpi
  · rw [if_pos htype, htype, ← init_plain (.new drmFd) replies hsent]
    exact .some ⟨rfl, fronts_served ⟨m.heap.next, .new drmFd⟩ rfl⟩
  · obtain ⟨hinit, heffects⟩ := init_unsupported m htype hw drmFd replies
    rw [if_neg htype, hinit, heffects]
    refine .some ⟨rfl, ?_⟩
    cases hfronts with
    | unreachable service' => exact absurd rfl hs
    | unmade service' unmade =>
      rw [service] at service'
      cases service'
      exact .unmade (c := RockitHwClient.served ⟨.ok, m⟩) rfl unmade
    | made service' current =>
      rw [service] at service'
      cases service'
      exact .made (c := RockitHwClient.served ⟨.ok, m⟩) rfl current

theorem init_same {s : PlainDecoder} (hfronts : Fronts ⟨some c⟩ s) (type : Int32)
    {param : Option RTHWParamPairs} (drmFd : Int) (replies : InitReplies)
    (hwf : ∀ rt, param = some rt → rt.Sendable) :
    Same (c.initAnswer type param drmFd replies) (s.init type param drmFd replies) := by
  cases param with
  | none =>
    unfold RockitHwClient.initAnswer RockitHwClient.init RockitHwClient.sent
    cases hfronts with
    | unreachable service =>
      rw [service]
      exact .some ⟨rfl, .unreachable service⟩
    | unmade service unmade =>
      rw [service]
      exact .some ⟨rfl, .unmade service unmade⟩
    | made service current =>
      rw [service]
      exact .some ⟨rfl, .made service current⟩
  | some rt =>
    cases hfronts with
    | unreachable service =>
      unfold RockitHwClient.initAnswer RockitHwClient.init
      rw [service]
      exact .some ⟨rfl, .unreachable service⟩
    | unmade service unmade =>
      exact init_same_sent service (.unmade service unmade) type drmFd replies (hwf rt rfl) nofun
    | made service current =>
      exact init_same_sent service (.made service current) type drmFd replies (hwf rt rfl) nofun

theorem enqueue_same {s : PlainDecoder} (hfronts : Fronts ⟨some c⟩ s) (replies : EnqueueReplies)
    {buffer : RTHWBuffer} (hwf : buffer.pair.Sendable) :
    Same (c.enqueue replies buffer) (s.enqueue replies buffer) := by
  obtain ⟨pair, hconv, hsent⟩ := sent_buffer hwf
  unfold RockitHwClient.enqueue
  rw [hconv]
  cases hfronts with
  | unreachable service =>
    exact ask_unreachable service _ fun m =>
      m.enqueuePlain replies buffer.bare buffer.pair.enqueueParams
  | unmade service unmade =>
    unfold RockitHwClient.ask
    rw [service]
    show Same (Option.map _ (RockitHwManager.enqueue _ replies _)) none
    unfold RockitHwManager.enqueue
    rw [unmade]
    exact .none
  | @made _ m impl service current =>
    have hreply : ManagerCall.reply m (.enqueue replies
        ⟨buffer.bufferType, buffer.bufferId, buffer.size, buffer.length, pair⟩) =
        some (m.forward impl (.enqueue replies
          ⟨buffer.bufferType, buffer.bufferId, buffer.size, buffer.length, pair⟩)) := by
      show RockitHwManager.enqueue m replies _ = _
      unfold RockitHwManager.enqueue
      rw [current]
      rfl
    exact ask_made service current rfl hreply
      (fun m => m.enqueuePlain replies buffer.bare buffer.pair.enqueueParams)
      (enqueue_plain impl.hal replies buffer hsent)

/-- The manager after a call that leaves its implementation as `hal`. -/
def RockitHwManager.withHal (m : RockitHwManager) (impl : Impl) (hal : RockitHwMpi) :
    RockitHwManager :=
  { m with mImpl := some { impl with hal := hal } }

theorem manager_dequeue (current : m.mImpl = some impl) (reply : Except Int (Option MppFrame)) :
    ∃ filled, m.dequeue reply =
        some (⟨(impl.hal.frameOf reply).elim .badValue fun _ => .ok,
          m.withHal impl (dequeue impl.hal reply RockitHwManager.zeroBuffer).1.hal⟩, filled) ∧
      ∀ f, impl.hal.frameOf reply = some f → filled = frameBuffer f blankFrameBuffer := by
  refine ⟨(dequeue impl.hal reply RockitHwManager.zeroBuffer).2, ?_, fun f hf =>
    (dequeue_of_frame hf).2⟩
  unfold RockitHwManager.dequeue
  rw [current, Option.map_some]
  dsimp only
  cases hframe : impl.hal.frameOf reply with
  | none =>
    rw [dequeue_of_noFrame hframe]
    rfl
  | some f =>
    rw [(dequeue_of_frame hframe).1]
    rfl

theorem manager_query (current : m.mImpl = some impl) (cmd unused : UInt32) :
    ∃ reply, m.query cmd unused =
        some (⟨(impl.hal.pairOf cmd.toInt32.toInt unused).elim .badValue fun _ => .ok, m⟩,
          reply) ∧
      ∀ pair, impl.hal.pairOf cmd.toInt32.toInt unused = some pair →
        ∃ past, reply = ⟨1, [pair.toHW], past⟩ := by
  refine ⟨(query impl.hal cmd.toInt32.toInt unused RockitHwClient.emptyPairs).2, ?_,
    fun pair hpair => (query_of_pair hpair).2⟩
  have hsame : { m with mImpl := some { impl with hal := impl.hal } } = m := by
    show { m with mImpl := some impl } = m
    rw [← current]
  unfold RockitHwManager.query
  rw [current]
  dsimp only
  cases hpair : impl.hal.pairOf cmd.toInt32.toInt unused with
  | none =>
    have hquery := query_of_noPair hpair
    unfold RockitHwClient.emptyPairs at hquery ⊢
    rw [hquery, ← hsame]
    rfl
  | some pair =>
    have hquery := (query_of_pair hpair).1
    unfold RockitHwClient.emptyPairs at hquery ⊢
    rw [hquery, ← hsame]
    rfl

theorem dequeue_same {s : PlainDecoder} (hfronts : Fronts ⟨some c⟩ s)
    (grant : Option (Nat → RTHWParamPair)) (reply : Except Int (Option MppFrame))
    {rt : RTHWBuffer} (hroom : rt.pair.HasRoom framePairCount) :
    Same (c.dequeue grant reply (some rt)) (s.dequeue reply (some rt)) := by
  unfold RockitHwClient.dequeue PlainDecoder.dequeue
  dsimp only
  cases hfronts with
  | unreachable service =>
    rw [service]
    exact .some ⟨rfl, .unreachable service⟩
  | unmade service unmade =>
    rw [service]
    dsimp only
    unfold RockitHwManager.dequeue
    rw [unmade]
    exact .none
  | @made _ m impl service current =>
    obtain ⟨filled, hmanager, hfilled⟩ := manager_dequeue current reply
    rw [service]
    dsimp only
    rw [m.effects_of_implCall (rfl : ManagerCall.implCall (.dequeue reply) = some _), current,
      hmanager, Option.bind_some]
    have hafter (status : Status) : Fronts ⟨some (RockitHwClient.served ⟨status,
        m.withHal impl (dequeue impl.hal reply RockitHwManager.zeroBuffer).1.hal⟩)⟩
        (.made (dequeue impl.hal reply RockitHwManager.zeroBuffer).1.hal) :=
      fronts_served impl rfl
    cases hframe : impl.hal.frameOf reply with
    | none => exact .some ⟨rfl, hafter _⟩
    | some f =>
      obtain ⟨b, hb, hseen⟩ := frame_seen grant f (RockitHwClient.initRTHWBuffer rt) hroom
      rw [hfilled f hframe]
      show Same (Option.map _ (hwBuffer2RTBuffer grant (frameBuffer f blankFrameBuffer) _)) _
      rw [hb]
      refine .some ⟨?_, hafter _⟩
      unfold Answer.seen Out.seen
      dsimp only
      rw [Option.map_some, hseen]
      rfl

theorem query_same {s : PlainDecoder} (hfronts : Fronts ⟨some c⟩ s)
    (grant : Option (Nat → RTHWParamPair)) (cmd unused : UInt32) {rt : RTHWParamPairs}
    (hrt : rt.Sendable) (hroom : rt.HasRoom 1) :
    Same (c.query grant cmd unused (some rt)) (s.query cmd unused (some rt)) := by
  obtain ⟨hw, hconv, -⟩ := sent_of_sendable RockitHwClient.emptyPairs hrt
  unfold RockitHwClient.query PlainDecoder.query
  dsimp only
  cases hfronts with
  | unreachable service =>
    rw [service]
    exact .some ⟨rfl, .unreachable service⟩
  | @unmade _ m service unmade =>
    rw [service]
    dsimp only
    rw [hconv, m.effects_of_implCall (rfl : ManagerCall.implCall (.query cmd unused) = some _),
      unmade]
    unfold RockitHwManager.query
    rw [unmade]
    exact .some ⟨rfl, .unmade (c := RockitHwClient.served ⟨.badValue, m⟩) rfl unmade⟩
  | @made _ m impl service current =>
    rw [service]
    dsimp only
    obtain ⟨reply, hmanager, hreply⟩ := manager_query current cmd unused
    have hnone : (query impl.hal cmd.toInt32.toInt unused RockitHwClient.emptyPairs).1.events =
        [] := by
      cases hpair : impl.hal.pairOf cmd.toInt32.toInt unused with
      | none => rw [query_of_noPair hpair]
      | some pair => rw [(query_of_pair hpair).1]
    rw [hconv, m.effects_of_implCall (rfl : ManagerCall.implCall (.query cmd unused) = some _),
      current, hmanager, Option.bind_some, Option.bind_some]
    have hafter (status : Status) :
        Fronts ⟨some (RockitHwClient.served ⟨status, m⟩)⟩ (.made impl.hal) :=
      .made (c := RockitHwClient.served ⟨status, m⟩) rfl current
    cases hpair : impl.hal.pairOf cmd.toInt32.toInt unused with
    | none =>
      refine .some ⟨?_, hafter _⟩
      show (⟨-1, _, (query impl.hal _ _ _).1.events⟩ : Seen) = _
      rw [hnone]
      rfl
    | some pair =>
      obtain ⟨past, rfl⟩ := hreply pair hpair
      obtain ⟨converted, hrt', hcounted⟩ := reply_counted grant
        ⟨1, [pair.toHW], past⟩ hroom (show 0 < 1 by decide) (show 1 ≤ intMax by decide)
        (Nat.le_refl 1)
      show Same (Option.map _ (rockitHWParam2RTHWParam grant ⟨1, [pair.toHW], past⟩ rt)) _
      rw [hrt']
      refine .some ⟨?_, hafter _⟩
      unfold Answer.seen Out.seen
      dsimp only
      rw [Option.map_some, hcounted]
      show (⟨0, _, (query impl.hal _ _ _).1.events⟩ : Seen) = _
      rw [hnone]
      rfl

/-- **One call** is carried out alike, with and without the layers. -/
theorem session_simulates : Simulates Fronts session decoderAlone := by
  rintro i s ⟨call, wf⟩ hfronts
  obtain ⟨c, rfl⟩ : ∃ c, i = ⟨some c⟩ := by
    cases hfronts <;> exact ⟨_, rfl⟩
  unfold session decoderAlone
  cases call with
  | init type param drmFd replies =>
    exact Same.delegate .nothing (fun client => client.initAnswer type param drmFd replies)
      (init_same hfronts type drmFd replies wf)
  | enqueue replies buffer =>
    exact Same.delegate .nothing (fun client => client.enqueue replies buffer)
      (enqueue_same hfronts replies wf)
  | dequeue grant reply buffer =>
    cases buffer with
    | none => exact .some ⟨rfl, hfronts⟩
    | some rt =>
      exact Same.delegate (.buffer (some rt)) (fun client => client.dequeue grant reply (some rt))
        (dequeue_same hfronts grant reply (wf rt rfl))
  | commitBuffer replies buffer =>
    obtain ⟨pair, hconv, -⟩ := sent_buffer wf
    refine Same.delegate .nothing (fun client => client.commitBuffer replies buffer) ?_
    unfold RockitHwClient.commitBuffer
    rw [hconv]
    exact ask_guarded hfronts rfl (fun _ => rfl) fun _ => rfl
  | giveBackBuffer buffer =>
    obtain ⟨pair, hconv, -⟩ := sent_buffer wf
    refine Same.delegate .nothing (fun client => client.giveBackBuffer buffer) ?_
    unfold RockitHwClient.giveBackBuffer
    rw [hconv]
    exact ask_guarded hfronts rfl (fun _ => rfl) fun _ => rfl
  | process => exact .some ⟨rfl, hfronts⟩
  | control cmd param =>
    obtain ⟨hw, hconv, hsent⟩ := sent_of_call RockitHwClient.emptyPairs param wf
    refine Same.delegate .nothing (fun client => client.control cmd param) ?_
    unfold RockitHwClient.control
    rw [hconv]
    exact ask_guarded hfronts
      (rfl : ManagerCall.implCall (.control cmd hw) = some (.control cmd.toInt32.toInt hw))
      (fun _ => rfl) fun hal => control_plain hal _ param hsent
  | query grant cmd unused param =>
    obtain ⟨rt, rfl, hrt, hroom⟩ := wf
    exact Same.delegate (.param (some rt)) (fun client => client.query grant cmd unused (some rt))
      (query_same hfronts grant cmd unused hrt hroom)
  | flush err =>
    refine Same.delegate .nothing (fun client => client.flush err) ?_
    exact ask_guarded hfronts rfl (fun _ => rfl) fun _ => rfl
  | reset err =>
    refine Same.delegate .nothing (fun client => client.reset err) ?_
    exact ask_guarded hfronts rfl (fun _ => rfl) fun _ => rfl

/-- Codec 1 at 16 by 16. -/
def codecParam : RTHWParamPairs := ⟨3, some ⟨[⟨1, 1⟩, ⟨2, 16⟩, ⟨4, 16⟩], fun _ => ⟨0, 0⟩⟩⟩

/-- Its presentation time is 40. -/
def packetParam : RTHWParamPairs := ⟨1, some ⟨[⟨9, 40⟩], fun _ => ⟨0, 0⟩⟩⟩

/-- Room for eight pairs. -/
def framePlace : RTHWBuffer :=
  ⟨0, 0, 0, 0, ⟨0, some ⟨List.replicate 8 ⟨0, 0⟩, fun _ => ⟨0, 0⟩⟩⟩⟩

def oneFrame : MppFrame :=
  ⟨false, false, some ⟨1, 7⟩, 16, 16, 16, 16, 40, 0, false, false, 0⟩

theorem sendable_codecParam : codecParam.Sendable := ⟨Nat.le_refl 3, by decide⟩

theorem sendable_packetParam : packetParam.Sendable := ⟨Nat.le_refl 1, by decide⟩

def packetSession : List GoodCall :=
  [⟨.init 1 (some codecParam) 3 goodReplies, fun _ h => Option.some.inj h ▸ sendable_codecParam⟩,
    ⟨.enqueue ⟨⟨.ok (1, 4096), .ok 4, .ok 0, .ok 0x10000, 4096⟩, 0⟩ ⟨0, 1, 4096, 10, packetParam⟩,
      sendable_packetParam⟩,
    ⟨.dequeue none (.ok (some oneFrame)) (some framePlace), fun _ h =>
      Option.some.inj h ▸ ⟨_, rfl, by decide⟩⟩]

end RockchipHal.RockitHw
