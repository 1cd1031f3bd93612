import RockchipHal.NeuralNetworks.Types

/-!
# The HAL server `RKNeuralnetworks`

Each entry point maps the message's memory, turns the HIDL arguments into the
runtime's and calls the runtime once.  `Served` is what it did: the indices of
the message's vector it read, the runtime call with its arguments, the status
replied and the memory as the client sees it after `commit`.

The server hands counts, offsets, lengths and sizes on as the client sent them,
so a message keeps the server inside its memory exactly when it fits:

    (rknnInputsSet …).InBounds ↔ request.Fits             (rknnInputsSet_inBounds_iff)
    (rknnOutputsGet …).InBounds ↔ response.Fits           (rknnOutputsGet_inBounds_iff)
    …                                                     (served_inBounds_iff)
-/

namespace RockchipHal.NeuralNetworks

/-! ## Calls of the runtime (librknnrt) -/

/-- A pointer, as its distance from the start of the mapped memory, and a size. -/
structure Span where
  ptr : Nat
  size : Nat
deriving DecidableEq, Repr

/-- A call of the runtime with its arguments; pointers are relative to the start
of the mapped memory, whose bytes come last. -/
inductive RuntimeCall
  | rknnInit (size flag : UInt32) (model : List UInt8)
  | rknnDestroy (context : UInt64)
  | rknnQuery (context : UInt64) (cmd : RknnQueryCmd) (size : UInt32) (info : List UInt8)
  | rknnInputsSet (context : UInt64) (nInputs : UInt32) (inputs : List (RknnInput Nat))
      (pool : List UInt8)
  | rknnRun (context : UInt64) (frameId : UInt64)
  | rknnOutputsGet (context : UInt64) (nOutputs : UInt32) (outputs : List (RknnOutput Nat))
      (frameId : UInt64) (pool : List UInt8)
  | rknnOutputsRelease (context : UInt64) (nOutputs : UInt32) (outputs : List (RknnOutput Nat))
      (pool : List UInt8)
deriving DecidableEq, Repr

namespace RuntimeCall

/-- The (pointer, size) pairs the call passes. -/
def spans : RuntimeCall → List Span
  | rknnInit size _ _ => [⟨0, size.toNat⟩]
  | rknnQuery _ _ size _ => [⟨0, size.toNat⟩]
  | rknnInputsSet _ _ inputs _ => inputs.map fun x => ⟨x.buf, x.size.toNat⟩
  | rknnOutputsGet _ _ outputs _ _ => outputs.map fun x => ⟨x.buf, x.size.toNat⟩
  | rknnOutputsRelease _ _ outputs _ => outputs.map fun x => ⟨x.buf, x.size.toNat⟩
  | rknnDestroy _ => []
  | rknnRun _ _ => []

/-- The mapped memory the pointers are into. -/
def mapped : RuntimeCall → List UInt8
  | rknnInit _ _ model => model
  | rknnQuery _ _ _ info => info
  | rknnInputsSet _ _ _ pool => pool
  | rknnOutputsGet _ _ _ _ pool => pool
  | rknnOutputsRelease _ _ _ pool => pool
  | rknnDestroy _ => []
  | rknnRun _ _ => []

end RuntimeCall

/-- What the runtime answers: its return code, the context it stored (on a
successful `rknn_init`) and the mapped memory after the call. -/
structure RuntimeReply where
  ret : Int
  context : Option UInt64
  mem : List UInt8

abbrev Runtime := RuntimeCall → RuntimeReply

/-! ## The entry points -/

def toErrorStatus (ret : Int) : V1_0.ErrorStatus := ret

def toRknnapiCmd : V1_0.RKNNQueryCmd → RknnQueryCmd
  | .inOutNum => .inOutNum
  | .inputAttr => .inputAttr
  | .outputAttr => .outputAttr
  | .perfDetail => .perfDetail
  | .perfRun => .perfRun
  | .sdkVersion => .sdkVersion
  | _ => .cmdMax

def toRknnapiType : V1_0.RKNNTensorType → RknnTensorType
  | .float32 => .float32
  | .float16 => .float16
  | .int8 => .int8
  | .uint8 => .uint8
  | .int16 => .int16
  | _ => .typeMax

def toRknnapiFormat : V1_0.RKNNTensorFormat → RknnTensorFormat
  | .nchw => .nchw
  | .nhwc => .nhwc
  | _ => .formatMax

/-- What one entry point did with a message. -/
structure Served where
  reads : List Nat
  call : RuntimeCall
  status : V1_0.ErrorStatus
  mem : List UInt8

def Served.of (runtime : Runtime) (reads : List Nat) (call : RuntimeCall) : Served where
  reads := reads
  call := call
  status := toErrorStatus (runtime call).ret
  mem := (runtime call).mem

/-- `ctx` is the server's member: the runtime stores the new context there, and
the reply carries whatever it holds. -/
def rknnInit (runtime : Runtime) (ctx : UInt64) (model : V1_0.RKNNModel) (size flag : UInt32) :
    Served × UInt64 :=
  let call := RuntimeCall.rknnInit size flag model.modelData.bytes
  (.of runtime [] call, (runtime call).context.getD ctx)

def rknnDestory (runtime : Runtime) (context : UInt64) : Served :=
  .of runtime [] (.rknnDestroy context)

def rknnQuery (runtime : Runtime) (context : UInt64) (cmd : V1_0.RKNNQueryCmd)
    (info : V1_0.HidlMemory) (size : UInt32) : Served :=
  .of runtime [] (.rknnQuery context (toRknnapiCmd cmd) size info.bytes)

/-- The loop filling `temp_inputs`. -/
def tempInputs (request : V1_0.Request) : Reads (List (RknnInput Nat)) :=
  (List.range request.nInputs.toNat).mapM fun i => do
    let input ← request.inputs.read i
    return { index := input.index
             buf := input.buf.offset.toNat
             size := input.buf.length
             passThrough := input.passThrough
             type := toRknnapiType input.type
             fmt := toRknnapiFormat input.fmt }

def rknnInputsSet (runtime : Runtime) (context : UInt64) (request : V1_0.Request) : Served :=
  let inputs := tempInputs request
  .of runtime inputs.log (.rknnInputsSet context request.nInputs inputs.val request.pool.bytes)

def rknnRun (runtime : Runtime) (context : UInt64) (extend : V1_0.RKNNRunExtend) : Served :=
  .of runtime [] (.rknnRun context extend.frameId)

/-- The loop filling `pOutputs`. -/
def pOutputs (response : V1_0.Response) : Reads (List (RknnOutput Nat)) :=
  (List.range response.nOutputs.toNat).mapM fun i => do
    let output ← response.outputs.read i
    return { wantFloat := output.wantFloat
             isPrealloc := output.isPrealloc
             buf := output.buf.offset.toNat
             size := output.buf.length
             index := UInt32.ofNat i }

def rknnOutputsGet (runtime : Runtime) (context : UInt64) (response : V1_0.Response)
    (extend : V1_0.RKNNOutputExtend) : Served :=
  let outputs := pOutputs response
  .of runtime outputs.log
    (.rknnOutputsGet context response.nOutputs outputs.val extend.frameId response.pool.bytes)

def rknnOutputsRelease (runtime : Runtime) (context : UInt64) (response : V1_0.Response) : Served :=
  let outputs := pOutputs response
  .of runtime outputs.log
    (.rknnOutputsRelease context response.nOutputs outputs.val response.pool.bytes)

/-! ## Staying inside the message's memory -/

/-- Every vector element read is one of its `len`, and every (pointer, size) pair
passed to the runtime ends inside the mapped memory. -/
def Served.InBounds (s : Served) (len : Nat) : Prop :=
  (∀ i ∈ s.reads, i < len) ∧ ∀ p ∈ s.call.spans, p.ptr + p.size ≤ s.call.mapped.length

namespace V1_0

/-- The location lies in a pool of `n` bytes. -/
def DataLocation.Fits (loc : DataLocation) (n : Nat) : Prop :=
  loc.offset.toNat + loc.length.toNat ≤ n

/-- The count is at most the vector's length, and the counted inputs lie in the pool. -/
def Request.Fits (request : Request) : Prop :=
  request.nInputs.toNat ≤ request.inputs.size ∧
    ∀ input ∈ request.inputs.data.take request.nInputs.toNat, input.buf.Fits request.pool.size

/-- The count is at most the vector's length, and the counted outputs lie in the pool. -/
def Response.Fits (response : Response) : Prop :=
  response.nOutputs.toNat ≤ response.outputs.size ∧
    ∀ output ∈ response.outputs.data.take response.nOutputs.toNat,
      output.buf.Fits response.pool.size

end V1_0

theorem rknnInputsSet_inBounds_iff (runtime : Runtime) (context : UInt64) (request : V1_0.Request) :
    (rknnInputsSet runtime context request).InBounds request.inputs.size ↔ request.Fits := by
  unfold Served.InBounds V1_0.Request.Fits
  have hreads : (∀ i ∈ (tempInputs request).log, i < request.inputs.size) ↔
      request.nInputs.toNat ≤ request.inputs.size := request.inputs.below_range_mapM _ _
  show (∀ i ∈ (tempInputs request).log, i < request.inputs.size) ∧
    (∀ p ∈ (tempInputs request).val.map fun x => (⟨x.buf, x.size.toNat⟩ : Span),
      p.ptr + p.size ≤ request.pool.size) ↔ _
  rw [hreads]
  refine and_congr_right fun hn => ?_
  rw [← request.inputs.forall_lt_get _ hn fun input => input.buf.Fits request.pool.size]
  simp [tempInputs, V1_0.DataLocation.Fits]

/-- `rknnOutputsGet` and `rknnOutputsRelease` fill the same array. -/
theorem pOutputs_inBounds_iff (response : V1_0.Response) :
    ((∀ i ∈ (pOutputs response).log, i < response.outputs.size) ∧
      ∀ p ∈ (pOutputs response).val.map fun x => (⟨x.buf, x.size.toNat⟩ : Span),
        p.ptr + p.size ≤ response.pool.size) ↔ response.Fits := by
  unfold V1_0.Response.Fits
  have hreads : (∀ i ∈ (pOutputs response).log, i < response.outputs.size) ↔
      response.nOutputs.toNat ≤ response.outputs.size := response.outputs.below_range_mapM _ _
  rw [hreads]
  refine and_congr_right fun hn => ?_
  rw [← response.outputs.forall_lt_get _ hn fun output => output.buf.Fits response.pool.size]
  simp [pOutputs, V1_0.DataLocation.Fits]

theorem rknnOutputsGet_inBounds_iff (runtime : Runtime) (context : UInt64)
    (response : V1_0.Response) (extend : V1_0.RKNNOutputExtend) :
    (rknnOutputsGet runtime context response extend).InBounds response.outputs.size ↔
      response.Fits :=
  pOutputs_inBounds_iff response

theorem rknnOutputsRelease_inBounds_iff (runtime : Runtime) (context : UInt64)
    (response : V1_0.Response) :
    (rknnOutputsRelease runtime context response).InBounds response.outputs.size ↔
      response.Fits :=
  pOutputs_inBounds_iff response

theorem rknnQuery_inBounds_iff (runtime : Runtime) (context : UInt64) (cmd : V1_0.RKNNQueryCmd)
    (info : V1_0.HidlMemory) (size : UInt32) :
    (rknnQuery runtime context cmd info size).InBounds 0 ↔ size.toNat ≤ info.size := by
  simp [Served.InBounds, rknnQuery, Served.of, RuntimeCall.spans, RuntimeCall.mapped,
    V1_0.HidlMemory.size]

theorem rknnInit_inBounds_iff (runtime : Runtime) (ctx : UInt64) (model : V1_0.RKNNModel)
    (size flag : UInt32) :
    (rknnInit runtime ctx model size flag).1.InBounds 0 ↔ size.toNat ≤ model.modelData.size := by
  simp [Served.InBounds, rknnInit, Served.of, RuntimeCall.spans, RuntimeCall.mapped,
    V1_0.HidlMemory.size]

/-- **A message keeps the server inside its memory exactly when it fits.**  The
server compares none of the client's counts, offsets, lengths and sizes. -/
theorem served_inBounds_iff (runtime : Runtime) :
    (∀ context request, (rknnInputsSet runtime context request).InBounds request.inputs.size ↔
      request.Fits) ∧
    (∀ context response extend,
      (rknnOutputsGet runtime context response extend).InBounds response.outputs.size ↔
        response.Fits) ∧
    (∀ context response,
      (rknnOutputsRelease runtime context response).InBounds response.outputs.size ↔
        response.Fits) ∧
    (∀ context cmd info size,
      (rknnQuery runtime context cmd info size).InBounds 0 ↔ size.toNat ≤ info.size) ∧
    (∀ ctx model size flag,
      (rknnInit runtime ctx model size flag).1.InBounds 0 ↔ size.toNat ≤ model.modelData.size) :=
  ⟨rknnInputsSet_inBounds_iff runtime, rknnOutputsGet_inBounds_iff runtime,
    rknnOutputsRelease_inBounds_iff runtime, rknnQuery_inBounds_iff runtime,
    rknnInit_inBounds_iff runtime⟩

/-- One input in the vector, two counted; its five bytes in a pool of four. -/
def oversizedRequest : V1_0.Request where
  nInputs := 2
  inputs := { data := [⟨0, ⟨0, 0, 5⟩, 0, .uint8, .nhwc⟩]
              past := fun _ => ⟨0, ⟨0, 0, 0⟩, 0, .uint8, .nhwc⟩ }
  pool := ⟨[0, 0, 0, 0]⟩

/-- The server reads the input past the vector's end and hands the runtime a span
past the pool's; a query of eight bytes in a memory of four goes past it too. -/
theorem oversizedRequest_outOfBounds :
    (1 ∈ (rknnInputsSet (fun _ => ⟨0, none, []⟩) 1 oversizedRequest).reads ∧
      oversizedRequest.inputs.size = 1) ∧
    (⟨0, 5⟩ ∈ (rknnInputsSet (fun _ => ⟨0, none, []⟩) 1 oversizedRequest).call.spans ∧
      oversizedRequest.pool.size = 4) ∧
    ¬ (rknnInputsSet (fun _ => ⟨0, none, []⟩) 1 oversizedRequest).InBounds 1 ∧
    ¬ (rknnQuery (fun _ => ⟨0, none, []⟩) 1 .inOutNum ⟨[0, 0, 0, 0]⟩ 8).InBounds 0 := by
  refine ⟨by decide, by decide, ?_, ?_⟩
  · intro h
    have := h.1 1 (by decide)
    omega
  · intro h
    have := h.2 ⟨0, 8⟩ (by decide)
    exact absurd this (by decide)

end RockchipHal.NeuralNetworks
