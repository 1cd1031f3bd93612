import RockchipHal.Lib.Bytes
import RockchipHal.NeuralNetworks.Types

/-!
# The client bridge `RockchipNeuralnetworksBuilder`

What an application's call does between the client API and the HAL: size a
shared-memory pool, have it allocated, fill it, describe it in a HIDL message,
send that and copy results back.  Sizes and offsets are computed in the code's
own `int` and `uint32_t` arithmetic (`poolSize`, `curOffset`).

`Hal` is everything outside the bridge: the allocator service, the transport
with the HAL server behind it, and the C heap.  A HIDL call that did not go
through (`!ret.isOk()`) answers `none`.
-/

namespace RockchipHal.NeuralNetworks

/-- `n` bytes of shared memory. -/
def Mem (n : Nat) : Type := { bytes : List UInt8 // bytes.length = n }

def Mem.memory {n : Nat} (mem : Mem n) : V1_0.HidlMemory := ⟨mem.val⟩

namespace Builder

/-! ## Outside the bridge -/

/-- Answer to `_kAllocInterface->allocate(n, cb)`: the call fails and `cb` never
runs, `cb(false, …)`, or `cb(true, mem)`. -/
inductive AllocReply (n : Nat)
  | transportError
  | refused
  | granted (mem : Mem n)

def AllocReply.isGranted {n : Nat} : AllocReply n → Bool
  | granted _ => true
  | _ => false

structure Hal where
  /-- `t` counts the allocations of one call of the bridge -/
  allocate : (t n : Nat) → AllocReply n
  rknnInit : V1_0.RKNNModel → (size flag : UInt32) → Option (V1_0.ErrorStatus × UInt64)
  /-- the reply to query `t`, and the memory passed with it afterwards -/
  rknnQuery : (t : Nat) → UInt64 → V1_0.RKNNQueryCmd → (info : V1_0.HidlMemory) → UInt32 →
    Option V1_0.ErrorStatus × Mem info.size
  rknnInputsSet : UInt64 → V1_0.Request → Option V1_0.ErrorStatus
  rknnRun : UInt64 → V1_0.RKNNRunExtend → Option V1_0.ErrorStatus
  rknnOutputsGet : UInt64 → (response : V1_0.Response) → V1_0.RKNNOutputExtend →
    Option V1_0.ErrorStatus × Mem response.pool.size
  /-- whether the two attribute arrays of a context can be allocated -/
  mallocAttrs : Bool × Bool
  /-- the buffer `malloc` returns for output `i` -/
  mallocOutput : Nat → Nat
  /-- memory behind the arrays -/
  behindAttrs : Nat → UInt32 × UInt32
  behindInputs : Nat → V1_0.RKNNInput
  behindOutputs : Nat → V1_0.RKNNOutput

/-! ## Conversions -/

def toRknnHalCmd : RknnQueryCmd → V1_0.RKNNQueryCmd
  | .inOutNum => .inOutNum
  | .inputAttr => .inputAttr
  | .outputAttr => .outputAttr
  | .perfDetail => .perfDetail
  | .perfRun => .perfRun
  | .sdkVersion => .sdkVersion
  | _ => .cmdMax

def toRknnHalType : RknnTensorType → V1_0.RKNNTensorType
  | .float32 => .float32
  | .float16 => .float16
  | .int8 => .int8
  | .uint8 => .uint8
  | .int16 => .int16
  | _ => .typeMax

def toRknnHalFormat : RknnTensorFormat → V1_0.RKNNTensorFormat
  | .nchw => .nchw
  | .nhwc => .nhwc
  | .formatMax => .formatMax

/-! ## The context -/

/-- The fields of `rknn_tensor_attr` the bridge looks at. -/
structure RknnTensorAttr where
  nElems : UInt32
  size : UInt32
deriving DecidableEq, Repr

/-- `_RKNNContext`. -/
structure RknnContext where
  context : UInt64
  nInput : UInt32
  nOutput : UInt32
  inputTensorAttrs : List RknnTensorAttr
  outputTensorAttrs : UncheckedVec RknnTensorAttr

/-! ## rknn_query -/

/-- The memory the query is sent with: `info` copied to its start. -/
def queryMemory (info : List UInt8) (size : UInt32) {n : Nat} (mem : Mem n) : V1_0.HidlMemory :=
  ⟨memWrite mem.val 0 (info.take size.toNat)⟩

/-- The transport outcome and status of the HAL call `rknn_query` makes, if it makes one. -/
def queryReply (hal : Hal) (t : Nat) (context : UInt64) (cmd : RknnQueryCmd) (info : List UInt8)
    (size : UInt32) : Option V1_0.ErrorStatus :=
  match hal.allocate t size.toNat with
  | .granted mem => (hal.rknnQuery t context (toRknnHalCmd cmd) (queryMemory info size mem) size).1
  | _ => none

/-- The return code and `info` afterwards. -/
def rknnQuery (hal : Hal) (t : Nat) (context : UInt64) (cmd : RknnQueryCmd) (info : List UInt8)
    (size : UInt32) : Int × List UInt8 :=
  if size = 0 then (-1, info)
  else
    match hal.allocate t size.toNat with
    | .granted mem =>
      -- neither the transport outcome nor the status of the reply is looked at
      let reply := hal.rknnQuery t context (toRknnHalCmd cmd) (queryMemory info size mem) size
      (0, memWrite info 0 (reply.2.val.take size.toNat))
    | _ => (0, info)

/-! ## rknn_init -/

/-- A little-endian `uint32_t` in a byte buffer. -/
def u32At (bytes : List UInt8) (off : Nat) : UInt32 :=
  (bytes.getD off 0).toUInt32 + (bytes.getD (off + 1) 0).toUInt32 * 0x100 +
    (bytes.getD (off + 2) 0).toUInt32 * 0x10000 + (bytes.getD (off + 3) 0).toUInt32 * 0x1000000

def sizeofInputOutputNum : UInt32 := 8

/-- `sizeof(rknn_tensor_attr)`. -/
def sizeofTensorAttr : UInt32 := 372

/-- A zeroed `rknn_tensor_attr` with its `index` set. -/
def tensorAttrBytes (index : UInt32) : List UInt8 :=
  [index.toUInt8, (index / 0x100).toUInt8, (index / 0x10000).toUInt8, (index / 0x1000000).toUInt8] ++
    List.replicate 368 0

/-- `n_elems` and `size` lie behind `index`, `n_dims`, `dims[16]` and `name[256]`. -/
def tensorAttrOf (bytes : List UInt8) : RknnTensorAttr := ⟨u32At bytes 328, u32At bytes 332⟩

/-- The loop querying the attributes of tensors `i, i + 1, …` (`n` of them); it
ends with -1 at the first query that fails. -/
def queryAttrs (hal : Hal) (context : UInt64) (cmd : RknnQueryCmd) (t : Nat) :
    (n i : Nat) → Int × List RknnTensorAttr
  | 0, _ => (0, [])
  | n + 1, i =>
    let query := rknnQuery hal (t + i) context cmd (tensorAttrBytes (UInt32.ofNat i)) sizeofTensorAttr
    if query.1 ≠ rknnSucc then (-1, [])
    else
      let rest := queryAttrs hal context cmd t n (i + 1)
      (rest.1, tensorAttrOf query.2 :: rest.2)

/-- The last part of `_get_model_info`: the output attributes. -/
def getOutputAttrs (hal : Hal) (t : Nat) (ctx : RknnContext) : Option (Int × RknnContext) :=
  if ctx.nOutput ≠ 0 ∧ hal.mallocAttrs.2 = false then none
  else
    let outputs := queryAttrs hal ctx.context .outputAttr t ctx.nOutput.toNat 0
    some (if outputs.1 ≠ rknnSucc then -1 else 0,
      { ctx with outputTensorAttrs := { ctx.outputTensorAttrs with data := outputs.2 } })

/-- The part of `_get_model_info` behind its first query: the attributes. -/
def getTensorAttrs (hal : Hal) (ctx : RknnContext) : Option (Int × RknnContext) :=
  if ctx.nInput ≠ 0 ∧ hal.mallocAttrs.1 = false then none
  else
    let inputs := queryAttrs hal ctx.context .inputAttr 2 ctx.nInput.toNat 0
    if inputs.1 ≠ rknnSucc then some (-1, { ctx with inputTensorAttrs := inputs.2 })
    else getOutputAttrs hal (2 + ctx.nInput.toNat) { ctx with inputTensorAttrs := inputs.2 }

/-- The context filled in from the `rknn_input_output_num` the server returned. -/
def numContext (hal : Hal) (rContext : UInt64) (info : List UInt8) : RknnContext where
  context := rContext
  nInput := u32At info 0
  nOutput := u32At info 4
  inputTensorAttrs := []
  outputTensorAttrs :=
    { data := []
      past := fun i => ⟨(hal.behindAttrs i).1, (hal.behindAttrs i).2⟩ }

/-- `_get_model_info`: the return code and the context filled in; `none` when it
writes through an attribute array that could not be allocated. -/
def getModelInfo (hal : Hal) (rContext : UInt64) : Option (Int × RknnContext) :=
  let query := rknnQuery hal 1 rContext .inOutNum (List.replicate 8 0) sizeofInputOutputNum
  if query.1 ≠ rknnSucc then some (-1, numContext hal rContext query.2)
  else getTensorAttrs hal (numContext hal rContext query.2)

structure InitResult where
  ret : Int
  /-- the context object `*context` was set to, if it was -/
  stored : Option RknnContext

def initModel (pData : List UInt8) (size : UInt32) {n : Nat} (mem : Mem n) : V1_0.RKNNModel :=
  ⟨⟨memWrite mem.val 0 (pData.take size.toNat)⟩⟩

/-- The reply to the HAL call `rknn_init` makes, if it makes one. -/
def initReply (hal : Hal) (pData : List UInt8) (size flag : UInt32) :
    Option (V1_0.ErrorStatus × UInt64) :=
  match hal.allocate 0 size.toNat with
  | .granted mem => hal.rknnInit (initModel pData size mem) size flag
  | _ => none

def rknnInit (hal : Hal) (pData : List UInt8) (size flag : UInt32) : Option InitResult :=
  if size = 0 then some ⟨-1, none⟩
  else
    match hal.allocate 0 size.toNat with
    | .granted mem =>
      match hal.rknnInit (initModel pData size mem) size flag with
      | none => some ⟨-1, none⟩
      | some (status, rContext) =>
        if status = rknnSucc then
          (getModelInfo hal rContext).map fun (ret, ctx) => ⟨ret, some ctx⟩
        else
          -- "Client init failed!", and ret_code stays 0
          some ⟨0, none⟩
    | _ => some ⟨0, none⟩

/-! ## rknn_inputs_set -/

/-- An element of the caller's `inputs`: `buf` points to `size` bytes. -/
structure ClientInput extends RknnInput (List UInt8) where
  buf_length : buf.length = size.toNat

/-- `poolSize += size` over the sizes, in `int` arithmetic. -/
def poolSize (sizes : List UInt32) : UInt32 := sizes.foldl (· + ·) 0

/-- `cur_offset += size` over the sizes before `i`, in `uint32_t` arithmetic. -/
def curOffset (sizes : List UInt32) (i : Nat) : UInt32 := (sizes.take i).foldl (· + ·) 0

/-- The copies the loop makes: each input's bytes go to `memory->getPointer()`. -/
def fillPool (inputs : List ClientInput) (pool : List UInt8) : List UInt8 :=
  overlay pool (inputs.map fun x => x.buf)

def inputArray (inputs : List ClientInput) : List V1_0.RKNNInput :=
  inputs.mapIdx fun i x =>
    { index := x.index
      buf :=
        { poolIndex := UInt32.ofNat i
          offset := curOffset (inputs.map fun x => x.size) i
          length := x.size }
      passThrough := 0
      type := toRknnHalType x.type
      fmt := toRknnHalFormat x.fmt }

/-- The request sent once the pool is filled. -/
def inputsRequest (behind : Nat → V1_0.RKNNInput) (inputs : List ClientInput) (pool : List UInt8) :
    V1_0.Request :=
  { nInputs := UInt32.ofNat inputs.length
    inputs := { data := inputArray inputs, past := behind }
    pool := ⟨fillPool inputs pool⟩ }

def inputsSetReply (hal : Hal) (ctx : RknnContext) (inputs : List ClientInput) :
    Option V1_0.ErrorStatus :=
  match hal.allocate 0 (intToUInt64 (poolSize (inputs.map fun x => x.size))).toNat with
  | .granted mem => hal.rknnInputsSet ctx.context (inputsRequest hal.behindInputs inputs mem.val)
  | _ => none

def rknnInputsSet (hal : Hal) (ctx : RknnContext) (inputs : List ClientInput) : Int :=
  let size := poolSize (inputs.map fun x => x.size)
  if size = 0 then -1
  else
    match hal.allocate 0 (intToUInt64 size).toNat with
    | .granted mem =>
      match hal.rknnInputsSet ctx.context (inputsRequest hal.behindInputs inputs mem.val) with
      | none => 0  -- "rknnInputsSet error!" is only logged
      | some _ => 0
    | _ => 0

/-! ## rknn_run -/

def runExtend (extend : Option UInt64) : V1_0.RKNNRunExtend := ⟨extend.getD 0⟩

def rknnRun (hal : Hal) (ctx : RknnContext) (extend : Option UInt64) : Int :=
  match hal.rknnRun ctx.context (runExtend extend) with
  | some _ => 0
  | none => -1

/-! ## rknn_outputs_get, rknn_outputs_release -/

/-- `out_size` of output `i`: the caller's size if preallocated, else the model's. -/
def outSize (ctx : RknnContext) (i : Nat) (output : RknnOutput Nat) : UInt32 :=
  if output.isPrealloc = 1 then output.size
  else if output.wantFloat = 1 then (ctx.outputTensorAttrs.get i).nElems * 4
  else (ctx.outputTensorAttrs.get i).size

/-- The caller's array after the sizing loop. -/
def sizedOutputs (ctx : RknnContext) (outputs : List (RknnOutput Nat)) : List (RknnOutput Nat) :=
  outputs.mapIdx fun i output => { output with size := outSize ctx i output }

def outputArray (outputs : List (RknnOutput Nat)) : List V1_0.RKNNOutput :=
  outputs.mapIdx fun i output =>
    { wantFloat := output.wantFloat
      isPrealloc := 1
      index := ⟨0, 0, 0⟩
      buf :=
        { poolIndex := UInt32.ofNat i
          offset := curOffset (outputs.map fun x => x.size) i
          length := output.size } }

def outputsResponse (behind : Nat → V1_0.RKNNOutput) (outputs : List (RknnOutput Nat))
    {n : Nat} (mem : Mem n) : V1_0.Response :=
  { nOutputs := UInt32.ofNat outputs.length
    outputs := { data := outputArray outputs, past := behind }
    pool := mem.memory }

structure OutputsResult where
  ret : Int
  outputs : List (RknnOutput Nat)
  /-- `memcpy` into the outputs' buffers: destination and bytes -/
  copied : List (Nat × List UInt8)

/-- The array with a fresh buffer for every output that is not preallocated. -/
def bufferedOutputs (hal : Hal) (outputs : List (RknnOutput Nat)) : List (RknnOutput Nat) :=
  outputs.mapIdx fun i output =>
    if output.isPrealloc ≠ 1 then { output with buf := hal.mallocOutput i } else output

/-- The bytes copied out of the pool, one region for each output. -/
def copyOut (outputs : List (RknnOutput Nat)) (pool : List UInt8) : List (Nat × List UInt8) :=
  outputs.mapIdx fun i output =>
    (output.buf, slice pool (curOffset (outputs.map fun x => x.size) i).toNat output.size.toNat)

def outputsGetReply (hal : Hal) (ctx : RknnContext) (outputs : List (RknnOutput Nat))
    (extend : Option UInt64) : Option V1_0.ErrorStatus :=
  let outputs := sizedOutputs ctx outputs
  match hal.allocate 0 (intToUInt64 (poolSize (outputs.map fun x => x.size))).toNat with
  | .granted mem =>
    (hal.rknnOutputsGet ctx.context (outputsResponse hal.behindOutputs outputs mem)
      ⟨extend.getD 0⟩).1
  | _ => none

def rknnOutputsGet (hal : Hal) (ctx : RknnContext) (outputs : List (RknnOutput Nat))
    (extend : Option UInt64) : OutputsResult :=
  let outputs := sizedOutputs ctx outputs
  let size := poolSize (outputs.map fun x => x.size)
  if size = 0 then ⟨-1, outputs, []⟩
  else
    match hal.allocate 0 (intToUInt64 size).toNat with
    | .granted mem =>
      -- the outputs are filled in whatever the reply was
      let reply := hal.rknnOutputsGet ctx.context (outputsResponse hal.behindOutputs outputs mem)
        ⟨extend.getD 0⟩
      let outputs := bufferedOutputs hal outputs
      ⟨0, outputs, copyOut outputs reply.2.val⟩
    | _ => ⟨0, outputs, []⟩

/-- The buffers freed. -/
def rknnOutputsRelease (outputs : List (RknnOutput Nat)) : List Nat :=
  (outputs.filter fun output => output.isPrealloc ≠ 1).map fun output => output.buf

end Builder

end RockchipHal.NeuralNetworks
