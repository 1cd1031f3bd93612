import RockchipHal.Lib.Reads

/-!
# The data of the neural-network HAL

The client API (`rknn_api.h`) and the HIDL interface (`types.hal`, namespace
`V1_0`).  A HIDL enum crosses the wire as its 32-bit code, so a client can send
a code no member has: `other`.
-/

namespace RockchipHal.NeuralNetworks

/-! ## rknn_api.h -/

def rknnSucc : Int := 0

inductive RknnQueryCmd
  | inOutNum | inputAttr | outputAttr | perfDetail | perfRun | sdkVersion
  | memSize | customString | cmdMax
deriving DecidableEq, Repr

inductive RknnTensorType
  | float32 | float16 | int8 | uint8 | int16 | uint16 | int32 | uint32 | int64 | typeMax
deriving DecidableEq, Repr

inductive RknnTensorFormat
  | nchw | nhwc | formatMax
deriving DecidableEq, Repr

/-- `rknn_input`; `β` is what `void *buf` stands for: bytes at the client, an
address in the mapped pool at the server. -/
structure RknnInput (β : Type) where
  index : UInt32
  buf : β
  size : UInt32
  passThrough : UInt8
  type : RknnTensorType
  fmt : RknnTensorFormat
deriving DecidableEq, Repr

/-- `rknn_output`. -/
structure RknnOutput (β : Type) where
  wantFloat : UInt8
  isPrealloc : UInt8
  index : UInt32
  buf : β
  size : UInt32
deriving DecidableEq, Repr

/-! ## types.hal -/

namespace V1_0

/-- `ErrorStatus : int32_t`.  The codes sent are those of the runtime (0 or
negative), which the enum's members do not cover. -/
abbrev ErrorStatus := Int

inductive RKNNQueryCmd
  | inOutNum | inputAttr | outputAttr | perfDetail | perfRun | sdkVersion | cmdMax
  | other (code : UInt32)
deriving DecidableEq, Repr

inductive RKNNTensorType
  | float32 | float16 | int8 | uint8 | int16 | typeMax | other (code : UInt32)
deriving DecidableEq, Repr

inductive RKNNTensorFormat
  | nchw | nhwc | formatMax | other (code : UInt32)
deriving DecidableEq, Repr

structure DataLocation where
  poolIndex : UInt32
  offset : UInt32
  length : UInt32
deriving DecidableEq, Repr

structure RKNNInput where
  index : UInt32
  buf : DataLocation
  passThrough : UInt8
  type : RKNNTensorType
  fmt : RKNNTensorFormat
deriving DecidableEq, Repr

structure RKNNOutput where
  wantFloat : UInt8
  isPrealloc : UInt8
  index : DataLocation
  buf : DataLocation
deriving DecidableEq, Repr

/-- `memory`: the bytes `mapMemory` makes accessible. -/
structure HidlMemory where
  bytes : List UInt8
deriving DecidableEq, Repr

def HidlMemory.size (m : HidlMemory) : Nat := m.bytes.length

theorem HidlMemory.length_bytes (m : HidlMemory) : m.bytes.length = m.size := rfl

abbrev HidlVec := UncheckedVec

structure Request where
  nInputs : UInt32
  inputs : HidlVec RKNNInput
  pool : HidlMemory

structure Response where
  nOutputs : UInt32
  outputs : HidlVec RKNNOutput
  pool : HidlMemory

structure RKNNModel where
  modelData : HidlMemory

structure RKNNRunExtend where
  frameId : UInt64

structure RKNNOutputExtend where
  frameId : UInt64

end V1_0

end RockchipHal.NeuralNetworks
