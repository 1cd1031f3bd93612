import RockchipHal.NeuralNetworks.Transport

/-!
# Attributes of the inputs

Index and size of an input, its `pass_through`, type and format go from the client's
`rknn_input` through the HIDL `RKNNInput` to the `rknn_input` of the server.  Formats cross
unchanged.  Of the types only those that the HIDL enum has do, and `pass_through` is sent as
`false` though the HIDL structure carries it and the server hands it on:

    attributes kept ↔ every input has pass_through = 0 and a type the HIDL enum has
                                                                  (inputAttrs_eq_iff)
-/

namespace RockchipHal.NeuralNetworks

/-- An input without its bytes. -/
def RknnInput.attrs {β : Type} (x : RknnInput β) : RknnInput Unit :=
  ⟨x.index, (), x.size, x.passThrough, x.type, x.fmt⟩

/-- The attributes of the inputs handed to the runtime. -/
def RuntimeCall.inputAttrs : RuntimeCall → List (RknnInput Unit)
  | rknnInputsSet _ _ inputs _ => inputs.map RknnInput.attrs
  | _ => []

namespace Builder

/-! ## The two translations -/

theorem toRknnapiFormat_toRknnHalFormat (fmt : RknnTensorFormat) :
    toRknnapiFormat (toRknnHalFormat fmt) = fmt := by
  cases fmt <;> rfl

/-- The members the HIDL enum has too; its last one stands for `RKNN_TENSOR_TYPE_MAX`. -/
def halTypes : List RknnTensorType := [.float32, .float16, .int8, .uint8, .int16, .typeMax]

theorem toRknnapiType_toRknnHalType_iff (type : RknnTensorType) :
    toRknnapiType (toRknnHalType type) = type ↔ type ∈ halTypes := by
  cases type <;> decide

/-! ## End to end -/

/-- An input's attributes as the server has them. -/
def servedAttrs (x : ClientInput) : RknnInput Unit :=
  ⟨x.index, (), x.size, 0, toRknnapiType (toRknnHalType x.type),
    toRknnapiFormat (toRknnHalFormat x.fmt)⟩

theorem inputAttrs_inputsRequest (runtime : Runtime) (context : UInt64)
    (behind : Nat → V1_0.RKNNInput) (inputs : List ClientInput) (pool : List UInt8)
    (hn : inputs.length < 2 ^ 32) :
    (NeuralNetworks.rknnInputsSet runtime context
      (inputsRequest behind inputs pool)).call.inputAttrs = inputs.map servedAttrs := by
  show (tempInputs (inputsRequest behind inputs pool)).val.map RknnInput.attrs = _
  rw [tempInputs_inputsRequest behind inputs pool hn, List.map_map]
  apply List.ext_getElem
  · simp [inputArray]
  · intro i _ _
    simp [inputArray, servedInput, RknnInput.attrs, servedAttrs]

theorem servedAttrs_eq_iff (x : ClientInput) :
    servedAttrs x = x.toRknnInput.attrs ↔ x.passThrough = 0 ∧ x.type ∈ halTypes := by
  unfold servedAttrs RknnInput.attrs
  rw [RknnInput.mk.injEq, toRknnapiFormat_toRknnHalFormat, toRknnapiType_toRknnHalType_iff]
  simp [eq_comm]

/-- **Input attributes** reach the runtime as they were exactly when every input has
`pass_through = 0` and a type of the HIDL enum. -/
theorem inputAttrs_eq_iff (runtime : Runtime) (context : UInt64) (behind : Nat → V1_0.RKNNInput)
    (inputs : List ClientInput) (pool : List UInt8) (hn : inputs.length < 2 ^ 32) :
    (NeuralNetworks.rknnInputsSet runtime context
        (inputsRequest behind inputs pool)).call.inputAttrs =
      inputs.map (fun x => x.toRknnInput.attrs) ↔
    ∀ x ∈ inputs, x.passThrough = 0 ∧ x.type ∈ halTypes := by
  rw [inputAttrs_inputsRequest runtime context behind inputs pool hn, List.map_inj_left]
  exact forall₂_congr fun x _ => servedAttrs_eq_iff x

/-- An input of one byte whose attributes arrive. -/
theorem inputAttrs_byteInput :
    (NeuralNetworks.rknnInputsSet (fun _ => ⟨0, none, []⟩) 1
      (inputsRequest (fun _ => ⟨0, ⟨0, 0, 0⟩, 0, .uint8, .nhwc⟩)
        [byteInput 3 7] [0])).call.inputAttrs = [⟨3, (), 1, 0, .uint8, .nhwc⟩] :=
  (inputAttrs_eq_iff (fun _ => ⟨0, none, []⟩) 1 (fun _ => ⟨0, ⟨0, 0, 0⟩, 0, .uint8, .nhwc⟩)
    [byteInput 3 7] [0] (by decide)).mpr (by decide)

/-- What the server hands on of an input of one byte with these attributes. -/
def oneInputAttrs (passThrough : UInt8) (type : RknnTensorType) : List (RknnInput Unit) :=
  (NeuralNetworks.rknnInputsSet (fun _ => ⟨0, none, []⟩) 1
    (inputsRequest (fun _ => ⟨0, ⟨0, 0, 0⟩, 0, .uint8, .nhwc⟩)
      [{ byteInput 0 7 with passThrough := passThrough, type := type }] [0])).call.inputAttrs

/-- `pass_through` arrives as 0, and the type `RKNN_TENSOR_UINT16` as `RKNN_TENSOR_TYPE_MAX`. -/
theorem inputAttrs_lost :
    (oneInputAttrs 1 .uint8 = [⟨0, (), 1, 0, .uint8, .nhwc⟩] ∧
      oneInputAttrs 1 .uint8 ≠
        [{ byteInput 0 7 with passThrough := 1 }].map fun x => x.toRknnInput.attrs) ∧
    oneInputAttrs 0 .uint16 = [⟨0, (), 1, 0, .typeMax, .nhwc⟩] ∧
      oneInputAttrs 0 .uint16 ≠
        [{ byteInput 0 7 with type := .uint16 }].map fun x => x.toRknnInput.attrs := by
  decide

end Builder

end RockchipHal.NeuralNetworks
