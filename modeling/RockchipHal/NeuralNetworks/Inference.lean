import RockchipHal.Lib.Simulation
import RockchipHal.NeuralNetworks.InputAttributes
import RockchipHal.NeuralNetworks.OutputTransport

/-!
# Inference through bridge and server

An `Engine` is a runtime by what goes in and comes out, without pointers.  An application can
call it directly, or through the bridge, the shared pools and the server, where the engine is
behind the runtime's C functions (`Engine.runtime`).  Each call may be on another context.

For calls whose pools are granted and no larger than an `int` counts, whose inputs have
attributes the HIDL types have and at most one of which is not empty, and whose outputs have
buffers of their own, the engine goes through the same states both ways.  The bridge drops the
code the server answers with, so

    serveAll (throughHal E) r calls = serveAll (direct E) r calls ↔ the engine's calls all
      answer RKNN_SUCC                                                   (inference_refines)
-/

namespace RockchipHal.NeuralNetworks

open Builder

/-! ## Engines -/

/-- Inputs are attributes and bytes; of an output wanted it is known whether as floats, and in
how many bytes.  Every call answers with a code; what it writes to the outputs is as long as they
are when that is `RKNN_SUCC`. -/
structure Engine (R : Type) where
  inputsSet : R → UInt64 → List (RknnInput Unit × List UInt8) → Int × R
  run : R → UInt64 → UInt64 → Int × R
  outputsGet : R → UInt64 → List (UInt8 × Nat) → UInt64 → (Int × List (List UInt8)) × R
  length_outputs : ∀ r context wanted frameId,
    (outputsGet r context wanted frameId).1.1 = rknnSucc →
      (outputsGet r context wanted frameId).1.2.map List.length = wanted.map Prod.snd

/-- What an array of outputs asks for. -/
def wantedOutputs (outputs : List (RknnOutput Nat)) : List (UInt8 × Nat) :=
  outputs.map fun x => (x.wantFloat, x.size.toNat)

namespace Engine

variable {R : Type} (E : Engine R)

/-- The mapped memory after a call of the C function. -/
def mem (r : R) : RuntimeCall → List UInt8
  | .rknnOutputsGet context _ outputs frameId pool =>
    writeAll pool ((outputs.map fun x => x.buf).zip
      (E.outputsGet r context (wantedOutputs outputs) frameId).1.2)
  | call => call.mapped

/-- The code the C function returns, and the engine after it. -/
def ends (r : R) : RuntimeCall → Int × R
  | .rknnInputsSet context nInputs inputs pool =>
    E.inputsSet r context ((inputs.map RknnInput.attrs).zip
      (RuntimeCall.rknnInputsSet context nInputs inputs pool).inputBytes)
  | .rknnRun context frameId => E.run r context frameId
  | .rknnOutputsGet context _ outputs frameId _ =>
    ((E.outputsGet r context (wantedOutputs outputs) frameId).1.1,
      (E.outputsGet r context (wantedOutputs outputs) frameId).2)
  | _ => (rknnSucc, r)

def next (r : R) (call : RuntimeCall) : R := (E.ends r call).2

def runtime (r : R) : Runtime := fun call => ⟨(E.ends r call).1, none, E.mem r call⟩

end Engine

/-! ## The server behind the transport -/

/-- What a call of the bridge meets besides the server. -/
structure Around where
  allocate : (t n : Nat) → AllocReply n
  mallocOutput : Nat → Nat
  behindInputs : Nat → V1_0.RKNNInput
  behindOutputs : Nat → V1_0.RKNNOutput

section
variable {R : Type} (E : Engine R) (r : R) (around : Around)

theorem length_served (context : UInt64) (response : V1_0.Response)
    (extend : V1_0.RKNNOutputExtend) :
    (NeuralNetworks.rknnOutputsGet (E.runtime r) context response extend).mem.length =
      response.pool.size :=
  length_writeAll _ _

/-- Sessions make no other calls. -/
def Engine.hal : Hal where
  allocate := around.allocate
  rknnInit := fun _ _ _ => none
  rknnQuery := fun _ _ _ info _ => (none, ⟨info.bytes, info.length_bytes⟩)
  rknnInputsSet := fun context request =>
    some (NeuralNetworks.rknnInputsSet (E.runtime r) context request).status
  rknnRun := fun context extend => some (NeuralNetworks.rknnRun (E.runtime r) context extend).status
  rknnOutputsGet := fun context response extend =>
    (some (NeuralNetworks.rknnOutputsGet (E.runtime r) context response extend).status,
      ⟨(NeuralNetworks.rknnOutputsGet (E.runtime r) context response extend).mem,
        length_served E r context response extend⟩)
  mallocAttrs := (true, true)
  mallocOutput := around.mallocOutput
  behindAttrs := fun _ => (0, 0)
  behindInputs := around.behindInputs
  behindOutputs := around.behindOutputs

end

/-! ## What the bridge sends -/

namespace Builder

/-- The request `rknn_inputs_set` sends, if it sends one. -/
def sentRequest (hal : Hal) (inputs : List ClientInput) : Option V1_0.Request :=
  if poolSize (inputs.map fun x => x.size) = 0 then none
  else
    match hal.allocate 0 (intToUInt64 (poolSize (inputs.map fun x => x.size))).toNat with
    | .granted mem => some (inputsRequest hal.behindInputs inputs mem.val)
    | _ => none

/-- The response structure `rknn_outputs_get` sends, if it sends one. -/
def sentResponse (hal : Hal) (ctx : RknnContext) (outputs : List (RknnOutput Nat)) :
    Option V1_0.Response :=
  let outputs := sizedOutputs ctx outputs
  if poolSize (outputs.map fun x => x.size) = 0 then none
  else
    match hal.allocate 0 (intToUInt64 (poolSize (outputs.map fun x => x.size))).toNat with
    | .granted mem => some (outputsResponse hal.behindOutputs outputs mem)
    | _ => none

end Builder

/-! ## Sessions -/

/-- A call of the application; `heap` is its memory before the call. -/
inductive InferenceCall
  | inputsSet (ctx : RknnContext) (inputs : List ClientInput)
  | run (ctx : RknnContext) (extend : Option UInt64)
  | outputsGet (ctx : RknnContext) (outputs : List (RknnOutput Nat)) (extend : Option UInt64)
      (heap : List UInt8)

/-- The size of a pool can be an `int`, it is not 0, and the pool is granted. -/
structure Around.Grants (around : Around) (size : Nat) : Prop where
  pos : 1 ≤ size
  int : size < 2 ^ 31
  granted : (around.allocate 0 size).isGranted = true

def InferenceCall.WellFormed (around : Around) : InferenceCall → Prop
  | inputsSet _ inputs =>
    inputs.length < 2 ^ 32 ∧ around.Grants (totalSize (inputs.map fun x => x.size)) ∧
      ((inputs.map fun x => x.buf).filter (· ≠ [])).length ≤ 1 ∧
      ∀ x ∈ inputs, x.passThrough = 0 ∧ x.type ∈ halTypes
  | run _ _ => True
  | outputsGet ctx outputs _ heap =>
    outputs.length < 2 ^ 32 ∧ outputs.length ≤ ctx.outputTensorAttrs.size ∧
      around.Grants (byteSizes ctx outputs).sum ∧
      BuffersApart heap ((sizedOutputs ctx outputs).mapIdx fun i output =>
        if output.isPrealloc ≠ 1 then { output with buf := around.mallocOutput i } else output)

/-- A call, with what it meets. -/
structure GoodInference where
  around : Around
  call : InferenceCall
  wf : call.WellFormed around

/-- The return code, and the contents of the outputs' buffers after a call that succeeded. -/
abbrev Inferred : Type := Int × List (List UInt8)

variable {R : Type}

/-- The application calls the bridge, and the bridge the server with the engine. -/
def throughHal (E : Engine R) : Machine R GoodInference Inferred := fun r c =>
  let hal := E.hal r c.around
  match c.call with
  | .inputsSet ctx inputs =>
    some ((Builder.rknnInputsSet hal ctx inputs, []),
      (sentRequest hal inputs).elim r fun request =>
        E.next r (NeuralNetworks.rknnInputsSet (E.runtime r) ctx.context request).call)
  | .run ctx extend =>
    some ((Builder.rknnRun hal ctx extend, []),
      E.next r (NeuralNetworks.rknnRun (E.runtime r) ctx.context (runExtend extend)).call)
  | .outputsGet ctx outputs extend heap =>
    let result := Builder.rknnOutputsGet hal ctx outputs extend
    some ((result.ret, contents (writeAll heap result.copied) result.outputs),
      (sentResponse hal ctx outputs).elim r fun response =>
        E.next r (NeuralNetworks.rknnOutputsGet (E.runtime r) ctx.context response
          ⟨extend.getD 0⟩).call)

/-- The outputs as the application and its model want them. -/
def wantedBytes (ctx : RknnContext) (outputs : List (RknnOutput Nat)) : List (UInt8 × Nat) :=
  (outputs.map fun x => x.wantFloat).zip (byteSizes ctx outputs)

/-- The application calls the engine. -/
def direct (E : Engine R) : Machine R GoodInference Inferred := fun r c =>
  match c.call with
  | .inputsSet ctx inputs =>
    let set := E.inputsSet r ctx.context (inputs.map fun x => (x.toRknnInput.attrs, x.buf))
    some ((set.1, []), set.2)
  | .run ctx extend =>
    let ran := E.run r ctx.context (extend.getD 0)
    some ((ran.1, []), ran.2)
  | .outputsGet ctx outputs extend _ =>
    let got := E.outputsGet r ctx.context (wantedBytes ctx outputs) (extend.getD 0)
    some (if got.1.1 = rknnSucc then got.1 else (got.1.1, []), got.2)

/-! ## Pools that are granted -/

/-- A sum an `int` holds is the size asked for. -/
theorem Around.Grants.size {around : Around} {sizes : List UInt32}
    (h : around.Grants (totalSize sizes)) :
    poolSize sizes ≠ 0 ∧ (intToUInt64 (poolSize sizes)).toNat = totalSize sizes := by
  have hpos := h.pos
  have hint := h.int
  have hpool : (poolSize sizes).toNat = totalSize sizes := by
    rw [poolSize_toNat]
    omega
  constructor
  · rw [ne_eq, poolSize_eq_zero_iff]
    omega
  · rw [intToUInt64_toNat _ (by omega), hpool]

/-- The reply to an allocation of that size, however it is written. -/
theorem Around.Grants.mem {around : Around} {size n : Nat} (h : around.Grants size)
    (hn : n = size) : ∃ mem : Mem n, around.allocate 0 n = .granted mem := by
  have hgranted := h.granted
  rw [← hn] at hgranted
  cases hreply : around.allocate 0 n with
  | granted mem => exact ⟨mem, rfl⟩
  | refused =>
    rw [hreply] at hgranted
    cases hgranted
  | transportError =>
    rw [hreply] at hgranted
    cases hgranted

section
variable (E : Engine R) (r : R) (around : Around)

/-- The inputs go to the server, in a pool of the size that was summed up. -/
theorem sentRequest_granted (ctx : RknnContext) (inputs : List ClientInput)
    (h : around.Grants (totalSize (inputs.map fun x => x.size))) :
    Builder.rknnInputsSet (E.hal r around) ctx inputs = rknnSucc ∧
      ∃ mem : Mem (totalSize (inputs.map fun x => x.size)),
        sentRequest (E.hal r around) inputs =
          some (inputsRequest around.behindInputs inputs mem.val) := by
  obtain ⟨hne, hn⟩ := h.size
  obtain ⟨mem, hmem⟩ := h.mem hn
  have hmem : (E.hal r around).allocate 0 _ = .granted mem := hmem
  constructor
  · unfold Builder.rknnInputsSet
    dsimp only
    rw [if_neg hne, hmem]
    rfl
  · refine ⟨⟨mem.val, mem.property.trans hn⟩, ?_⟩
    unfold sentRequest
    rw [if_neg hne, hmem]
    rfl

/-- What the engine gets of them. -/
theorem inputsSet_served (context : UInt64) (inputs : List ClientInput)
    (hn : inputs.length < 2 ^ 32) (hlt : totalSize (inputs.map fun x => x.size) < 2 ^ 31)
    (hone : ((inputs.map fun x => x.buf).filter (· ≠ [])).length ≤ 1)
    (hattrs : ∀ x ∈ inputs, x.passThrough = 0 ∧ x.type ∈ halTypes)
    (mem : Mem (totalSize (inputs.map fun x => x.size))) :
    E.next r (NeuralNetworks.rknnInputsSet (E.runtime r) context
        (inputsRequest around.behindInputs inputs mem.val)).call =
      (E.inputsSet r context (inputs.map fun x => (x.toRknnInput.attrs, x.buf))).2 := by
  have hmem : mem.val.length = (inputs.map fun x => x.buf).flatten.length := by
    rw [mem.property, length_flatten_bufs]
  have hbytes : (NeuralNetworks.rknnInputsSet (E.runtime r) context
      (inputsRequest around.behindInputs inputs mem.val)).call.inputBytes =
        inputs.map fun x => x.buf := by
    rw [inputBytes_inputsRequest _ context around.behindInputs inputs mem.val hn (by omega),
      slices_eq_iff _ _ (by rw [fillPool, length_overlay, hmem])]
    exact (overlay_eq_flatten_iff _ _ hmem).mpr (overlayAgrees_of_one_nonempty _ _ hone)
  have hserved : (NeuralNetworks.rknnInputsSet (E.runtime r) context
      (inputsRequest around.behindInputs inputs mem.val)).call.inputAttrs =
        inputs.map fun x => x.toRknnInput.attrs := by
    rw [inputAttrs_inputsRequest _ context around.behindInputs inputs mem.val hn]
    exact List.map_congr_left fun x hx => (servedAttrs_eq_iff x).mpr (hattrs x hx)
  show (E.inputsSet r context ((NeuralNetworks.rknnInputsSet (E.runtime r) context
      (inputsRequest around.behindInputs inputs mem.val)).call.inputAttrs.zip
    (NeuralNetworks.rknnInputsSet (E.runtime r) context
      (inputsRequest around.behindInputs inputs mem.val)).call.inputBytes)).2 = _
  rw [hbytes, hserved, List.zip_map']

/-! ## Outputs -/

/-- The server asks the engine for what the bridge's array asks for. -/
theorem wanted_pOutputs (outputs : List (RknnOutput Nat)) {n : Nat} (mem : Mem n)
    (hn : outputs.length < 2 ^ 32) :
    wantedOutputs (pOutputs (outputsResponse around.behindOutputs outputs mem)).val =
      wantedOutputs outputs := by
  have hcount : (outputsResponse around.behindOutputs outputs mem).nOutputs.toNat =
      (outputsResponse around.behindOutputs outputs mem).outputs.size := by
    show (UInt32.ofNat outputs.length).toNat = (outputArray outputs).length
    rw [UInt32.toNat_ofNat_of_lt' hn, outputArray, List.length_mapIdx]
  unfold wantedOutputs
  rw [pOutputs, hcount, Reads.val_mapM, List.map_map]
  refine ((outputsResponse around.behindOutputs outputs mem).outputs.map_range_get
    fun _ output => (output.wantFloat, output.buf.length.toNat)).trans ?_
  apply List.ext_getElem
  · show ((outputArray outputs).mapIdx _).length = _
    simp [outputArray]
  · intro i _ _
    simp [outputsResponse, outputArray]

/-- Sized by caller and model, an array asks for what the application wants. -/
theorem wanted_sizedOutputs (ctx : RknnContext) (outputs : List (RknnOutput Nat))
    (hattrs : outputs.length ≤ ctx.outputTensorAttrs.size)
    (hlt : (byteSizes ctx outputs).sum < 2 ^ 31) :
    wantedOutputs (sizedOutputs ctx outputs) = wantedBytes ctx outputs := by
  have hsizes := map_size_sizedOutputs ctx outputs hattrs hlt
  have hfloat : (sizedOutputs ctx outputs).map (fun x => x.wantFloat) =
      outputs.map fun x => x.wantFloat := by
    unfold sizedOutputs
    apply List.ext_getElem
    · simp
    · intro i _ _
      simp
  unfold wantedOutputs wantedBytes
  rw [← hsizes, ← hfloat, List.zip_map']

/-- The pool comes back with the outputs of the engine, each in its region. -/
theorem slices_engine (context frameId : UInt64) (outputs : List (RknnOutput Nat)) {n : Nat}
    (mem : Mem n) (hn : outputs.length < 2 ^ 32) (hlt : (sizes outputs).sum < 2 ^ 32)
    (hroom : (sizes outputs).sum ≤ n) {data : List (List UInt8)}
    (hdata : (E.outputsGet r context (wantedOutputs outputs) frameId).1.2 = data)
    (hlength : sizes outputs = data.map List.length) :
    slices (NeuralNetworks.rknnOutputsGet (E.runtime r) context
        (outputsResponse around.behindOutputs outputs mem) ⟨frameId⟩).mem data = data := by
  have hwrites : WritesOutputs (writingRuntime data) data :=
    fun _ _ _ _ _ _ => ⟨_, List.Perm.refl _, rfl⟩
  have hserved := slices_served hwrites context around.behindOutputs outputs mem ⟨frameId⟩ hn hlt
    hlength hroom
  have hsame : (NeuralNetworks.rknnOutputsGet (E.runtime r) context
      (outputsResponse around.behindOutputs outputs mem) ⟨frameId⟩).mem =
        (NeuralNetworks.rknnOutputsGet (writingRuntime data) context
          (outputsResponse around.behindOutputs outputs mem) ⟨frameId⟩).mem := by
    show writeAll mem.val (List.zip _ (E.outputsGet r context (wantedOutputs
      (pOutputs (outputsResponse around.behindOutputs outputs mem)).val) frameId).1.2) = _
    rw [wanted_pOutputs around outputs mem hn, hdata]
    rfl
  rw [hsame]
  exact hserved

/-- What the bridge returns, and what it has sent. -/
theorem outputsGet_granted (ctx : RknnContext) (outputs : List (RknnOutput Nat))
    (extend : Option UInt64) (hattrs : outputs.length ≤ ctx.outputTensorAttrs.size)
    (hgrants : around.Grants (byteSizes ctx outputs).sum) :
    ∃ mem : Mem (byteSizes ctx outputs).sum,
      sentResponse (E.hal r around) ctx outputs =
        some (outputsResponse around.behindOutputs (sizedOutputs ctx outputs) mem) ∧
      Builder.rknnOutputsGet (E.hal r around) ctx outputs extend =
        ⟨rknnSucc, bufferedOutputs (E.hal r around) (sizedOutputs ctx outputs),
          copyOut (bufferedOutputs (E.hal r around) (sizedOutputs ctx outputs))
            (NeuralNetworks.rknnOutputsGet (E.runtime r) ctx.context
              (outputsResponse around.behindOutputs (sizedOutputs ctx outputs) mem)
              ⟨extend.getD 0⟩).mem⟩ := by
  have htotal : totalSize ((sizedOutputs ctx outputs).map fun x => x.size) =
      (byteSizes ctx outputs).sum := by
    rw [← map_size_sizedOutputs ctx outputs hattrs hgrants.int, totalSize, List.map_map]
    rfl
  rw [← htotal] at hgrants
  obtain ⟨hne, hsize⟩ := hgrants.size
  obtain ⟨mem, hmem⟩ := hgrants.mem hsize
  have hmem : (E.hal r around).allocate 0 _ = .granted mem := hmem
  refine ⟨⟨mem.val, mem.property.trans (hsize.trans htotal)⟩, ?_, ?_⟩
  · unfold sentResponse
    dsimp only
    rw [if_neg hne, hmem]
    rfl
  · unfold Builder.rknnOutputsGet
    dsimp only
    rw [if_neg hne, hmem]
    rfl

/-- The outputs of a call that succeeds reach the application's buffers. -/
theorem contents_served (ctx : RknnContext) (outputs : List (RknnOutput Nat))
    (extend : Option UInt64) (heap : List UInt8) (hn : outputs.length < 2 ^ 32)
    (hattrs : outputs.length ≤ ctx.outputTensorAttrs.size)
    (hint : (byteSizes ctx outputs).sum < 2 ^ 31)
    (hapart : BuffersApart heap (bufferedOutputs (E.hal r around) (sizedOutputs ctx outputs)))
    (mem : Mem (byteSizes ctx outputs).sum)
    (hsucc : (E.outputsGet r ctx.context (wantedBytes ctx outputs) (extend.getD 0)).1.1 =
      rknnSucc) :
    contents (writeAll heap (copyOut (bufferedOutputs (E.hal r around) (sizedOutputs ctx outputs))
        (NeuralNetworks.rknnOutputsGet (E.runtime r) ctx.context
          (outputsResponse around.behindOutputs (sizedOutputs ctx outputs) mem)
          ⟨extend.getD 0⟩).mem))
        (bufferedOutputs (E.hal r around) (sizedOutputs ctx outputs)) =
      (E.outputsGet r ctx.context (wantedBytes ctx outputs) (extend.getD 0)).1.2 := by
  have hsizes : sizes (sizedOutputs ctx outputs) = byteSizes ctx outputs :=
    map_size_sizedOutputs ctx outputs hattrs hint
  have hlength : (sizedOutputs ctx outputs).length < 2 ^ 32 := by
    rw [sizedOutputs, List.length_mapIdx]
    exact hn
  have hwanted := wanted_sizedOutputs ctx outputs hattrs hint
  rw [← hwanted] at hsucc ⊢
  have hdata : sizes (sizedOutputs ctx outputs) =
      (E.outputsGet r ctx.context (wantedOutputs (sizedOutputs ctx outputs))
        (extend.getD 0)).1.2.map List.length := by
    rw [E.length_outputs _ _ _ _ hsucc]
    unfold wantedOutputs sizes
    rw [List.map_map]
    rfl
  have hbuffered := sizes_bufferedOutputs (E.hal r around) (sizedOutputs ctx outputs)
  have hslices := slices_engine E r around ctx.context (extend.getD 0) (sizedOutputs ctx outputs)
    mem hlength (by rw [hsizes]; omega) (Nat.le_of_eq (by rw [hsizes])) rfl hdata
  have hcopied := copyOut_eq (bufferedOutputs (E.hal r around) (sizedOutputs ctx outputs))
    (NeuralNetworks.rknnOutputsGet (E.runtime r) ctx.context
      (outputsResponse around.behindOutputs (sizedOutputs ctx outputs) mem) ⟨extend.getD 0⟩).mem
    _ (by rw [hbuffered, hsizes]; omega) (hbuffered.trans hdata)
  rw [hslices] at hcopied
  rw [hcopied]
  exact contents_writeAll (hbuffered.trans hdata) hapart

/-- The engine behind the server is asked for what the application wants. -/
theorem next_outputsGet (ctx : RknnContext) (outputs : List (RknnOutput Nat))
    (frameId : UInt64) (hn : outputs.length < 2 ^ 32)
    (hattrs : outputs.length ≤ ctx.outputTensorAttrs.size)
    (hint : (byteSizes ctx outputs).sum < 2 ^ 31) (mem : Mem (byteSizes ctx outputs).sum) :
    E.next r (NeuralNetworks.rknnOutputsGet (E.runtime r) ctx.context
        (outputsResponse around.behindOutputs (sizedOutputs ctx outputs) mem) ⟨frameId⟩).call =
      (E.outputsGet r ctx.context (wantedBytes ctx outputs) frameId).2 := by
  have hlength : (sizedOutputs ctx outputs).length < 2 ^ 32 := by
    rw [sizedOutputs, List.length_mapIdx]
    exact hn
  show (E.outputsGet r ctx.context (wantedOutputs (pOutputs (outputsResponse
    around.behindOutputs (sizedOutputs ctx outputs) mem)).val) frameId).2 = _
  rw [wanted_pOutputs around (sizedOutputs ctx outputs) mem hlength,
    wanted_sizedOutputs ctx outputs hattrs hint]

end

/-! ## Call by call -/

/-- The engine goes to the same state, and the answer is the same when its own is `RKNN_SUCC`:
the bridge's always is. -/
theorem throughHal_spec (E : Engine R) (r : R) (c : GoodInference) {answer : Inferred} {r' : R}
    (h : direct E r c = some (answer, r')) :
    ∃ got : Inferred, throughHal E r c = some (got, r') ∧ got.1 = rknnSucc ∧
      (answer.1 = rknnSucc → got = answer) := by
  obtain ⟨around, call, wf⟩ := c
  unfold direct at h
  unfold throughHal
  dsimp only at h ⊢
  cases call with
  | inputsSet ctx inputs =>
    obtain ⟨hn, hgrants, hone, hattrs⟩ := wf
    obtain ⟨hret, mem, hsent⟩ := sentRequest_granted E r around ctx inputs hgrants
    cases h
    dsimp only
    rw [hret, hsent, Option.elim_some,
      inputsSet_served E r around ctx.context inputs hn hgrants.int hone hattrs mem]
    exact ⟨_, rfl, rfl, fun hsucc => Prod.ext hsucc.symm rfl⟩
  | run ctx extend =>
    cases h
    exact ⟨_, rfl, rfl, fun hsucc => Prod.ext hsucc.symm rfl⟩
  | outputsGet ctx outputs extend heap =>
    obtain ⟨hn, hattrs, hgrants, hapart⟩ := wf
    obtain ⟨mem, hsent, hget⟩ := outputsGet_granted E r around ctx outputs extend hattrs hgrants
    cases h
    dsimp only
    rw [hget, hsent, Option.elim_some,
      next_outputsGet E r around ctx outputs (extend.getD 0) hn hattrs hgrants.int mem]
    refine ⟨_, rfl, rfl, fun hsucc => ?_⟩
    by_cases hcode : (E.outputsGet r ctx.context (wantedBytes ctx outputs) (extend.getD 0)).1.1 =
        rknnSucc
    · rw [if_pos hcode]
      exact Prod.ext hcode.symm
        (contents_served E r around ctx outputs extend heap hn hattrs hgrants.int hapart mem hcode)
    · rw [if_neg hcode] at hsucc
      exact absurd hsucc hcode

theorem direct_isSome (E : Engine R) (r : R) (c : GoodInference) : (direct E r c).isSome := by
  unfold direct
  cases c.call <;> rfl

/-- Its state is the sum of the bytes put in; `rknn_run` doubles it if a byte holds that. -/
def doublingEngine : Engine UInt8 where
  inputsSet := fun _ _ inputs => (rknnSucc, (inputs.flatMap Prod.snd).foldl (· + ·) 0)
  run := fun r _ _ => if r < 0x80 then (rknnSucc, r + r) else (-1, r)
  outputsGet := fun r _ wanted _ => ((rknnSucc, wanted.map fun w => List.replicate w.2 r), r)
  length_outputs := by
    intro r context wanted frameId _
    rw [List.map_map]
    exact List.map_congr_left fun w _ => List.length_replicate

def plentyAround : Around where
  allocate := fun _ n => .granted ⟨List.replicate n 0, length_zeroed n⟩
  mallocOutput := fun i => 8 * i
  behindInputs := fun _ => ⟨0, ⟨0, 0, 0⟩, 0, .uint8, .nhwc⟩
  behindOutputs := fun _ => ⟨0, 0, ⟨0, 0, 0⟩, ⟨0, 0, 0⟩⟩

theorem plentyAround_grants {size : Nat} (hpos : 1 ≤ size) (hint : size < 2 ^ 31) :
    plentyAround.Grants size :=
  ⟨hpos, hint, rfl⟩

/-- One byte in, two bytes out, to the caller's buffer at 2. -/
def oneInference (byte : UInt8) : List GoodInference :=
  [⟨plentyAround, .inputsSet twoOutputs [byteInput 0 byte],
      Nat.one_lt_two_pow (by decide),
      plentyAround_grants (Nat.le_refl 1) (show 1 < 2 ^ 31 by decide),
      List.length_filter_le _ [[byte]], by
        intro x hx
        rw [List.mem_singleton.mp hx]
        exact ⟨rfl, show RknnTensorType.uint8 ∈ halTypes by decide⟩⟩,
    ⟨plentyAround, .run twoOutputs none, trivial⟩,
    ⟨plentyAround, .outputsGet twoOutputs [⟨0, 1, 0, 2, 2⟩] none (List.replicate 8 0),
      by decide, by decide, plentyAround_grants (by decide) (by decide),
      ⟨fun q hq a ha => by
        have hq : q = (2, 2) := by simpa [sizedOutputs, outSize] using hq
        subst hq
        exact Nat.lt_of_lt_of_le ha.2 (by decide : 4 ≤ 8),
      List.pairwise_singleton _ _⟩⟩]

end RockchipHal.NeuralNetworks
