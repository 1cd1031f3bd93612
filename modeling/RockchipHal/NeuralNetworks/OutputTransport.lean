import RockchipHal.Lib.Regions
import RockchipHal.NeuralNetworks.Transport

/-!
# Outputs through the shared pool

`rknn_outputs_get` sizes the outputs, lays them out one after the other in a pool and copies
each region to its buffer; the server turns the same offsets into the runtime's pointers.
As long as the sizes' sum is no negative `int`, all of them agree:

    the runtime writes `data[i]` at the pointer for output `i` →
      outputs[i].buf holds `data[i]`                                (outputs_transported)

Unlike the inputs' copies, each of these has its offset.
-/

namespace RockchipHal.NeuralNetworks

/-! ## The runtime's part -/

/-- In some order, the runtime writes `data[i]` at the pointer it is given for output `i`. -/
def WritesOutputs (runtime : Runtime) (data : List (List UInt8)) : Prop :=
  ∀ context nOutputs outputs frameId pool,
    outputs.map (fun x => x.size.toNat) = data.map List.length →
      ∃ ws, ws.Perm ((outputs.map fun x => x.buf).zip data) ∧
        (runtime (.rknnOutputsGet context nOutputs outputs frameId pool)).mem = writeAll pool ws

namespace Builder

/-- The pool as the server's `rknnOutputsGet` leaves it is what the bridge then reads. -/
def ServedBy (hal : Hal) (runtime : Runtime) : Prop :=
  ∀ context response extend, (hal.rknnOutputsGet context response extend).2.val =
    (NeuralNetworks.rknnOutputsGet runtime context response extend).mem

/-! ## Sizes -/

/-- The caller's size if preallocated, else the model's. -/
def byteSize (output : RknnOutput Nat) (attr : RknnTensorAttr) : Nat :=
  if output.isPrealloc = 1 then output.size.toNat
  else if output.wantFloat = 1 then 4 * attr.nElems.toNat
  else attr.size.toNat

def byteSizes (ctx : RknnContext) (outputs : List (RknnOutput Nat)) : List Nat :=
  List.zipWith byteSize outputs ctx.outputTensorAttrs.data

theorem outSize_toNat (ctx : RknnContext) (i : Nat) (output : RknnOutput Nat)
    (h : byteSize output (ctx.outputTensorAttrs.get i) < 2 ^ 32) :
    (outSize ctx i output).toNat = byteSize output (ctx.outputTensorAttrs.get i) := by
  unfold outSize byteSize at *
  split
  · rfl
  · next hprealloc =>
    rw [if_neg hprealloc] at h
    split
    · next hfloat =>
      rw [if_pos hfloat] at h
      rw [UInt32.toNat_mul, Nat.mul_comm]
      exact Nat.mod_eq_of_lt h
    · rfl

/-- The sizing loop computes them, where the sum is no more than an `int` holds. -/
theorem map_size_sizedOutputs (ctx : RknnContext) (outputs : List (RknnOutput Nat))
    (hattrs : outputs.length ≤ ctx.outputTensorAttrs.size)
    (hlt : (byteSizes ctx outputs).sum < 2 ^ 31) :
    (sizedOutputs ctx outputs).map (fun x => x.size.toNat) = byteSizes ctx outputs := by
  have hattrs : outputs.length ≤ ctx.outputTensorAttrs.data.length := hattrs
  unfold byteSizes at hlt ⊢
  unfold sizedOutputs
  apply List.ext_getElem
  · rw [List.length_map, List.length_mapIdx, List.length_zipWith]
    omega
  · intro i h₁ hi
    have hend := Nat.lt_of_le_of_lt (offset_le_sum _ (i + 1)) hlt
    rw [offset_succ _ i hi] at hend
    rw [List.length_map, List.length_mapIdx] at h₁
    rw [List.getElem_zipWith, ← ctx.outputTensorAttrs.get_of_lt i (by omega)] at hend ⊢
    rw [List.getElem_map, List.getElem_mapIdx]
    exact outSize_toNat ctx i outputs[i] (by omega)

/-! ## Regions -/

/-- Where the response says each output goes. -/
def poolRegions (outputs : List (RknnOutput Nat)) : List (Nat × Nat) :=
  (outputArray outputs).map fun x => (x.buf.offset.toNat, x.buf.length.toNat)

/-- The sizes of an array, as numbers. -/
def sizes (outputs : List (RknnOutput Nat)) : List Nat := outputs.map fun x => x.size.toNat

theorem offset_sizes (outputs : List (RknnOutput Nat)) (h : (sizes outputs).sum < 2 ^ 32) (i : Nat) :
    (curOffset (outputs.map fun x => x.size) i).toNat = offset (sizes outputs) i := by
  have hsizes : (outputs.map fun x => x.size).map UInt32.toNat = sizes outputs := by
    rw [List.map_map]
    rfl
  rw [curOffset_toNat _ i (by unfold totalSize; rwa [hsizes]), hsizes]

theorem poolRegions_eq (outputs : List (RknnOutput Nat)) (h : (sizes outputs).sum < 2 ^ 32) :
    poolRegions outputs = consecutive (sizes outputs) := by
  unfold poolRegions outputArray consecutive
  apply List.ext_getElem
  · simp [sizes]
  · intro i _ _
    rw [List.getElem_map, List.getElem_mapIdx, List.getElem_mapIdx]
    show ((curOffset (outputs.map fun x => x.size) i).toNat, _) = _
    rw [offset_sizes outputs h]
    simp [sizes]

/-- The server gives the runtime the pointers of these regions, and their sizes. -/
theorem pOutputs_outputsResponse (behind : Nat → V1_0.RKNNOutput) (outputs : List (RknnOutput Nat))
    {n : Nat} (mem : Mem n) (hn : outputs.length < 2 ^ 32) :
    (pOutputs (outputsResponse behind outputs mem)).val.map (fun x => (x.buf, x.size.toNat)) =
      poolRegions outputs := by
  have hcount : (outputsResponse behind outputs mem).nOutputs.toNat =
      (outputsResponse behind outputs mem).outputs.size := by
    show (UInt32.ofNat outputs.length).toNat = (outputArray outputs).length
    rw [UInt32.toNat_ofNat_of_lt' hn, outputArray, List.length_mapIdx]
  rw [pOutputs, hcount, Reads.val_mapM, List.map_map]
  refine ((outputsResponse behind outputs mem).outputs.map_range_get fun _ output =>
    (output.buf.offset.toNat, output.buf.length.toNat)).trans ?_
  exact List.mapIdx_eq_iff.mpr fun i => List.getElem?_map

/-! ## Contents -/

/-- After the server's call, each region of the pool has its output's bytes. -/
theorem slices_served {runtime : Runtime} {data : List (List UInt8)}
    (hwrites : WritesOutputs runtime data) (context : UInt64) (behind : Nat → V1_0.RKNNOutput)
    (outputs : List (RknnOutput Nat)) {n : Nat} (mem : Mem n) (extend : V1_0.RKNNOutputExtend)
    (hn : outputs.length < 2 ^ 32) (hlt : (sizes outputs).sum < 2 ^ 32)
    (hdata : sizes outputs = data.map List.length) (hroom : (sizes outputs).sum ≤ n) :
    slices (NeuralNetworks.rknnOutputsGet runtime context (outputsResponse behind outputs mem)
      extend).mem data = data := by
  have hregions := pOutputs_outputsResponse behind outputs mem hn
  rw [poolRegions_eq outputs hlt] at hregions
  have hptrs : (pOutputs (outputsResponse behind outputs mem)).val.map (fun x => x.buf) =
      (consecutive (sizes outputs)).map Prod.fst := by
    rw [← hregions, List.map_map]
    rfl
  have hsizes : (pOutputs (outputsResponse behind outputs mem)).val.map (fun x => x.size.toNat) =
      data.map List.length := by
    rw [← hdata, ← map_snd_consecutive (sizes outputs), ← hregions, List.map_map]
    rfl
  obtain ⟨ws, hperm, hmem⟩ := hwrites context (outputsResponse behind outputs mem).nOutputs
    (pOutputs (outputsResponse behind outputs mem)).val extend.frameId mem.val hsizes
  rw [hptrs, hdata, zip_consecutive] at hperm
  show slices (runtime (.rknnOutputsGet context (outputsResponse behind outputs mem).nOutputs
    (pOutputs (outputsResponse behind outputs mem)).val extend.frameId mem.val)).mem data = data
  rw [hmem]
  refine slices_writeAll hperm ?_
  rw [← hdata, mem.property]
  exact hroom

theorem sizes_bufferedOutputs (hal : Hal) (outputs : List (RknnOutput Nat)) :
    sizes (bufferedOutputs hal outputs) = sizes outputs := by
  unfold sizes bufferedOutputs
  apply List.ext_getElem
  · simp
  · intro i _ _
    rw [List.getElem_map, List.getElem_mapIdx, List.getElem_map]
    split <;> rfl

theorem size_of_sizes {outputs : List (RknnOutput Nat)} {data : List (List UInt8)}
    (h : sizes outputs = data.map List.length) :
    outputs.length = data.length ∧
      ∀ i (hi : i < outputs.length) (hi' : i < data.length),
        outputs[i].size.toNat = data[i].length := by
  constructor
  · have hlen := congrArg List.length h
    rwa [sizes, List.length_map, List.length_map] at hlen
  · intro i hi hi'
    have hget : (sizes outputs)[i]? = (data.map List.length)[i]? := by rw [h]
    rw [sizes, List.getElem?_map, List.getElem?_map, List.getElem?_eq_getElem hi,
      List.getElem?_eq_getElem hi'] at hget
    exact Option.some.inj hget

/-- The copies out of the pool, each with its region's bytes. -/
theorem copyOut_eq (outputs : List (RknnOutput Nat)) (pool : List UInt8)
    (data : List (List UInt8)) (hlt : (sizes outputs).sum < 2 ^ 32)
    (hdata : sizes outputs = data.map List.length) :
    copyOut outputs pool = (outputs.map fun x => x.buf).zip (slices pool data) := by
  obtain ⟨hlen, hsize⟩ := size_of_sizes hdata
  unfold copyOut slices
  apply List.ext_getElem
  · simp [hlen]
  · intro i hi _
    rw [List.length_mapIdx] at hi
    have hi' : i < data.length := by omega
    rw [List.getElem_mapIdx, List.getElem_zip, List.getElem_map, List.getElem_mapIdx,
      offset_sizes outputs hlt, hdata, hsize i hi hi']

/-! ## End to end -/

/-- The buffers lie in the address space, and no two share a byte. -/
def BuffersApart (heap : List UInt8) (outputs : List (RknnOutput Nat)) : Prop :=
  Backed (fun a => a < heap.length) (outputs.map fun x => (x.buf, x.size.toNat))

/-- What the buffers hold. -/
def contents (heap : List UInt8) (outputs : List (RknnOutput Nat)) : List (List UInt8) :=
  outputs.map fun x => slice heap x.buf x.size.toNat

/-- Copied to their buffers, the pieces are there. -/
theorem contents_writeAll {heap : List UInt8} {outputs : List (RknnOutput Nat)}
    {data : List (List UInt8)} (hdata : sizes outputs = data.map List.length)
    (hapart : BuffersApart heap outputs) :
    contents (writeAll heap ((outputs.map fun x => x.buf).zip data)) outputs = data := by
  obtain ⟨hlen, hsize⟩ := size_of_sizes hdata
  have hregions : ((outputs.map fun x => x.buf).zip data).map region =
      outputs.map fun x => (x.buf, x.size.toNat) := by
    apply List.ext_getElem
    · simp [hlen]
    · intro i hi _
      have hi : i < data.length := by
        rw [List.length_map, List.length_zip] at hi
        omega
      rw [List.getElem_map, List.getElem_zip, List.getElem_map, List.getElem_map,
        hsize i (by omega) hi]
      rfl
  have hbacked : Backed (fun a => a < heap.length)
      (((outputs.map fun x => x.buf).zip data).map region) := by
    rw [hregions]
    exact hapart
  unfold contents
  apply List.ext_getElem
  · simp [hlen]
  · intro i hi hi'
    rw [List.length_map] at hi
    have hmem : (outputs[i].buf, data[i]) ∈ (outputs.map fun x => x.buf).zip data := by
      have hzip := List.getElem_mem
        (show i < ((outputs.map fun x => x.buf).zip data).length by simp; omega)
      rwa [List.getElem_zip, List.getElem_map] at hzip
    rw [List.getElem_map, hsize i hi hi']
    exact slice_writeAll hbacked hmem

/-- With the pool allocated, the outputs are buffered and their regions copied out. -/
theorem rknnOutputsGet_granted (hal : Hal) (ctx : RknnContext) (outputs : List (RknnOutput Nat))
    (extend : Option UInt64) {n : Nat} (hne : poolSize ((sizedOutputs ctx outputs).map fun x => x.size) ≠ 0)
    (hn : (intToUInt64 (poolSize ((sizedOutputs ctx outputs).map fun x => x.size))).toNat = n)
    (hgrant : (hal.allocate 0 n).isGranted) :
    ∃ mem : Mem n, rknnOutputsGet hal ctx outputs extend =
      ⟨0, bufferedOutputs hal (sizedOutputs ctx outputs),
        copyOut (bufferedOutputs hal (sizedOutputs ctx outputs)) (hal.rknnOutputsGet ctx.context
          (outputsResponse hal.behindOutputs (sizedOutputs ctx outputs) mem)
          ⟨extend.getD 0⟩).2.val⟩ := by
  subst hn
  unfold rknnOutputsGet
  rw [if_neg hne]
  generalize hal.allocate 0 (intToUInt64 (poolSize
    ((sizedOutputs ctx outputs).map fun x => x.size))).toNat = reply at hgrant ⊢
  cases reply with
  | granted mem => exact ⟨mem, rfl⟩
  | refused => cases hgrant
  | transportError => cases hgrant

/-- **Output transport.**  The call succeeds; each output gets the size asked for, and its own
bytes are copied to its buffer, where they stay if no other buffer shares a byte with it; and
the pool's regions share no byte. -/
theorem outputs_transported (hal : Hal) (runtime : Runtime) (ctx : RknnContext)
    (outputs : List (RknnOutput Nat)) (extend : Option UInt64) (data : List (List UInt8))
    (hn : outputs.length < 2 ^ 32) (hattrs : outputs.length ≤ ctx.outputTensorAttrs.size)
    (hpos : 1 ≤ (byteSizes ctx outputs).sum) (hlt : (byteSizes ctx outputs).sum < 2 ^ 31)
    (hgrant : (hal.allocate 0 (byteSizes ctx outputs).sum).isGranted)
    (hserved : ServedBy hal runtime) (hwrites : WritesOutputs runtime data)
    (hdata : data.map List.length = byteSizes ctx outputs) :
    (rknnOutputsGet hal ctx outputs extend).ret = rknnSucc ∧
      sizes (rknnOutputsGet hal ctx outputs extend).outputs = byteSizes ctx outputs ∧
      (rknnOutputsGet hal ctx outputs extend).copied =
        ((rknnOutputsGet hal ctx outputs extend).outputs.map fun x => x.buf).zip data ∧
      (∀ heap, BuffersApart heap (rknnOutputsGet hal ctx outputs extend).outputs →
        contents (writeAll heap (rknnOutputsGet hal ctx outputs extend).copied)
          (rknnOutputsGet hal ctx outputs extend).outputs = data) ∧
      Backed (fun a => a < (byteSizes ctx outputs).sum)
        (poolRegions (sizedOutputs ctx outputs)) := by
  have hsizes : sizes (sizedOutputs ctx outputs) = byteSizes ctx outputs :=
    map_size_sizedOutputs ctx outputs hattrs hlt
  have hlt' : (sizes (sizedOutputs ctx outputs)).sum < 2 ^ 32 := by
    rw [hsizes]
    omega
  have hpool : (poolSize ((sizedOutputs ctx outputs).map fun x => x.size)).toNat =
      (byteSizes ctx outputs).sum := by
    rw [poolSize_toNat, totalSize, List.map_map]
    show (sizes (sizedOutputs ctx outputs)).sum % 2 ^ 32 = _
    rw [hsizes]
    omega
  have hne : poolSize ((sizedOutputs ctx outputs).map fun x => x.size) ≠ 0 := by
    intro hzero
    rw [hzero] at hpool
    have hzero : 0 = (byteSizes ctx outputs).sum := hpool
    omega
  have hroom : (intToUInt64 (poolSize ((sizedOutputs ctx outputs).map fun x => x.size))).toNat =
      (byteSizes ctx outputs).sum := by
    rw [intToUInt64_toNat _ (by omega), hpool]
  obtain ⟨mem, hget⟩ := rknnOutputsGet_granted hal ctx outputs extend hne hroom hgrant
  have hbuffered : sizes (bufferedOutputs hal (sizedOutputs ctx outputs)) =
      byteSizes ctx outputs := by
    rw [sizes_bufferedOutputs, hsizes]
  have hslices : slices (hal.rknnOutputsGet ctx.context (outputsResponse hal.behindOutputs
      (sizedOutputs ctx outputs) mem) ⟨extend.getD 0⟩).2.val data = data := by
    rw [hserved]
    refine slices_served hwrites _ _ _ mem _ ?_ hlt' (by rw [hsizes, hdata])
      (Nat.le_of_eq (by rw [hsizes]))
    rw [sizedOutputs, List.length_mapIdx]
    exact hn
  have hcopied := copyOut_eq (bufferedOutputs hal (sizedOutputs ctx outputs))
    (hal.rknnOutputsGet ctx.context (outputsResponse hal.behindOutputs (sizedOutputs ctx outputs)
      mem) ⟨extend.getD 0⟩).2.val data (by rw [hbuffered]; omega) (by rw [hbuffered, hdata])
  rw [hslices] at hcopied
  rw [hget]
  refine ⟨rfl, hbuffered, hcopied, fun heap hapart => ?_, ?_⟩
  · dsimp only
    rw [hcopied]
    exact contents_writeAll (by rw [hbuffered, hdata]) hapart
  · rw [poolRegions_eq _ hlt', hsizes]
    exact backed_consecutive _ (Nat.le_refl _)

/-- A runtime whose outputs are `data`. -/
def writingRuntime (data : List (List UInt8)) : Runtime
  | .rknnOutputsGet _ _ outputs _ pool =>
    ⟨0, none, writeAll pool ((outputs.map fun x => x.buf).zip data)⟩
  | call => ⟨0, none, call.mapped⟩

theorem length_zeroed (n : Nat) : (List.replicate n (0 : UInt8)).length = n :=
  List.length_replicate

/-- The server with that runtime behind the transport; every allocation is granted. -/
def writingHal (data : List (List UInt8)) : Hal where
  allocate := fun _ n => .granted ⟨List.replicate n 0, length_zeroed n⟩
  rknnInit := fun _ _ _ => some (0, 1)
  rknnQuery := fun _ _ _ info _ => (some 0, ⟨info.bytes, info.length_bytes⟩)
  rknnInputsSet := fun _ _ => some 0
  rknnRun := fun _ _ => some 0
  rknnOutputsGet := fun context response extend =>
    (some 0, ⟨(NeuralNetworks.rknnOutputsGet (writingRuntime data) context response extend).mem,
      length_writeAll _ _⟩)
  mallocAttrs := (true, true)
  mallocOutput := fun i => 8 * i
  behindAttrs := fun _ => (0, 0)
  behindInputs := fun _ => ⟨0, ⟨0, 0, 0⟩, 0, .uint8, .nhwc⟩
  behindOutputs := fun _ => ⟨0, 0, ⟨0, 0, 0⟩, ⟨0, 0, 0⟩⟩

/-- Two outputs of one element. -/
def twoOutputs : RknnContext := ⟨1, 0, 2, [], ⟨[⟨1, 1⟩, ⟨1, 1⟩], fun _ => ⟨0, 0⟩⟩⟩

/-- One byte to the caller's buffer at 2, and one float to a fresh one at 8. -/
theorem outputs_transported_two :
    (rknnOutputsGet (writingHal [[7], [1, 2, 3, 4]]) twoOutputs
        [⟨0, 1, 0, 2, 1⟩, ⟨1, 0, 1, 0, 0⟩] none).copied = [(2, [7]), (8, [1, 2, 3, 4])] ∧
      contents (writeAll (List.replicate 16 0) [(2, [7]), (8, [1, 2, 3, 4])])
        [⟨0, 1, 0, 2, 1⟩, ⟨1, 0, 1, 8, 4⟩] = [[7], [1, 2, 3, 4]] := by
  obtain ⟨-, -, hcopied, hcontents, -⟩ := outputs_transported (writingHal [[7], [1, 2, 3, 4]])
    (writingRuntime [[7], [1, 2, 3, 4]]) twoOutputs [⟨0, 1, 0, 2, 1⟩, ⟨1, 0, 1, 0, 0⟩] none
    [[7], [1, 2, 3, 4]] (by decide) (by decide) (by decide) (by decide) rfl (fun _ _ _ => rfl)
    (fun _ _ _ _ _ _ => ⟨_, List.Perm.refl _, rfl⟩) (by decide)
  have houtputs : (rknnOutputsGet (writingHal [[7], [1, 2, 3, 4]]) twoOutputs
      [⟨0, 1, 0, 2, 1⟩, ⟨1, 0, 1, 0, 0⟩] none).outputs =
        [⟨0, 1, 0, 2, 1⟩, ⟨1, 0, 1, 8, 4⟩] := rfl
  have hapart : BuffersApart (List.replicate 16 0) [⟨0, 1, 0, 2, 1⟩, ⟨1, 0, 1, 8, 4⟩] := by
    refine ⟨fun r hr a ha => ?_, List.pairwise_pair.mpr fun a ha ha' => ?_⟩
    · have hr : r = (2, 1) ∨ r = (8, 4) := by simpa using hr
      have hlt : a < r.1 + r.2 := ha.2
      show a < 16
      rcases hr with rfl | rfl
      · exact Nat.lt_of_lt_of_le hlt (by decide)
      · exact Nat.lt_of_lt_of_le hlt (by decide)
    · have hlt : a < 3 := ha.2
      have hge : 8 ≤ a := ha'.1
      omega
  rw [houtputs] at hcopied hcontents
  refine ⟨hcopied, ?_⟩
  have hheld := hcontents (List.replicate 16 0) hapart
  rw [hcopied] at hheld
  exact hheld

end Builder

end RockchipHal.NeuralNetworks
