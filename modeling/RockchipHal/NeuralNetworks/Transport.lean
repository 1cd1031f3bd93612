import RockchipHal.NeuralNetworks.Server
import RockchipHal.NeuralNetworks.Builder

/-!
# Tensors through the shared pool

The bridge lays the inputs of a call out one after the other (`curOffset`) and
the server derives the runtime's pointers from those offsets; both agree.  The
bridge's copies, though, all go to the start of the pool (`fillPool`), so what
lies at an offset is the byte of the last input long enough to reach it.  The
inputs arrive exactly when those bytes happen to be the right ones:

    (server's call).inputBytes = inputs.map buf ↔ OverlayAgrees …   (inputBytes_eq_iff)

which is the case whenever at most one input is non-empty
(`overlayAgrees_of_one_nonempty`).
-/

namespace RockchipHal.NeuralNetworks

/-- The pool bytes handed to the runtime for each input. -/
def RuntimeCall.inputBytes : RuntimeCall → List (List UInt8)
  | rknnInputsSet _ _ inputs pool => inputs.map fun x => slice pool x.buf x.size.toNat
  | _ => []

namespace Builder

/-! ## 32-bit sums -/

theorem foldl_add_toNat (l : List UInt32) : ∀ a : UInt32,
    (l.foldl (· + ·) a).toNat = (a.toNat + (l.map UInt32.toNat).sum) % 2 ^ 32 := by
  induction l with
  | nil =>
    intro a
    have := a.toNat_lt
    simp
  | cons x l ih =>
    intro a
    rw [List.foldl_cons, ih, UInt32.toNat_add, List.map_cons, List.sum_cons]
    omega

/-- The sizes' sum, without wrapping. -/
def totalSize (sizes : List UInt32) : Nat := (sizes.map UInt32.toNat).sum

theorem poolSize_toNat (sizes : List UInt32) : (poolSize sizes).toNat = totalSize sizes % 2 ^ 32 := by
  rw [poolSize, foldl_add_toNat]
  simp [totalSize]

theorem poolSize_eq_zero_iff (sizes : List UInt32) :
    poolSize sizes = 0 ↔ totalSize sizes % 2 ^ 32 = 0 := by
  rw [← poolSize_toNat, ← UInt32.toNat_inj]
  rfl

theorem curOffset_toNat (sizes : List UInt32) (i : Nat) (h : totalSize sizes < 2 ^ 32) :
    (curOffset sizes i).toNat = offset (sizes.map UInt32.toNat) i := by
  have hle := offset_le_sum (sizes.map UInt32.toNat) i
  unfold totalSize at h
  rw [curOffset, foldl_add_toNat, List.map_take]
  unfold offset at hle ⊢
  simp
  omega

/-- A pool whose `int` size is positive is allocated with that size. -/
theorem intToUInt64_toNat (n : UInt32) (h : n.toNat < 2 ^ 31) : (intToUInt64 n).toNat = n.toNat := by
  unfold intToUInt64
  rw [if_pos (UInt32.lt_iff_toNat_lt.mpr h), UInt32.toNat_toUInt64]

/-! ## Inputs -/

/-- At every position, the inputs one after the other have the byte that the last
input long enough has there, or the fresh pool's where none is. -/
def OverlayAgrees (bufs : List (List UInt8)) (fresh : List UInt8) : Prop :=
  ∀ p, p < bufs.flatten.length →
    bufs.flatten[p]? = some ((lastLonger bufs p).getD (fresh.getD p 0))

instance (bufs : List (List UInt8)) (fresh : List UInt8) : Decidable (OverlayAgrees bufs fresh) :=
  inferInstanceAs (Decidable (∀ p, p < bufs.flatten.length → _))

theorem lastLonger_filter (bufs : List (List UInt8)) (p : Nat) :
    lastLonger (bufs.filter (· ≠ [])) p = lastLonger bufs p := by
  induction bufs with
  | nil => rfl
  | cons b bufs ih =>
    rw [lastLonger_cons, List.filter_cons]
    split
    · rw [lastLonger_cons, ih]
    · next hb =>
      have hnil : b = [] := by simpa using hb
      rw [ih, hnil]
      cases lastLonger bufs p <;> rfl

/-- Inputs of which at most one is non-empty meet the condition. -/
theorem overlayAgrees_of_one_nonempty (bufs : List (List UInt8)) (fresh : List UInt8)
    (h : (bufs.filter (· ≠ [])).length ≤ 1) : OverlayAgrees bufs fresh := by
  intro p hp
  rw [← List.flatten_filter_ne_nil] at hp ⊢
  rw [← lastLonger_filter]
  generalize bufs.filter (· ≠ []) = rest at h hp ⊢
  match rest with
  | [] => simp at hp
  | [b] =>
    have hpb : p < b.length := by simpa using hp
    simp [lastLonger, hpb]
  | _ :: _ :: _ => simp at h

theorem overlay_eq_flatten_iff (bufs : List (List UInt8)) (fresh : List UInt8)
    (h : fresh.length = bufs.flatten.length) :
    overlay fresh bufs = bufs.flatten ↔ OverlayAgrees bufs fresh := by
  have key : ∀ p, p < bufs.flatten.length →
      (overlay fresh bufs)[p]? = some ((lastLonger bufs p).getD (fresh.getD p 0)) := by
    intro p hp
    rw [getElem?_overlay, List.getElem?_eq_getElem (by omega), List.getD_eq_getElem?_getD,
      List.getElem?_eq_getElem (by omega)]
    rfl
  constructor
  · intro he p hp
    rw [← key p hp, he]
  · intro ha
    apply List.ext_getElem?
    intro p
    rcases Nat.lt_or_ge p bufs.flatten.length with hp | hp
    · rw [key p hp, ha p hp]
    · rw [List.getElem?_eq_none hp, List.getElem?_eq_none (by rw [length_overlay]; omega)]

theorem length_flatten_bufs (inputs : List ClientInput) :
    (inputs.map fun x => x.buf).flatten.length = totalSize (inputs.map fun x => x.size) := by
  rw [List.length_flatten, totalSize, List.map_map, List.map_map]
  congr 1
  exact List.map_congr_left fun x _ => x.buf_length

/-- An element of the HIDL array as the server hands it to the runtime. -/
def servedInput (input : V1_0.RKNNInput) : RknnInput Nat :=
  { index := input.index
    buf := input.buf.offset.toNat
    size := input.buf.length
    passThrough := input.passThrough
    type := toRknnapiType input.type
    fmt := toRknnapiFormat input.fmt }

theorem tempInputs_inputsRequest (behind : Nat → V1_0.RKNNInput) (inputs : List ClientInput)
    (pool : List UInt8) (hn : inputs.length < 2 ^ 32) :
    (tempInputs (inputsRequest behind inputs pool)).val = (inputArray inputs).map servedInput := by
  have hcount : (inputsRequest behind inputs pool).nInputs.toNat =
      (inputsRequest behind inputs pool).inputs.size := by
    show (UInt32.ofNat inputs.length).toNat = (inputArray inputs).length
    rw [UInt32.toNat_ofNat_of_lt' hn, inputArray, List.length_mapIdx]
  rw [tempInputs, hcount, Reads.val_mapM]
  refine ((inputsRequest behind inputs pool).inputs.map_range_get fun _ => servedInput).trans ?_
  exact List.mapIdx_eq_iff.mpr fun i => List.getElem?_map

/-- The server hands the runtime the consecutive regions of the filled pool. -/
theorem inputBytes_inputsRequest (runtime : Runtime) (context : UInt64)
    (behind : Nat → V1_0.RKNNInput) (inputs : List ClientInput) (pool : List UInt8)
    (hn : inputs.length < 2 ^ 32) (hlt : totalSize (inputs.map fun x => x.size) < 2 ^ 32) :
    (NeuralNetworks.rknnInputsSet runtime context (inputsRequest behind inputs pool)).call.inputBytes =
      slices (fillPool inputs pool) (inputs.map fun x => x.buf) := by
  show (tempInputs (inputsRequest behind inputs pool)).val.map
    (fun x => slice (fillPool inputs pool) x.buf x.size.toNat) = _
  rw [tempInputs_inputsRequest behind inputs pool hn, List.map_map]
  have hlens : (inputs.map fun x => x.size).map UInt32.toNat =
      (inputs.map fun x => x.buf).map List.length := by
    rw [List.map_map, List.map_map]
    exact List.map_congr_left fun x _ => x.buf_length.symm
  apply List.ext_getElem
  · simp [inputArray, slices]
  · intro i h1 h2
    have hi : i < inputs.length := by simpa [slices] using h2
    simp only [inputArray, slices, List.getElem_mapIdx, List.getElem_map, Function.comp_apply,
      servedInput]
    rw [curOffset_toNat _ i hlt, hlens, inputs[i].buf_length]

/-- **Input transport.**  The server hands the runtime every input's own bytes
exactly when the overlaid copies happen to put them there. -/
theorem inputBytes_eq_iff (runtime : Runtime) (context : UInt64) (behind : Nat → V1_0.RKNNInput)
    (inputs : List ClientInput) (hn : inputs.length < 2 ^ 32)
    (hpos : 1 ≤ totalSize (inputs.map fun x => x.size))
    (hlt : totalSize (inputs.map fun x => x.size) < 2 ^ 31)
    (mem : Mem (intToUInt64 (poolSize (inputs.map fun x => x.size))).toNat) :
    (NeuralNetworks.rknnInputsSet runtime context
        (inputsRequest behind inputs mem.val)).call.inputBytes = inputs.map (fun x => x.buf) ↔
      OverlayAgrees (inputs.map fun x => x.buf) mem.val := by
  have hsize : (poolSize (inputs.map fun x => x.size)).toNat =
      totalSize (inputs.map fun x => x.size) := by
    rw [poolSize_toNat]
    omega
  have hmem : mem.val.length = (inputs.map fun x => x.buf).flatten.length := by
    rw [mem.property, intToUInt64_toNat _ (by omega), hsize, length_flatten_bufs]
  rw [inputBytes_inputsRequest runtime context behind inputs mem.val hn (by omega),
    slices_eq_iff _ _ (by rw [fillPool, length_overlay, hmem])]
  exact overlay_eq_flatten_iff _ _ hmem

def byteInput (index : UInt32) (b : UInt8) : ClientInput :=
  { index := index, buf := [b], size := 1, passThrough := 0, type := .uint8, fmt := .nhwc
    buf_length := rfl }

/-- Two bytes, one byte and an input without any: the copies end where the pool has what is
missing. -/
def overlaidInputs : List ClientInput :=
  [{ index := 0, buf := [0, 5], size := 2, passThrough := 0, type := .uint8, fmt := .nhwc
     buf_length := rfl },
    byteInput 1 0,
    { index := 2, buf := [], size := 0, passThrough := 0, type := .uint8, fmt := .nhwc
      buf_length := rfl }]

theorem inputBytes_overlaidInputs :
    (NeuralNetworks.rknnInputsSet (fun _ => ⟨0, none, []⟩) 1
      (inputsRequest (fun _ => ⟨0, ⟨0, 0, 0⟩, 0, .uint8, .nhwc⟩) overlaidInputs
        [0, 0, 0])).call.inputBytes = [[0, 5], [0], []] :=
  (inputBytes_eq_iff (fun _ => ⟨0, none, []⟩) 1 (fun _ => ⟨0, ⟨0, 0, 0⟩, 0, .uint8, .nhwc⟩)
    overlaidInputs (by decide) (by decide) (by decide) ⟨[0, 0, 0], rfl⟩).mpr (by decide)

/-- The request for two one-byte inputs, 1 and 2, in a fresh pool of two bytes. -/
def twoInputsRequest : V1_0.Request :=
  inputsRequest (fun _ => ⟨0, ⟨0, 0, 0⟩, 0, .uint8, .nhwc⟩) [byteInput 0 1, byteInput 1 2] [0, 0]

/-- The runtime gets 2 as the first input and the pool's zero as the second. -/
theorem inputBytes_two_inputs :
    (NeuralNetworks.rknnInputsSet (fun _ => ⟨0, none, []⟩) 1 twoInputsRequest).call.inputBytes =
      [[2], [0]] ∧
    (NeuralNetworks.rknnInputsSet (fun _ => ⟨0, none, []⟩) 1 twoInputsRequest).call.inputBytes ≠
      [byteInput 0 1, byteInput 1 2].map fun x => x.buf := by
  decide

end Builder

end RockchipHal.NeuralNetworks
