import RockchipHal.NeuralNetworks.OutputTransport
import RockchipHal.NeuralNetworks.Status

/-!
# Who frees the output buffers

`rknn_outputs_get` allocates the buffers of the outputs that are not preallocated inside the
allocator's callback; `rknn_outputs_release` frees them by the flag alone.  The two agree
when the callback has run, and otherwise only on `NULL`:

    freed = allocated ↔ the pool was granted ∨ every buffer not preallocated was NULL
                                                                   (release_frees_iff)

Transport and server have no part in it, and none of the outcomes shows in the return code
but that of an empty pool.
-/

namespace RockchipHal.NeuralNetworks.Builder

/-! ## Allocations -/

/-- What the copying loop has from `malloc`. -/
def outputMallocs (hal : Hal) (outputs : List (RknnOutput Nat)) : List Nat :=
  (outputs.mapIdx fun i output =>
    if output.isPrealloc ≠ 1 then [hal.mallocOutput i] else []).flatten

/-- What `rknn_outputs_get` has from `malloc`. -/
def rknnOutputsGetMallocs (hal : Hal) (ctx : RknnContext) (outputs : List (RknnOutput Nat)) :
    List Nat :=
  let outputs := sizedOutputs ctx outputs
  let size := poolSize (outputs.map fun x => x.size)
  if size = 0 then []
  else
    match hal.allocate 0 (intToUInt64 size).toNat with
    | .granted _ => outputMallocs hal outputs
    | _ => []

/-! ## Frees -/

theorem rknnOutputsRelease_cons (output : RknnOutput Nat) (outputs : List (RknnOutput Nat)) :
    rknnOutputsRelease (output :: outputs) =
      (if output.isPrealloc ≠ 1 then [output.buf] else []) ++ rknnOutputsRelease outputs := by
  unfold rknnOutputsRelease
  by_cases h : output.isPrealloc = 1 <;> simp [h]

theorem rknnOutputsRelease_eq (outputs : List (RknnOutput Nat)) :
    rknnOutputsRelease outputs =
      (outputs.map fun output => if output.isPrealloc ≠ 1 then [output.buf] else []).flatten := by
  induction outputs with
  | nil => rfl
  | cons output outputs ih =>
    rw [rknnOutputsRelease_cons, ih, List.map_cons, List.flatten_cons]

/-- The buffers of the loop are those freed afterwards. -/
theorem release_bufferedOutputs (hal : Hal) (outputs : List (RknnOutput Nat)) :
    rknnOutputsRelease (bufferedOutputs hal outputs) = outputMallocs hal outputs := by
  rw [rknnOutputsRelease_eq]
  unfold outputMallocs bufferedOutputs
  congr 1
  apply List.ext_getElem
  · simp
  · intro i _ _
    rw [List.getElem_map, List.getElem_mapIdx, List.getElem_mapIdx]
    split <;> rfl

/-- The sizes have no part in it. -/
theorem release_sizedOutputs (ctx : RknnContext) (outputs : List (RknnOutput Nat)) :
    rknnOutputsRelease (sizedOutputs ctx outputs) = rknnOutputsRelease outputs := by
  rw [rknnOutputsRelease_eq, rknnOutputsRelease_eq]
  unfold sizedOutputs
  congr 1
  apply List.ext_getElem
  · simp
  · intro i _ _
    rw [List.getElem_map, List.getElem_mapIdx, List.getElem_map]

theorem mem_rknnOutputsRelease {outputs : List (RknnOutput Nat)} {buf : Nat} :
    buf ∈ rknnOutputsRelease outputs ↔ ∃ x ∈ outputs, x.isPrealloc ≠ 1 ∧ x.buf = buf := by
  simp [rknnOutputsRelease, and_assoc]

/-! ## Get, then release -/

/-- The release frees, each as often as it was allocated, the buffers this get allocated and
no others; `free(NULL)` is no free. -/
def FreesOwn (hal : Hal) (ctx : RknnContext) (outputs : List (RknnOutput Nat))
    (extend : Option UInt64) : Prop :=
  ∀ buf ≠ 0, (rknnOutputsRelease (rknnOutputsGet hal ctx outputs extend).outputs).count buf =
    (rknnOutputsGetMallocs hal ctx outputs).count buf

/-- What is freed, when nothing was allocated. -/
theorem count_release_eq_zero_iff (outputs : List (RknnOutput Nat)) :
    (∀ buf ≠ 0, (rknnOutputsRelease outputs).count buf = 0) ↔
      ∀ x ∈ outputs, x.isPrealloc ≠ 1 → x.buf = 0 := by
  constructor
  · intro h x hx hprealloc
    by_contra hne
    exact List.count_eq_zero.mp (h x.buf hne) (mem_rknnOutputsRelease.mpr ⟨x, hx, hprealloc, rfl⟩)
  · intro h buf hne
    refine List.count_eq_zero.mpr fun hmem => ?_
    obtain ⟨x, hx, hprealloc, rfl⟩ := mem_rknnOutputsRelease.mp hmem
    exact hne (h x hx hprealloc)

/-- **Buffer ownership.**  The release frees exactly what the get allocated iff the pool was
not empty and was granted, or every buffer that is not preallocated was `NULL` before. -/
theorem release_frees_iff (hal : Hal) (ctx : RknnContext) (outputs : List (RknnOutput Nat))
    (extend : Option UInt64) :
    FreesOwn hal ctx outputs extend ↔
      (totalSize ((sizedOutputs ctx outputs).map fun x => x.size) % 2 ^ 32 ≠ 0 ∧
        (hal.allocate 0 (intToUInt64 (poolSize
          ((sizedOutputs ctx outputs).map fun x => x.size))).toNat).isGranted = true) ∨
      ∀ x ∈ outputs, x.isPrealloc ≠ 1 → x.buf = 0 := by
  rw [← count_release_eq_zero_iff, ne_eq, ← poolSize_eq_zero_iff]
  unfold FreesOwn rknnOutputsGet rknnOutputsGetMallocs
  dsimp only
  by_cases hsize : poolSize ((sizedOutputs ctx outputs).map fun x => x.size) = 0
  · rw [if_pos hsize, if_pos hsize]
    dsimp only
    rw [release_sizedOutputs]
    simp [hsize]
  · rw [if_neg hsize, if_neg hsize]
    cases hal.allocate 0 (intToUInt64 (poolSize
        ((sizedOutputs ctx outputs).map fun x => x.size))).toNat with
    | granted mem =>
      dsimp only
      rw [release_bufferedOutputs]
      exact iff_of_true (fun _ _ => rfl) (.inl ⟨hsize, rfl⟩)
    | refused =>
      dsimp only
      rw [release_sizedOutputs]
      simp [AllocReply.isGranted]
    | transportError =>
      dsimp only
      rw [release_sizedOutputs]
      simp [AllocReply.isGranted]

/-- The allocator refuses, the get returns `RKNN_SUCC`, and the release frees the pointer
that the caller's array came with. -/
theorem release_frees_stale :
    (rknnOutputsGet (answeringHal false 0) twoOutputs [⟨0, 0, 0, 77, 0⟩] none).ret = rknnSucc ∧
      rknnOutputsGetMallocs (answeringHal false 0) twoOutputs [⟨0, 0, 0, 77, 0⟩] = [] ∧
      rknnOutputsRelease (rknnOutputsGet (answeringHal false 0) twoOutputs
        [⟨0, 0, 0, 77, 0⟩] none).outputs = [77] ∧
      ¬ FreesOwn (answeringHal false 0) twoOutputs [⟨0, 0, 0, 77, 0⟩] none := by
  refine ⟨rfl, rfl, rfl, fun h => ?_⟩
  exact absurd (h 77 (by decide)) (by decide)

end RockchipHal.NeuralNetworks.Builder
