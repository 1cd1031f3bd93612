import Mathlib.Algebra.GroupWithZero.Nat
import RockchipHal.Lib.Regions
import RockchipHal.NeuralNetworks.Transport

/-!
# The layout of the shared pool

The pool of a call is as long as the sizes of the tensors together, and tensor `i` is to lie
behind the ones before it.  The length is summed in an `int` and handed to the allocator as a
`uint64_t`, the offsets are summed in a `uint32_t`; the sums are the same modulo `2 ^ 32`.

Sums up to `2 ^ 31` are exact.  A larger sum that wraps around to a positive `int` gives a
pool that is too small.  One that wraps around to a negative `int` gives an enormous size, and
then all is well as long as no offset has wrapped around:

    LaidOut sizes bufs ↔ SumFits sizes                                        (laidOut_iff)
-/

namespace RockchipHal.NeuralNetworks.Builder

/-- The bytes a location describes. -/
def locationRegion (buf : V1_0.DataLocation) : Nat × Nat := (buf.offset.toNat, buf.length.toNat)

/-- When the bridge goes on to allocate the pool, the locations share no byte and lie in it. -/
def LaidOut (sizes : List UInt32) (bufs : List V1_0.DataLocation) : Prop :=
  poolSize sizes ≠ 0 →
    Backed (fun a => a < (intToUInt64 (poolSize sizes)).toNat) (bufs.map locationRegion)

/-- As an `int` the sum is 0, so that nothing is allocated, or it is exact, or it is negative
and every tensor that has bytes begins below `2 ^ 32`. -/
def SumFits (sizes : List UInt32) : Prop :=
  totalSize sizes % 2 ^ 32 = 0 ∨ totalSize sizes < 2 ^ 31 ∨
    2 ^ 31 ≤ totalSize sizes % 2 ^ 32 ∧
      ∀ (i n : Nat), (sizes.map UInt32.toNat)[i]? = some n → 0 < n →
        offset (sizes.map UInt32.toNat) i < 2 ^ 32

/-! ## The sums -/

/-- An offset is the sum of the sizes before it, modulo `2 ^ 32`. -/
theorem curOffset_mod (sizes : List UInt32) (i : Nat) :
    (curOffset sizes i).toNat = offset (sizes.map UInt32.toNat) i % 2 ^ 32 := by
  rw [curOffset, foldl_add_toNat, List.map_take]
  show (0 + _) % _ = _
  rw [Nat.zero_add]
  rfl

/-- A negative `int` becomes a size close to `2 ^ 64`. -/
theorem intToUInt64_of_ge {n : UInt32} (h : 2 ^ 31 ≤ n.toNat) :
    (intToUInt64 n).toNat = n.toNat + (2 ^ 64 - 2 ^ 32) := by
  have hnot : ¬ n < 0x80000000 := by
    rw [UInt32.lt_iff_toNat_lt]
    show ¬ n.toNat < 2147483648
    omega
  have hlt := n.toNat_lt
  unfold intToUInt64
  rw [if_neg hnot, UInt64.toNat_add, UInt32.toNat_toUInt64]
  show (n.toNat + 18446744069414584320) % 2 ^ 64 = _
  omega

/-- The sums where the pool is allocated: its size is exact, or it is enormous. -/
theorem backed_wrapped_poolSize (sizes : List UInt32) (hne : poolSize sizes ≠ 0) :
    Backed (fun a => a < (intToUInt64 (poolSize sizes)).toNat)
        (wrapped (2 ^ 32) (sizes.map UInt32.toNat)) ↔ SumFits sizes := by
  have hsum : (poolSize sizes).toNat = totalSize sizes % 2 ^ 32 := poolSize_toNat sizes
  have hsizes : ∀ n ∈ sizes.map UInt32.toNat, n < 2 ^ 32 := by
    intro n hn
    obtain ⟨x, -, rfl⟩ := List.mem_map.mp hn
    exact x.toNat_lt
  have hoffset (i : Nat) : offset (sizes.map UInt32.toNat) i ≤ totalSize sizes :=
    offset_le_sum (sizes.map UInt32.toNat) i
  unfold SumFits
  rw [backed_wrapped_iff (by decide), ← poolSize_eq_zero_iff, or_iff_right hne]
  change _ ∧ totalSize sizes ≤ _ ↔ _
  rcases Nat.lt_or_ge (poolSize sizes).toNat (2 ^ 31) with hpos | hneg
  · rw [intToUInt64_toNat _ hpos]
    constructor
    · rintro ⟨-, htotal⟩
      exact .inl (by omega)
    · rintro (hexact | ⟨hbig, -⟩)
      · refine ⟨fun i n _ _ => ?_, by omega⟩
        have := hoffset i
        omega
      · omega
  · rw [intToUInt64_of_ge hneg]
    constructor
    · rintro ⟨hplace, -⟩
      exact .inr ⟨by omega, hplace⟩
    · rintro (hexact | ⟨-, hplace⟩)
      · omega
      · have hlt : totalSize sizes < 2 ^ 32 + 2 ^ 32 :=
          sum_lt_of_offset_lt (by decide) hplace hsizes
        exact ⟨hplace, by omega⟩

/-! ## The two calls -/

theorem laidOut_iff {sizes : List UInt32} {bufs : List V1_0.DataLocation}
    (h : bufs.map locationRegion = wrapped (2 ^ 32) (sizes.map UInt32.toNat)) :
    LaidOut sizes bufs ↔ SumFits sizes := by
  unfold LaidOut
  rw [h]
  by_cases hzero : poolSize sizes = 0
  · exact ⟨fun _ => .inl ((poolSize_eq_zero_iff sizes).mp hzero), fun _ hne => absurd hzero hne⟩
  · rw [backed_wrapped_poolSize sizes hzero]
    exact ⟨fun hfits => hfits hzero, fun hfits _ => hfits⟩

theorem map_locationRegion_inputArray (inputs : List ClientInput) :
    ((inputArray inputs).map fun x => x.buf).map locationRegion =
      wrapped (2 ^ 32) ((inputs.map fun x => x.size).map UInt32.toNat) := by
  apply List.ext_getElem
  · simp [inputArray, wrapped]
  · intro i _ _
    simp [inputArray, wrapped, locationRegion, curOffset_mod]

theorem map_locationRegion_outputArray (outputs : List (RknnOutput Nat)) :
    ((outputArray outputs).map fun x => x.buf).map locationRegion =
      wrapped (2 ^ 32) ((outputs.map fun x => x.size).map UInt32.toNat) := by
  apply List.ext_getElem
  · simp [outputArray, wrapped]
  · intro i _ _
    simp [outputArray, wrapped, locationRegion, curOffset_mod]

/-- **Layout of the pool.**  The locations that are sent share no byte and lie in the pool that
is allocated exactly when the sum of the sizes fits, in both calls. -/
theorem pool_laidOut_iff (inputs : List ClientInput) (ctx : RknnContext)
    (outputs : List (RknnOutput Nat)) :
    (LaidOut (inputs.map fun x => x.size) ((inputArray inputs).map fun x => x.buf) ↔
      SumFits (inputs.map fun x => x.size)) ∧
    (LaidOut ((sizedOutputs ctx outputs).map fun x => x.size)
        ((outputArray (sizedOutputs ctx outputs)).map fun x => x.buf) ↔
      SumFits ((sizedOutputs ctx outputs).map fun x => x.size)) := by
  constructor
  · exact laidOut_iff (map_locationRegion_inputArray inputs)
  · exact laidOut_iff (map_locationRegion_outputArray (sizedOutputs ctx outputs))

/-- An input of `size` zeros. -/
def zeroInput (size : UInt32) : ClientInput :=
  { index := 0
    buf := List.replicate size.toNat 0
    size := size
    passThrough := 0
    type := .uint8
    fmt := .nhwc
    buf_length := List.length_replicate }

/-- Two inputs that have `2 ^ 32` bytes and one more: the pool is of one byte. -/
theorem pool_not_laidOut :
    ¬ ∀ inputs : List ClientInput,
      LaidOut (inputs.map fun x => x.size) ((inputArray inputs).map fun x => x.buf) := by
  intro hall
  have hlaid : LaidOut [0x80000000, 0x80000001] _ :=
    hall [zeroInput 0x80000000, zeroInput 0x80000001]
  have hin : InRegion (0, 2147483648) 1 := ⟨by decide, by decide⟩
  have hone : 1 < 1 := (hlaid (by decide)).mapped (0, 2147483648) (by decide) 1 hin
  omega

end RockchipHal.NeuralNetworks.Builder
