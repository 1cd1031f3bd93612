import RockchipHal.Lib.Reads

/-!
# `RkOutputManager`: the lookup tables

`setGamma` and `set3DLut` take a count and three vectors, copy as many elements of
each into arrays of their own and hand these to the hardware.  The count is the
client's, and neither function compares it with the lengths of the vectors: they
read inside them, and the hardware gets their first elements, exactly when the
count is at most each length (`lut_inBounds_iff`).
-/

namespace RockchipHal.OutputManager

inductive Result
  | ok | unknown | noResource | invalidArguments | invalidState
deriving DecidableEq, Repr

abbrev Display := UInt64

/-- The functions of `hw_output_device` that take a table. -/
inductive LutFunction
  | setGamma | set3DLut
deriving DecidableEq, Repr

/-- A call of such a function, with its arguments. -/
structure LutCall where
  function : LutFunction
  display : Display
  size : UInt32
  red : List UInt16
  green : List UInt16
  blue : List UInt16
deriving DecidableEq

/-- `mHwOutput`: what the device answers. -/
abbrev HwOutput := LutCall → Int

/-- What an entry point did: the indices it read of each vector, its call, its reply. -/
structure Served where
  redReads : List Nat
  greenReads : List Nat
  blueReads : List Nat
  call : LutCall
  res : Result

/-- One channel of the copy loop.  The loop copies the three side by side. -/
def copyChannel (size : UInt32) (v : UncheckedVec UInt16) : Reads (List UInt16) :=
  (List.range size.toNat).mapM fun i => do return id (← v.read i)

/-- The body `setGamma` and `set3DLut` share. -/
def setLut (function : LutFunction) (hw : HwOutput) (display : Display) (size : UInt32)
    (r g b : UncheckedVec UInt16) : Served :=
  let red := copyChannel size r
  let green := copyChannel size g
  let blue := copyChannel size b
  let call : LutCall := ⟨function, display, size, red.val, green.val, blue.val⟩
  ⟨red.log, green.log, blue.log, call, if hw call = 0 then .ok else .unknown⟩

def setGamma (hw : HwOutput) (display : Display) (size : UInt32) (r g b : UncheckedVec UInt16) :
    Served :=
  setLut .setGamma hw display size r g b

def set3DLut (hw : HwOutput) (display : Display) (size : UInt32) (r g b : UncheckedVec UInt16) :
    Served :=
  setLut .set3DLut hw display size r g b

/-! ## Bounds -/

/-- The count is at most the length of each vector. -/
def Fits (size : UInt32) (r g b : UncheckedVec UInt16) : Prop :=
  size.toNat ≤ r.size ∧ size.toNat ≤ g.size ∧ size.toNat ≤ b.size

namespace Served

/-- Every index read is below the length of its vector. -/
def InBounds (s : Served) (r g b : UncheckedVec UInt16) : Prop :=
  (∀ i ∈ s.redReads, i < r.size) ∧ (∀ i ∈ s.greenReads, i < g.size) ∧
    ∀ i ∈ s.blueReads, i < b.size

/-- The hardware gets the first `size` elements of each vector, and these exist. -/
def PassesFront (s : Served) (size : UInt32) (r g b : UncheckedVec UInt16) : Prop :=
  (s.call.red <+: r.data ∧ s.call.green <+: g.data ∧ s.call.blue <+: b.data) ∧
    s.call.red.length = size.toNat ∧ s.call.green.length = size.toNat ∧
    s.call.blue.length = size.toNat

instance (s : Served) (r g b : UncheckedVec UInt16) : Decidable (s.InBounds r g b) := by
  unfold InBounds
  infer_instance

instance (s : Served) (size : UInt32) (r g b : UncheckedVec UInt16) :
    Decidable (s.PassesFront size r g b) := by
  unfold PassesFront
  infer_instance

end Served

theorem copyChannel_below_iff (size : UInt32) (v : UncheckedVec UInt16) :
    (copyChannel size v).Below v.size ↔ size.toNat ≤ v.size :=
  v.below_range_mapM size.toNat fun _ a => a

theorem copyChannel_val (size : UInt32) (v : UncheckedVec UInt16) :
    (copyChannel size v).val = (List.range size.toNat).map v.get := by
  unfold copyChannel
  rw [Reads.val_mapM]
  rfl

theorem copyChannel_length (size : UInt32) (v : UncheckedVec UInt16) :
    (copyChannel size v).val.length = size.toNat := by
  rw [copyChannel_val, List.length_map, List.length_range]

/-- A channel is the front of its vector exactly when the vector is long enough. -/
theorem copyChannel_prefix_iff (size : UInt32) (v : UncheckedVec UInt16) :
    (copyChannel size v).val <+: v.data ↔ size.toNat ≤ v.size := by
  constructor
  · intro h
    have hlen := h.length_le
    rwa [copyChannel_length] at hlen
  · intro h
    have hrange : List.range size.toNat = (List.range v.size).take size.toNat := by
      rw [List.take_range, Nat.min_eq_left h]
    have htake : (copyChannel size v).val = v.data.take size.toNat := by
      rw [copyChannel_val, hrange, List.map_take, v.map_get_range]
    rw [htake]
    exact List.take_prefix _ _

theorem setLut_inBounds_iff (function : LutFunction) (hw : HwOutput) (display : Display)
    (size : UInt32) (r g b : UncheckedVec UInt16) :
    (setLut function hw display size r g b).InBounds r g b ↔ Fits size r g b :=
  and_congr (copyChannel_below_iff size r)
    (and_congr (copyChannel_below_iff size g) (copyChannel_below_iff size b))

theorem setLut_passesFront_iff (function : LutFunction) (hw : HwOutput) (display : Display)
    (size : UInt32) (r g b : UncheckedVec UInt16) :
    (setLut function hw display size r g b).PassesFront size r g b ↔ Fits size r g b := by
  have hlen : (copyChannel size r).val.length = size.toNat ∧
      (copyChannel size g).val.length = size.toNat ∧
      (copyChannel size b).val.length = size.toNat :=
    ⟨copyChannel_length size r, copyChannel_length size g, copyChannel_length size b⟩
  refine (and_iff_left hlen).trans ?_
  exact and_congr (copyChannel_prefix_iff size r)
    (and_congr (copyChannel_prefix_iff size g) (copyChannel_prefix_iff size b))

/-- For every count and all vectors, either call reads inside the vectors, and passes
exactly their first elements, if and only if the count is at most each length. -/
theorem lut_inBounds_iff (hw : HwOutput) (display : Display) (size : UInt32)
    (r g b : UncheckedVec UInt16) :
    (((setGamma hw display size r g b).InBounds r g b ↔ Fits size r g b) ∧
      ((setGamma hw display size r g b).PassesFront size r g b ↔ Fits size r g b)) ∧
    ((set3DLut hw display size r g b).InBounds r g b ↔ Fits size r g b) ∧
      ((set3DLut hw display size r g b).PassesFront size r g b ↔ Fits size r g b) :=
  ⟨⟨setLut_inBounds_iff .setGamma hw display size r g b,
      setLut_passesFront_iff .setGamma hw display size r g b⟩,
    setLut_inBounds_iff .set3DLut hw display size r g b,
    setLut_passesFront_iff .set3DLut hw display size r g b⟩

/-- Two red values, one green one, no blue one, and a count of two: the green and the
blue vector are read past their ends. -/
theorem unequal_lut_outOfBounds :
    ¬ (setGamma (fun _ => 0) 0 2 ⟨[1, 2], fun _ => 0⟩ ⟨[3], fun _ => 0⟩ ⟨[], fun _ => 0⟩).InBounds
        ⟨[1, 2], fun _ => 0⟩ ⟨[3], fun _ => 0⟩ ⟨[], fun _ => 0⟩ ∧
      ¬ (setGamma (fun _ => 0) 0 2 ⟨[1, 2], fun _ => 0⟩ ⟨[3], fun _ => 0⟩
          ⟨[], fun _ => 0⟩).PassesFront 2
        ⟨[1, 2], fun _ => 0⟩ ⟨[3], fun _ => 0⟩ ⟨[], fun _ => 0⟩ := by
  decide

end RockchipHal.OutputManager
