import Mathlib.Algebra.GroupWithZero.Nat
import Mathlib.Algebra.Ring.Int.Defs
import Mathlib.Logic.Function.Basic
import RockchipHal.Lib.BitPacking
import RockchipHal.Rockit.TenBit

/-!
# `RTMetadataRetrieverCallback`: the value of the ten-bit conversion

A semi-planar frame is `H` rows of luma samples and `H / 2` rows of chroma samples, `W` bytes
each, which start with ten-bit samples packed least significant bit first.  Each of them comes
out as its eight upper bits, at its own place:

    (dst (r * W + j)).toNat = x.toNat >>> 2                       (convert10bitTo8bit_value)

Sample `j` is read from the byte its first bit is in and from the next one; both are in the
row, since the sample is.
-/

namespace RockchipHal.Rockit

/-- A row of `W` bytes and the samples it starts with. -/
structure SampleRow (W : Nat) where
  bytes : List UInt8
  samples : List (BitVec 10)
  length : bytes.length = W
  packed : Packed samples (bytes.map UInt8.toBitVec)

/-- The rows of the luma plane, then those of the chroma plane. -/
structure SemiPlanar (W H : Nat) where
  rows : List (SampleRow W)
  length : rows.length = H + H / 2

/-- The frame is at the start of `memory`, row after row. -/
def SemiPlanar.In {W H : Nat} (frame : SemiPlanar W H) (memory : Int → UInt8) : Prop :=
  ∀ (r : Nat) (row : SampleRow W), frame.rows[r]? = some row →
    ∀ (k : Nat) (b : UInt8), row.bytes[k]? = some b → memory (r * W + k) = b

namespace RTMetadataRetrieverCallback

/-! ## One sample -/

theorem fetchOffset_toNat {j : Nat} (h : j ≤ 429496729) :
    ((UInt32.ofNat j * 2) &&& 7).toNat = 10 * j % 8 := by
  have hj : (UInt32.ofNat j).toNat = j := UInt32.toNat_ofNat_of_lt' (by show j < 2 ^ 32; omega)
  rw [UInt32.toNat_and, UInt32.toNat_mul, hj]
  show (j * 2 % 2 ^ 32) &&& (2 ^ 3 - 1) = 10 * j % 8
  rw [Nat.and_two_pow_sub_one_eq_mod]
  omega

theorem fetchFirst_toNat {j : Nat} (h : j ≤ 429496729) :
    (UInt32.ofNat j * 10 / 8).toNat = 10 * j / 8 := by
  have hj : (UInt32.ofNat j).toNat = j := UInt32.toNat_ofNat_of_lt' (by show j < 2 ^ 32; omega)
  rw [UInt32.toNat_div, UInt32.toNat_mul, hj]
  show (j * 10 % 2 ^ 32) / 8 = 10 * j / 8
  omega

/-- Bit `k` of two neighbouring bytes, the first shifted down and the second up. -/
theorem testBit_shifted (a b : UInt8) {offset : UInt32} (h : offset.toNat ≤ 7) {k : Nat}
    (hk : k < 10) :
    ((a.toUInt32 >>> offset ||| b.toUInt32 <<< (8 - offset)).toNat).testBit k =
      if offset.toNat + k < 8 then a.toNat.testBit (offset.toNat + k)
      else b.toNat.testBit (offset.toNat + k - 8) := by
  have hup : (8 - offset).toNat = 8 - offset.toNat := by
    refine UInt32.toNat_sub_of_le _ _ ?_
    rw [UInt32.le_iff_toNat_le]
    show offset.toNat ≤ 8
    omega
  have hdown : a.toNat.testBit (offset.toNat + k) = true → offset.toNat + k < 8 := by
    intro hbit
    by_contra hge
    have hlt : a.toNat < 2 ^ (offset.toNat + k) :=
      Nat.lt_of_lt_of_le a.toNat_lt (Nat.pow_le_pow_right (by decide) (by omega))
    rw [Nat.testBit_lt_two_pow hlt] at hbit
    cases hbit
  rw [UInt32.toNat_or, UInt32.toNat_shiftRight, UInt32.toNat_shiftLeft, hup, UInt8.toNat_toUInt32,
    UInt8.toNat_toUInt32, Nat.mod_eq_of_lt (show offset.toNat < 32 by omega),
    Nat.mod_eq_of_lt (show 8 - offset.toNat < 32 by omega), Nat.testBit_or,
    Nat.testBit_shiftRight, Nat.testBit_mod_two_pow, Nat.testBit_shiftLeft]
  by_cases hlow : offset.toNat + k < 8
  · have hbelow : ¬ 8 - offset.toNat ≤ k := by omega
    rw [if_pos hlow]
    simp [hbelow]
  · have habove : 8 - offset.toNat ≤ k := by omega
    have hindex : k - (8 - offset.toNat) = offset.toNat + k - 8 := by omega
    have hclear : a.toNat.testBit (offset.toNat + k) = false := by
      rw [Bool.eq_false_iff]
      exact fun hbit => hlow (hdown hbit)
    rw [if_neg hlow, hclear, hindex]
    simp [habove, show k < 32 by omega]

section
variable (memory : Int → UInt8)

/-- Bit `k` of the result is bit `k + 2` of the sample, which is bit `10 * j + k + 2` of the
line. -/
theorem fetchData_testBit (line : Int) {j : Nat} (h : j ≤ 429496728) {k : Nat} (hk : k < 8) :
    (fetchData memory line (UInt32.ofNat j)).1.toNat.testBit k =
      (memory (line + ((10 * j + (k + 2)) / 8 : Nat))).toNat.testBit
        ((10 * j + (k + 2)) % 8) := by
  have hoffset := fetchOffset_toNat (show j ≤ 429496729 by omega)
  have hfirst := fetchFirst_toNat (show j ≤ 429496729 by omega)
  have hsecond := fetchIndex_toNat (show j ≤ 429496729 by omega)
  have htwo : (2 : UInt32).toNat % 32 = 2 := rfl
  have hmask : (0x3ff : UInt32).toNat = 2 ^ 10 - 1 := rfl
  unfold fetchData
  dsimp only
  rw [hfirst, hsecond, UInt32.toNat_toUInt8, UInt32.toNat_shiftRight, UInt32.toNat_and, htwo,
    hmask, Nat.testBit_mod_two_pow, Nat.testBit_shiftRight, Nat.testBit_and,
    Nat.testBit_two_pow_sub_one, testBit_shifted _ _ (by omega) (by omega), hoffset]
  rw [decide_eq_true hk, decide_eq_true (show 2 + k < 10 by omega), Bool.true_and, Bool.and_true]
  by_cases hlow : 10 * j % 8 + (2 + k) < 8
  · have hdiv : (10 * j + (k + 2)) / 8 = 10 * j / 8 := by omega
    have hmod : (10 * j + (k + 2)) % 8 = 10 * j % 8 + (2 + k) := by omega
    rw [if_pos hlow, hdiv, hmod]
  · have hdiv : (10 * j + (k + 2)) / 8 = j * 10 / 8 + 1 := by omega
    have hmod : (10 * j + (k + 2)) % 8 = 10 * j % 8 + (2 + k) - 8 := by omega
    rw [if_neg hlow, hdiv, hmod]

/-- A sample of a row that lies from `line` on. -/
theorem fetchData_packed {W : Nat} (row : SampleRow W) {line : Int}
    (hline : ∀ (k : Nat) (b : UInt8), row.bytes[k]? = some b → memory (line + k) = b)
    {j : Nat} (h : j ≤ 429496728) {x : BitVec 10} (hx : row.samples[j]? = some x) :
    (fetchData memory line (UInt32.ofNat j)).1.toNat = x.toNat >>> 2 := by
  refine Nat.eq_of_testBit_eq fun k => ?_
  rw [Nat.testBit_shiftRight]
  by_cases hk : k < 8
  · obtain ⟨y, hy, hbit⟩ := row.packed.bit hx (show k + 2 < 10 by omega)
    rw [List.getElem?_map, Option.map_eq_some_iff] at hy
    obtain ⟨b, hb, rfl⟩ := hy
    rw [fetchData_testBit memory line h hk, hline _ b hb, Nat.add_comm 2 k]
    exact hbit
  · have hbyte : (fetchData memory line (UInt32.ofNat j)).1.toNat < 2 ^ k :=
      Nat.lt_of_lt_of_le (UInt8.toNat_lt _) (Nat.pow_le_pow_right (by decide) (by omega))
    have hsample : x.toNat < 2 ^ (2 + k) :=
      Nat.lt_of_lt_of_le x.isLt (Nat.pow_le_pow_right (by decide) (by omega))
    rw [Nat.testBit_lt_two_pow hbyte, Nat.testBit_lt_two_pow hsample]

/-! ## The loops -/

theorem convertRow_dst (width src dst : Int) (s : Unpacked) (p : Int) :
    (convertRow memory width src dst s).dst p =
      if dst ≤ p ∧ p < dst + width.toNat then
        (fetchData memory src (UInt32.ofNat (p - dst).toNat)).1
      else s.dst p := by
  unfold convertRow
  induction width.toNat with
  | zero =>
    rw [if_neg (by omega)]
    rfl
  | succ n ih =>
    rw [List.range_succ, List.foldl_append, List.foldl_cons, List.foldl_nil]
    show Function.update _ (dst + (n : Int)) _ p = _
    rcases eq_or_ne p (dst + n) with rfl | hne
    · rw [Function.update_self, if_pos (by omega)]
      have hindex : (dst + (n : Int) - dst).toNat = n := by omega
      rw [hindex]
    · rw [Function.update_of_ne hne, ih]
      by_cases hin : dst ≤ p ∧ p < dst + n
      · rw [if_pos hin, if_pos (by omega)]
      · rw [if_neg hin, if_neg (by omega)]

theorem convertRows_dst_before (width horStride : Int) (rows : Nat) (hw : 0 ≤ width) :
    ∀ (src dst : Int) (s : Unpacked) (p : Int), p < dst →
      (convertRows memory width horStride rows src dst s).dst p = s.dst p := by
  induction rows with
  | zero =>
    intro src dst s p _
    rfl
  | succ rows ih =>
    intro src dst s p hp
    unfold convertRows
    rw [ih _ _ _ p (by omega), convertRow_dst, if_neg (by omega)]

/-- Row `r` is filled in its turn, and the rows behind it leave it alone. -/
theorem convertRows_dst (width horStride : Int) (rows : Nat) (hw : 0 ≤ width) {j : Nat}
    (hj : j < width) :
    ∀ (src dst : Int) (s : Unpacked) (r : Nat), r < rows →
      (convertRows memory width horStride rows src dst s).dst (dst + r * width + j) =
        (fetchData memory (src + r * horStride) (UInt32.ofNat j)).1 := by
  induction rows with
  | zero =>
    intro src dst s r hr
    omega
  | succ rows ih =>
    intro src dst s r hr
    unfold convertRows
    cases r with
    | zero =>
      have hindex : (dst + ((0 : Nat) : Int) * width + j - dst).toNat = j := by
        rw [Int.natCast_zero, Int.zero_mul]
        omega
      rw [convertRows_dst_before memory width horStride rows hw _ _ _ _ (by omega),
        convertRow_dst, if_pos (by omega), hindex]
      simp
    | succ r =>
      have hnext (a stride : Int) : a + ((r + 1 : Nat) : Int) * stride =
          a + stride + r * stride := by
        rw [Int.natCast_add, Int.add_mul]
        omega
      rw [hnext, hnext]
      exact ih _ _ _ r (by omega)

end

/-! ## The frame -/

/-- Samples are not wider than the row they are in. -/
theorem sample_lt {W : Nat} (row : SampleRow W) {j : Nat} {x : BitVec 10}
    (hx : row.samples[j]? = some x) : 10 * j + 9 < 8 * W := by
  obtain ⟨y, hy, -⟩ := row.packed.bit hx (show 9 < 10 by decide)
  have hlt := (List.getElem?_eq_some_iff.mp hy).1
  rw [List.length_map, row.length] at hlt
  omega

/-- A place in row `r` is before the rows from `H` on. -/
theorem place_lt {W H r j : Nat} (hr : r < H) (hj : j < W) : (r * W + j : Int) < H * W := by
  have hrow : (r + 1) * W ≤ H * W := Nat.mul_le_mul_right W hr
  have hplace : r * W + j < H * W := by
    rw [Nat.succ_mul] at hrow
    omega
  exact_mod_cast hplace

/-- **Value of the conversion.**  Every sample of a frame is stored, without its two lower
bits, at its index in its row. -/
theorem convert10bitTo8bit_value {W H : Nat} (heven : H % 2 = 0) (hsize : W * H * 3 < 2 ^ 31)
    (ctx : MetaDataCallBackCtx) (hwidth : ctx.mWStride = W) (hheight : ctx.mHStride = H)
    (memory fresh : Int → UInt8) {src : Nat} (hsrc : src ≠ 0) (frame : SemiPlanar W H)
    (hframe : frame.In memory) :
    (convert10bitTo8bit memory ctx src fresh).1 = 0 ∧
      ∀ (r : Nat) (row : SampleRow W), frame.rows[r]? = some row →
        ∀ (j : Nat) (x : BitVec 10), row.samples[j]? = some x →
          ((convert10bitTo8bit memory ctx src fresh).2.dst (r * W + j)).toNat = x.toNat >>> 2 := by
  unfold convert10bitTo8bit
  rw [if_neg hsrc, hwidth, hheight]
  refine ⟨rfl, fun r row hrow j x hx => ?_⟩
  dsimp only
  have hr : r < H + H / 2 := by
    rw [← frame.length]
    exact (List.getElem?_eq_some_iff.mp hrow).1
  have hj := sample_lt row hx
  have hwide : W * 2 ≤ W * H := Nat.mul_le_mul_left W (by omega)
  have harea : (H : Int) * W < 2 ^ 31 := by
    have hlt : H * W < 2 ^ 31 := by
      rw [Nat.mul_comm]
      omega
    exact_mod_cast hlt
  have hpos : 0 ≤ (H : Int) * W := Int.mul_nonneg (by omega) (by omega)
  have hsrcBase : mulInt32 H W = (H : Int) * W := mulInt32_of_fits hpos harea
  have hbase : mulInt32 W H = (H : Int) * W := by
    rw [mulInt32, Int.mul_comm]
    exact hsrcBase
  have hrows : ((H : Int).tdiv 2).toNat = H / 2 := by
    rw [Int.tdiv_eq_ediv_of_nonneg (by omega)]
    omega
  have hline : (fetchData memory (r * W) (UInt32.ofNat j)).1.toNat = x.toNat >>> 2 :=
    fetchData_packed memory row (hframe r row hrow) (by omega) hx
  rw [← hline, hbase, hsrcBase, hrows]
  rcases Nat.lt_or_ge r H with hluma | hchroma
  · -- the chroma rows come behind the last luma row
    rw [convertRows_dst_before memory _ _ _ (by omega) _ _ _ _
      (place_lt hluma (show j < W by omega))]
    have hrow := convertRows_dst memory W W H (by omega) (show (j : Int) < W by omega) 0 0
      ⟨fresh, [], []⟩ r hluma
    rw [Int.zero_add] at hrow
    rw [Int.toNat_natCast, hrow]
  · obtain ⟨i, rfl⟩ := Nat.exists_eq_add_of_le hchroma
    have hplace : ((H + i : Nat) : Int) * W = H * W + i * W := by
      rw [Int.natCast_add, Int.add_mul]
    rw [hplace, convertRows_dst memory W W (H / 2) (by omega) (by omega) _ _ _ i (by omega)]

/-- Five bytes that are filled by four samples. -/
def fullRow : List UInt8 := [0xff, 0x57, 0xa5, 0x6a, 0x00]

def fullSamples : List (BitVec 10) := [0x3ff, 0x155, 0x2aa, 0x001]

/-- The second sample of the chroma row of a frame of three such rows. -/
theorem convert10bitTo8bit_value_chroma :
    ((convert10bitTo8bit (fun p => fullRow.getD (p % 5).toNat 0) (initCtx (tenBitPicture 5 2))
      0x1000 fun _ => 0).2.dst ((2 : Nat) * (5 : Nat) + (1 : Nat))).toNat = 0x55 := by
  let row : SampleRow 5 := ⟨fullRow, fullSamples, rfl, by decide⟩
  have hframe : SemiPlanar.In (⟨List.replicate 3 row, rfl⟩ : SemiPlanar 5 2)
      (fun p => fullRow.getD (p % 5).toNat 0) := by
    intro r row' hrow k b hb
    obtain rfl := List.eq_of_mem_replicate (List.mem_of_getElem? hrow)
    have hk : k < 5 := (List.getElem?_eq_some_iff.mp hb).1
    have hindex : (((r : Int) * (5 : Nat) + k) % 5).toNat = k := by omega
    show fullRow.getD _ 0 = b
    rw [hindex, List.getD_eq_getElem?_getD, hb]
    rfl
  exact (convert10bitTo8bit_value (by decide) (by decide) (initCtx (tenBitPicture 5 2)) rfl rfl
    _ (fun _ => 0) (by decide) ⟨List.replicate 3 row, rfl⟩ hframe).2 2 row rfl 1 0x155 rfl

end RTMetadataRetrieverCallback

end RockchipHal.Rockit
