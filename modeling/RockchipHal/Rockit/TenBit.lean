import Mathlib.Algebra.GroupWithZero.Nat
import Mathlib.Algebra.Ring.Int.Defs
import Mathlib.Logic.Function.Basic
import RockchipHal.Rockit.MetadataRetrieverCallback

/-!
# `RTMetadataRetrieverCallback`: bounds of the ten-bit conversion

`convert10bitTo8bit` takes `width` ten-bit samples from each row, one and a quarter bytes
for each, and goes on to the next row after `width` bytes.  The last row of the second
plane has no row behind it, so its last samples lie past the buffer.  Where the strides are
so large that the size of the copy wraps around in 32 bits, the copy is smaller than the
first plane.

    (∀ copy ∈ fillTenBit …, copy.InBounds …) ↔ ¬ Converts …   (fillTenBit_inBounds_iff)

For no strides does a conversion that is made keep to the two buffers.
-/

namespace RockchipHal.Rockit

/-- The memory behind `dst`, and the offsets read from `src` and written to `dst`. -/
structure Unpacked where
  dst : Int → UInt8
  reads : List Int
  writes : List Int

/-- A product of two `int`s. -/
def mulInt32 (a b : Int) : Int := (a * b).bmod (2 ^ 32)

namespace RTMetadataRetrieverCallback

section
variable (memory : Int → UInt8)

/-- The sample, and the two offsets it is read from. -/
def fetchData (line : Int) (num : UInt32) : UInt8 × List Int :=
  let offset := (num * 2) &&& 7
  let first := line + (num * 10 / 8).toNat
  let second := line + (num * 10 / 8 + 1).toNat
  let value := (memory first).toUInt32 >>> offset ||| (memory second).toUInt32 <<< (8 - offset)
  (((value &&& 0x3ff) >>> 2).toUInt8, [first, second])

/-- `dst[j] = fetch_data(src, j);` -/
def convertSample (src dst : Int) (s : Unpacked) (j : Nat) : Unpacked :=
  let fetched := fetchData memory src (UInt32.ofNat j)
  { dst := Function.update s.dst (dst + j) fetched.1
    reads := s.reads ++ fetched.2
    writes := s.writes ++ [dst + j] }

def convertRow (width : Int) (src dst : Int) (s : Unpacked) : Unpacked :=
  (List.range width.toNat).foldl (convertSample memory src dst) s

/-- `rows` rows from `src` on to `dst`. -/
def convertRows (width horStride : Int) : Nat → Int → Int → Unpacked → Unpacked
  | 0, _, _, s => s
  | rows + 1, src, dst, s =>
    convertRows width horStride rows (src + horStride) (dst + width)
      (convertRow memory width src dst s)

/-- `memory` is indexed from `src` on, `fresh` from `dst` on. -/
def convert10bitTo8bit (ctx : MetaDataCallBackCtx) (src : Nat) (fresh : Int → UInt8) :
    Int × Unpacked :=
  if src = 0 then (-1, ⟨fresh, [], []⟩)
  else
    let horStride := ctx.mWStride
    let verStride := ctx.mHStride
    let width := ctx.mWStride
    let height := ctx.mHStride
    let s := convertRows memory width horStride height.toNat 0 0 ⟨fresh, [], []⟩
    (0, convertRows memory width horStride (height.tdiv 2).toNat (mulInt32 verStride horStride)
      (mulInt32 width height) s)

end

/-- `malloc`: a size above `PTRDIFF_MAX` is refused. -/
def malloc (granted : Bool) (size : Nat) : Option Nat :=
  if granted ∧ size < 2 ^ 63 then some size else none

/-- `ctx->mHStride * ctx->mWStride * 3 / 2`, converted to `size_t`. -/
def yuvSize (ctx : MetaDataCallBackCtx) : Nat :=
  ((mulInt32 (mulInt32 ctx.mHStride ctx.mWStride) 3).tdiv 2 % 2 ^ 64).toNat

/-- The eight-bit copy: its size, and what the conversion did. -/
structure YuvCopy where
  size : Nat
  converted : Unpacked

/-- What `fillVideoFrame` does before `converter.convert`.  `granted` says whether there is
memory for the two allocations. -/
def fillTenBit (isValid : Int → Int → Bool) (memory fresh : Int → UInt8)
    (cb : RTMetadataRetrieverCallback) (info : Option RtMetaData) (granted : Granted) :
    Option YuvCopy :=
  match info with
  | none => none
  | some info =>
    match cb.allocVideoFrame granted with
    | none => none
    | some (_, cb) =>
      let srcFormat := transfRT2OmxColorFormat cb.mCtx.mSrcFormat
      let dstFormat := cb.mCtx.mDstFormat
      if srcFormat = omxColorFormatUnused ∨ dstFormat = omxColorFormatUnused then none
      else
        match info.retrieverBufferAddress with
        | none => none
        | some srcYuvAddr =>
          if isValid srcFormat dstFormat ∧ cb.mCtx.mSrcFormat = rtFmtYUV420SP10Bit then
            (malloc granted.dstYuvAddr (yuvSize cb.mCtx)).map fun size =>
              ⟨size, (convert10bitTo8bit memory cb.mCtx srcYuvAddr fresh).2⟩
          else none

/-! ## Bounds -/

/-- Every access is inside a source of `srcSize` bytes and inside the copy. -/
structure YuvCopy.InBounds (copy : YuvCopy) (srcSize : Int) : Prop where
  reads : ∀ p ∈ copy.converted.reads, 0 ≤ p ∧ p < srcSize
  writes : ∀ p ∈ copy.converted.writes, 0 ≤ p ∧ p < copy.size

/-- Strides as `init` stores them: positive `int`s, with an even height. -/
structure Strides (ctx : MetaDataCallBackCtx) : Prop where
  width : 2 ≤ ctx.mWStride
  width_lt : ctx.mWStride < 2 ^ 31
  height : 2 ≤ ctx.mHStride
  height_lt : ctx.mHStride < 2 ^ 31
  even : ctx.mHStride % 2 = 0

/-- The calls that come to the conversion, with a buffer to read from.  The size that is
asked for is not negative: halved, `-1` is 0. -/
structure Converts (isValid : Int → Int → Bool) (ctx : MetaDataCallBackCtx)
    (info : Option RtMetaData) (granted : Granted) : Prop where
  address : ∃ i ∈ info, ∃ a ∈ i.retrieverBufferAddress, a ≠ 0
  frameMem : granted.frameMem = true
  src : ctx.mSrcFormat = rtFmtYUV420SP10Bit
  dst : ctx.mDstFormat ≠ omxColorFormatUnused
  valid : isValid omxColorFormatYUV420SemiPlanar ctx.mDstFormat = true
  yuv : granted.dstYuvAddr = true
  size : -2 < (ctx.mHStride * ctx.mWStride * 3).bmod (2 ^ 32)

/-! ## What the loops access -/

section
variable (memory : Int → UInt8)

/-! A log that gets the accesses of a sample with each sample. -/

variable {log : Unpacked → List Int} {accesses : Int → Int → Nat → List Int}
  (hlog : ∀ src dst s j, log (convertSample memory src dst s j) = log s ++ accesses src dst j)

include hlog

theorem mem_log_convertRow (width src dst : Int) (s : Unpacked) (p : Int) :
    p ∈ log (convertRow memory width src dst s) ↔
      p ∈ log s ∨ ∃ j < width.toNat, p ∈ accesses src dst j := by
  unfold convertRow
  induction width.toNat with
  | zero => simp
  | succ n ih =>
    rw [List.range_succ, List.foldl_append, List.foldl_cons, List.foldl_nil, hlog,
      List.mem_append, ih, Nat.exists_lt_succ_right, or_assoc]

theorem mem_log_convertRows (width horStride : Int) (rows : Nat) :
    ∀ (src dst : Int) (s : Unpacked) (p : Int),
      p ∈ log (convertRows memory width horStride rows src dst s) ↔
        p ∈ log s ∨ ∃ i < rows, ∃ j < width.toNat,
          p ∈ accesses (src + i * horStride) (dst + i * width) j := by
  induction rows with
  | zero =>
    intro src dst s p
    simp [convertRows]
  | succ rows ih =>
    intro src dst s p
    have hnext (a stride : Int) (i : Nat) :
        a + stride + i * stride = a + (i + 1 : Nat) * stride := by
      rw [Int.natCast_add, Int.add_mul]
      omega
    unfold convertRows
    rw [ih, mem_log_convertRow memory hlog, Nat.exists_lt_succ_left, or_assoc]
    simp only [hnext, Int.natCast_zero, Int.zero_mul, Int.add_zero]

end

section
variable (memory : Int → UInt8)

theorem mem_reads_convertRows (width horStride : Int) (rows : Nat) (src dst : Int) (s : Unpacked)
    (p : Int) :
    p ∈ (convertRows memory width horStride rows src dst s).reads ↔
      p ∈ s.reads ∨ ∃ i < rows, ∃ j < width.toNat,
        p ∈ (fetchData memory (src + i * horStride) (UInt32.ofNat j)).2 := by
  have hlog (src dst : Int) (s : Unpacked) (j : Nat) :
      (convertSample memory src dst s j).reads =
        s.reads ++ (fetchData memory src (UInt32.ofNat j)).2 := rfl
  exact mem_log_convertRows memory hlog width horStride rows src dst s p

theorem mem_writes_convertRows (width horStride : Int) (rows : Nat) (src dst : Int)
    (s : Unpacked) (p : Int) :
    p ∈ (convertRows memory width horStride rows src dst s).writes ↔
      p ∈ s.writes ∨ ∃ i < rows, ∃ j < width.toNat, p = dst + i * width + j := by
  have hlog (src dst : Int) (s : Unpacked) (j : Nat) :
      (convertSample memory src dst s j).writes = s.writes ++ [dst + (j : Int)] := rfl
  rw [mem_log_convertRows memory hlog]
  simp only [List.mem_singleton]

end

/-! ## Sizes in 32 bits -/

theorem bmod32_bounds (x : Int) : -2 ^ 31 ≤ x.bmod (2 ^ 32) ∧ x.bmod (2 ^ 32) < 2 ^ 31 := by
  have hlow := @Int.le_bmod x (2 ^ 32) (by decide)
  have hhigh := @Int.bmod_lt x (2 ^ 32) (by decide)
  exact ⟨by omega, by omega⟩

/-- A number past the `int`s that does not become less than `-1` has wrapped around. -/
theorem le_of_bmod32 {x : Int} (hx : 2 ^ 31 ≤ x) (hneg : -2 < x.bmod (2 ^ 32)) :
    2 ^ 32 - 1 ≤ x := by
  have hdiv := Int.bmod_add_bdiv x (2 ^ 32)
  have hhigh := (bmod32_bounds x).2
  generalize x.bmod (2 ^ 32) = b at hdiv hhigh hneg
  have hturns : 1 ≤ x.bdiv (2 ^ 32) := by omega
  omega

theorem mulInt32_of_fits {a b : Int} (h0 : 0 ≤ a * b) (h : a * b < 2 ^ 31) :
    mulInt32 a b = a * b := by
  unfold mulInt32
  exact Int.bmod_eq_of_le (by omega) (by omega)

/-- The size is half the product when that is not negative, and otherwise past every
buffer, except that `-1` is halved to 0. -/
theorem yuvSize_spec (ctx : MetaDataCallBackCtx) :
    (0 ≤ (ctx.mHStride * ctx.mWStride * 3).bmod (2 ^ 32) →
      (yuvSize ctx : Int) = (ctx.mHStride * ctx.mWStride * 3).bmod (2 ^ 32) / 2) ∧
    ((ctx.mHStride * ctx.mWStride * 3).bmod (2 ^ 32) = -1 → yuvSize ctx = 0) ∧
    ((ctx.mHStride * ctx.mWStride * 3).bmod (2 ^ 32) < -1 → 2 ^ 63 ≤ yuvSize ctx) := by
  obtain ⟨hlow, hhigh⟩ := bmod32_bounds (ctx.mHStride * ctx.mWStride * 3)
  unfold yuvSize mulInt32
  rw [Int.bmod_mul_bmod]
  generalize (ctx.mHStride * ctx.mWStride * 3).bmod (2 ^ 32) = b at hlow hhigh ⊢
  refine ⟨fun hb => ?_, fun hb => ?_, fun hb => ?_⟩
  · rw [Int.tdiv_eq_ediv_of_nonneg hb]
    omega
  · subst hb
    rfl
  · have hneg : b.tdiv 2 = -(-b / 2) := by
      rw [← Int.tdiv_eq_ediv_of_nonneg (by omega), Int.neg_tdiv, Int.neg_neg]
    rw [hneg]
    omega

theorem yuvSize_lt_iff (ctx : MetaDataCallBackCtx) :
    yuvSize ctx < 2 ^ 63 ↔ -2 < (ctx.mHStride * ctx.mWStride * 3).bmod (2 ^ 32) := by
  have hhigh := (bmod32_bounds (ctx.mHStride * ctx.mWStride * 3)).2
  obtain ⟨hpos, hone, hneg⟩ := yuvSize_spec ctx
  generalize (ctx.mHStride * ctx.mWStride * 3).bmod (2 ^ 32) = b at hhigh hpos hone hneg ⊢
  constructor
  · intro hsize
    by_contra hb
    have := hneg (by omega)
    omega
  · intro hb
    rcases Int.lt_or_le b 0 with hlt | hle
    · rw [hone (by omega)]
      decide
    · have := hpos hle
      omega

/-- Where the product wraps around, a size that is granted is smaller than the first plane. -/
theorem yuvSize_lt_area {ctx : MetaDataCallBackCtx}
    (hwraps : 2 ^ 31 ≤ ctx.mHStride * ctx.mWStride * 3) (hsize : yuvSize ctx < 2 ^ 63) :
    (yuvSize ctx : Int) < ctx.mHStride * ctx.mWStride := by
  have hneg := (yuvSize_lt_iff ctx).mp hsize
  have harea := le_of_bmod32 hwraps hneg
  have hhigh := (bmod32_bounds (ctx.mHStride * ctx.mWStride * 3)).2
  obtain ⟨hpos, hone, -⟩ := yuvSize_spec ctx
  rcases Int.lt_or_le ((ctx.mHStride * ctx.mWStride * 3).bmod (2 ^ 32)) 0 with hlt | hle
  · have hzero := hone (by omega)
    omega
  · have hhalf := hpos hle
    omega

/-! ## Accesses past the ends -/

theorem fetchIndex_toNat {j : Nat} (h : j ≤ 429496729) :
    (UInt32.ofNat j * 10 / 8 + 1).toNat = j * 10 / 8 + 1 := by
  have hj : (UInt32.ofNat j).toNat = j := UInt32.toNat_ofNat_of_lt' (by show j < 2 ^ 32; omega)
  rw [UInt32.toNat_add, UInt32.toNat_div, UInt32.toNat_mul, hj]
  show ((j * 10 % 2 ^ 32) / 8 + 1) % 2 ^ 32 = j * 10 / 8 + 1
  rw [Nat.mod_eq_of_lt (by omega), Nat.mod_eq_of_lt (by omega)]

section
variable {ctx : MetaDataCallBackCtx} (h : Strides ctx) (memory fresh : Int → UInt8) {src : Nat}
  (hsrc : src ≠ 0)

include h hsrc

/-- The last sample of the last row of the first plane is written just below
`width * height`. -/
theorem exists_write :
    ctx.mHStride * ctx.mWStride - 1 ∈ (convert10bitTo8bit memory ctx src fresh).2.writes := by
  obtain ⟨hw, -, hh, -, -⟩ := h
  unfold convert10bitTo8bit
  rw [if_neg hsrc]
  refine (mem_writes_convertRows memory _ _ _ _ _ _ _).mpr (.inl ?_)
  refine (mem_writes_convertRows memory _ _ _ _ _ _ _).mpr (.inr ?_)
  refine ⟨(ctx.mHStride - 1).toNat, by omega, (ctx.mWStride - 1).toNat, by omega, ?_⟩
  rw [Int.toNat_of_nonneg (by omega), Int.toNat_of_nonneg (by omega), Int.sub_mul]
  omega

/-- Where nothing wraps around, the last sample of the last row of the second plane is read
past the source. -/
theorem exists_read (hfits : ctx.mHStride * ctx.mWStride * 3 < 2 ^ 31) :
    ∃ p ∈ (convert10bitTo8bit memory ctx src fresh).2.reads,
      ctx.mHStride * ctx.mWStride * 3 / 2 ≤ p := by
  obtain ⟨hw, -, hh, -, heven⟩ := h
  obtain ⟨k, hk⟩ : ∃ k, ctx.mHStride = 2 * k := ⟨ctx.mHStride / 2, by omega⟩
  have harea : ctx.mHStride * ctx.mWStride = 2 * (k * ctx.mWStride) := by
    rw [hk, Int.mul_assoc]
  have hwidth : 1 * ctx.mWStride ≤ k * ctx.mWStride :=
    Int.mul_le_mul_of_nonneg_right (by omega) (by omega)
  have hbase : mulInt32 ctx.mHStride ctx.mWStride = ctx.mHStride * ctx.mWStride :=
    mulInt32_of_fits (by omega) (by omega)
  -- the row starts `mWStride` bytes before the end of the source
  have hline : ctx.mHStride * ctx.mWStride + (k - 1) * ctx.mWStride =
      ctx.mHStride * ctx.mWStride * 3 / 2 - ctx.mWStride := by
    rw [Int.sub_mul]
    omega
  have hindex := fetchIndex_toNat (show (ctx.mWStride - 1).toNat ≤ 429496729 by omega)
  refine ⟨ctx.mHStride * ctx.mWStride + (k - 1) * ctx.mWStride +
    (UInt32.ofNat (ctx.mWStride - 1).toNat * 10 / 8 + 1).toNat, ?_, by omega⟩
  unfold convert10bitTo8bit
  rw [if_neg hsrc]
  refine (mem_reads_convertRows memory _ _ _ _ _ _ _).mpr (.inr ?_)
  have hrows : (ctx.mHStride.tdiv 2).toNat = k.toNat := by
    rw [Int.tdiv_eq_ediv_of_nonneg (by omega)]
    omega
  refine ⟨(k - 1).toNat, by omega, (ctx.mWStride - 1).toNat, by omega, ?_⟩
  rw [hbase, Int.toNat_of_nonneg (by omega)]
  exact List.mem_cons_of_mem _ List.mem_cons_self

/-- The copy is either as large as the picture or smaller than its first plane. -/
theorem not_inBounds (hsize : yuvSize ctx < 2 ^ 63) :
    ¬ YuvCopy.InBounds ⟨yuvSize ctx, (convert10bitTo8bit memory ctx src fresh).2⟩
      (ctx.mHStride * ctx.mWStride * 3 / 2) := by
  intro hbounds
  rcases Int.lt_or_le (ctx.mHStride * ctx.mWStride * 3) (2 ^ 31) with hfits | hwraps
  · obtain ⟨p, hp, hpast⟩ := exists_read h memory fresh hsrc hfits
    have hin := (hbounds.reads p hp).2
    omega
  · have hin : ctx.mHStride * ctx.mWStride - 1 < yuvSize ctx :=
      (hbounds.writes _ (exists_write h memory fresh hsrc)).2
    have hsmall := yuvSize_lt_area hwraps hsize
    omega

end

/-! ## The calls -/

theorem transf_tenBit {format : Int} (h : format = rtFmtYUV420SP10Bit) :
    transfRT2OmxColorFormat format = omxColorFormatYUV420SemiPlanar := by
  rw [h]
  decide

section
variable (isValid : Int → Int → Bool) (memory fresh : Int → UInt8)
  (cb : RTMetadataRetrieverCallback)

/-- What is asked of the formats and of the second allocation. -/
theorem fillTenBit_of_address {i : RtMetaData} {granted : Granted} {a : Nat}
    (hframe : granted.frameMem = true) (ha : i.retrieverBufferAddress = some a) :
    fillTenBit isValid memory fresh cb (some i) granted =
      if cb.mCtx.mSrcFormat = rtFmtYUV420SP10Bit ∧ cb.mCtx.mDstFormat ≠ omxColorFormatUnused ∧
          isValid omxColorFormatYUV420SemiPlanar cb.mCtx.mDstFormat = true ∧
          granted.dstYuvAddr = true ∧ yuvSize cb.mCtx < 2 ^ 63 then
        some ⟨yuvSize cb.mCtx, (convert10bitTo8bit memory cb.mCtx a fresh).2⟩
      else none := by
  unfold fillTenBit malloc
  simp only [allocVideoFrame_granted hframe, ha]
  by_cases hsrc : cb.mCtx.mSrcFormat = rtFmtYUV420SP10Bit
  · have htrans := transf_tenBit hsrc
    have hused : omxColorFormatYUV420SemiPlanar ≠ omxColorFormatUnused := by decide
    rw [htrans]
    by_cases hdst : cb.mCtx.mDstFormat = omxColorFormatUnused
    · rw [if_pos (.inr hdst), if_neg (fun h => h.2.1 hdst)]
    rw [if_neg (fun h => h.elim hused hdst)]
    by_cases hvalid : isValid omxColorFormatYUV420SemiPlanar cb.mCtx.mDstFormat = true
    · rw [if_pos ⟨hvalid, hsrc⟩]
      by_cases hmem : granted.dstYuvAddr = true ∧ yuvSize cb.mCtx < 2 ^ 63
      · rw [if_pos hmem, if_pos ⟨hsrc, hdst, hvalid, hmem⟩]
        rfl
      · rw [if_neg hmem, if_neg (fun h => hmem h.2.2.2)]
        rfl
    · rw [if_neg (fun h => hvalid h.1), if_neg (fun h => hvalid h.2.2.1)]
  · have hnot : ¬ (isValid (transfRT2OmxColorFormat cb.mCtx.mSrcFormat) cb.mCtx.mDstFormat ∧
        cb.mCtx.mSrcFormat = rtFmtYUV420SP10Bit) := fun h => hsrc h.2
    rw [if_neg hnot, ite_self, if_neg (fun h => hsrc h.1)]

/-- Without a frame or a buffer to read from there is no copy. -/
theorem fillTenBit_frame {info : Option RtMetaData} {granted : Granted} {copy : YuvCopy}
    (h : fillTenBit isValid memory fresh cb info granted = some copy) :
    granted.frameMem = true ∧ ∃ i ∈ info, ∃ a, i.retrieverBufferAddress = some a := by
  unfold fillTenBit at h
  cases info with
  | none => cases h
  | some i =>
    dsimp only at h
    by_cases hframe : granted.frameMem = true
    · refine ⟨hframe, i, rfl, ?_⟩
      unfold allocVideoFrame at h
      rw [if_pos hframe] at h
      dsimp only at h
      split at h
      · cases h
      · cases ha : i.retrieverBufferAddress with
        | none =>
          rw [ha] at h
          cases h
        | some a => exact ⟨a, rfl⟩
    · unfold allocVideoFrame at h
      rw [if_neg hframe] at h
      cases h

/-- The allocations of a call, the second one answered by `malloc`. -/
def answered (granted : Granted) : Granted :=
  { granted with dstYuvAddr := (malloc granted.dstYuvAddr (yuvSize cb.mCtx)).isSome }

/-- Where a copy is made, it is what `converter.convert` is called with. -/
theorem fillVideoFrame_of_copy {info : Option RtMetaData} {granted : Granted} {copy : YuvCopy}
    (h : fillTenBit isValid memory fresh cb info granted = some copy) :
    ∃ c, cb.fillVideoFrame isValid info (cb.answered granted) =
        (0, cb.stored.convert cb.memory.length c) ∧ c.tenBit = true := by
  obtain ⟨hframe, i, rfl, a, ha⟩ := fillTenBit_frame isValid memory fresh cb h
  have hmade := (fillTenBit_of_address isValid memory fresh cb hframe ha).symm.trans h
  obtain ⟨⟨hsrc, hdst, hvalid, hyuv, hlt⟩, -⟩ := Option.ite_none_right_eq_some.mp hmade
  have hgranted : (cb.answered granted).dstYuvAddr = true := by
    unfold answered malloc
    rw [if_pos ⟨hyuv, hlt⟩]
    rfl
  have hused : omxColorFormatYUV420SemiPlanar ≠ omxColorFormatUnused := by decide
  have hframe' : (cb.answered granted).frameMem = true := hframe
  have hmCtx : cb.stored.mCtx = cb.mCtx := rfl
  unfold fillVideoFrame
  simp only [allocVideoFrame_granted hframe', setFrame_stored, hmCtx, ha]
  rw [transf_tenBit hsrc, if_neg (fun h => h.elim hused hdst), if_pos hvalid,
    if_neg (fun h => h.2 hgranted)]
  exact ⟨_, rfl, decide_eq_true hsrc⟩

end

/-- **Bounds of the conversion.**  With strides as `init` stores them, a `fillVideoFrame` that
comes to the conversion leaves one of the two buffers. -/
theorem fillTenBit_inBounds_iff (isValid : Int → Int → Bool) (memory fresh : Int → UInt8)
    (cb : RTMetadataRetrieverCallback) (video : RtMetaData) (h : Strides (initCtx video))
    (info : Option RtMetaData) (granted : Granted) :
    (∀ copy ∈ fillTenBit isValid memory fresh (cb.init (some video)).2 info granted,
        copy.InBounds ((initCtx video).mHStride * (initCtx video).mWStride * 3 / 2)) ↔
      ¬ Converts isValid (initCtx video) info granted := by
  constructor
  · rintro hall ⟨⟨i, rfl, a, ha, hne⟩, hframe, hsrc, hdst, hvalid, hyuv, hsize⟩
    have hlt := (yuvSize_lt_iff (initCtx video)).mpr hsize
    refine not_inBounds h memory fresh hne hlt (hall _ ?_)
    exact (fillTenBit_of_address isValid memory fresh (cb.init (some video)).2 hframe ha).trans
      (if_pos ⟨hsrc, hdst, hvalid, hyuv, hlt⟩)
  · intro hnot copy hcopy
    obtain ⟨hframe, i, rfl, a, ha⟩ := fillTenBit_frame isValid memory fresh _ hcopy
    have hmade := (fillTenBit_of_address isValid memory fresh (cb.init (some video)).2 hframe
      ha).symm.trans hcopy
    obtain ⟨⟨hsrc, hdst, hvalid, hyuv, hlt⟩, heq⟩ := Option.ite_none_right_eq_some.mp hmade
    -- only from a null pointer is nothing read
    have hnull : a = 0 := by
      by_contra hne
      exact hnot ⟨⟨i, rfl, a, ha, hne⟩, hframe, hsrc, hdst, hvalid, hyuv,
        (yuvSize_lt_iff (initCtx video)).mp hlt⟩
    obtain rfl := Option.some.inj heq
    subst hnull
    exact ⟨fun p hp => (nomatch hp), fun p hp => (nomatch hp)⟩

/-- A decoded picture with ten-bit samples. -/
def tenBitPicture (w h : Int) : RtMetaData :=
  { RtMetaData.empty with
    frameW := some w
    frameH := some h
    vCodecWidth := some w
    vCodecHeight := some h
    codecFormat := some rtFmtYUV420SP10Bit
    retrieverBufferAddress := some 0x1000 }

/-- The size of the copy wraps around to a negative one, and `malloc` refuses it. -/
theorem fillTenBit_inBounds_refused :
    malloc true (yuvSize (initCtx (tenBitPicture 30000 30000))) = none ∧
      ∀ copy ∈ fillTenBit (fun _ _ => true) (fun _ => 0) (fun _ => 0)
          (new.init (some (tenBitPicture 30000 30000))).2 (some (tenBitPicture 30000 30000))
          ⟨true, true⟩,
        copy.InBounds (30000 * 30000 * 3 / 2) := by
  refine ⟨by decide, ?_⟩
  exact (fillTenBit_inBounds_iff (fun _ _ => true) (fun _ => 0) (fun _ => 0) new
    (tenBitPicture 30000 30000) ⟨by decide, by decide, by decide, by decide, by decide⟩
    (some (tenBitPicture 30000 30000)) ⟨true, true⟩).mpr fun h => absurd h.size (by decide)

/-- In an ordinary picture the last samples of the last row are read past the source. -/
theorem fillTenBit_not_inBounds :
    ¬ ∀ copy ∈ fillTenBit (fun _ _ => true) (fun _ => 0) (fun _ => 0)
        (new.init (some (tenBitPicture 64 64))).2 (some (tenBitPicture 64 64)) ⟨true, true⟩,
      copy.InBounds (64 * 64 * 3 / 2) := by
  intro hall
  have hstrides : Strides (initCtx (tenBitPicture 64 64)) :=
    ⟨by decide, by decide, by decide, by decide, by decide⟩
  refine not_inBounds hstrides (fun _ => 0) (fun _ => 0) (show 0x1000 ≠ 0 by decide) (by decide)
    (hall _ ?_)
  refine (fillTenBit_of_address _ _ _ _ rfl rfl).trans (if_pos ⟨rfl, ?_, rfl, rfl, ?_⟩)
  · decide
  · decide

end RTMetadataRetrieverCallback

end RockchipHal.Rockit
