import Mathlib.Logic.Function.Iterate
import RockchipHal.Sound.AudioHwHdmi

/-!
# Which bytes of an extension block are read

The walk over the data blocks of an extension starts at byte 4 and goes from
header to header, as far as the lengths in the headers say, while it is below the
`ddc_offset` in byte 2.  Nothing compares it with the size of the buffer.

    every read is below 128  ↔  every header visited, and what the parser of its
                                block looks at behind it, is below 128

(`cea_below_iff`).  `cea_past_block` is a block, its checksum valid, whose walk
leaves the buffer.
-/

namespace RockchipHal.Sound

open Reads (below_bind below_pure)
open UncheckedVec (below_read)

/-! ## One data block -/

/-- How far behind a header the parser of its block reads: all of an audio block's
descriptors, two bytes of a speaker allocation, the extended tag. -/
def lookahead (header : UInt8) : Nat :=
  if header >>> 5 = 0x01 then payloadLength header / 3 * 3
  else if header >>> 5 = 0x04 then 2
  else if header >>> 5 = 0x07 then 1
  else 0

theorem parseTypeFields_below (n : Nat) (buf : Block) (last : Nat) (audio : HdmiAudioInformation)
    (h : last < n) : (parseTypeFields buf last audio).Below n := by
  unfold parseTypeFields
  split
  · simpa only [below_bind, below_read, below_pure, and_true] using h
  · split
    · simpa only [below_bind, below_read, below_pure, and_true] using h
    · exact below_pure _ _

theorem parseDescriptor_below_iff (n : Nat) (buf : Block) (off i : Nat) :
    (parseDescriptor buf off i).Below n ↔ off + (i * 3 + 3) < n := by
  unfold parseDescriptor
  simp only [below_bind, below_read]
  constructor
  · intro h
    exact h.2.2.2.1
  · intro h
    exact ⟨by omega, by omega, by omega, h, parseTypeFields_below n buf _ _ h⟩

/-- The descriptors end where the last one does. -/
theorem descriptors_below_iff (n count : Nat) (buf : Block) (off : Nat) (hoff : off < n) :
    ((List.range count).mapM (parseDescriptor buf off)).Below n ↔ off + count * 3 < n := by
  rw [Reads.below_mapM]
  simp only [parseDescriptor_below_iff, List.mem_range]
  constructor
  · intro h
    rcases Nat.eq_zero_or_pos count with rfl | hc
    · omega
    · have hlast := h (count - 1) (by omega)
      omega
  · intro h i hi
    omega

theorem ceaAudio_below_iff (n : Nat) (mallocOk : Nat → Bool) (buf : Block) (off : Nat)
    (s : Session) :
    (hdmiEdidParseCeaAudio mallocOk buf off s).Below n ↔
      off < n ∧ (mallocOk s.mallocs = true → off + payloadLength (buf.get off) / 3 * 3 < n) := by
  unfold hdmiEdidParseCeaAudio
  rw [below_bind, below_read]
  refine and_congr_right fun hoff => ?_
  by_cases hc : payloadLength (buf.read off).val / 3 > 0
  · rw [if_pos hc]
    cases hm : mallocOk s.mallocs with
    | false =>
      rw [if_neg (by simp)]
      simp
    | true =>
      rw [if_pos rfl, below_bind, descriptors_below_iff n _ buf off hoff]
      simp
  · rw [if_neg hc]
    have hzero : payloadLength (buf.get off) / 3 = 0 := Nat.eq_zero_of_not_pos hc
    simp [hzero, hoff]

theorem speakerAllocation_below_iff (n : Nat) (buf : Block) (off : Nat) (s : Session) :
    (hdmiEdidParseSpeakerAllocation buf off s).Below n ↔ off + 2 < n := by
  unfold hdmiEdidParseSpeakerAllocation
  simp only [below_bind, below_read, below_pure, and_true]
  omega

theorem switchTag_below_iff (n : Nat) (mallocOk : Nat → Bool) (buf : Block) (cur : Nat)
    (s : Session) (hcur : cur < n) :
    (switchTag mallocOk buf cur s (buf.get cur >>> 5)).Below n ↔
      ((buf.get cur >>> 5 = 0x01 → mallocOk s.mallocs = true) →
        cur + lookahead (buf.get cur) < n) := by
  unfold switchTag lookahead
  by_cases h1 : buf.get cur >>> 5 = 0x01
  · rw [if_pos h1, if_pos h1, below_bind, ceaAudio_below_iff]
    simp [h1, hcur]
  · rw [if_neg h1, if_neg h1]
    by_cases h4 : buf.get cur >>> 5 = 0x04
    · rw [if_pos h4, if_pos h4, below_bind, speakerAllocation_below_iff]
      simp [h1]
    · rw [if_neg h4, if_neg h4]
      by_cases h7 : buf.get cur >>> 5 = 0x07
      · rw [if_pos h7, if_pos h7, below_bind, below_read]
        simp [h1]
      · rw [if_neg h7, if_neg h7]
        simp [h1, hcur]

theorem parseDataBlock_below_iff (n : Nat) (mallocOk : Nat → Bool) (buf : Block) (cur : Nat)
    (s : Session) :
    (parseDataBlock mallocOk buf cur s).Below n ↔
      cur < n ∧ ((buf.get cur >>> 5 = 0x01 → mallocOk s.mallocs = true) →
        cur + lookahead (buf.get cur) < n) := by
  unfold parseDataBlock
  rw [below_bind, below_read, below_bind, below_read]
  refine and_congr_right fun hcur => ?_
  rw [and_iff_right hcur]
  exact switchTag_below_iff n mallocOk buf cur s hcur

/-! ## The walk -/

/-- Where the header after the one at `cur` is. -/
def nextHeader (buf : Block) (cur : Nat) : Nat := cur + (payloadLength (buf.get cur) + 1)

/-- Every header the walk from `cur` visits fits, with its lookahead, below `n`. -/
def WalkFits (n : Nat) (buf : Block) (ddc cur : Nat) : Prop :=
  ∀ k, (nextHeader buf)^[k] cur < ddc →
    (nextHeader buf)^[k] cur + lookahead (buf.get ((nextHeader buf)^[k] cur)) < n

theorem le_iterate_nextHeader (buf : Block) (k cur : Nat) : cur ≤ (nextHeader buf)^[k] cur := by
  induction k generalizing cur with
  | zero => exact Nat.le_refl _
  | succ k ih =>
    rw [Function.iterate_succ_apply]
    have hnext : cur ≤ nextHeader buf cur := by
      unfold nextHeader
      omega
    exact Nat.le_trans hnext (ih _)

theorem walkFits_of_le (n : Nat) (buf : Block) {ddc cur : Nat} (h : ddc ≤ cur) :
    WalkFits n buf ddc cur := by
  intro k hk
  have hle := le_iterate_nextHeader buf k cur
  omega

theorem walkFits_of_lt (n : Nat) (buf : Block) {ddc cur : Nat} (h : cur < ddc) :
    WalkFits n buf ddc cur ↔
      cur + lookahead (buf.get cur) < n ∧ WalkFits n buf ddc (nextHeader buf cur) := by
  constructor
  · intro hfit
    exact ⟨hfit 0 h, fun k hk => hfit (k + 1) hk⟩
  · rintro ⟨hcur, hfit⟩ k hk
    cases k with
    | zero => exact hcur
    | succ k => exact hfit k hk

/-- Whatever `malloc` does, a walk that fits stays below `n`. -/
theorem dataBlocks_below (n : Nat) (mallocOk : Nat → Bool) (buf : Block) (ddc fuel cur : Nat)
    (s : Session) (h : WalkFits n buf ddc cur) :
    (dataBlocks mallocOk buf ddc fuel cur s).Below n := by
  induction fuel generalizing cur s with
  | zero => exact below_pure _ _
  | succ fuel ih =>
    unfold dataBlocks
    split
    · next hlt =>
      obtain ⟨hcur, hfit⟩ := (walkFits_of_lt n buf hlt).mp h
      have hn : cur < n := by omega
      rw [below_bind, parseDataBlock_below_iff, below_bind, below_read]
      exact ⟨⟨hn, fun _ => hcur⟩, hn, ih _ _ hfit⟩
    · exact below_pure _ _

/-- When every `malloc` succeeds, only a walk that fits stays below `n`. -/
theorem walkFits_of_below (n : Nat) (buf : Block) (ddc fuel cur : Nat) (s : Session)
    (hfuel : ddc ≤ cur + fuel)
    (h : (dataBlocks (fun _ => true) buf ddc fuel cur s).Below n) :
    WalkFits n buf ddc cur := by
  induction fuel generalizing cur s with
  | zero => exact walkFits_of_le n buf hfuel
  | succ fuel ih =>
    unfold dataBlocks at h
    split at h
    · next hlt =>
      rw [below_bind, parseDataBlock_below_iff, below_bind] at h
      obtain ⟨⟨-, hcur⟩, -, hrest⟩ := h
      have hnext : ddc ≤ nextHeader buf cur + fuel := by
        unfold nextHeader
        omega
      exact (walkFits_of_lt n buf hlt).mpr ⟨hcur fun _ => rfl, ih _ _ hnext hrest⟩
    · next hge => exact walkFits_of_le n buf (Nat.le_of_not_lt hge)

/-! ## The extension block -/

/-- In an extension block of version 3, the walk and its parsers read below 128, whatever
`malloc` does, exactly when every header visited fits with its lookahead. -/
theorem cea_below_iff (buf : Block) (s : Session) (hversion : buf.get 1 = 3) :
    (∀ mallocOk, (hdmiEdidParseExtensionsCea mallocOk buf s).Below hdmiEdidBlockSize) ↔
      ∀ k, (nextHeader buf)^[k] 4 < (buf.get 2).toNat →
        (nextHeader buf)^[k] 4 + lookahead (buf.get ((nextHeader buf)^[k] 4)) <
          hdmiEdidBlockSize := by
  have hcea : ∀ mallocOk, (hdmiEdidParseExtensionsCea mallocOk buf s).Below hdmiEdidBlockSize ↔
      (dataBlocks mallocOk buf (buf.get 2).toNat (buf.get 2).toNat 4 s).Below
        hdmiEdidBlockSize := by
    intro mallocOk
    unfold hdmiEdidParseExtensionsCea
    rw [below_bind, UncheckedVec.val_read, if_neg (by simp [hversion])]
    simp only [below_bind, below_read, below_pure, UncheckedVec.val_read, and_true]
    constructor
    · exact fun h => h.2.2
    · exact fun h => ⟨by decide, by decide, h⟩
  constructor
  · intro h
    exact walkFits_of_below hdmiEdidBlockSize buf _ _ 4 s (by omega) ((hcea _).mp (h _))
  · intro h mallocOk
    exact (hcea mallocOk).mpr (dataBlocks_below hdmiEdidBlockSize mallocOk buf _ _ 4 s h)

/-- A block whose 128 bytes are `bytes`, zeros, and a last byte. -/
def blockOf (bytes : List UInt8) (checksum : UInt8) : Block where
  data := bytes ++ List.replicate (hdmiEdidBlockSize - 1 - bytes.length) 0 ++ [checksum]
  past := fun _ => 0

/-- One audio data block of one descriptor, in bytes 4 to 7. -/
def lpcmBlock : Block := blockOf [0x02, 0x03, 0x08, 0x00, 0x23, 0x09, 0x07, 0x07] 0xB9

theorem cea_below_lpcm :
    (hdmiEdidParseExtensionsCea (fun _ => true) lpcmBlock ⟨initHdmiAudio, 0, 0, []⟩).Below
      hdmiEdidBlockSize := by
  refine (cea_below_iff lpcmBlock _ (by decide)).mpr ?_ _
  have hend : WalkFits hdmiEdidBlockSize lpcmBlock 8 (nextHeader lpcmBlock 4) :=
    walkFits_of_le _ _ (by decide)
  exact (walkFits_of_lt hdmiEdidBlockSize lpcmBlock (by decide)).mpr ⟨by decide, hend⟩

/-- Four video data blocks reach byte 126, where an audio data block of one descriptor
starts: it is read from bytes 127 to 129. -/
def cutBlock : Block :=
  blockOf
    ([0x02, 0x03, 0x7F, 0x00] ++ (0x5F :: List.replicate 31 0) ++ (0x5F :: List.replicate 31 0) ++
      (0x5F :: List.replicate 31 0) ++ (0x59 :: List.replicate 25 0) ++ [0x23]) 0xE3

theorem cea_past_block :
    cutBlock.size = hdmiEdidBlockSize ∧ (hdmiEdidChecksum cutBlock).val = 0 ∧
      cutBlock.get 0 = 0x02 ∧ cutBlock.get 1 = 3 ∧
      ¬ ∀ mallocOk,
        (hdmiEdidParseExtensionsCea mallocOk cutBlock ⟨initHdmiAudio, 0, 0, []⟩).Below
          hdmiEdidBlockSize := by
  refine ⟨by decide +kernel, by decide +kernel, by decide, by decide, ?_⟩
  intro h
  exact absurd (h fun _ => true) (by decide +kernel)

end RockchipHal.Sound
