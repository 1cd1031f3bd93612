import Mathlib.Algebra.Ring.Int.Defs

/-!
# `RTAudioSinkCallback`: one channel for both

In the modes `LEFT` and `RIGHT`, `write` puts one sample of each stereo frame in the place of
the other one before the buffer goes to the sink.  The loop goes on while there is a sample
left, and a last sample without its neighbour counts as a frame: then the place next to it,
past the buffer, is written or read.

    cb.SelectsChannel buffer size block ↔ ¬ cb.SplitsFrame size            (selectsChannel_iff)
-/

namespace RockchipHal.Rockit

inductive RTAudioChannel
  | stereo
  | left
  | right
deriving DecidableEq, Repr

/-- `AAUDIO_OUTPUT_FLAG_NONE` -/
def aaudioOutputFlagNone : Int := 0x0

structure RTAudioSinkParam where
  channels : Int
  flags : Int
deriving DecidableEq, Repr

/-- `mAudioSink` is what the sink's `write` answers for the bytes it gets. -/
structure RTAudioSinkCallback where
  mAudioSink : (Nat → UInt8) → Int → Bool → Int
  mAudioSinkParam : RTAudioSinkParam
  mAudioChannelMode : RTAudioChannel

/-- The memory from `buffer` on, and the samples that were read and written.  Sample `p` is
the two bytes at `2 * p`. -/
structure PcmData where
  bytes : Nat → UInt8
  reads : List Nat
  writes : List Nat

/-- `*dst = *src;` -/
def PcmData.copySample (s : PcmData) (dst src : Nat) : PcmData :=
  { bytes := fun q => if q / 2 = dst then s.bytes (2 * src + q % 2) else s.bytes q
    reads := s.reads ++ [src]
    writes := s.writes ++ [dst] }

/-- `while(pcmData < pcmDataEnd)`, with `*(pcmData + dst) = *(pcmData + src)` in it. -/
def copyChannel (dst src : Nat) (pcmDataEnd : Int) (pcmData : Nat) (s : PcmData) : PcmData :=
  if (pcmData : Int) < pcmDataEnd then
    copyChannel dst src pcmDataEnd (pcmData + 2) (s.copySample (pcmData + dst) (pcmData + src))
  else s
termination_by (pcmDataEnd - pcmData).toNat

namespace RTAudioSinkCallback

def new (audioSink : (Nat → UInt8) → Int → Bool → Int) : RTAudioSinkCallback :=
  ⟨audioSink, ⟨0, 0⟩, .stereo⟩

def setAudioChannel (cb : RTAudioSinkCallback) (mode : RTAudioChannel) :
    Int × RTAudioSinkCallback :=
  (0, { cb with mAudioChannelMode := mode })

def write (cb : RTAudioSinkCallback) (buffer : Nat → UInt8) (size : Int) (block : Bool) :
    Int × PcmData :=
  let pcmDataEnd := size.tdiv 2
  let pcmData :=
    if cb.mAudioSinkParam.flags = aaudioOutputFlagNone ∧ cb.mAudioSinkParam.channels = 2 then
      match cb.mAudioChannelMode with
      | .left => copyChannel 1 0 pcmDataEnd 0 ⟨buffer, [], []⟩
      | .right => copyChannel 0 1 pcmDataEnd 0 ⟨buffer, [], []⟩
      | .stereo => ⟨buffer, [], []⟩
    else ⟨buffer, [], []⟩
  (cb.mAudioSink pcmData.bytes size block, pcmData)

/-! ## What is asked of it -/

/-- The sample that is kept of each frame: the first or the second one. -/
def side (cb : RTAudioSinkCallback) : Option Nat :=
  if cb.mAudioSinkParam.flags = aaudioOutputFlagNone ∧ cb.mAudioSinkParam.channels = 2 then
    match cb.mAudioChannelMode with
    | .left => some 0
    | .right => some 1
    | .stereo => none
  else none

/-- The buffer with both samples of every complete frame equal to the one that is kept. -/
def selected (cb : RTAudioSinkCallback) (buffer : Nat → UInt8) (size : Int) (q : Nat) : UInt8 :=
  match cb.side with
  | none => buffer q
  | some src => if 4 * (q / 4 : Nat) + 4 ≤ size then buffer (4 * (q / 4) + 2 * src + q % 2)
    else buffer q

/-- Only samples inside the buffer are touched, one channel is put in the place of the other,
and a second time changes nothing. -/
structure SelectsChannel (cb : RTAudioSinkCallback) (buffer : Nat → UInt8) (size : Int)
    (block : Bool) : Prop where
  reads : ∀ p ∈ (cb.write buffer size block).2.reads, 2 * (p : Int) + 2 ≤ size
  writes : ∀ p ∈ (cb.write buffer size block).2.writes, 2 * (p : Int) + 2 ≤ size
  bytes : (cb.write buffer size block).2.bytes = cb.selected buffer size
  again : (cb.write (cb.write buffer size block).2.bytes size block).2.bytes =
    (cb.write buffer size block).2.bytes

/-- A frame of which only the first sample is in the buffer, where frames are changed. -/
def SplitsFrame (cb : RTAudioSinkCallback) (size : Int) : Prop := cb.side ≠ none ∧ 2 ≤ size % 4

end RTAudioSinkCallback

/-! ## The loop -/

section
variable {dst src : Nat} (hdst : dst < 2) (hsrc : src < 2) (hne : dst ≠ src)

include hdst hsrc hne in
/-- From frame `i` on, what is read is still as it was: only the other samples are written. -/
theorem copyChannel_bytes (pcmDataEnd : Int) (pcmData : Nat) (s : PcmData) (i q : Nat)
    (hi : pcmData = 2 * i) :
    (copyChannel dst src pcmDataEnd pcmData s).bytes q =
      if i ≤ q / 4 ∧ 2 * (q / 4 : Nat) < pcmDataEnd ∧ q / 2 % 2 = dst then
        s.bytes (4 * (q / 4) + 2 * src + q % 2)
      else s.bytes q := by
  fun_induction copyChannel dst src pcmDataEnd pcmData s generalizing i with
  | case1 pcmData s hlt ih =>
    rw [ih (i + 1) (by omega)]
    unfold PcmData.copySample
    dsimp only
    subst hi
    have hkept : (4 * (q / 4) + 2 * src + q % 2) / 2 ≠ 2 * i + dst := by omega
    rw [if_neg hkept]
    by_cases hlater : i + 1 ≤ q / 4 ∧ 2 * ((q / 4 : Nat) : Int) < pcmDataEnd ∧ q / 2 % 2 = dst
    · rw [if_pos hlater, if_pos ⟨by omega, hlater.2⟩]
    · rw [if_neg hlater]
      by_cases hhere : q / 2 = 2 * i + dst
      · have hindex : 2 * (2 * i + src) + q % 2 = 4 * (q / 4) + 2 * src + q % 2 := by omega
        rw [if_pos hhere, if_pos (by omega), hindex]
      · rw [if_neg hhere, if_neg (by omega)]
  | case2 pcmData s hge =>
    rw [if_neg (by omega)]

/-- A log that gets one place for each sample that is copied. -/
theorem mem_log_copyChannel {log : PcmData → List Nat} {place : Nat → Nat → Nat}
    (hlog : ∀ s a b, log (s.copySample a b) = log s ++ [place a b])
    (pcmDataEnd : Int) (pcmData : Nat) (s : PcmData) (i p : Nat) (hi : pcmData = 2 * i) :
    p ∈ log (copyChannel dst src pcmDataEnd pcmData s) ↔
      p ∈ log s ∨ ∃ f, i ≤ f ∧ 2 * (f : Int) < pcmDataEnd ∧
        p = place (2 * f + dst) (2 * f + src) := by
  fun_induction copyChannel dst src pcmDataEnd pcmData s generalizing i with
  | case1 pcmData s hlt ih =>
    rw [ih (i + 1) (by omega), hlog, List.mem_append, List.mem_singleton, or_assoc]
    subst hi
    refine or_congr_right ⟨?_, ?_⟩
    · rintro (hp | ⟨f, hf, hend, hp⟩)
      · exact ⟨i, Nat.le_refl i, by omega, hp⟩
      · exact ⟨f, by omega, hend, hp⟩
    · rintro ⟨f, hf, hend, hp⟩
      rcases Nat.eq_or_lt_of_le hf with rfl | hlater
      · exact .inl hp
      · exact .inr ⟨f, hlater, hend, hp⟩
  | case2 pcmData s hge =>
    refine ⟨.inl, ?_⟩
    rintro (hp | ⟨f, hf, hend, -⟩)
    · exact hp
    · omega

end

namespace RTAudioSinkCallback

variable (cb : RTAudioSinkCallback) (buffer : Nat → UInt8) (size : Int) (block : Bool)

theorem side_cases : cb.side = none ∨ cb.side = some 0 ∨ cb.side = some 1 := by
  unfold side
  split
  · cases cb.mAudioChannelMode with
    | left => exact .inr (.inl rfl)
    | right => exact .inr (.inr rfl)
    | stereo => exact .inl rfl
  · exact .inl rfl

theorem side_lt {src : Nat} (h : cb.side = some src) : src < 2 := by
  rcases cb.side_cases with hs | hs | hs
  · rw [hs] at h
    cases h
  · rw [hs, Option.some.injEq] at h
    omega
  · rw [hs, Option.some.injEq] at h
    omega

/-- The two loops are one, for the sample that is kept. -/
theorem write_eq :
    (cb.write buffer size block).2 =
      cb.side.elim ⟨buffer, [], []⟩ fun src =>
        copyChannel (1 - src) src (size.tdiv 2) 0 ⟨buffer, [], []⟩ := by
  unfold write side
  dsimp only
  split
  · cases cb.mAudioChannelMode with
    | left => rfl
    | right => rfl
    | stereo => rfl
  · rfl

theorem write_none (h : cb.side = none) : (cb.write buffer size block).2 = ⟨buffer, [], []⟩ := by
  rw [write_eq, h]
  rfl

theorem write_some {src : Nat} (h : cb.side = some src) :
    (cb.write buffer size block).2 =
      copyChannel (1 - src) src (size.tdiv 2) 0 ⟨buffer, [], []⟩ := by
  rw [write_eq, h]
  rfl

/-! ## The places that are touched -/

section
variable {src : Nat} (h : cb.side = some src)

include h

theorem mem_reads_write (p : Nat) :
    p ∈ (cb.write buffer size block).2.reads ↔
      ∃ f : Nat, 2 * (f : Int) < size.tdiv 2 ∧ p = 2 * f + src := by
  have hlog (s : PcmData) (a b : Nat) : (s.copySample a b).reads = s.reads ++ [b] := rfl
  rw [cb.write_some buffer size block h,
    mem_log_copyChannel hlog (size.tdiv 2) 0 ⟨buffer, [], []⟩ 0 p rfl]
  simp

theorem mem_writes_write (p : Nat) :
    p ∈ (cb.write buffer size block).2.writes ↔
      ∃ f : Nat, 2 * (f : Int) < size.tdiv 2 ∧ p = 2 * f + (1 - src) := by
  have hlog (s : PcmData) (a b : Nat) : (s.copySample a b).writes = s.writes ++ [a] := rfl
  rw [cb.write_some buffer size block h,
    mem_log_copyChannel hlog (size.tdiv 2) 0 ⟨buffer, [], []⟩ 0 p rfl]
  simp

/-- The sample that is kept comes from a frame that begins in the buffer. -/
theorem bytes_write (q : Nat) :
    (cb.write buffer size block).2.bytes q =
      if 2 * ((q / 4 : Nat) : Int) < size.tdiv 2 then buffer (4 * (q / 4) + 2 * src + q % 2)
      else buffer q := by
  have hlt := cb.side_lt h
  rw [cb.write_some buffer size block h, copyChannel_bytes (by omega) hlt (by omega) (size.tdiv 2)
    0 _ 0 q rfl]
  by_cases hframe : 2 * ((q / 4 : Nat) : Int) < size.tdiv 2
  · rw [if_pos hframe]
    by_cases hside : q / 2 % 2 = 1 - src
    · rw [if_pos ⟨Nat.zero_le _, hframe, hside⟩]
    · have hindex : 4 * (q / 4) + 2 * src + q % 2 = q := by omega
      rw [if_neg (fun hc => hside hc.2.2), hindex]
  · rw [if_neg hframe, if_neg (fun hc => hframe hc.2.1)]

end

/-- Where no frame is split, the frames that begin in the buffer are the complete ones. -/
theorem begins_iff (hsize : 0 ≤ size) (hsplit : ¬ 2 ≤ size % 4) (f : Nat) :
    2 * (f : Int) < size.tdiv 2 ↔ 4 * (f : Int) + 4 ≤ size := by
  rw [Int.tdiv_eq_ediv_of_nonneg hsize]
  omega

/-- Both samples of such a frame are in the buffer. -/
theorem sample_inside (hsize : 0 ≤ size) (hsplit : ¬ 2 ≤ size % 4) {f c : Nat}
    (hf : 2 * (f : Int) < size.tdiv 2) (hc : c < 2) : 2 * ((2 * f + c : Nat) : Int) + 2 ≤ size := by
  have hframe := (begins_iff size hsize hsplit f).mp hf
  omega

theorem mod_of_not_splits {src : Nat} (h : cb.side = some src) (hsplit : ¬ cb.SplitsFrame size) :
    ¬ 2 ≤ size % 4 := by
  intro hmod
  refine hsplit ⟨?_, hmod⟩
  rw [h]
  exact Option.some_ne_none src

theorem write_bytes (hsize : 0 ≤ size) (hsplit : ¬ cb.SplitsFrame size) :
    (cb.write buffer size block).2.bytes = cb.selected buffer size := by
  funext q
  unfold selected
  cases h : cb.side with
  | none => rw [cb.write_none buffer size block h]
  | some src =>
    have hmod := cb.mod_of_not_splits size h hsplit
    rw [cb.bytes_write buffer size block h]
    simp only [begins_iff size hsize hmod]

theorem selected_selected :
    cb.selected (cb.selected buffer size) size = cb.selected buffer size := by
  funext q
  cases h : cb.side with
  | none =>
    unfold selected
    rw [h]
  | some src =>
    have hlt := cb.side_lt h
    unfold selected
    rw [h]
    dsimp only
    by_cases hframe : 4 * ((q / 4 : Nat) : Int) + 4 ≤ size
    · have hdiv : (4 * (q / 4) + 2 * src + q % 2) / 4 = q / 4 := by omega
      have hmod : (4 * (q / 4) + 2 * src + q % 2) % 2 = q % 2 := by omega
      rw [if_pos hframe, if_pos hframe, hdiv, hmod, if_pos hframe]
    · rw [if_neg hframe]

/-- **Channel selection.**  `write` keeps to the buffer and does what the mode says unless the
buffer ends inside a frame. -/
theorem selectsChannel_iff (hsize : 0 ≤ size) :
    cb.SelectsChannel buffer size block ↔ ¬ cb.SplitsFrame size := by
  constructor
  · rintro ⟨hreads, hwrites, -, -⟩ ⟨hside, hmod⟩
    -- the sample behind the last one of the buffer
    have hlast : 2 * ((size / 4).toNat : Int) < size.tdiv 2 := by
      rw [Int.tdiv_eq_ediv_of_nonneg hsize]
      omega
    rcases cb.side_cases with h | h | h
    · exact hside h
    · have hin := hwrites _ ((cb.mem_writes_write buffer size block h _).mpr ⟨_, hlast, rfl⟩)
      omega
    · have hin := hreads _ ((cb.mem_reads_write buffer size block h _).mpr ⟨_, hlast, rfl⟩)
      omega
  · intro hsplit
    have hbytes (b : Nat → UInt8) := cb.write_bytes b size block hsize hsplit
    refine ⟨?_, ?_, hbytes buffer, by rw [hbytes, hbytes, selected_selected]⟩
    · intro p hp
      cases h : cb.side with
      | none =>
        rw [cb.write_none buffer size block h] at hp
        cases hp
      | some src =>
        have hmod := cb.mod_of_not_splits size h hsplit
        have hlt := cb.side_lt h
        obtain ⟨f, hf, rfl⟩ := (cb.mem_reads_write buffer size block h p).mp hp
        exact sample_inside size hsize hmod hf (by omega)
    · intro p hp
      cases h : cb.side with
      | none =>
        rw [cb.write_none buffer size block h] at hp
        cases hp
      | some src =>
        have hmod := cb.mod_of_not_splits size h hsplit
        obtain ⟨f, hf, rfl⟩ := (cb.mem_writes_write buffer size block h p).mp hp
        exact sample_inside size hsize hmod hf (by omega)

/-- A stereo sink in the mode `LEFT`. -/
def keepsLeft : RTAudioSinkCallback :=
  { ((new fun _ size _ => size).setAudioChannel .left).2 with
    mAudioSinkParam := ⟨2, aaudioOutputFlagNone⟩ }

/-- Three frames. -/
theorem selectsChannel_frames :
    (0 : Int) ≤ 12 ∧ keepsLeft.SelectsChannel (fun q => UInt8.ofNat q) 12 true :=
  ⟨by decide, (keepsLeft.selectsChannel_iff (fun q => UInt8.ofNat q) 12 true (by decide)).mpr
    fun h => absurd h.2 (by decide)⟩

/-- Two bytes are one sample: it is written once more behind the buffer. -/
theorem not_selectsChannel_sample :
    ¬ ∀ (cb : RTAudioSinkCallback) (buffer : Nat → UInt8) (size : Int) (block : Bool), 0 ≤ size →
      cb.SelectsChannel buffer size block := by
  intro hall
  have hwrites := (hall keepsLeft (fun _ => 0) 2 true (by decide)).writes
  have hin := hwrites 1 ((mem_writes_write keepsLeft (fun _ => 0) 2 true rfl 1).mpr
    ⟨0, by decide, rfl⟩)
  omega

end RTAudioSinkCallback

end RockchipHal.Rockit
