import RockchipHal.Sound.EdidFormats

/-!
# What the walk over a CEA block finds

The cursor of the walk moves from header to header, so that a block only ever has the
effect its own tag and payload have:

    walk over the bytes of blocks = foldl effect blocks          (dataBlocks_val)

Only audio and speaker allocation blocks have one, each on its own part of the result
(`number_audio_foldl`, `channelLayout_foldl`).  A block with one audio data block and
at most one speaker allocation is therefore found to say what these two say, in
whatever order and between whatever other blocks they stand (`cea_decoding`).
-/

namespace RockchipHal.Sound

/-! ## Descriptors -/

/-- The short audio descriptor of three bytes: type in bits 3 to 6 of the first, channels
less one in its low three bits. -/
def shortAudioDescriptor (first second third : UInt8) : HdmiAudioInformation where
  type := UInt8.ofNat (first.toNat / 8 % 16)
  channel := UInt8.ofNat (first.toNat % 8 + 1)
  sample := second
  value := third
  wordLength := if first.toNat / 8 % 16 = 1 then third else 0
  maxBitrate :=
    if 2 ≤ first.toNat / 8 % 16 ∧ first.toNat / 8 % 16 ≤ 8 then UInt32.ofNat (8000 * third.toNat)
    else 0

namespace DataBlock

/-- The `i`-th three bytes of the payload. -/
def descriptor (b : DataBlock) (i : Nat) : HdmiAudioInformation :=
  shortAudioDescriptor (b.payload.getD (3 * i) 0) (b.payload.getD (3 * i + 1) 0)
    (b.payload.getD (3 * i + 2) 0)

def descriptors (b : DataBlock) : List HdmiAudioInformation :=
  (List.range (b.payload.length / 3)).map b.descriptor

/-- The speaker allocation in the first two bytes of the payload. -/
def layout (b : DataBlock) : Int :=
  ((b.payload.getD 1 0).toNat % 8 * 256 + (b.payload.getD 0 0).toNat : Nat)

/-- What a data block does to the session. -/
def effect (mallocOk : Nat → Bool) (s : Session) (b : DataBlock) : Session :=
  if b.tag = 1 then
    if 0 < b.payload.length / 3 then
      if mallocOk s.mallocs then
        { s.malloced with
          infor := { s.infor with
            number := (b.payload.length / 3 : Nat), audio := some ⟨s.mallocs, b.descriptors⟩ } }
      else { s with mallocs := s.mallocs + 1 }
    else s
  else if b.tag = 4 then { s with infor := { s.infor with channelLayout := b.layout } }
  else s

end DataBlock

theorem type_bits (x : UInt8) : (x >>> 3) &&& 0x0F = UInt8.ofNat (x.toNat / 8 % 16) := by
  have hx := x.toNat_lt
  apply UInt8.toNat_inj.mp
  rw [UInt8.toNat_and, UInt8.toNat_shiftRight, UInt8.toNat_ofNat',
    Nat.mod_eq_of_lt (show x.toNat / 8 % 16 < 2 ^ 8 by omega)]
  show (x.toNat >>> 3) &&& (2 ^ 4 - 1) = _
  rw [Nat.and_two_pow_sub_one_eq_mod, Nat.shiftRight_eq_div_pow]

theorem low_bits (x : UInt8) : (x &&& 0x07).toNat = x.toNat % 8 := by
  rw [UInt8.toNat_and]
  exact Nat.and_two_pow_sub_one_eq_mod x.toNat 3

theorem channel_bits (x : UInt8) : (x &&& 0x07) + 1 = UInt8.ofNat (x.toNat % 8 + 1) := by
  apply UInt8.toNat_inj.mp
  rw [UInt8.toNat_add, low_bits, UInt8.toNat_ofNat']
  rfl

theorem bitrate_eq (x : UInt8) : 8000 * x.toUInt32 = UInt32.ofNat (8000 * x.toNat) := by
  apply UInt32.toNat_inj.mp
  rw [UInt32.toNat_mul, UInt8.toNat_toUInt32, UInt32.toNat_ofNat']
  rfl

/-- The fields of some types, in terms of the type as a number. -/
theorem parseTypeFields_val (buf : Block) (last : Nat) (first second : UInt8) :
    (parseTypeFields buf last
        ⟨(first >>> 3) &&& 0x0F, (first &&& 0x07) + 1, second, buf.get last, 0, 0⟩).val =
      shortAudioDescriptor first second (buf.get last) := by
  have htype : ((first >>> 3) &&& 0x0F).toNat = first.toNat / 8 % 16 := by
    rw [type_bits, UInt8.toNat_ofNat', Nat.mod_eq_of_lt (by omega)]
  have hlpcm : (first >>> 3) &&& 0x0F = hdmiAudioLpcm ↔ first.toNat / 8 % 16 = 1 := by
    rw [← UInt8.toNat_inj, htype]
    rfl
  have hrate : (hdmiAudioAc3 ≤ (first >>> 3) &&& 0x0F ∧ (first >>> 3) &&& 0x0F ≤ hdmiAudioAtarc) ↔
      2 ≤ first.toNat / 8 % 16 ∧ first.toNat / 8 % 16 ≤ 8 := by
    rw [UInt8.le_iff_toNat_le, UInt8.le_iff_toNat_le, htype]
    rfl
  unfold parseTypeFields shortAudioDescriptor
  simp only [hlpcm, hrate]
  by_cases h1 : first.toNat / 8 % 16 = 1
  · have h2 : ¬ (2 ≤ first.toNat / 8 % 16 ∧ first.toNat / 8 % 16 ≤ 8) := by omega
    rw [if_pos h1, if_pos h1, if_neg h2, ← type_bits, ← channel_bits]
    rfl
  · rw [if_neg h1, if_neg h1]
    by_cases h2 : 2 ≤ first.toNat / 8 % 16 ∧ first.toNat / 8 % 16 ≤ 8
    · rw [if_pos h2, if_pos h2, ← type_bits, ← channel_bits, ← bitrate_eq]
      rfl
    · rw [if_neg h2, if_neg h2, ← type_bits, ← channel_bits]
      rfl

/-- Turn `i` of the loop decodes the `i`-th three bytes of the payload behind the header. -/
theorem parseDescriptor_val {buf : Block} {off : Nat} {b : DataBlock}
    (hpayload : buf.HasAt (off + 1) b.payload) {i : Nat} (hi : i < b.payload.length / 3) :
    (parseDescriptor buf off i).val = b.descriptor i := by
  have hbyte : ∀ j, j < 3 → buf.get (off + (i * 3 + (j + 1))) = b.payload.getD (3 * i + j) 0 := by
    intro j hj
    rw [← hpayload.getD (by omega) 0, show off + 1 + (3 * i + j) = off + (i * 3 + (j + 1)) by omega]
  have hfirst : buf.get (off + (i * 3 + 1)) = b.payload.getD (3 * i) 0 := hbyte 0 (by decide)
  have hsecond : buf.get (off + (i * 3 + 2)) = b.payload.getD (3 * i + 1) 0 := hbyte 1 (by decide)
  have hthird : buf.get (off + (i * 3 + 3)) = b.payload.getD (3 * i + 2) 0 := hbyte 2 (by decide)
  unfold DataBlock.descriptor
  rw [← hfirst, ← hsecond, ← hthird]
  exact parseTypeFields_val buf (off + (i * 3 + 3)) _ _

/-! ## One data block -/

theorem ceaAudio_val (mallocOk : Nat → Bool) {buf : Block} {off : Nat} {b : DataBlock}
    (hat : buf.HasAt off b.encode) (htag : b.tag = 1) (s : Session) :
    (hdmiEdidParseCeaAudio mallocOk buf off s).val.2 = b.effect mallocOk s := by
  obtain ⟨hheader, hpayload⟩ := (buf.hasAt_cons off _ _).mp hat
  have hlen : payloadLength (buf.read off).val = b.payload.length := by
    rw [UncheckedVec.val_read, hheader, b.payloadLength_header]
  have hinfos : ((List.range (b.payload.length / 3)).mapM (parseDescriptor buf off)).val =
      b.descriptors := by
    rw [Reads.val_mapM]
    apply List.map_congr_left
    intro i hi
    exact parseDescriptor_val hpayload (List.mem_range.mp hi)
  unfold hdmiEdidParseCeaAudio DataBlock.effect
  rw [Reads.val_bind, hlen, if_pos htag]
  by_cases hcount : 0 < b.payload.length / 3
  · rw [if_pos hcount, if_pos hcount]
    by_cases hm : mallocOk s.mallocs = true
    · rw [if_pos hm, if_pos hm, Reads.val_bind, hinfos]
      rfl
    · rw [if_neg hm, if_neg hm]
      rfl
  · rw [if_neg hcount, if_neg hcount]
    rfl

theorem speakerAllocation_val {buf : Block} {off : Nat} {b : DataBlock}
    (hat : buf.HasAt off b.encode) (hlen : 2 ≤ b.payload.length) (s : Session) :
    (hdmiEdidParseSpeakerAllocation buf off s).val.2 =
      { s with infor := { s.infor with channelLayout := b.layout } } := by
  obtain ⟨-, hpayload⟩ := (buf.hasAt_cons off _ _).mp hat
  have hlow : buf.get (off + 1) = b.payload.getD 0 0 := hpayload.getD (i := 0) (by omega) 0
  have hhigh : buf.get (off + 2) = b.payload.getD 1 0 := hpayload.getD (i := 1) (by omega) 0
  have hlt : (b.payload.getD 0 0).toNat < 2 ^ 8 := (b.payload.getD 0 0).toNat_lt
  have hlayout : ((b.payload.getD 1 0 &&& 0x07).toNat <<< 8 ||| (b.payload.getD 0 0).toNat : Nat) =
      (b.payload.getD 1 0).toNat % 8 * 256 + (b.payload.getD 0 0).toNat := by
    rw [← Nat.shiftLeft_add_eq_or_of_lt hlt, Nat.shiftLeft_eq, low_bits]
  unfold DataBlock.layout
  rw [← hlayout, ← hlow, ← hhigh]
  rfl

/-- A data block is parsed to its effect, if a speaker allocation has its first two bytes. -/
theorem parseDataBlock_val (mallocOk : Nat → Bool) {buf : Block} {cur : Nat} {b : DataBlock}
    (hat : buf.HasAt cur b.encode) (hspeaker : b.tag = 4 → 2 ≤ b.payload.length) (s : Session) :
    (parseDataBlock mallocOk buf cur s).val = b.effect mallocOk s := by
  have hheader : buf.get cur = b.header := ((buf.hasAt_cons cur _ _).mp hat).1
  show (switchTag mallocOk buf cur s (buf.get cur >>> 5)).val = _
  rw [hheader]
  unfold switchTag
  by_cases h1 : b.tag = 1
  · rw [if_pos ((b.tag_header_iff 0x01).mpr h1)]
    exact ceaAudio_val mallocOk hat h1 s
  · rw [if_neg fun h => h1 ((b.tag_header_iff 0x01).mp h)]
    unfold DataBlock.effect
    rw [if_neg h1]
    by_cases h4 : b.tag = 4
    · rw [if_pos ((b.tag_header_iff 0x04).mpr h4), if_pos h4]
      exact speakerAllocation_val hat (hspeaker h4) s
    · rw [if_neg fun h => h4 ((b.tag_header_iff 0x04).mp h), if_neg h4]
      split
      · rfl
      · rfl

/-! ## The walk -/

/-- The walk is a fold over the blocks. -/
theorem dataBlocks_val (mallocOk : Nat → Bool) (buf : Block) (ddc : Nat)
    (blocks : List DataBlock) (fuel cur : Nat) (s : Session)
    (hspeaker : ∀ b ∈ blocks, b.tag = 4 → 2 ≤ b.payload.length) (hfuel : ddc ≤ cur + fuel)
    (hlen : (blocks.flatMap DataBlock.encode).length = ddc - cur)
    (hat : buf.HasAt cur (blocks.flatMap DataBlock.encode)) :
    (dataBlocks mallocOk buf ddc fuel cur s).val =
      blocks.foldl (DataBlock.effect mallocOk) s := by
  refine dataBlocks_rule mallocOk buf ddc blocks ?_ fuel cur s s rfl hfuel hlen hat
  rintro b hb cur s _ hat rfl
  exact parseDataBlock_val mallocOk hat (hspeaker b hb) s

/-! ## Which blocks matter -/

namespace DataBlock

variable (mallocOk : Nat → Bool)

theorem effect_channelLayout {b : DataBlock} (h : b.tag ≠ 4) (s : Session) :
    (b.effect mallocOk s).infor.channelLayout = s.infor.channelLayout := by
  unfold effect
  rw [if_neg h]
  split
  · split
    · split
      · rfl
      · rfl
    · rfl
  · rfl

/-- What only audio data blocks change. -/
theorem effect_number_audio {b : DataBlock} (h : b.tag ≠ 1) (s : Session) :
    (b.effect mallocOk s).infor.number = s.infor.number ∧
      (b.effect mallocOk s).infor.audio = s.infor.audio ∧
      (b.effect mallocOk s).mallocs = s.mallocs := by
  unfold effect
  rw [if_neg h]
  split
  · exact ⟨rfl, rfl, rfl⟩
  · exact ⟨rfl, rfl, rfl⟩

theorem channelLayout_foldl (blocks : List DataBlock) (s : Session)
    (h : blocks.filter (·.tag = 4) = []) :
    (blocks.foldl (effect mallocOk) s).infor.channelLayout = s.infor.channelLayout := by
  induction blocks generalizing s with
  | nil => rfl
  | cons b blocks ih =>
    obtain ⟨hb, hrest⟩ := List.forall_mem_cons.mp (List.filter_eq_nil_iff.mp h)
    have htag : b.tag ≠ 4 := by simpa using hb
    rw [List.foldl_cons, ih _ (List.filter_eq_nil_iff.mpr hrest), effect_channelLayout mallocOk htag]

theorem number_audio_foldl (blocks : List DataBlock) (s : Session)
    (h : blocks.filter (·.tag = 1) = []) :
    (blocks.foldl (effect mallocOk) s).infor.number = s.infor.number ∧
      (blocks.foldl (effect mallocOk) s).infor.audio = s.infor.audio ∧
      (blocks.foldl (effect mallocOk) s).mallocs = s.mallocs := by
  induction blocks generalizing s with
  | nil => exact ⟨rfl, rfl, rfl⟩
  | cons b blocks ih =>
    obtain ⟨hb, hrest⟩ := List.forall_mem_cons.mp (List.filter_eq_nil_iff.mp h)
    have htag : b.tag ≠ 1 := by simpa using hb
    obtain ⟨hnumber, haudio, hmallocs⟩ := ih (b.effect mallocOk s) (List.filter_eq_nil_iff.mpr hrest)
    obtain ⟨hnumber', haudio', hmallocs'⟩ := effect_number_audio mallocOk htag s
    rw [List.foldl_cons, hnumber, haudio, hmallocs]
    exact ⟨hnumber', haudio', hmallocs'⟩

theorem effect_audio {b : DataBlock} (htag : b.tag = 1) (hcount : 0 < b.payload.length / 3)
    (s : Session) (hm : mallocOk s.mallocs = true) :
    (b.effect mallocOk s).infor.number = (b.payload.length / 3 : Nat) ∧
      (b.effect mallocOk s).infor.audio = some ⟨s.mallocs, b.descriptors⟩ := by
  unfold effect
  rw [if_pos htag, if_pos hcount, if_pos hm]
  exact ⟨rfl, rfl⟩

/-- The one audio data block decides the number and the array. -/
theorem foldl_of_audio {blocks : List DataBlock} {audio : DataBlock}
    (h : blocks.filter (·.tag = 1) = [audio]) (hcount : 0 < audio.payload.length / 3)
    (s : Session) (hm : mallocOk s.mallocs = true) :
    (blocks.foldl (effect mallocOk) s).infor.number = (audio.payload.length / 3 : Nat) ∧
      (blocks.foldl (effect mallocOk) s).infor.audio = some ⟨s.mallocs, audio.descriptors⟩ := by
  obtain ⟨before, after, rfl, hbefore, htag, hafter⟩ := List.filter_eq_cons_iff.mp h
  obtain ⟨-, -, hmallocs⟩ := number_audio_foldl mallocOk before s
    (List.filter_eq_nil_iff.mpr hbefore)
  obtain ⟨hnumber, haudio, -⟩ := number_audio_foldl mallocOk after
    (audio.effect mallocOk (before.foldl (effect mallocOk) s)) hafter
  rw [List.foldl_append, List.foldl_cons, hnumber, haudio, ← hmallocs]
  exact effect_audio mallocOk (by simpa using htag) hcount _ (by rw [hmallocs, hm])

/-- The one speaker allocation decides the layout. -/
theorem foldl_of_speaker {blocks : List DataBlock} {speaker : DataBlock}
    (h : blocks.filter (·.tag = 4) = [speaker]) (s : Session) :
    (blocks.foldl (effect mallocOk) s).infor.channelLayout = speaker.layout := by
  obtain ⟨before, after, rfl, -, htag, hafter⟩ := List.filter_eq_cons_iff.mp h
  have htag : speaker.tag = 4 := by simpa using htag
  have hnot : ¬ speaker.tag = 1 := by omega
  rw [List.foldl_append, List.foldl_cons, channelLayout_foldl mallocOk after _ hafter]
  unfold effect
  rw [if_neg hnot, if_pos htag]

end DataBlock

/-! ## The whole block -/

/-- A block of version 3 with the collection `blocks`, from byte 4 to the offset in byte 2,
which is at most 127. -/
structure CarriesBlocks (buf : Block) (blocks : List DataBlock) : Prop where
  version : buf.get 1 = 3
  offset : (buf.get 2).toNat = 4 + (blocks.flatMap DataBlock.encode).length
  fits : (buf.get 2).toNat ≤ 127
  encoded : buf.HasAt 4 (blocks.flatMap DataBlock.encode)

/-- The layout the speaker allocation among `blocks` gives, and -1 without one. -/
def collectionLayout (blocks : List DataBlock) : Int :=
  ((blocks.filter (·.tag = 4)).head?.map DataBlock.layout).getD (-1)

theorem CarriesBlocks.parse {buf : Block} {blocks : List DataBlock} (h : CarriesBlocks buf blocks)
    (hspeaker : ∀ b ∈ blocks, b.tag = 4 → 2 ≤ b.payload.length) (mallocOk : Nat → Bool)
    (s : Session) :
    (hdmiEdidParseExtensionsCea mallocOk buf s).val.2 =
      blocks.foldl (DataBlock.effect mallocOk) s := by
  have hoffset := h.offset
  unfold hdmiEdidParseExtensionsCea
  rw [Reads.val_bind, UncheckedVec.val_read, if_neg (not_not_intro h.version), Reads.val_bind,
    UncheckedVec.val_read]
  exact dataBlocks_val mallocOk buf _ blocks _ 4 s hspeaker (by omega) (by omega) h.encoded

theorem CarriesBlocks.infor {buf : Block} {blocks : List DataBlock} (h : CarriesBlocks buf blocks)
    {mallocOk : Nat → Bool} (hm : mallocOk 0 = true) {audio : DataBlock} {k : Nat}
    (haudio : blocks.filter (·.tag = 1) = [audio]) (hk : 1 ≤ k)
    (hlen : audio.payload.length = 3 * k)
    (hspeaker : (blocks.filter (·.tag = 4)).length ≤ 1)
    (hspeakerLen : ∀ b ∈ blocks, b.tag = 4 → b.payload.length = 3) :
    (hdmiEdidParseExtensionsCea mallocOk buf Session.init).val.2.infor =
      { number := k
        channelLayout := collectionLayout blocks
        audio := some ⟨0, (List.range k).map audio.descriptor⟩ } := by
  have hcount : audio.payload.length / 3 = k := by omega
  have htwo : ∀ b ∈ blocks, b.tag = 4 → 2 ≤ b.payload.length := by
    intro b hb htag
    have hthree := hspeakerLen b hb htag
    omega
  obtain ⟨hnumber, hinfos⟩ := DataBlock.foldl_of_audio mallocOk haudio (by omega)
    Session.init hm
  have hlayout : (blocks.foldl (DataBlock.effect mallocOk) Session.init).infor.channelLayout =
      collectionLayout blocks := by
    unfold collectionLayout
    rcases hfilter : blocks.filter (·.tag = 4) with _ | ⟨speaker, more⟩
    · rw [hfilter]
      exact DataBlock.channelLayout_foldl mallocOk blocks Session.init hfilter
    · rw [hfilter, List.length_cons] at hspeaker
      have hmore : more = [] := List.length_eq_zero_iff.mp (by omega)
      rw [hmore] at hfilter
      rw [hfilter]
      exact DataBlock.foldl_of_speaker mallocOk hfilter Session.init
  rw [h.parse htwo]
  rw [hcount] at hnumber
  unfold DataBlock.descriptors at hinfos
  rw [hcount] at hinfos
  rw [← hlayout, ← hnumber, show some (AudioArray.mk 0 _) = _ from hinfos.symm]

/-- The parsed result of a block with one audio data block and at most one speaker
allocation, which every other block that has the same two shares. -/
theorem cea_decoding (mallocOk : Nat → Bool) (hm : mallocOk 0 = true) (buf : Block)
    (blocks : List DataBlock) (h : CarriesBlocks buf blocks) (audio : DataBlock) (k : Nat)
    (haudio : blocks.filter (·.tag = 1) = [audio]) (hk : 1 ≤ k)
    (hlen : audio.payload.length = 3 * k)
    (hspeaker : (blocks.filter (·.tag = 4)).length ≤ 1)
    (hspeakerLen : ∀ b ∈ blocks, b.tag = 4 → b.payload.length = 3) :
    (hdmiEdidParseExtensionsCea mallocOk buf Session.init).val.2.infor =
        { number := k
          channelLayout := collectionLayout blocks
          audio := some ⟨0, (List.range k).map audio.descriptor⟩ } ∧
      ∀ (buf' : Block) (blocks' : List DataBlock), CarriesBlocks buf' blocks' →
        blocks'.filter (·.tag = 1) = blocks.filter (·.tag = 1) →
        blocks'.filter (·.tag = 4) = blocks.filter (·.tag = 4) →
        (hdmiEdidParseExtensionsCea mallocOk buf' Session.init).val.2.infor =
          (hdmiEdidParseExtensionsCea mallocOk buf Session.init).val.2.infor := by
  have hinfor := h.infor hm haudio hk hlen hspeaker hspeakerLen
  refine ⟨hinfor, ?_⟩
  intro buf' blocks' h' haudio' hspeaker'
  have hlayout : collectionLayout blocks' = collectionLayout blocks := by
    unfold collectionLayout
    rw [hspeaker']
  have hspeakerLen' : ∀ b ∈ blocks', b.tag = 4 → b.payload.length = 3 := by
    intro b hb htag
    have hmem : b ∈ blocks'.filter (·.tag = 4) := List.mem_filter.mpr ⟨hb, by simpa using htag⟩
    rw [hspeaker'] at hmem
    exact hspeakerLen b (List.mem_filter.mp hmem).1 htag
  rw [hinfor, h'.infor hm (haudio'.trans haudio) hk hlen (by rw [hspeaker']; exact hspeaker)
    hspeakerLen', hlayout]

/-- A video data block whose payload looks like an audio header, a speaker allocation, and
an audio data block for LPCM and AC-3. -/
def mixedBlock : Block where
  data := [2, 3, 19, 0, 0x43, 0x23, 0x15, 0x23, 0x83, 0x01, 0x03, 0x00,
    0x26, 0x09, 0x07, 0x07, 0x15, 0x07, 0x50] ++ List.replicate 109 0
  past := fun _ => 0

theorem cea_decoding_mixed :
    (hdmiEdidParseExtensionsCea (fun _ => true) mixedBlock Session.init).val.2.infor.number = 2 := by
  have hdecoded := cea_decoding (fun _ => true) rfl mixedBlock
    [⟨2, [0x23, 0x15, 0x23], by decide, by decide⟩, ⟨4, [0x01, 0x03, 0x00], by decide, by decide⟩,
      ⟨1, [0x09, 0x07, 0x07, 0x15, 0x07, 0x50], by decide, by decide⟩]
    ⟨by decide +kernel, by decide +kernel, by decide +kernel,
      (congrArg (mixedBlock.HasAt 4) (by decide +kernel)).mp (mixedBlock.hasAt_of_take_drop 4 15)⟩
    ⟨1, [0x09, 0x07, 0x07, 0x15, 0x07, 0x50], by decide, by decide⟩ 2 rfl (by decide) rfl
    (by decide) (by decide)
  rw [hdecoded.1]
  rfl

end RockchipHal.Sound
