import RockchipHal.Lib.Bytes
import RockchipHal.Sound.AudioHwHdmi

/-!
# Which formats an EDID is found to support

A CEA extension block carries a collection of data blocks, each a header (tag and
payload length) and a payload.  The descriptors of its audio data blocks name the
formats the sink supports.

The parser keeps one array of descriptors.  Every audio data block that has any
replaces the array of the block before it:

    formats after the walk = foldl overwrite (formats before) blocks
                           = the formats of the last audio block that has any

(`reports_parse`, `foldl_overwrite`).  So a format is found to be supported exactly
as the EDID says when, named at all, it is named by that last block
(`support_iff`); `support_lost` is an EDID with two audio blocks.
-/

namespace RockchipHal.Sound

/-! ## Data blocks and EDIDs -/

structure DataBlock where
  tag : Nat
  payload : List UInt8
  tag_lt : tag < 8
  length_lt : payload.length < 32

namespace DataBlock

def header (b : DataBlock) : UInt8 := UInt8.ofNat (b.tag * 32 + b.payload.length)

def encode (b : DataBlock) : List UInt8 := b.header :: b.payload

/-- The types of the descriptors in an audio data block; other blocks name no format. -/
def formats (b : DataBlock) : List Int :=
  if b.tag = 1 then
    (List.range (b.payload.length / 3)).map fun i =>
      (((b.payload.getD (i * 3) 0 >>> 3) &&& 0x0F).toNat : Int)
  else []

theorem header_toNat (b : DataBlock) : b.header.toNat = b.tag * 32 + b.payload.length := by
  have htag := b.tag_lt
  have hlen := b.length_lt
  unfold header
  rw [UInt8.toNat_ofNat', Nat.mod_eq_of_lt (by omega)]

theorem payloadLength_header (b : DataBlock) : payloadLength b.header = b.payload.length := by
  have hlen := b.length_lt
  rw [payloadLength_eq, header_toNat]
  omega

theorem tag_header (b : DataBlock) : (b.header >>> 5).toNat = b.tag := by
  have hlen := b.length_lt
  rw [UInt8.toNat_shiftRight, header_toNat]
  show (b.tag * 32 + b.payload.length) >>> 5 = b.tag
  rw [Nat.shiftRight_eq_div_pow]
  omega

theorem tag_header_iff (b : DataBlock) (t : UInt8) : b.header >>> 5 = t ↔ b.tag = t.toNat := by
  rw [← UInt8.toNat_inj, tag_header]

theorem length_encode (b : DataBlock) : b.encode.length = payloadLength b.header + 1 := by
  rw [payloadLength_header]
  rfl

end DataBlock

/-- A block whose checksum is valid, of the CEA tag and version 3. -/
def IsCea (bytes : List UInt8) : Prop :=
  (bytes.map UInt8.toNat).sum % 256 = 0 ∧ bytes.getD 0 0 = 0x02 ∧ bytes.getD 1 0 = 3

instance (bytes : List UInt8) : Decidable (IsCea bytes) := by
  unfold IsCea
  infer_instance

/-- `blocks` fill `bytes` from byte 4 up to the offset in byte 2. -/
def Carries (bytes : List UInt8) (blocks : List DataBlock) : Prop :=
  (bytes.getD 2 0).toNat ≤ 127 ∧
    slice bytes 4 ((bytes.getD 2 0).toNat - 4) = blocks.flatMap DataBlock.encode

instance (bytes : List UInt8) (blocks : List DataBlock) : Decidable (Carries bytes blocks) := by
  unfold Carries
  infer_instance

/-- An extension block of any content; if it is a CEA block, `blocks` is its collection. -/
structure Extension where
  bytes : List UInt8
  blocks : List DataBlock
  length_bytes : bytes.length = hdmiEdidBlockSize
  carries : IsCea bytes → Carries bytes blocks

def Extension.collection (e : Extension) : List DataBlock := if IsCea e.bytes then e.blocks else []

structure Edid where
  base : List UInt8
  extensions : List Extension
  length_base : base.length = hdmiEdidBlockSize

namespace Edid

def bytes (e : Edid) : List UInt8 := e.base ++ e.extensions.flatMap Extension.bytes

/-- The first seven of the extension blocks byte `0x7e` announces. -/
def announced (e : Edid) : List Extension :=
  (e.extensions.take (e.base.getD 0x7e 0).toNat).take (hdmiMaxEdidBlock - 1)

def dataBlocks (e : Edid) : List DataBlock := e.announced.flatMap Extension.collection

/-- Some audio data block names the format. -/
def Supports (e : Edid) (f : Int) : Prop := ∃ b ∈ e.dataBlocks, f ∈ b.formats

instance (e : Edid) (f : Int) : Decidable (e.Supports f) := by
  unfold Supports
  infer_instance

/-- The formats of the last audio data block that names any. -/
def lastFormats (e : Edid) : List Int :=
  ((e.dataBlocks.map DataBlock.formats).filter (· ≠ [])).getLastD []

end Edid

/-- One of the files opens, it reads as `e`, and every `malloc` succeeds. -/
structure Serves (node : HdmiNode) (e : Edid) : Prop where
  opens : node.hdmiEdid ∨ node.drmEdid
  delivers : ∀ k, node.fread k = slice e.bytes (k * hdmiEdidBlockSize) hdmiEdidBlockSize
  mallocOk : ∀ k, node.mallocOk k = true

/-! ## One audio data block replaces another -/

def overwrite (formats : List Int) (b : DataBlock) : List Int :=
  if b.formats = [] then formats else b.formats

theorem foldl_overwrite (formats : List Int) (blocks : List DataBlock) :
    blocks.foldl overwrite formats =
      ((blocks.map DataBlock.formats).filter (· ≠ [])).getLastD formats := by
  induction blocks generalizing formats with
  | nil => rfl
  | cons b blocks ih =>
    rw [List.foldl_cons, ih, List.map_cons]
    unfold overwrite
    by_cases hb : b.formats = []
    · rw [if_pos hb, List.filter_cons_of_neg (by simpa using hb)]
    · rw [if_neg hb, List.filter_cons_of_pos (by simpa using hb), List.getLastD_cons]

/-! ## What the parser reports -/

/-- The types of the descriptors found. -/
def HdmiAudioInfors.formats (infor : HdmiAudioInfors) : List Int :=
  match infor.audio with
  | none => []
  | some audio => audio.infos.map fun info => (info.type.toNat : Int)

/-- The session has found `formats`, and counts them. -/
def Reports (s : Session) (formats : List Int) : Prop :=
  s.infor.formats = formats ∧ s.infor.number = formats.length

theorem isSupportFormat_iff {s : Session} {formats : List Int} (h : Reports s formats) (f : Int) :
    isSupportFormat s.infor f = true ↔ f ∈ formats := by
  obtain ⟨hf, hn⟩ := h
  unfold isSupportFormat
  unfold HdmiAudioInfors.formats at hf
  cases ha : s.infor.audio with
  | none =>
    rw [ha] at hf
    subst hf
    simp
  | some audio =>
    rw [ha] at hf
    have hlen : formats.length = audio.infos.length := by rw [← hf, List.length_map]
    rw [hn, hlen, ← hf]
    simp only [Int.toNat_natCast, List.any_eq_true, List.mem_range, List.mem_map]
    constructor
    · rintro ⟨i, hi, hany⟩
      rw [List.getElem?_eq_getElem hi, Option.any_some, decide_eq_true_eq] at hany
      exact ⟨_, List.getElem_mem hi, hany.symm⟩
    · rintro ⟨info, hinfo, hinfof⟩
      obtain ⟨i, hi, rfl⟩ := List.mem_iff_getElem.mp hinfo
      refine ⟨i, hi, ?_⟩
      rw [List.getElem?_eq_getElem hi, Option.any_some, decide_eq_true_eq]
      exact hinfof.symm

theorem parseTypeFields_type (buf : Block) (last : Nat) (audio : HdmiAudioInformation) :
    (parseTypeFields buf last audio).val.type = audio.type := by
  unfold parseTypeFields
  split
  · rfl
  · split <;> rfl

theorem parseDescriptor_type (buf : Block) (off i : Nat) :
    (parseDescriptor buf off i).val.type = (buf.get (off + (i * 3 + 1)) >>> 3) &&& 0x0F := by
  unfold parseDescriptor
  simp only [Reads.val_bind, parseTypeFields_type, UncheckedVec.val_read]

/-- The speaker allocation leaves the formats alone. -/
theorem Reports.speakerAllocation {s : Session} {formats : List Int} (h : Reports s formats)
    (buf : Block) (off : Nat) :
    Reports (hdmiEdidParseSpeakerAllocation buf off s).val.2 formats := h

/-- An audio data block whose payload is in the buffer. -/
theorem reports_ceaAudio {s : Session} {formats : List Int} (h : Reports s formats)
    (mallocOk : Nat → Bool) (hm : mallocOk s.mallocs = true) (buf : Block) (off : Nat)
    (b : DataBlock) (htag : b.tag = 1) (hat : buf.HasAt off b.encode) :
    Reports (hdmiEdidParseCeaAudio mallocOk buf off s).val.2 (overwrite formats b) := by
  obtain ⟨hheader, hpayload⟩ := (buf.hasAt_cons off _ _).mp hat
  have hlen : payloadLength (buf.read off).val = b.payload.length := by
    rw [UncheckedVec.val_read, hheader, b.payloadLength_header]
  have hformats : b.formats = (List.range (b.payload.length / 3)).map fun i =>
      ((parseDescriptor buf off i).val.type.toNat : Int) := by
    unfold DataBlock.formats
    rw [if_pos htag]
    apply List.map_congr_left
    intro i hi
    have hi : i < b.payload.length / 3 := List.mem_range.mp hi
    rw [parseDescriptor_type, ← hpayload.getD (by omega) 0,
      show off + 1 + i * 3 = off + (i * 3 + 1) by omega]
  unfold hdmiEdidParseCeaAudio overwrite
  rw [Reads.val_bind, hlen]
  by_cases hc : b.payload.length / 3 > 0
  · have hne : b.formats ≠ [] := by
      rw [hformats]
      simp only [ne_eq, List.map_eq_nil_iff, List.range_eq_nil]
      omega
    rw [if_pos hc, if_pos hm, if_neg hne, Reads.val_bind, Reads.val_mapM]
    refine ⟨?_, ?_⟩
    · rw [hformats]
      show List.map _ (List.map _ _) = _
      rw [List.map_map]
      rfl
    · rw [hformats, List.length_map, List.length_range]
      rfl
  · have hzero : b.payload.length / 3 = 0 := Nat.eq_zero_of_not_pos hc
    have hnil : b.formats = [] := by
      rw [hformats, hzero]
      rfl
    rw [if_neg hc, if_pos hnil]
    exact h

theorem reports_dataBlock {s : Session} {formats : List Int} (h : Reports s formats)
    (mallocOk : Nat → Bool) (hm : mallocOk s.mallocs = true) (buf : Block) (cur : Nat)
    (b : DataBlock) (hat : buf.HasAt cur b.encode) :
    Reports (parseDataBlock mallocOk buf cur s).val (overwrite formats b) := by
  have hheader : buf.get cur = b.header := ((buf.hasAt_cons cur _ _).mp hat).1
  show Reports (switchTag mallocOk buf cur s (buf.get cur >>> 5)).val (overwrite formats b)
  rw [hheader]
  unfold switchTag
  by_cases h1 : b.header >>> 5 = 0x01
  · rw [if_pos h1]
    exact reports_ceaAudio h mallocOk hm buf cur b ((b.tag_header_iff 0x01).mp h1) hat
  · have htag : b.tag ≠ 1 := fun htag => h1 ((b.tag_header_iff 0x01).mpr htag)
    have hnil : b.formats = [] := by
      unfold DataBlock.formats
      rw [if_neg htag]
    have hkeep : overwrite formats b = formats := by
      unfold overwrite
      rw [if_pos hnil]
    rw [if_neg h1, hkeep]
    split
    · exact h.speakerAllocation buf cur
    · split
      · exact h
      · exact h

/-! ## The walk over the collection -/

/-- The cursor stands on a header in every turn: what each block does carries over to the
walk. -/
theorem dataBlocks_rule {γ : Type} {R : Session → γ → Prop} {f : γ → DataBlock → γ}
    (mallocOk : Nat → Bool) (buf : Block) (ddc : Nat) (blocks : List DataBlock)
    (hstep : ∀ b ∈ blocks, ∀ (cur : Nat) (s : Session) (g : γ), buf.HasAt cur b.encode → R s g →
      R (parseDataBlock mallocOk buf cur s).val (f g b))
    (fuel cur : Nat) (s : Session) (g : γ) (h : R s g) (hfuel : ddc ≤ cur + fuel)
    (hlen : (blocks.flatMap DataBlock.encode).length = ddc - cur)
    (hat : buf.HasAt cur (blocks.flatMap DataBlock.encode)) :
    R (dataBlocks mallocOk buf ddc fuel cur s).val (blocks.foldl f g) := by
  induction blocks generalizing fuel cur s g with
  | nil =>
    have hge : ¬ cur < ddc := by
      rw [List.flatMap_nil, List.length_nil] at hlen
      omega
    cases fuel with
    | zero => exact h
    | succ fuel =>
      unfold dataBlocks
      rw [if_neg hge]
      exact h
  | cons b blocks ih =>
    rw [List.flatMap_cons, List.length_append, b.length_encode] at hlen
    rw [List.flatMap_cons, UncheckedVec.hasAt_append] at hat
    obtain ⟨hb, hrest⟩ := hat
    have hheader : buf.get cur = b.header := ((buf.hasAt_cons cur _ _).mp hb).1
    have hlt : cur < ddc := by omega
    cases fuel with
    | zero => omega
    | succ fuel =>
      unfold dataBlocks
      rw [if_pos hlt, List.foldl_cons]
      show R (dataBlocks mallocOk buf ddc fuel (cur + (payloadLength (buf.get cur) + 1))
        (parseDataBlock mallocOk buf cur s).val).val _
      rw [hheader]
      rw [b.length_encode] at hrest
      have hfirst := hstep b List.mem_cons_self cur s g hb h
      exact ih (fun c hc => hstep c (List.mem_cons_of_mem b hc)) fuel _ _ _ hfirst (by omega)
        (by omega) hrest

theorem reports_dataBlocks (mallocOk : Nat → Bool) (hm : ∀ k, mallocOk k = true) (buf : Block)
    (ddc : Nat) (blocks : List DataBlock) (fuel cur : Nat) (s : Session) (formats : List Int)
    (h : Reports s formats) (hfuel : ddc ≤ cur + fuel)
    (hlen : (blocks.flatMap DataBlock.encode).length = ddc - cur)
    (hat : buf.HasAt cur (blocks.flatMap DataBlock.encode)) :
    Reports (dataBlocks mallocOk buf ddc fuel cur s).val (blocks.foldl overwrite formats) := by
  refine dataBlocks_rule mallocOk buf ddc blocks ?_ fuel cur s formats h hfuel hlen hat
  intro b _ cur s formats hb hs
  exact reports_dataBlock hs mallocOk (hm _) buf cur b hb

/-! ## Extension blocks -/

/-- A full read leaves nothing of the zeros. -/
theorem buffer_data (node : HdmiNode) {bytes : List UInt8}
    (h : bytes.length = hdmiEdidBlockSize) : (node.buffer bytes).data = bytes := by
  show bytes ++ List.replicate (hdmiEdidBlockSize - bytes.length) 0 = bytes
  rw [h, Nat.sub_self, List.replicate_zero, List.append_nil]

theorem get_eq_getD {buf : Block} {bytes : List UInt8} (hbuf : buf.data = bytes) {i : Nat}
    (hi : i < bytes.length) : buf.get i = bytes.getD i 0 := by
  subst hbuf
  rw [buf.get_of_lt i hi, List.getD_eq_getElem?_getD, List.getElem?_eq_getElem hi, Option.getD_some]

theorem hdmiEdidChecksum_val (buf : Block) (h : buf.data.length = hdmiEdidBlockSize) :
    (hdmiEdidChecksum buf).val =
      if (buf.data.map UInt8.toNat).sum % 256 = 0 then 0 else -1 := by
  have hbytes : ((List.range hdmiEdidBlockSize).mapM buf.read).val = buf.data := by
    rw [Reads.val_mapM, ← h]
    exact buf.map_get_range
  unfold hdmiEdidChecksum
  rw [Reads.val_bind, hbytes]
  rfl

/-- An extension block is walked when it is a CEA block, and changes nothing otherwise. -/
theorem parseExtensions_val (mallocOk : Nat → Bool) (buf : Block) (s : Session) :
    (hdmiEdidParseExtensions mallocOk buf s).val.2 =
      if (hdmiEdidChecksum buf).val = 0 ∧ buf.get 0 = 0x02 ∧ buf.get 1 = 3 then
        (dataBlocks mallocOk buf (buf.get 2).toNat (buf.get 2).toNat 4 s).val
      else s := by
  unfold hdmiEdidParseExtensions
  rw [Reads.val_bind]
  by_cases hsum : (hdmiEdidChecksum buf).val = 0
  · rw [if_neg (not_not_intro hsum), Reads.val_bind]
    by_cases htag : (buf.read 0).val = 0x02
    · rw [if_pos htag]
      show (hdmiEdidParseExtensionsCea mallocOk buf s).val.2 = _
      unfold hdmiEdidParseExtensionsCea
      rw [Reads.val_bind]
      by_cases hversion : (buf.read 1).val = 3
      · rw [if_neg (not_not_intro hversion), if_pos ⟨hsum, htag, hversion⟩]
        rfl
      · rw [if_pos hversion, if_neg fun h => hversion h.2.2]
        rfl
    · have hother : ¬ ((hdmiEdidChecksum buf).val = 0 ∧ buf.get 0 = 0x02 ∧ buf.get 1 = 3) :=
        fun h => htag h.2.1
      rw [if_neg htag, if_neg hother]
      split <;> rfl
  · rw [if_pos hsum, if_neg fun h => hsum h.1]
    rfl

theorem reports_extension {s : Session} {formats : List Int} (h : Reports s formats)
    (mallocOk : Nat → Bool) (hm : ∀ k, mallocOk k = true) (e : Extension) (buf : Block)
    (hbuf : buf.data = e.bytes) :
    Reports (hdmiEdidParseExtensions mallocOk buf s).val.2
      (e.collection.foldl overwrite formats) := by
  have hlen : buf.data.length = hdmiEdidBlockSize := by rw [hbuf, e.length_bytes]
  have hget : ∀ i, i < hdmiEdidBlockSize → buf.get i = e.bytes.getD i 0 := by
    intro i hi
    exact get_eq_getD hbuf (by rw [e.length_bytes]; exact hi)
  have hsum : (hdmiEdidChecksum buf).val = 0 ↔ (e.bytes.map UInt8.toNat).sum % 256 = 0 := by
    rw [hdmiEdidChecksum_val buf hlen, hbuf]
    split
    · next hs => simp [hs]
    · next hs => simp [hs]
  have hcea : ((hdmiEdidChecksum buf).val = 0 ∧ buf.get 0 = 0x02 ∧ buf.get 1 = 3) ↔
      IsCea e.bytes := by
    rw [hsum, hget 0 (by decide), hget 1 (by decide)]
    rfl
  rw [parseExtensions_val]
  unfold Extension.collection
  by_cases hc : IsCea e.bytes
  · obtain ⟨hddc, hblocks⟩ := e.carries hc
    have hat := buf.hasAt_of_take_drop 4 ((e.bytes.getD 2 0).toNat - 4)
    rw [hbuf] at hat
    change buf.HasAt 4 (slice e.bytes 4 ((e.bytes.getD 2 0).toNat - 4)) at hat
    have hlength : (e.blocks.flatMap DataBlock.encode).length =
        (e.bytes.getD 2 0).toNat - 4 := by
      have hbytes : e.bytes.length = 128 := e.length_bytes
      rw [← hblocks, slice, List.length_take, List.length_drop]
      omega
    rw [if_pos (hcea.mpr hc), if_pos hc, hget 2 (by decide)]
    rw [hblocks] at hat
    exact reports_dataBlocks mallocOk hm buf _ e.blocks _ 4 s formats h (by omega) hlength hat
  · rw [if_neg fun h' => hc (hcea.mp h'), if_neg hc]
    exact h

theorem reports_extensionBlocks (node : HdmiNode) (hm : ∀ k, node.mallocOk k = true)
    (blocks k : Nat) (exts : List Extension) (s : Session) (formats : List Int)
    (h : Reports s formats)
    (hreads : ∀ j, node.fread (k + j) = ((exts.map Extension.bytes)[j]?).getD []) :
    Reports (extensionBlocks node blocks k s).val
      (((exts.take blocks).flatMap Extension.collection).foldl overwrite formats) := by
  induction blocks generalizing k exts s formats with
  | zero => exact h
  | succ blocks ih =>
    unfold extensionBlocks
    cases exts with
    | nil =>
      have hread : node.fread k = [] := hreads 0
      rw [if_neg (by rw [hread]; decide)]
      exact h
    | cons e exts =>
      have hread : node.fread k = e.bytes := hreads 0
      have hsize : (node.fread k).length = hdmiEdidBlockSize := by rw [hread, e.length_bytes]
      have hpos : (node.fread k).length > 0 := by
        rw [hsize]
        exact Nat.succ_pos 127
      have hbuf : (node.buffer (node.fread k)).data = e.bytes := by
        rw [buffer_data node hsize, hread]
      rw [if_pos hpos, List.take_succ_cons, List.flatMap_cons, List.foldl_append]
      have hext := reports_extension h node.mallocOk hm e (node.buffer (node.fread k)) hbuf
      rw [Reads.val_bind]
      refine ih (k + 1) exts _ _ hext fun j => ?_
      rw [Nat.add_assoc, Nat.add_comm 1 j, hreads (j + 1)]
      rfl

/-! ## The parse -/

def Session.init : Session := ⟨initHdmiAudio, 0, 0, []⟩

theorem Serves.fread_zero {node : HdmiNode} {e : Edid} (h : Serves node e) :
    node.fread 0 = e.base := by
  rw [h.delivers 0, Nat.zero_mul, ← e.length_base]
  simp [slice, Edid.bytes]

theorem Serves.fread_succ {node : HdmiNode} {e : Edid} (h : Serves node e) (j : Nat) :
    node.fread (1 + j) = ((e.extensions.map Extension.bytes)[j]?).getD [] := by
  have hlength : ∀ l ∈ e.extensions.map Extension.bytes, l.length = hdmiEdidBlockSize := by
    intro l hl
    obtain ⟨x, -, rfl⟩ := List.mem_map.mp hl
    exact x.length_bytes
  have hoff : (1 + j) * hdmiEdidBlockSize = e.base.length + j * hdmiEdidBlockSize := by
    rw [e.length_base, Nat.add_mul, Nat.one_mul]
  rw [h.delivers, hoff, Edid.bytes, slice_append_right, List.flatMap_def,
    slice_flatten _ _ hlength]

/-- The parser finds the formats of the last audio data block that names any. -/
theorem reports_parse {node : HdmiNode} {e : Edid} (h : Serves node e) :
    Reports (parseHdmiAudio node Session.init).val.2 e.lastFormats := by
  have hbase : readBaseBlock node 20 0 = (node.buffer e.base, 1) := by
    unfold readBaseBlock
    rw [h.fread_zero, if_neg (by rw [e.length_base]; decide)]
  have hcount : (hdmiParseBaseBlock (node.buffer e.base)).val = (e.base.getD 0x7e 0).toNat := by
    show ((node.buffer e.base).get 0x7e).toNat = _
    have hlt : 0x7e < e.base.length := by
      rw [e.length_base]
      decide
    rw [get_eq_getD (buffer_data node e.length_base) hlt]
  have hblocks : e.extensions.take (min (e.base.getD 0x7e 0).toNat (hdmiMaxEdidBlock - 1)) =
      e.announced := by
    rw [Edid.announced, List.take_take, Nat.min_comm]
  have hrun := reports_extensionBlocks node h.mallocOk
    (min (e.base.getD 0x7e 0).toNat (hdmiMaxEdidBlock - 1)) 1 e.extensions Session.init.fopened []
    ⟨rfl, rfl⟩ h.fread_succ
  rw [hblocks, foldl_overwrite] at hrun
  unfold parseHdmiAudio
  rw [if_pos h.opens, hbase, Reads.val_bind, hcount]
  exact hrun

theorem mem_lastFormats {e : Edid} {f : Int} (h : f ∈ e.lastFormats) :
    ∃ b ∈ e.dataBlocks, f ∈ b.formats := by
  unfold Edid.lastFormats at h
  rw [List.getLastD_eq_getLast?] at h
  cases hlast : ((e.dataBlocks.map DataBlock.formats).filter (· ≠ [])).getLast? with
  | none =>
    rw [hlast] at h
    cases h
  | some formats =>
    rw [hlast] at h
    have hmem := List.mem_of_mem_filter (List.mem_of_getLast? hlast)
    obtain ⟨b, hb, rfl⟩ := List.mem_map.mp hmem
    exact ⟨b, hb, h⟩

/-- What `is_support_format` says of `f` is what the EDID's audio data blocks say exactly
when `f`, if any of them names it, is named by the last one that names any format. -/
theorem support_iff (node : HdmiNode) (e : Edid) (h : Serves node e) (f : Int) :
    (isSupportFormat (parseHdmiAudio node Session.init).val.2.infor f = true ↔
        ∃ b ∈ e.dataBlocks, f ∈ b.formats) ↔
      ((∃ b ∈ e.dataBlocks, f ∈ b.formats) → f ∈ e.lastFormats) := by
  rw [isSupportFormat_iff (reports_parse h)]
  constructor
  · exact fun hiff => hiff.mpr
  · exact fun himp => ⟨mem_lastFormats, himp⟩

/-- A file that reads as `e` and opens at once. -/
def nodeOf (e : Edid) : HdmiNode where
  hdmiEdid := true
  drmEdid := true
  delivers := fun k => slice e.bytes (k * hdmiEdidBlockSize) hdmiEdidBlockSize
  stack := fun _ => 0
  mallocOk := fun _ => true

theorem serves_nodeOf (e : Edid) : Serves (nodeOf e) e where
  opens := .inl rfl
  delivers := by
    intro k
    show (slice e.bytes (k * hdmiEdidBlockSize) hdmiEdidBlockSize).take hdmiEdidBlockSize = _
    rw [slice, List.take_take, Nat.min_self]
  mallocOk := fun _ => rfl

def lpcm : DataBlock := ⟨1, [0x09, 0x07, 0x07], by decide, by decide⟩
def ac3 : DataBlock := ⟨1, [0x15, 0x07, 0x50], by decide, by decide⟩

/-- A CEA block of version 3 that carries `blocks`. -/
def ceaBytes (blocks : List DataBlock) (checksum : UInt8) : List UInt8 :=
  let collection := blocks.flatMap DataBlock.encode
  [0x02, 0x03, UInt8.ofNat (4 + collection.length), 0x00] ++ collection ++
    List.replicate (hdmiEdidBlockSize - 5 - collection.length) 0 ++ [checksum]

def baseBytes (extensions : UInt8) : List UInt8 := List.replicate 0x7e 0 ++ [extensions, 0]

def lpcmEdid : Edid where
  base := baseBytes 1
  extensions := [⟨ceaBytes [lpcm] 0xB9, [lpcm], by decide +kernel, fun _ => by decide +kernel⟩]
  length_base := by decide +kernel

theorem support_lpcm :
    isSupportFormat (parseHdmiAudio (nodeOf lpcmEdid) Session.init).val.2.infor 1 = true ↔
      ∃ b ∈ lpcmEdid.dataBlocks, 1 ∈ b.formats :=
  (support_iff (nodeOf lpcmEdid) lpcmEdid (serves_nodeOf lpcmEdid) 1).mpr fun _ => by
    decide +kernel

/-- One CEA block with two audio data blocks, the first of them for LPCM. -/
def twoAudioEdid : Edid where
  base := baseBytes 1
  extensions := [⟨ceaBytes [lpcm, ac3] 0x26, [lpcm, ac3], by decide +kernel, fun _ => by decide +kernel⟩]
  length_base := by decide +kernel

theorem support_lost :
    Serves (nodeOf twoAudioEdid) twoAudioEdid ∧
      (∃ b ∈ twoAudioEdid.dataBlocks, 1 ∈ b.formats) ∧
      isSupportFormat (parseHdmiAudio (nodeOf twoAudioEdid) Session.init).val.2.infor 1 = false :=
  ⟨serves_nodeOf twoAudioEdid, by decide +kernel, by decide +kernel⟩

end RockchipHal.Sound
