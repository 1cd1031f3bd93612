import RockchipHal.Lib.Reads

/-!
# `audio_hw_hdmi`

The parser of the HDMI sink's EDID.  A block is a buffer of 128 bytes on the
stack, indexed unchecked: every index a function reads is in the log of its
`Reads`.  A pointer into the buffer is an offset `off`.

What lies outside the parser is an `HdmiNode`: whether the two files open, what
each `fread` delivers, and which calls of `malloc` succeed.
-/

namespace RockchipHal.Sound

def hdmiEdidBlockSize : Nat := 128
def hdmiMaxEdidBlock : Nat := 8

/-! ## `hdmi_audio_type` -/

def hdmiAudioLpcm : UInt8 := 1
def hdmiAudioAc3 : UInt8 := 2
def hdmiAudioAtarc : UInt8 := 8

structure HdmiAudioInformation where
  type : UInt8
  channel : UInt8
  sample : UInt8
  value : UInt8
  wordLength : UInt8
  maxBitrate : UInt32
deriving DecidableEq, Repr

/-- An array `malloc` returned: which call it was, and its elements. -/
structure AudioArray where
  addr : Nat
  infos : List HdmiAudioInformation
deriving DecidableEq, Repr

structure HdmiAudioInfors where
  number : Int
  channelLayout : Int
  audio : Option AudioArray
deriving DecidableEq, Repr

inductive Event
  | malloc (addr : Nat)
  | free (addr : Nat)
  | fopen (file : Nat)
deriving DecidableEq, Repr

/-- The result structure, and what was acquired and released so far. -/
structure Session where
  infor : HdmiAudioInfors
  mallocs : Nat
  files : Nat
  events : List Event
deriving DecidableEq, Repr

/-- The world one parse runs in. -/
structure HdmiNode where
  /-- `fopen("/sys/class/display/HDMI/edid")` succeeds -/
  hdmiEdid : Bool
  /-- `fopen("/sys/class/drm/card0-HDMI-A-1/edid")` succeeds -/
  drmEdid : Bool
  /-- the bytes the `k`-th `fread` delivers, if there is room for them -/
  delivers : Nat → List UInt8
  /-- what lies behind the buffer -/
  stack : Nat → UInt8
  /-- the `k`-th `malloc` succeeds -/
  mallocOk : Nat → Bool

def initHdmiAudio : HdmiAudioInfors where
  number := 0
  channelLayout := -1
  audio := none

/-! ## Descriptors -/

abbrev Block := UncheckedVec UInt8

def hdmiEdidChecksum (buf : Block) : Reads Int := do
  let bytes ← (List.range hdmiEdidBlockSize).mapM buf.read
  let checksum := (bytes.map UInt8.toNat).sum
  return if checksum % 256 = 0 then 0 else -1

/-- `buf[off] & 0x1F`. -/
def payloadLength (header : UInt8) : Nat := (header &&& 0x1F).toNat

theorem payloadLength_eq (header : UInt8) : payloadLength header = header.toNat % 32 := by
  show (header &&& 0x1F).toNat = _
  rw [UInt8.toNat_and]
  exact Nat.and_two_pow_sub_one_eq_mod header.toNat 5

/-- The fields that only some types have, from the descriptor's `last` byte. -/
def parseTypeFields (buf : Block) (last : Nat) (audio : HdmiAudioInformation) :
    Reads HdmiAudioInformation :=
  if audio.type = hdmiAudioLpcm then do
    let wordLength ← buf.read last
    return { audio with wordLength := wordLength }
  else if hdmiAudioAc3 ≤ audio.type ∧ audio.type ≤ hdmiAudioAtarc then do
    let rate ← buf.read last
    return { audio with maxBitrate := 8000 * rate.toUInt32 }
  else return audio

/-- The `i`-th turn of the loop over descriptors. -/
def parseDescriptor (buf : Block) (off i : Nat) : Reads HdmiAudioInformation := do
  let type := ((← buf.read (off + (i * 3 + 1))) >>> 3) &&& 0x0F
  let channel := ((← buf.read (off + (i * 3 + 1))) &&& 0x07) + 1
  let sample ← buf.read (off + (i * 3 + 2))
  let value ← buf.read (off + (i * 3 + 3))
  parseTypeFields buf (off + (i * 3 + 3)) ⟨type, channel, sample, value, 0, 0⟩

/-- The session after a call of `malloc` that succeeds. -/
def Session.malloced (s : Session) : Session :=
  { s with mallocs := s.mallocs + 1, events := s.events ++ [.malloc s.mallocs] }

def hdmiEdidParseCeaAudio (mallocOk : Nat → Bool) (buf : Block) (off : Nat) (s : Session) :
    Reads (Int × Session) := do
  let count := payloadLength (← buf.read off) / 3
  if count > 0 then
    if mallocOk s.mallocs then
      let infos ← (List.range count).mapM (parseDescriptor buf off)
      return (0, { s.malloced with
        infor := { s.infor with number := count, audio := some ⟨s.mallocs, infos⟩ } })
    else return (-1, { s with mallocs := s.mallocs + 1 })
  else return (0, s)

def hdmiEdidParseSpeakerAllocation (buf : Block) (off : Nat) (s : Session) :
    Reads (Int × Session) := do
  let hightlayout := ((← buf.read (off + 2)) &&& 0x07).toNat
  let low := (← buf.read (off + 1)).toNat
  return (0, { s with
    infor := { s.infor with channelLayout := ((hightlayout <<< 8 ||| low : Nat) : Int) } })

/-! ## Data blocks -/

/-- The `switch` over the tag of the data block at `cur`. -/
def switchTag (mallocOk : Nat → Bool) (buf : Block) (cur : Nat) (s : Session) (tag : UInt8) :
    Reads Session :=
  if tag = 0x01 then do
    let (_, s) ← hdmiEdidParseCeaAudio mallocOk buf cur s
    return s
  else if tag = 0x04 then do
    let (_, s) ← hdmiEdidParseSpeakerAllocation buf cur s
    return s
  else if tag = 0x07 then do
    -- the extended tag is switched on, and only logged
    let _extended ← buf.read (cur + 1)
    return s
  else return s

def parseDataBlock (mallocOk : Nat → Bool) (buf : Block) (cur : Nat) (s : Session) :
    Reads Session := do
  let tag := (← buf.read cur) >>> 5
  let _count := payloadLength (← buf.read cur)
  switchTag mallocOk buf cur s tag

/-- The `while (cur_offset < ddc_offset)` loop.  Every turn moves `cur` on, so a
`fuel` of `ddc - cur` is enough. -/
def dataBlocks (mallocOk : Nat → Bool) (buf : Block) (ddc : Nat) :
    Nat → Nat → Session → Reads Session
  | 0, _, s => return s
  | fuel + 1, cur, s =>
    if cur < ddc then do
      let s ← parseDataBlock mallocOk buf cur s
      let header ← buf.read cur
      dataBlocks mallocOk buf ddc fuel (cur + (payloadLength header + 1)) s
    else return s

def hdmiEdidParseExtensionsCea (mallocOk : Nat → Bool) (buf : Block) (s : Session) :
    Reads (Int × Session) := do
  if (← buf.read 1) ≠ 3 then return (-1, s)
  else
    let ddcOffset := (← buf.read 2).toNat
    let s ← dataBlocks mallocOk buf ddcOffset ddcOffset 4 s
    return (0, s)

/-! ## Extensions -/

def hdmiEdidParseExtensions (mallocOk : Nat → Bool) (buf : Block) (s : Session) :
    Reads (Int × Session) := do
  if (← hdmiEdidChecksum buf) ≠ 0 then return (-1, s)
  else
    let tag ← buf.read 0
    if tag = 0x02 then
      let (_, s) ← hdmiEdidParseExtensionsCea mallocOk buf s
      return (0, s)
    else if tag = 0xF0 ∨ tag = 0x10 ∨ tag = 0x40 ∨ tag = 0x50 ∨ tag = 0x60 then return (0, s)
    else return (-1, s)

/-- The zeroed buffer with `bytes` read into it. -/
def HdmiNode.buffer (node : HdmiNode) (bytes : List UInt8) : Block where
  data := bytes ++ List.replicate (hdmiEdidBlockSize - bytes.length) 0
  past := node.stack

/-- The bytes the `k`-th `fread` puts into the buffer. -/
def HdmiNode.fread (node : HdmiNode) (k : Nat) : List UInt8 :=
  (node.delivers k).take hdmiEdidBlockSize

/-- The `do … while` over the base block, and the calls of `fread` it has made. -/
def readBaseBlock (node : HdmiNode) : (retry : Nat) → (k : Nat) → Block × Nat
  | 0, k => (node.buffer [], k)
  | retry + 1, k =>
    if (node.fread k).length = 0 then readBaseBlock node retry (k + 1)
    else (node.buffer (node.fread k), k + 1)

/-- `*extend_num`. -/
def hdmiParseBaseBlock (buf : Block) : Reads Nat := do
  return (← buf.read 0x7e).toNat

/-- The loop over the extension blocks, with `blocks` turns left. -/
def extensionBlocks (node : HdmiNode) : (blocks : Nat) → (k : Nat) → Session → Reads Session
  | 0, _, s => return s
  | blocks + 1, k, s =>
    if (node.fread k).length > 0 then do
      let parsed ← hdmiEdidParseExtensions node.mallocOk (node.buffer (node.fread k)) s
      extensionBlocks node blocks (k + 1) parsed.2
    else return s

def Session.fopened (s : Session) : Session :=
  { s with files := s.files + 1, events := s.events ++ [.fopen s.files] }

/-- `i` runs from 1 while it is below `extendblock + 1` and `HDMI_MAX_EDID_BLOCK`. -/
def parseHdmiAudio (node : HdmiNode) (s : Session) : Reads (Int × Session) := do
  if node.hdmiEdid ∨ node.drmEdid then
    let (buffer, k) := readBaseBlock node 20 0
    let extendblock ← hdmiParseBaseBlock buffer
    let s ← extensionBlocks node (min extendblock (hdmiMaxEdidBlock - 1)) k s.fopened
    return (0, s)
  else return (-1, s)

/-- The loop reads `audio[i]` for `i < number`; there is no such element when the array
is shorter. -/
def isSupportFormat (infor : HdmiAudioInfors) (hdmiLevel : Int) : Bool :=
  match infor.audio with
  | none => false
  | some audio =>
    (List.range infor.number.toNat).any fun i =>
      audio.infos[i]?.any fun info => hdmiLevel = (info.type.toNat : Int)

end RockchipHal.Sound
