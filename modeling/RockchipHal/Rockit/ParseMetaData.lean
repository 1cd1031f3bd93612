import Mathlib.Algebra.Ring.Int.Defs
import RockchipHal.Lib.KeyedList
import RockchipHal.Rockit.MetadataRetriever
import RockchipHal.Rockit.TrackInfo

/-!
# `RockitMetadataRetriever`: parsing the metadata

`parseMetaData` asks the library for the texts, the album art, the tracks and the duration,
and prints what it is told into `mMetaData`.  It is called by the first `extractMetadata` or
`extractAlbumArt` after a data source was set, so that there is no metadata yet whenever it
starts (`run_parsesFresh`).
-/

namespace RockchipHal.Rockit

/-- `MKTAG` -/
def mkTag (a b c d : Char) : Nat :=
  a.toNat ||| b.toNat <<< 8 ||| c.toNat <<< 16 ||| d.toNat <<< 24

/-! ## Keys, as Android numbers them -/

def metadataKeyCDTrackNumber : Int := 0
def metadataKeyAlbum : Int := 1
def metadataKeyArtist : Int := 2
def metadataKeyAuthor : Int := 3
def metadataKeyComposer : Int := 4
def metadataKeyDate : Int := 5
def metadataKeyGenre : Int := 6
def metadataKeyTitle : Int := 7
def metadataKeyYear : Int := 8
def metadataKeyDuration : Int := 9
def metadataKeyNumTracks : Int := 10
def metadataKeyWriter : Int := 11
def metadataKeyMIMEType : Int := 12
def metadataKeyAlbumArtist : Int := 13
def metadataKeyDiscNumber : Int := 14
def metadataKeyCompilation : Int := 15
def metadataKeyHasAudio : Int := 16
def metadataKeyHasVideo : Int := 17
def metadataKeyVideoWidth : Int := 18
def metadataKeyVideoHeight : Int := 19
def metadataKeyBitrate : Int := 20
def metadataKeyLocation : Int := 23
def metadataKeyVideoRotation : Int := 24
def metadataKeyCaptureFramerate : Int := 25
def metadataKeySampleRate : Int := 38
def metadataKeyBitsPerSample : Int := 39

abbrev MetaData := List (Int × List Char)

/-- An entry of `kMap`.  A text without a name needs no character set detection. -/
structure MapEntry where
  fromKey : Nat
  toKey : Int
  name : Option (List Char)

def kMap : List MapEntry :=
  [⟨mkTag 'r' 'm' 'i' 't', metadataKeyMIMEType, none⟩,
    ⟨mkTag 'r' 'c' 't' 'n', metadataKeyCDTrackNumber, some "tracknumber".toList⟩,
    ⟨mkTag 'r' 'd' 'i' 'n', metadataKeyDiscNumber, some "discnumber".toList⟩,
    ⟨mkTag 'r' 'a' 'l' 'b', metadataKeyAlbum, some "album".toList⟩,
    ⟨mkTag 'r' 'a' 'r' 't', metadataKeyArtist, some "artist".toList⟩,
    ⟨mkTag 'r' 'a' 'a' 't', metadataKeyAlbumArtist, some "albumartist".toList⟩,
    ⟨mkTag 'r' 'a' 'u' 't', metadataKeyAuthor, none⟩,
    ⟨mkTag 'r' 'c' 'o' 'm', metadataKeyComposer, some "composer".toList⟩,
    ⟨mkTag 'r' 'd' 'a' 't', metadataKeyDate, none⟩,
    ⟨mkTag 'r' 'g' 'e' 'n', metadataKeyGenre, some "genre".toList⟩,
    ⟨mkTag 'r' 't' 'i' 't', metadataKeyTitle, some "title".toList⟩,
    ⟨mkTag 'r' 'y' 'e' 'r', metadataKeyYear, some "year".toList⟩,
    ⟨mkTag 'r' 'w' 'r' 'i', metadataKeyWriter, some "writer".toList⟩,
    ⟨mkTag 'r' 'c' 'p' 'l', metadataKeyCompilation, some "compilation".toList⟩,
    ⟨mkTag 'r' 'l' 'o' 'c', metadataKeyLocation, none⟩]

/-! ## Tracks -/

/-- `RockitTrackInfor` with its reserved bytes. -/
structure RockitTrack extends RockitTrackInfor where
  mReserved : Vector UInt8 64

/-- `RES_VIDEO_ROTATION` -/
def resVideoRotation : Fin 16 := 0
/-- `RES_AUDIO_BITRATE` -/
def resAudioBitrate : Fin 16 := 0
/-- `RES_AUDIO_BIT_PER_SAMPLE` -/
def resAudioBitPerSample : Fin 16 := 1

/-- `((int32_t*)mReserved)[k]`, little endian. -/
def RockitTrack.reserved (track : RockitTrack) (k : Fin 16) : Int :=
  ((track.mReserved[4 * k.val + 3].toBitVec ++ track.mReserved[4 * k.val + 2].toBitVec ++
    track.mReserved[4 * k.val + 1].toBitVec ++ track.mReserved[4 * k.val].toBitVec) :
      BitVec 32).toInt

def RockitTrack.isAudio (track : RockitTrack) : Bool := track.mCodecType = rtTrackTypeAudio
def RockitTrack.isVideo (track : RockitTrack) : Bool := track.mCodecType = rtTrackTypeVideo

/-- The local variables of `parseMetaData` that the loop changes, and the metadata. -/
structure TrackScan where
  hasAudio : Bool
  hasVideo : Bool
  videoWidth : Int
  videoHeight : Int
  audioBitrate : Int
  rotationAngle : Int
  mMetaData : MetaData

/-- The variables before the loop. -/
def TrackScan.start (m : MetaData) : TrackScan := ⟨false, false, -1, -1, -1, -1, m⟩

/-- Unknown values are negative, and are not added. -/
def addNonneg (m : MetaData) (key n : Int) : MetaData :=
  if n ≥ 0 then putKey m key (printInt n) else m

/-- The body of the loop; `reserved` points into the first entry. -/
def scanTrack (reserved : Fin 16 → Int) (s : TrackScan) (track : RockitTrack) : TrackScan :=
  if !s.hasAudio && track.isAudio then
    { s with
      hasAudio := true
      audioBitrate := reserved resAudioBitrate
      mMetaData := addNonneg
        (addNonneg s.mMetaData metadataKeyBitsPerSample (reserved resAudioBitPerSample))
        metadataKeySampleRate track.mSampleRate }
  else if !s.hasVideo && track.isVideo then
    { s with
      hasVideo := true
      videoWidth := track.mWidth
      videoHeight := track.mHeight
      rotationAngle := reserved resVideoRotation }
  else s

/-- `numTracks` is converted to `size_t`. -/
def loopCount (numTracks : Int) : Nat := (numTracks % 2 ^ 64).toNat

def scanTracks (numTracks : Int) (tracks : Option (UncheckedVec RockitTrack)) (m : MetaData) :
    TrackScan :=
  match tracks with
  | none => .start m
  | some trackInfor =>
    (List.range (loopCount numTracks)).foldl
      (fun s i => scanTrack (trackInfor.get 0).reserved s (trackInfor.get i)) (.start m)

/-! ## `parseMetaData` -/

/-- What the library leaves in the metadata for each of the queries. -/
structure RetrieverReplies where
  /-- The texts by their keys; `none` when the query fails. -/
  metadata : Option (Nat → Option (List Char))
  /-- The data and its size; `none` when the query fails. -/
  albumArt : Option (Option (UncheckedVec UInt8) × Int)
  tracksCount : Option Int
  captureFps : Option UInt32
  tracksInfor : Option (UncheckedVec RockitTrack)
  duration : Option Int

section
variable (detectAndConvert : List (List Char × List Char) → List (List Char × List Char))
  (printFloat : UInt32 → List Char)

/-- The texts that go to the output list directly, and those for the detector. -/
def collectTags (values : Nat → Option (List Char)) (m : MetaData) :
    MetaData × List (List Char × List Char) :=
  kMap.foldl (fun out entry =>
    match values entry.fromKey, entry.name with
    | none, _ => out
    | some value, some name => (out.1, out.2 ++ [(name, value)])
    | some value, none => (putKey out.1 entry.toKey value, out.2)) (m, [])

def addTag (m : MetaData) (tag : List Char × List Char) : MetaData :=
  kMap.foldl (fun m entry =>
    if entry.name = some tag.1 then putKey m entry.toKey tag.2 else m) m

def parseTags (metadata : Option (Nat → Option (List Char))) (m : MetaData) : MetaData :=
  match metadata with
  | none => m
  | some values =>
    let collected := collectTags values m
    (detectAndConvert collected.2).foldl addTag collected.1

/-- `MediaAlbumArt::fromData` -/
def parseAlbumArt (albumArt : Option (Option (UncheckedVec UInt8) × Int))
    (old : Option (List UInt8)) : Option (List UInt8) :=
  match albumArt with
  | some (some data, dataSize) =>
    if dataSize > 0 then some ((List.range dataSize.toNat).map data.get) else old
  | _ => old

/-- Before the loop. -/
def addTrackCount (numTracks : Int) (captureFps : Option UInt32) (m : MetaData) : MetaData :=
  let m := putKey m metadataKeyNumTracks (printInt numTracks)
  match captureFps with
  | none => m
  | some captureFps => putKey m metadataKeyCaptureFramerate (printFloat captureFps)

def addVideo (s : TrackScan) (m : MetaData) : MetaData :=
  if s.hasVideo then
    let m := putKey m metadataKeyHasVideo "yes".toList
    let m := putKey m metadataKeyVideoWidth (printInt s.videoWidth)
    let m := putKey m metadataKeyVideoHeight (printInt s.videoHeight)
    putKey m metadataKeyVideoRotation (printInt s.rotationAngle)
  else m

/-- After the loop.  No images and no frames are counted. -/
def addTracks (numTracks duration : Int) (s : TrackScan) : MetaData :=
  let m := putKey s.mMetaData metadataKeyDuration (printInt ((duration + 500).tdiv 1000))
  let m := if s.hasAudio then putKey m metadataKeyHasAudio "yes".toList else m
  let m := addVideo s m
  if numTracks = 1 && s.hasAudio && s.audioBitrate ≥ 0 then
    putKey m metadataKeyBitrate (printInt s.audioBitrate)
  else m

namespace RockitMetadataRetriever

/-- The replies to the queries are taken out of `mRtMetaData` at once. -/
def parseMetaData (r : RockitMetadataRetriever) (replies : RetrieverReplies) :
    RockitMetadataRetriever :=
  if r.check then
    let r := r.clearRTMetadata
    let numTracks := replies.tracksCount.getD 0
    let m := parseTags detectAndConvert replies.metadata r.mMetaData
    let m := addTrackCount printFloat numTracks replies.captureFps m
    let s := scanTracks numTracks replies.tracksInfor m
    { r with
      mMetaData := addTracks numTracks (replies.duration.getD 0) s
      mAlbumArt := parseAlbumArt replies.albumArt r.mAlbumArt }
  else r

def parseOnce (r : RockitMetadataRetriever) (replies : RetrieverReplies) :
    RockitMetadataRetriever :=
  if r.mParsedMetaData then r
  else { r.parseMetaData detectAndConvert printFloat replies with mParsedMetaData := true }

def extractAlbumArt (r : RockitMetadataRetriever) (replies : RetrieverReplies) :
    Option (List UInt8) × RockitMetadataRetriever :=
  if r.check then
    let r := r.parseOnce detectAndConvert printFloat replies
    (r.mAlbumArt, r)
  else (none, r)

def extractMetadata (r : RockitMetadataRetriever) (keyCode : Int) (replies : RetrieverReplies) :
    Option (List Char) × RockitMetadataRetriever :=
  if r.check then
    let r := r.parseOnce detectAndConvert printFloat replies
    (r.mMetaData.lookup keyCode, r)
  else (none, r)

end RockitMetadataRetriever
end

/-! ## Runs -/

namespace RockitMetadataRetriever

/-- The calls of the client, with the replies the library gives during the call. -/
inductive MetadataCall
  | serve (call : RetrieverCall)
  | extractAlbumArt (replies : RetrieverReplies)
  | extractMetadata (keyCode : Int) (replies : RetrieverReplies)

section
variable (isValid : Int → Int → Bool)
  (detectAndConvert : List (List Char × List Char) → List (List Char × List Char))
  (printFloat : UInt32 → List Char)

def afterCall (r : RockitMetadataRetriever) : MetadataCall → RockitMetadataRetriever
  | .serve call => (r.serve isValid call).2
  | .extractAlbumArt replies => (r.extractAlbumArt detectAndConvert printFloat replies).2
  | .extractMetadata keyCode replies =>
    (r.extractMetadata detectAndConvert printFloat keyCode replies).2

/-- Metadata is there only after it was parsed. -/
def ParsesFresh (r : RockitMetadataRetriever) : Prop :=
  r.mParsedMetaData = false → r.mMetaData = []

theorem getFrameInternal_mMetaData (r : RockitMetadataRetriever) (timeUs option colorFormat : Int)
    (metaOnly : Bool) (retriever : RtMetaData → List CallbackCall) :
    let after := (r.getFrameInternal isValid timeUs option colorFormat metaOnly retriever).2
    after.mMetaData = r.mMetaData ∧ after.mParsedMetaData = r.mParsedMetaData := by
  unfold getFrameInternal
  cases getDstColorFormat colorFormat with
  | none => exact ⟨rfl, rfl⟩
  | some dst =>
    cases r.mCallBack with
    | none => exact ⟨rfl, rfl⟩
    | some cb => exact ⟨rfl, rfl⟩

theorem getFrameAtTime_parsesFresh {r : RockitMetadataRetriever} (h : ParsesFresh r)
    (timeUs option colorFormat : Int) (metaOnly : Bool)
    (retriever : RtMetaData → List CallbackCall) :
    ParsesFresh (r.getFrameAtTime isValid timeUs option colorFormat metaOnly retriever).2 := by
  obtain ⟨hdata, hparsed⟩ :=
    r.getFrameInternal_mMetaData isValid timeUs option colorFormat metaOnly retriever
  unfold getFrameAtTime
  split
  · intro hnot
    rw [hdata]
    exact h (hparsed ▸ hnot)
  · exact h

/-- Setting a data source, in each of the three ways, leaves no metadata. -/
theorem cleared_parsesFresh {r : RockitMetadataRetriever} (h : ParsesFresh r) (ret : Int) :
    ParsesFresh (if r.check then (ret, r.clearMetadata) else (unknownError, r)).2 := by
  split
  · exact fun _ => rfl
  · exact h

theorem serve_parsesFresh {r : RockitMetadataRetriever} (h : ParsesFresh r)
    (call : RetrieverCall) : ParsesFresh (r.serve isValid call).2 := by
  cases call with
  | setDataSourceUrl url headers retriever => exact cleared_parsesFresh h _
  | setDataSourceFd fd offset length retriever => exact cleared_parsesFresh h _
  | setDataSource => exact cleared_parsesFresh h _
  | getFrameAtTime timeUs option colorFormat metaOnly retriever =>
    exact getFrameAtTime_parsesFresh isValid h timeUs option colorFormat metaOnly retriever
  | getFrameAtIndex frameIndex colorFormat metaOnly retriever =>
    exact getFrameAtTime_parsesFresh isValid h frameIndex seekFrameIndex colorFormat metaOnly
      retriever

theorem parseOnce_parsesFresh (r : RockitMetadataRetriever) (replies : RetrieverReplies) :
    ParsesFresh (r.parseOnce detectAndConvert printFloat replies) := by
  unfold parseOnce
  split
  · next hparsed => exact fun hnot => absurd hparsed (ne_true_of_eq_false hnot)
  · exact fun hnot => nomatch hnot

theorem afterCall_parsesFresh {r : RockitMetadataRetriever} (h : ParsesFresh r)
    (call : MetadataCall) :
    ParsesFresh (r.afterCall isValid detectAndConvert printFloat call) := by
  cases call with
  | serve call => exact serve_parsesFresh isValid h call
  | extractAlbumArt replies =>
    show ParsesFresh (r.extractAlbumArt detectAndConvert printFloat replies).2
    unfold extractAlbumArt
    split
    · exact parseOnce_parsesFresh detectAndConvert printFloat r replies
    · exact h
  | extractMetadata keyCode replies =>
    show ParsesFresh (r.extractMetadata detectAndConvert printFloat keyCode replies).2
    unfold extractMetadata
    split
    · exact parseOnce_parsesFresh detectAndConvert printFloat r replies
    · exact h

/-- The object after the calls. -/
def run (r : RockitMetadataRetriever) (calls : List MetadataCall) : RockitMetadataRetriever :=
  calls.foldl (afterCall isValid detectAndConvert printFloat) r

/-- Whenever metadata is parsed, there is none yet. -/
theorem run_parsesFresh (enable library retriever metaData : Bool) (calls : List MetadataCall) :
    ParsesFresh ((new enable library retriever metaData).run isValid detectAndConvert printFloat
      calls) := by
  refine List.foldlRecOn (motive := ParsesFresh) calls _ ?_ ?_
  · intro _
    unfold new
    split
    · rfl
    · rfl
  · intro r h call _
    exact afterCall_parsesFresh isValid detectAndConvert printFloat h call

end

end RockitMetadataRetriever

end RockchipHal.Rockit
