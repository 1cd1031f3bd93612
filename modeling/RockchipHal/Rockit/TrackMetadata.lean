import Mathlib.Data.List.Induction
import RockchipHal.Rockit.ParseMetaData
import Std.Data.String.ToInt

/-!
# `RockitMetadataRetriever`: metadata of the tracks

`parseMetaData` goes through the tracks and takes the first audio and the first video
track.  Sizes and rates are read from the track's own entry; rotation, bitrate and bits per
sample lie in reserved words, and the pointer to these is taken once, before the loop, from
the first entry of the array.

    Attributed tracks r.mMetaData ↔ OwnWords tracks        (parseMetaData_attributed_iff)

What is reported is that of the first track of each kind exactly when the first entry of
the array has the same words.
-/

namespace RockchipHal.Rockit

/-! ## The tracks' own values -/

def firstAudio (tracks : List RockitTrack) : Option RockitTrack :=
  tracks.find? RockitTrack.isAudio

def firstVideo (tracks : List RockitTrack) : Option RockitTrack :=
  tracks.find? RockitTrack.isVideo

/-- The text of a value that is known. -/
def printNonneg (n : Int) : Option (List Char) := if n ≥ 0 then some (printInt n) else none

/-- What is reported are the values of the first track of each kind, with the reserved
words of a track given by `words`. -/
structure AttributedBy (words : RockitTrack → Fin 16 → Int) (tracks : List RockitTrack)
    (m : MetaData) : Prop where
  sampleRate : m.lookup metadataKeySampleRate =
    (firstAudio tracks).bind fun t => printNonneg t.mSampleRate
  bitsPerSample : m.lookup metadataKeyBitsPerSample =
    (firstAudio tracks).bind fun t => printNonneg (words t resAudioBitPerSample)
  bitrate : m.lookup metadataKeyBitrate =
    if tracks.length = 1 then
      (firstAudio tracks).bind fun t => printNonneg (words t resAudioBitrate)
    else none
  width : m.lookup metadataKeyVideoWidth = (firstVideo tracks).map fun t => printInt t.mWidth
  height : m.lookup metadataKeyVideoHeight = (firstVideo tracks).map fun t => printInt t.mHeight
  rotation : m.lookup metadataKeyVideoRotation =
    (firstVideo tracks).map fun t => printInt (words t resVideoRotation)

/-- Each track's words are read from its own entry. -/
def Attributed (tracks : List RockitTrack) (m : MetaData) : Prop :=
  AttributedBy RockitTrack.reserved tracks m

/-- The two words are the same, or neither is a number of bits. -/
def SameBits (t first : RockitTrack) : Prop :=
  t.reserved resAudioBitPerSample = first.reserved resAudioBitPerSample ∨
    t.reserved resAudioBitPerSample < 0 ∧ first.reserved resAudioBitPerSample < 0

/-- The first entry of the array has the words of the first track of each kind. -/
def OwnWords (tracks : List RockitTrack) : Prop :=
  ∀ first ∈ tracks.head?,
    (∀ t ∈ firstAudio tracks, SameBits t first) ∧
      ∀ t ∈ firstVideo tracks, t.reserved resVideoRotation = first.reserved resVideoRotation

/-- The library answers with this array, whose length is an `int`. -/
structure Announces (replies : RetrieverReplies) (tracks : UncheckedVec RockitTrack) : Prop where
  count : replies.tracksCount = some (tracks.size : Int)
  infor : replies.tracksInfor = some tracks
  size : tracks.size < 2 ^ 31

theorem printInt_inj {a b : Int} : printInt a = printInt b ↔ a = b := by
  refine ⟨fun h => ?_, congrArg printInt⟩
  exact Int.repr_injective (String.toList_injective h)

theorem printNonneg_eq_iff (a b : Int) :
    printNonneg a = printNonneg b ↔ a = b ∨ a < 0 ∧ b < 0 := by
  unfold printNonneg
  rcases Int.lt_or_le a 0 with ha | ha
  · rw [if_neg (Int.not_le.mpr ha)]
    rcases Int.lt_or_le b 0 with hb | hb
    · rw [if_neg (Int.not_le.mpr hb)]
      exact iff_of_true rfl (.inr ⟨ha, hb⟩)
    · rw [if_pos hb]
      refine iff_of_false (fun h => nomatch h) ?_
      omega
  · rw [if_pos ha]
    rcases Int.lt_or_le b 0 with hb | hb
    · rw [if_neg (Int.not_le.mpr hb)]
      refine iff_of_false (fun h => nomatch h) ?_
      omega
    · rw [if_pos hb, Option.some_inj, printInt_inj]
      omega

/-! ## The loop -/

/-- The variables after the loop has gone through `l`. -/
def TrackScan.after (reserved : Fin 16 → Int) (m : MetaData) (l : List RockitTrack) :
    TrackScan where
  hasAudio := (firstAudio l).isSome
  hasVideo := (firstVideo l).isSome
  videoWidth := (firstVideo l).elim (-1) fun t => t.mWidth
  videoHeight := (firstVideo l).elim (-1) fun t => t.mHeight
  audioBitrate := (firstAudio l).elim (-1) fun _ => reserved resAudioBitrate
  rotationAngle := (firstVideo l).elim (-1) fun _ => reserved resVideoRotation
  mMetaData := (firstAudio l).elim m fun t =>
    addNonneg (addNonneg m metadataKeyBitsPerSample (reserved resAudioBitPerSample))
      metadataKeySampleRate t.mSampleRate

theorem isVideo_of_isAudio {t : RockitTrack} (h : t.isAudio = true) : t.isVideo = false := by
  have htype : t.mCodecType = rtTrackTypeAudio := of_decide_eq_true h
  unfold RockitTrack.isVideo
  rw [htype]
  decide

theorem scanTrack_after (reserved : Fin 16 → Int) (m : MetaData) (l : List RockitTrack)
    (t : RockitTrack) :
    scanTrack reserved (.after reserved m l) t = .after reserved m (l ++ [t]) := by
  unfold scanTrack TrackScan.after firstAudio firstVideo
  simp only [List.find?_append, List.find?_singleton]
  by_cases haudio : t.isAudio
  · have hvideo := isVideo_of_isAudio haudio
    cases l.find? RockitTrack.isAudio with
    | none => simp [haudio, hvideo]
    | some a => simp [hvideo]
  · by_cases hvideo : t.isVideo
    · cases l.find? RockitTrack.isVideo with
      | none => simp [haudio, hvideo]
      | some v => simp [haudio]
    · simp [haudio, hvideo]

theorem foldl_scanTrack (reserved : Fin 16 → Int) (m : MetaData) (l : List RockitTrack) :
    l.foldl (scanTrack reserved) (.start m) = .after reserved m l := by
  induction l using List.reverseRecOn with
  | nil => rfl
  | append_singleton l t ih =>
    rw [List.foldl_append, ih]
    exact scanTrack_after reserved m l t

theorem scanTracks_eq (tracks : UncheckedVec RockitTrack) (hsize : tracks.size < 2 ^ 31)
    (m : MetaData) :
    scanTracks tracks.size (some tracks) m =
      .after (tracks.get 0).reserved m tracks.data := by
  have hcount : loopCount tracks.size = tracks.size := by
    unfold loopCount
    omega
  have hrange : (List.range tracks.size).map tracks.get = tracks.data := tracks.map_get_range
  unfold scanTracks
  dsimp only
  rw [hcount, ← foldl_scanTrack, ← hrange, List.foldl_map]

/-! ## What is added before and after it -/

/-- The keys that the tracks decide. -/
def trackKeys : List Int :=
  [metadataKeySampleRate, metadataKeyBitsPerSample, metadataKeyBitrate, metadataKeyVideoWidth,
    metadataKeyVideoHeight, metadataKeyVideoRotation]

/-- The texts go under the keys of `kMap` only. -/
theorem lookup_collectTags (values : Nat → Option (List Char)) {key : Int}
    (hkey : ∀ entry ∈ kMap, key ≠ entry.toKey) (m : MetaData) :
    (collectTags values m).1.lookup key = m.lookup key := by
  unfold collectTags
  refine List.foldlRecOn
    (motive := fun out : MetaData × _ => out.1.lookup key = m.lookup key) kMap _ rfl ?_
  intro out ih entry hentry
  cases values entry.fromKey with
  | none => exact ih
  | some value =>
    cases entry.name with
    | none => exact (lookup_putKey _ _ _ _).trans ((if_neg (hkey entry hentry)).trans ih)
    | some name => exact ih

theorem lookup_addTag (tag : List Char × List Char) {key : Int}
    (hkey : ∀ entry ∈ kMap, key ≠ entry.toKey) (m : MetaData) :
    (addTag m tag).lookup key = m.lookup key := by
  unfold addTag
  refine List.foldlRecOn (motive := fun m' => List.lookup key m' = m.lookup key) kMap _ rfl ?_
  intro m' ih entry hentry
  split
  · rw [lookup_putKey, if_neg (hkey entry hentry), ih]
  · exact ih

theorem lookup_parseTags (detectAndConvert : List (List Char × List Char) →
    List (List Char × List Char)) (metadata : Option (Nat → Option (List Char))) {key : Int}
    (hkey : ∀ entry ∈ kMap, key ≠ entry.toKey) (m : MetaData) :
    (parseTags detectAndConvert metadata m).lookup key = m.lookup key := by
  cases metadata with
  | none => rfl
  | some values =>
    refine List.foldlRecOn (motive := fun m' => List.lookup key m' = m.lookup key) _ addTag
      (lookup_collectTags values hkey m) ?_
    intro m' ih tag _
    rw [lookup_addTag tag hkey, ih]

theorem lookup_addTrackCount (printFloat : UInt32 → List Char) (numTracks : Int)
    (captureFps : Option UInt32) {key : Int} (hkey : key ∈ trackKeys) (m : MetaData) :
    (addTrackCount printFloat numTracks captureFps m).lookup key = m.lookup key := by
  have hnum : key ≠ metadataKeyNumTracks := fun h => absurd (h ▸ hkey) (by decide)
  have hfps : key ≠ metadataKeyCaptureFramerate := fun h => absurd (h ▸ hkey) (by decide)
  unfold addTrackCount
  cases captureFps with
  | none => exact (lookup_putKey _ _ _ _).trans (if_neg hnum)
  | some fps =>
    dsimp only
    rw [lookup_putKey, if_neg hfps, lookup_putKey, if_neg hnum]

theorem lookup_addNonneg (m : MetaData) (key n j : Int) :
    (addNonneg m key n).lookup j = if j = key then (printNonneg n).or (m.lookup j)
      else m.lookup j := by
  unfold addNonneg printNonneg
  by_cases hn : n ≥ 0
  · rw [if_pos hn, if_pos hn, lookup_putKey, Option.some_or]
  · rw [if_neg hn, if_neg hn, Option.none_or, ite_self]

theorem lookup_addVideo (s : TrackScan) {key : Int} (hkey : key ∈ trackKeys) (m : MetaData) :
    (addVideo s m).lookup key =
      if s.hasVideo then
        if key = metadataKeyVideoRotation then some (printInt s.rotationAngle)
        else if key = metadataKeyVideoHeight then some (printInt s.videoHeight)
        else if key = metadataKeyVideoWidth then some (printInt s.videoWidth)
        else m.lookup key
      else m.lookup key := by
  have hvideo : key ≠ metadataKeyHasVideo := fun h => absurd (h ▸ hkey) (by decide)
  unfold addVideo
  cases s.hasVideo with
  | false => rfl
  | true =>
    dsimp only
    rw [if_pos rfl, if_pos rfl, lookup_putKey, lookup_putKey, lookup_putKey, lookup_putKey,
      if_neg hvideo]

theorem lookup_addTracks (numTracks duration : Int) (s : TrackScan) {key : Int}
    (hkey : key ∈ trackKeys) :
    (addTracks numTracks duration s).lookup key =
      if key = metadataKeyBitrate ∧ numTracks = 1 ∧ s.hasAudio ∧ s.audioBitrate ≥ 0 then
        some (printInt s.audioBitrate)
      else (addVideo s s.mMetaData).lookup key := by
  have hduration : key ≠ metadataKeyDuration := fun h => absurd (h ▸ hkey) (by decide)
  have haudio : key ≠ metadataKeyHasAudio := fun h => absurd (h ▸ hkey) (by decide)
  -- the two entries in between have other keys
  have hbetween : (addVideo s (if s.hasAudio then
        putKey (putKey s.mMetaData metadataKeyDuration (printInt ((duration + 500).tdiv 1000)))
          metadataKeyHasAudio "yes".toList
      else putKey s.mMetaData metadataKeyDuration (printInt ((duration + 500).tdiv 1000)))).lookup
        key = (addVideo s s.mMetaData).lookup key := by
    rw [lookup_addVideo s hkey, lookup_addVideo s hkey]
    split
    all_goals
      cases s.hasAudio with
      | false => simp only [Bool.false_eq_true, if_false, lookup_putKey, if_neg hduration]
      | true => simp only [if_true, lookup_putKey, if_neg hduration, if_neg haudio]
  unfold addTracks
  dsimp only
  by_cases hbitrate : numTracks = 1 ∧ s.hasAudio ∧ s.audioBitrate ≥ 0
  · rw [if_pos (by simpa [and_assoc] using hbitrate), lookup_putKey, hbetween]
    simp [hbitrate]
  · rw [if_neg (by simpa [and_assoc] using hbitrate), hbetween, if_neg (fun h => hbitrate h.2)]

theorem lookup_addVideo_other (s : TrackScan) {key : Int}
    (hkey : key ∈ [metadataKeySampleRate, metadataKeyBitsPerSample, metadataKeyBitrate])
    (m : MetaData) : (addVideo s m).lookup key = m.lookup key := by
  have hrotation : key ≠ metadataKeyVideoRotation := fun h => absurd (h ▸ hkey) (by decide)
  have hheight : key ≠ metadataKeyVideoHeight := fun h => absurd (h ▸ hkey) (by decide)
  have hwidth : key ≠ metadataKeyVideoWidth := fun h => absurd (h ▸ hkey) (by decide)
  rw [lookup_addVideo s (List.mem_append_left _ hkey), if_neg hrotation, if_neg hheight,
    if_neg hwidth, ite_self]

theorem lookup_addTracks_of_ne (numTracks duration : Int) (s : TrackScan) {key : Int}
    (hkey : key ∈ trackKeys) (hne : key ≠ metadataKeyBitrate) :
    (addTracks numTracks duration s).lookup key = (addVideo s s.mMetaData).lookup key := by
  rw [lookup_addTracks numTracks duration s hkey, if_neg (fun h => hne h.1)]

/-! ## What is reported -/

section
variable (word : Fin 16 → Int) {m : MetaData} (hm : ∀ key ∈ trackKeys, m.lookup key = none)
  (l : List RockitTrack)

include hm

theorem lookup_after_sampleRate :
    (TrackScan.after word m l).mMetaData.lookup metadataKeySampleRate =
      (firstAudio l).bind fun t => printNonneg t.mSampleRate := by
  unfold TrackScan.after
  cases firstAudio l with
  | none => exact hm _ (by decide)
  | some t =>
    dsimp only [Option.elim_some, Option.bind_some]
    rw [lookup_addNonneg, if_pos rfl, lookup_addNonneg, if_neg (by decide), hm _ (by decide),
      Option.or_none]

theorem lookup_after_bitsPerSample :
    (TrackScan.after word m l).mMetaData.lookup metadataKeyBitsPerSample =
      (firstAudio l).bind fun _ => printNonneg (word resAudioBitPerSample) := by
  unfold TrackScan.after
  cases firstAudio l with
  | none => exact hm _ (by decide)
  | some t =>
    dsimp only [Option.elim_some, Option.bind_some]
    rw [lookup_addNonneg, if_neg (by decide), lookup_addNonneg, if_pos rfl, hm _ (by decide),
      Option.or_none]

/-- Keys that the loop does not add. -/
theorem lookup_after_other {key : Int} (hkey : key ∈ trackKeys)
    (hsample : key ≠ metadataKeySampleRate) (hbits : key ≠ metadataKeyBitsPerSample) :
    (TrackScan.after word m l).mMetaData.lookup key = none := by
  unfold TrackScan.after
  cases firstAudio l with
  | none => exact hm _ hkey
  | some t =>
    dsimp only [Option.elim_some]
    rw [lookup_addNonneg, if_neg hsample, lookup_addNonneg, if_neg hbits, hm _ hkey]

theorem lookup_addTracks_bitrate (duration : Int) :
    (addTracks l.length duration (.after word m l)).lookup metadataKeyBitrate =
      if l.length = 1 then (firstAudio l).bind fun _ => printNonneg (word resAudioBitrate)
      else none := by
  rw [lookup_addTracks _ _ _ (by decide), lookup_addVideo_other _ (by decide),
    lookup_after_other word hm l (by decide) (by decide) (by decide)]
  have hhas : (TrackScan.after word m l).hasAudio = (firstAudio l).isSome := rfl
  have hrate : (TrackScan.after word m l).audioBitrate =
    (firstAudio l).elim (-1) fun _ => word resAudioBitrate := rfl
  rw [hhas, hrate]
  by_cases hone : l.length = 1
  · rw [if_pos hone, hone]
    unfold printNonneg
    cases firstAudio l with
    | none => simp
    | some t => simp
  · rw [if_neg hone, if_neg (fun h => hone (by omega))]

theorem lookup_addTracks_video (duration : Int) {key : Int}
    (hkey : key ∈ [metadataKeyVideoWidth, metadataKeyVideoHeight, metadataKeyVideoRotation]) :
    (addTracks l.length duration (.after word m l)).lookup key =
      (firstVideo l).map fun t => printInt
        (if key = metadataKeyVideoRotation then word resVideoRotation
        else if key = metadataKeyVideoHeight then t.mHeight else t.mWidth) := by
  have hmem : key ∈ trackKeys := List.mem_append_right [_, _, _] hkey
  have hbitrate : key ≠ metadataKeyBitrate := fun h => absurd (h ▸ hkey) (by decide)
  have hsample : key ≠ metadataKeySampleRate := fun h => absurd (h ▸ hkey) (by decide)
  have hbits : key ≠ metadataKeyBitsPerSample := fun h => absurd (h ▸ hkey) (by decide)
  rw [lookup_addTracks_of_ne _ _ _ hmem hbitrate, lookup_addVideo _ hmem,
    lookup_after_other word hm l hmem hsample hbits]
  unfold TrackScan.after
  cases firstVideo l with
  | none => rfl
  | some t =>
    dsimp only [Option.isSome_some, Option.elim_some, Option.map_some]
    rw [if_pos rfl]
    by_cases hrotation : key = metadataKeyVideoRotation
    · rw [if_pos hrotation, if_pos hrotation]
    by_cases hheight : key = metadataKeyVideoHeight
    · rw [if_neg hrotation, if_neg hrotation, if_pos hheight, if_pos hheight]
    have hwidth : key = metadataKeyVideoWidth := by
      simpa [hrotation, hheight] using hkey
    rw [if_neg hrotation, if_neg hrotation, if_neg hheight, if_neg hheight, if_pos hwidth]

/-- The code reads the words of every track through one pointer. -/
theorem addTracks_attributed (duration : Int) :
    AttributedBy (fun _ => word) l (addTracks l.length duration (.after word m l)) where
  sampleRate := by
    rw [lookup_addTracks_of_ne _ _ _ (by decide) (by decide), lookup_addVideo_other _ (by decide)]
    exact lookup_after_sampleRate word hm l
  bitsPerSample := by
    rw [lookup_addTracks_of_ne _ _ _ (by decide) (by decide), lookup_addVideo_other _ (by decide)]
    exact lookup_after_bitsPerSample word hm l
  bitrate := lookup_addTracks_bitrate word hm l duration
  width := lookup_addTracks_video word hm l duration (by decide)
  height := lookup_addTracks_video word hm l duration (by decide)
  rotation := lookup_addTracks_video word hm l duration (by decide)

end

/-- The values of one array by its own words, and by those of its first entry. -/
theorem attributed_iff_ownWords {tracks : List RockitTrack} {m : MetaData}
    {word : Fin 16 → Int} (hword : ∀ first ∈ tracks.head?, first.reserved = word)
    (h : AttributedBy (fun _ => word) tracks m) : Attributed tracks m ↔ OwnWords tracks := by
  constructor
  · intro hown first hfirst
    have hw := hword first hfirst
    refine ⟨fun t ht => ?_, fun t ht => ?_⟩
    · have hbits := hown.bitsPerSample.symm.trans h.bitsPerSample
      rw [Option.mem_def.mp ht, ← hw, Option.bind_some, Option.bind_some] at hbits
      exact (printNonneg_eq_iff _ _).mp hbits
    · have hrotation := hown.rotation.symm.trans h.rotation
      rw [Option.mem_def.mp ht, ← hw, Option.map_some, Option.map_some] at hrotation
      exact printInt_inj.mp (Option.some.inj hrotation)
  · intro hown
    -- an audio or a video track is there only when there is a first entry
    have hfirst {t : RockitTrack} (ht : t ∈ tracks) :
        ∃ first ∈ tracks.head?, first.reserved = word := by
      cases tracks with
      | nil => cases ht
      | cons first rest => exact ⟨first, rfl, hword first rfl⟩
    refine ⟨h.sampleRate, h.bitsPerSample.trans ?_, h.bitrate.trans ?_, h.width, h.height,
      h.rotation.trans ?_⟩
    · cases haudio : firstAudio tracks with
      | none => rfl
      | some t =>
        obtain ⟨first, hmem, hw⟩ := hfirst (List.mem_of_find?_eq_some haudio)
        have hsame := (printNonneg_eq_iff _ _).mpr ((hown first hmem).1 t haudio)
        rw [Option.bind_some, Option.bind_some, hsame, hw]
    · by_cases hone : tracks.length = 1
      · obtain ⟨t, rfl⟩ := List.length_eq_one_iff.mp hone
        rw [if_pos hone, if_pos hone]
        cases haudio : firstAudio [t] with
        | none => rfl
        | some t' =>
          have ht' : t' = t := List.mem_singleton.mp (List.mem_of_find?_eq_some haudio)
          rw [Option.bind_some, Option.bind_some, ht', hword t rfl]
      · rw [if_neg hone, if_neg hone]
    · cases hvideo : firstVideo tracks with
      | none => rfl
      | some t =>
        obtain ⟨first, hmem, hw⟩ := hfirst (List.mem_of_find?_eq_some hvideo)
        rw [Option.map_some, Option.map_some, (hown first hmem).2 t hvideo, hw]

/-! ## Attribution -/

namespace RockitMetadataRetriever

section
variable (isValid : Int → Int → Bool)
  (detectAndConvert : List (List Char × List Char) → List (List Char × List Char))
  (printFloat : UInt32 → List Char)

theorem parseMetaData_attributedBy {r : RockitMetadataRetriever} (hcheck : r.check = true)
    (hempty : r.mMetaData = []) {replies : RetrieverReplies}
    {tracks : UncheckedVec RockitTrack} (h : Announces replies tracks) :
    AttributedBy (fun _ => (tracks.get 0).reserved) tracks.data
      (r.parseMetaData detectAndConvert printFloat replies).mMetaData := by
  unfold parseMetaData
  rw [if_pos hcheck, h.count, h.infor]
  dsimp only [Option.getD_some]
  rw [scanTracks_eq tracks h.size]
  refine addTracks_attributed _ (fun key hkey => ?_) tracks.data _
  have hmap : ∀ entry ∈ kMap, key ≠ entry.toKey := by
    intro entry hentry he
    subst he
    revert entry
    decide
  rw [lookup_addTrackCount printFloat _ _ hkey, lookup_parseTags detectAndConvert _ hmap]
  show r.mMetaData.lookup key = none
  rw [hempty]
  rfl

/-- **Attribution**, whenever metadata is parsed: the values reported are those of the first
audio and of the first video track exactly when the first entry of the array has the words of
these tracks. -/
theorem parseMetaData_attributed_iff (enable library retriever metaData : Bool)
    (calls : List MetadataCall) (replies : RetrieverReplies) (tracks : UncheckedVec RockitTrack)
    (hcheck : ((new enable library retriever metaData).run isValid detectAndConvert printFloat
      calls).check = true)
    (hparse : ((new enable library retriever metaData).run isValid detectAndConvert printFloat
      calls).mParsedMetaData = false)
    (h : Announces replies tracks) :
    Attributed tracks.data
        (((new enable library retriever metaData).run isValid detectAndConvert printFloat
          calls).parseMetaData detectAndConvert printFloat replies).mMetaData ↔
      OwnWords tracks.data := by
  have hempty := run_parsesFresh isValid detectAndConvert printFloat enable library retriever
    metaData calls hparse
  refine attributed_iff_ownWords (fun first hfirst => ?_)
    (parseMetaData_attributedBy detectAndConvert printFloat hcheck hempty h)
  have hget : tracks.get 0 = first := by
    obtain ⟨rest, hdata⟩ := List.head?_eq_some_iff.mp hfirst
    unfold UncheckedVec.get
    rw [hdata]
    rfl
  rw [hget]

end

/-- Reserved bytes with a small number in each of the first two words. -/
def reservedBytes (w0 w1 : UInt8) : Vector UInt8 64 :=
  ((Vector.replicate 64 0).set 0 w0).set 4 w1

def soundTrack : RockitTrack :=
  ⟨⟨rtTrackTypeAudio, 0, 0, 0, 2, 48000, [], []⟩, reservedBytes 128 16⟩

def pictureTrack : RockitTrack :=
  ⟨⟨rtTrackTypeVideo, 1920, 1080, 0, 0, 0, [], []⟩, reservedBytes 90 0⟩

/-- The replies for a file with the tracks and nothing else. -/
def fileReplies (tracks : List RockitTrack) : RetrieverReplies :=
  ⟨none, none, some tracks.length, none, some ⟨tracks, fun _ => soundTrack⟩, none⟩

/-- Two tracks of each kind; the first has the rotation of the picture that comes after it. -/
def mixedTracks : List RockitTrack :=
  [{ soundTrack with mReserved := reservedBytes 90 16 }, pictureTrack, soundTrack,
    { pictureTrack with mReserved := reservedBytes 0 24 }]

theorem parseMetaData_attributed_mixed :
    Attributed mixedTracks
      (((new true true true true).run (fun _ _ => true) id (fun _ => []) []).parseMetaData id
        (fun _ => []) (fileReplies mixedTracks)).mMetaData := by
  refine (parseMetaData_attributed_iff (fun _ _ => true) id (fun _ => []) true true true true []
    (fileReplies mixedTracks) ⟨mixedTracks, fun _ => soundTrack⟩ rfl rfl
    ⟨rfl, rfl, by decide⟩).mpr ?_
  intro first hfirst
  cases hfirst
  refine ⟨fun t ht => ?_, fun t ht => ?_⟩
  · cases ht
    exact .inl rfl
  · cases ht
    rfl

/-- A picture track comes first: its second reserved word is reported as the bits per sample
of the sound. -/
theorem parseMetaData_misattributes :
    ¬ Attributed [pictureTrack, soundTrack]
      (((new true true true true).run (fun _ _ => true) id (fun _ => []) []).parseMetaData id
        (fun _ => []) (fileReplies [pictureTrack, soundTrack])).mMetaData := by
  intro h
  have hfile : Announces (fileReplies [pictureTrack, soundTrack])
      ⟨[pictureTrack, soundTrack], fun _ => soundTrack⟩ := ⟨rfl, rfl, by decide⟩
  have hcode := parseMetaData_attributedBy id (fun _ => [])
    (r := (new true true true true).run (fun _ _ => true) id (fun _ => []) []) rfl rfl hfile
  have hbits := h.bitsPerSample.symm.trans hcode.bitsPerSample
  revert hbits
  decide

end RockitMetadataRetriever

end RockchipHal.Rockit
