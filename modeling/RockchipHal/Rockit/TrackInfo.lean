import RockchipHal.Lib.Reads

/-!
# `RockitPlayer`: the reply to a track-info request

`fillTrackInfoReply` writes the number of tracks and then goes through them.  Which
record it writes for a track is decided by a `switch` over the translated type, and for
a type without a case it writes none, so that fewer records follow than were
announced.

    WellFormed tracks reply ↔ ∀ track ∈ tracks, track.HasRecord     (reply_wellFormed_iff)
-/

namespace RockchipHal.Rockit

/-! ## Types of tracks -/

def mediaTrackTypeUnknown : Int := 0
def mediaTrackTypeVideo : Int := 1
def mediaTrackTypeAudio : Int := 2
def mediaTrackTypeTimedText : Int := 3
def mediaTrackTypeSubtitle : Int := 4
def mediaTrackTypeMetadata : Int := 5

def rtTrackTypeUnknown : Int := -1
def rtTrackTypeVideo : Int := 0
def rtTrackTypeAudio : Int := 1
def rtTrackTypeData : Int := 2
def rtTrackTypeSubtitle : Int := 3
def rtTrackTypeAttachment : Int := 4

/-- Pairs of an Android type and a Rockit type. -/
def kTrackTypeMap : List (Int × Int) :=
  [(mediaTrackTypeUnknown, rtTrackTypeUnknown),
    (mediaTrackTypeVideo, rtTrackTypeVideo),
    (mediaTrackTypeAudio, rtTrackTypeAudio),
    (mediaTrackTypeTimedText, rtTrackTypeSubtitle),
    (mediaTrackTypeSubtitle, rtTrackTypeSubtitle),
    (mediaTrackTypeMetadata, rtTrackTypeAttachment)]

/-- The first entry with the type decides. -/
def translateMediaType (sourceType : Int) (rtType : Bool) : Int :=
  match kTrackTypeMap.find? fun m => sourceType = if rtType then m.2 else m.1 with
  | none => if rtType then mediaTrackTypeUnknown else rtTrackTypeUnknown
  | some m => if rtType then m.1 else m.2

/-- The part of `RockitTrackInfor` that is read here.  A `float` is its bit pattern. -/
structure RockitTrackInfor where
  mCodecType : Int
  mWidth : Int
  mHeight : Int
  mFrameRate : UInt32
  mChannels : Int
  mSampleRate : Int
  lang : List Char
  mine : List Char
deriving DecidableEq, Repr

/-! ## The parcel -/

/-- A value in a parcel, as written and as it has to be read. -/
inductive ParcelValue
  | int32 (n : Int)
  | string16 (s : List Char)
deriving DecidableEq, Repr

abbrev Parcel := List ParcelValue

open ParcelValue

def fillTrackInfor (reply : Parcel) (type : Int) (mime lang : List Char) : Parcel :=
  reply ++ [int32 3, int32 type, string16 mime, string16 lang] ++
    if type = mediaTrackTypeSubtitle then
      -- KEY_IS_AUTOSELECT, KEY_IS_DEFAULT, KEY_IS_FORCED_SUBTITLE
      [int32 0, int32 0, int32 0]
    else []

/-- `%d`. -/
def printInt (n : Int) : List Char := (toString n).toList

/-- `snprintf(desc, 100, …)`. -/
def snprintf100 (text : List Char) : List Char := text.take 99

/-- `",%dx%d,%f"`; `printFloat` is `%f`. -/
def videoDesc (printFloat : UInt32 → List Char) (track : RockitTrackInfor) : List Char :=
  snprintf100 ([','] ++ printInt track.mWidth ++ ['x'] ++ printInt track.mHeight ++ [','] ++
    printFloat track.mFrameRate)

/-- `",%d,%d,"`. -/
def audioDesc (track : RockitTrackInfor) : List Char :=
  snprintf100 ([','] ++ printInt track.mSampleRate ++ [','] ++ printInt track.mChannels ++ [','])

/-- The body of the loop. -/
def fillTrack (printFloat : UInt32 → List Char) (reply : Parcel) (track : RockitTrackInfor) :
    Parcel :=
  let codecType := translateMediaType track.mCodecType true
  if codecType = mediaTrackTypeVideo then
    fillTrackInfor reply mediaTrackTypeVideo track.mine (videoDesc printFloat track ++ track.mine)
  else if codecType = mediaTrackTypeAudio then
    fillTrackInfor reply mediaTrackTypeAudio track.mine (track.mine ++ audioDesc track)
  else if codecType = mediaTrackTypeSubtitle then
    fillTrackInfor reply mediaTrackTypeSubtitle track.mine track.lang
  else if codecType = mediaTrackTypeTimedText then
    fillTrackInfor reply mediaTrackTypeTimedText track.mine track.lang
  else reply

/-- The two keys of the `RtMetaData` that are looked up. -/
structure TracksMeta where
  /-- `kUserInvokeTracksCount` -/
  count : Option Int
  /-- `kUserInvokeTracksInfor` -/
  infor : Option (UncheckedVec RockitTrackInfor)

/-- The return value, and the parcel afterwards. -/
def fillTrackInfoReply (printFloat : UInt32 → List Char) (tracks : TracksMeta) (reply : Parcel) :
    Int × Parcel :=
  match tracks.count, tracks.infor with
  | none, _ => (-1, reply)
  | some _, none => (-1, reply)
  | some counter, some trackInfor =>
    (0, (List.range counter.toNat).foldl
      (fun reply i => fillTrack printFloat reply (trackInfor.get i)) (reply ++ [int32 counter]))

/-! ## Track lists -/

structure TrackRecord where
  type : Int
  mime : List Char
  language : List Char
deriving DecidableEq, Repr

/-- The record as `fillTrackInfor` writes it. -/
def TrackRecord.encode (r : TrackRecord) : Parcel := fillTrackInfor [] r.type r.mime r.language

/-- The record is about the track: its type, its mime, and, where the type has a text of
its own, that text. -/
structure Describes (printFloat : UInt32 → List Char) (track : RockitTrackInfor)
    (r : TrackRecord) : Prop where
  type : r.type = translateMediaType track.mCodecType true
  mime : r.mime = track.mine
  video : r.type = mediaTrackTypeVideo → r.language = videoDesc printFloat track ++ track.mine
  audio : r.type = mediaTrackTypeAudio → r.language = track.mine ++ audioDesc track
  text : r.type = mediaTrackTypeSubtitle ∨ r.type = mediaTrackTypeTimedText →
    r.language = track.lang

/-- The count, and then one record for each track. -/
def WellFormed (printFloat : UInt32 → List Char) (tracks : List RockitTrackInfor)
    (parcel : Parcel) : Prop :=
  ∃ records, List.Forall₂ (Describes printFloat) tracks records ∧
    parcel = int32 tracks.length :: records.flatMap TrackRecord.encode

/-- The type of the track has a record. -/
def RockitTrackInfor.HasRecord (track : RockitTrackInfor) : Prop :=
  track.mCodecType = rtTrackTypeVideo ∨ track.mCodecType = rtTrackTypeAudio ∨
    track.mCodecType = rtTrackTypeSubtitle

instance (track : RockitTrackInfor) : Decidable track.HasRecord := by
  unfold RockitTrackInfor.HasRecord
  infer_instance

theorem fillTrackInfor_eq (reply : Parcel) (type : Int) (mime lang : List Char) :
    fillTrackInfor reply type mime lang =
      reply ++ TrackRecord.encode ⟨type, mime, lang⟩ := by
  show fillTrackInfor reply type mime lang = reply ++ fillTrackInfor [] type mime lang
  unfold fillTrackInfor
  simp only [List.append_assoc, List.nil_append]

theorem length_encode_pos (r : TrackRecord) : 0 < r.encode.length := by
  show 0 < (fillTrackInfor [] r.type r.mime r.language).length
  unfold fillTrackInfor
  rw [List.length_append]
  exact Nat.add_pos_left (Nat.succ_pos _) _

/-- The length of a record depends on its type only. -/
theorem length_encode_congr {r r' : TrackRecord} (h : r.type = r'.type) :
    r.encode.length = r'.encode.length := by
  show (fillTrackInfor [] r.type r.mime r.language).length =
    (fillTrackInfor [] r'.type r'.mime r'.language).length
  unfold fillTrackInfor
  rw [h]
  simp

/-! ## What is written for a track -/

/-- The Android type of a Rockit type: what is a subtitle to Rockit is a timed text. -/
theorem translateMediaType_rt (c : Int) :
    translateMediaType c true =
      if c = rtTrackTypeVideo then mediaTrackTypeVideo
      else if c = rtTrackTypeAudio then mediaTrackTypeAudio
      else if c = rtTrackTypeSubtitle then mediaTrackTypeTimedText
      else if c = rtTrackTypeAttachment then mediaTrackTypeMetadata
      else mediaTrackTypeUnknown := by
  by_cases hunknown : c = rtTrackTypeUnknown
  · subst hunknown
    decide
  by_cases hvideo : c = rtTrackTypeVideo
  · subst hvideo
    decide
  by_cases haudio : c = rtTrackTypeAudio
  · subst haudio
    decide
  by_cases hsubtitle : c = rtTrackTypeSubtitle
  · subst hsubtitle
    decide
  by_cases hattachment : c = rtTrackTypeAttachment
  · subst hattachment
    decide
  · simp [translateMediaType, kTrackTypeMap, hunknown, hvideo, haudio, hsubtitle, hattachment]

/-- The records the loop's body writes: one, or none. -/
def recordOf (printFloat : UInt32 → List Char) (track : RockitTrackInfor) : List TrackRecord :=
  let codecType := translateMediaType track.mCodecType true
  if codecType = mediaTrackTypeVideo then
    [⟨codecType, track.mine, videoDesc printFloat track ++ track.mine⟩]
  else if codecType = mediaTrackTypeAudio then
    [⟨codecType, track.mine, track.mine ++ audioDesc track⟩]
  else if codecType = mediaTrackTypeSubtitle ∨ codecType = mediaTrackTypeTimedText then
    [⟨codecType, track.mine, track.lang⟩]
  else []

theorem fillTrack_eq (printFloat : UInt32 → List Char) (reply : Parcel)
    (track : RockitTrackInfor) :
    fillTrack printFloat reply track =
      reply ++ (recordOf printFloat track).flatMap TrackRecord.encode := by
  unfold fillTrack recordOf
  dsimp only
  by_cases hvideo : translateMediaType track.mCodecType true = mediaTrackTypeVideo
  · rw [if_pos hvideo, if_pos hvideo, fillTrackInfor_eq, List.flatMap_singleton, hvideo]
  rw [if_neg hvideo, if_neg hvideo]
  by_cases haudio : translateMediaType track.mCodecType true = mediaTrackTypeAudio
  · rw [if_pos haudio, if_pos haudio, fillTrackInfor_eq, List.flatMap_singleton, haudio]
  rw [if_neg haudio, if_neg haudio]
  by_cases hsubtitle : translateMediaType track.mCodecType true = mediaTrackTypeSubtitle
  · rw [if_pos hsubtitle, if_pos (.inl hsubtitle), fillTrackInfor_eq, List.flatMap_singleton,
      hsubtitle]
  rw [if_neg hsubtitle]
  by_cases htext : translateMediaType track.mCodecType true = mediaTrackTypeTimedText
  · rw [if_pos htext, if_pos (.inr htext), fillTrackInfor_eq, List.flatMap_singleton, htext]
  · rw [if_neg htext, if_neg (fun h => h.elim hsubtitle htext), List.flatMap_nil, List.append_nil]

/-- What is written for a track describes it. -/
theorem recordOf_describes (printFloat : UInt32 → List Char) (track : RockitTrackInfor) :
    recordOf printFloat track = [] ∨
      ∃ r, recordOf printFloat track = [r] ∧ Describes printFloat track r := by
  unfold recordOf
  dsimp only
  by_cases hvideo : translateMediaType track.mCodecType true = mediaTrackTypeVideo
  · rw [if_pos hvideo]
    refine .inr ⟨_, rfl, rfl, rfl, fun _ => rfl, fun h => ?_, fun h => ?_⟩
    · exact absurd (hvideo.symm.trans h) (by decide)
    · rcases h with h | h
      · exact absurd (hvideo.symm.trans h) (by decide)
      · exact absurd (hvideo.symm.trans h) (by decide)
  rw [if_neg hvideo]
  by_cases haudio : translateMediaType track.mCodecType true = mediaTrackTypeAudio
  · rw [if_pos haudio]
    refine .inr ⟨_, rfl, rfl, rfl, fun h => absurd h hvideo, fun _ => rfl, fun h => ?_⟩
    rcases h with h | h
    · exact absurd (haudio.symm.trans h) (by decide)
    · exact absurd (haudio.symm.trans h) (by decide)
  rw [if_neg haudio]
  by_cases htext : translateMediaType track.mCodecType true = mediaTrackTypeSubtitle ∨
      translateMediaType track.mCodecType true = mediaTrackTypeTimedText
  · rw [if_pos htext]
    exact .inr ⟨_, rfl, rfl, rfl, fun h => absurd h hvideo, fun h => absurd h haudio, fun _ => rfl⟩
  · rw [if_neg htext]
    exact .inl rfl

/-- The types with a case in the `switch`. -/
theorem translate_hasCase_iff (track : RockitTrackInfor) :
    (translateMediaType track.mCodecType true = mediaTrackTypeVideo ∨
      translateMediaType track.mCodecType true = mediaTrackTypeAudio ∨
      translateMediaType track.mCodecType true = mediaTrackTypeSubtitle ∨
      translateMediaType track.mCodecType true = mediaTrackTypeTimedText) ↔ track.HasRecord := by
  unfold RockitTrackInfor.HasRecord
  rw [translateMediaType_rt]
  by_cases hvideo : track.mCodecType = rtTrackTypeVideo
  · rw [if_pos hvideo]
    exact iff_of_true (by decide) (.inl hvideo)
  rw [if_neg hvideo]
  by_cases haudio : track.mCodecType = rtTrackTypeAudio
  · rw [if_pos haudio]
    exact iff_of_true (by decide) (.inr (.inl haudio))
  rw [if_neg haudio]
  by_cases hsubtitle : track.mCodecType = rtTrackTypeSubtitle
  · rw [if_pos hsubtitle]
    exact iff_of_true (by decide) (.inr (.inr hsubtitle))
  rw [if_neg hsubtitle]
  refine iff_of_false ?_ fun h => h.elim hvideo fun h => h.elim haudio hsubtitle
  by_cases hattachment : track.mCodecType = rtTrackTypeAttachment
  · rw [if_pos hattachment]
    decide
  · rw [if_neg hattachment]
    decide

/-- A video, an audio and a subtitle track have a record, all others have none. -/
theorem recordOf_eq_nil_iff (printFloat : UInt32 → List Char) (track : RockitTrackInfor) :
    recordOf printFloat track = [] ↔ ¬ track.HasRecord := by
  rw [← translate_hasCase_iff]
  unfold recordOf
  dsimp only
  by_cases hvideo : translateMediaType track.mCodecType true = mediaTrackTypeVideo
  · simp [hvideo]
  by_cases haudio : translateMediaType track.mCodecType true = mediaTrackTypeAudio
  · simp only [if_neg hvideo, if_pos haudio]
    simp [haudio]
  by_cases htext : translateMediaType track.mCodecType true = mediaTrackTypeSubtitle ∨
      translateMediaType track.mCodecType true = mediaTrackTypeTimedText
  · simp only [if_neg hvideo, if_neg haudio, if_pos htext]
    simp [htext]
  · simp [hvideo, haudio, htext]

/-! ## The whole reply -/

/-- The records the loop writes for the tracks. -/
def recordsOf (printFloat : UInt32 → List Char) (tracks : List RockitTrackInfor) :
    List TrackRecord :=
  tracks.flatMap (recordOf printFloat)

theorem foldl_fillTrack (printFloat : UInt32 → List Char) (tracks : List RockitTrackInfor) :
    ∀ reply, tracks.foldl (fillTrack printFloat) reply =
      reply ++ (recordsOf printFloat tracks).flatMap TrackRecord.encode := by
  induction tracks with
  | nil =>
    intro reply
    simp [recordsOf]
  | cons track tracks ih =>
    intro reply
    rw [List.foldl_cons, ih, fillTrack_eq]
    unfold recordsOf
    rw [List.flatMap_cons, List.flatMap_append, List.append_assoc]

/-- The loop goes through the whole array. -/
theorem fillTrackInfoReply_eq (printFloat : UInt32 → List Char)
    (trackInfor : UncheckedVec RockitTrackInfor) (reply : Parcel) :
    fillTrackInfoReply printFloat ⟨some trackInfor.size, some trackInfor⟩ reply =
      (0, reply ++ int32 trackInfor.data.length ::
        (recordsOf printFloat trackInfor.data).flatMap TrackRecord.encode) := by
  unfold fillTrackInfoReply
  dsimp only
  have hrange : (List.range trackInfor.size).map trackInfor.get = trackInfor.data :=
    trackInfor.map_get_range
  rw [Int.toNat_natCast, ← List.foldl_map, hrange, foldl_fillTrack, List.append_assoc]
  rfl

/-- Tracks without a record leave the reply short of values. -/
theorem length_recordsOf_le (printFloat : UInt32 → List Char) {tracks : List RockitTrackInfor}
    {records : List TrackRecord} (h : List.Forall₂ (Describes printFloat) tracks records) :
    ((recordsOf printFloat tracks).flatMap TrackRecord.encode).length +
        tracks.countP (fun track => ¬ track.HasRecord) ≤
      (records.flatMap TrackRecord.encode).length := by
  induction h with
  | nil => simp [recordsOf]
  | @cons track r tracks records hr _ ih =>
    unfold recordsOf at ih ⊢
    rw [List.flatMap_cons, List.flatMap_append, List.flatMap_cons, List.length_append,
      List.length_append, List.countP_cons]
    by_cases hrecord : track.HasRecord
    · rcases recordOf_describes printFloat track with hnil | ⟨r', hr', hdescribes⟩
      · exact absurd hrecord ((recordOf_eq_nil_iff printFloat track).mp hnil)
      · have hlen : r'.encode.length = r.encode.length :=
          length_encode_congr (hdescribes.type.trans hr.type.symm)
        rw [hr', List.flatMap_singleton]
        simp only [hrecord, not_true_eq_false, decide_false, Bool.false_eq_true, if_false]
        omega
    · have hpos := length_encode_pos r
      rw [(recordOf_eq_nil_iff printFloat track).mpr hrecord, List.flatMap_nil, List.length_nil]
      simp only [hrecord, not_false_eq_true, decide_true, if_true]
      omega

theorem recordsOf_describe (printFloat : UInt32 → List Char) {tracks : List RockitTrackInfor}
    (h : ∀ track ∈ tracks, track.HasRecord) :
    List.Forall₂ (Describes printFloat) tracks (recordsOf printFloat tracks) := by
  induction tracks with
  | nil => exact .nil
  | cons track tracks ih =>
    have hrest := ih fun t ht => h t (List.mem_cons_of_mem _ ht)
    unfold recordsOf at hrest ⊢
    rw [List.flatMap_cons]
    rcases recordOf_describes printFloat track with hnil | ⟨r, hr, hdescribes⟩
    · exact absurd (h track List.mem_cons_self) ((recordOf_eq_nil_iff printFloat track).mp hnil)
    · rw [hr, List.singleton_append]
      exact .cons hdescribes hrest

/-- The values written are a track list iff every track has a record. -/
theorem records_wellFormed_iff (printFloat : UInt32 → List Char)
    (tracks : List RockitTrackInfor) :
    WellFormed printFloat tracks
        (int32 tracks.length :: (recordsOf printFloat tracks).flatMap TrackRecord.encode) ↔
      ∀ track ∈ tracks, track.HasRecord := by
  constructor
  · rintro ⟨records, hdescribe, heq⟩ track hmem
    by_contra hnot
    have hle := length_recordsOf_le printFloat hdescribe
    have hlen := congrArg List.length (List.tail_eq_of_cons_eq heq)
    have hpos : 0 < tracks.countP fun track => ¬ track.HasRecord :=
      List.countP_pos_iff.mpr ⟨track, hmem, by simpa using hnot⟩
    omega
  · intro h
    exact ⟨recordsOf printFloat tracks, recordsOf_describe printFloat h, rfl⟩

/-- **The reply is a track list** exactly when every track is a video, an audio or a
subtitle track. -/
theorem reply_wellFormed_iff (printFloat : UInt32 → List Char)
    (trackInfor : UncheckedVec RockitTrackInfor) (reply : Parcel) :
    ∃ written,
      fillTrackInfoReply printFloat ⟨some trackInfor.size, some trackInfor⟩ reply =
        (0, reply ++ written) ∧
      (WellFormed printFloat trackInfor.data written ↔
        ∀ track ∈ trackInfor.data, track.HasRecord) :=
  ⟨_, fillTrackInfoReply_eq printFloat trackInfor reply, records_wellFormed_iff printFloat _⟩

/-- An attachment: `RTTRACK_TYPE_ATTACHMENT`. -/
def fontTrack : RockitTrackInfor := ⟨4, 0, 0, 0, 0, 0, [], ['f', 'o', 'n', 't']⟩

/-- One track is announced, and nothing follows. -/
theorem attachment_not_wellFormed :
    fillTrackInfoReply (fun _ => []) ⟨some 1, some ⟨[fontTrack], fun _ => fontTrack⟩⟩ [] =
        (0, [int32 1]) ∧
      ¬ WellFormed (fun _ => []) [fontTrack] [int32 1] := by
  refine ⟨by decide, fun h => ?_⟩
  have hrecord := (records_wellFormed_iff (fun _ => []) [fontTrack]).mp h fontTrack (by simp)
  exact absurd hrecord (by decide)

end RockchipHal.Rockit
