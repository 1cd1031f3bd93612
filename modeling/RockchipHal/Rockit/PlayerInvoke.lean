import RockchipHal.Rockit.TrackInfo

/-!
# `RockitPlayer::invoke`: tracks by their place

A client asks for the tracks, and afterwards names one by its place among the records it was
answered with; that place goes to the library as the place among its own tracks.  The two are the
same track exactly when no track without a record comes before one with a record
(`tracks_addressed_iff`):

    Addressed lib printFloat s tracks ↔
      tracks.data.Pairwise fun a b => b.HasRecord → a.HasRecord

The type in a record leads back to the codec type of its track, so that the client can ask which
track of the type is selected.
-/

namespace RockchipHal.Rockit

open ParcelValue

/-! ## The request -/

/-- `INVOKE_ID_…` of the media player. -/
def invokeIdGetTrackInfo : Int := 1
def invokeIdSelectTrack : Int := 4
def invokeIdUnselectTrack : Int := 5
def invokeIdSetVideoScalingMode : Int := 6
def invokeIdGetSelectedTrack : Int := 7

/-- `RT_INVOKE_ID_…`, the commands of the library. -/
inductive RtInvokeId
  | getTrackInfo | selectTrack | unselectTrack | setVideoScalingMode | getSelectedTrack
deriving DecidableEq, Repr

/-- The keys of the `RtMetaData` of a request. -/
structure InvokeMeta where
  /-- `kUserInvokeCmd` -/
  cmd : Option RtInvokeId
  /-- `kUserInvokeTracksIdx` -/
  tracksIdx : Option Int
  /-- `kUserInvokeVideoScallingMode` -/
  videoScalingMode : Option Int
  /-- `kUserInvokeGetSelectTrack` -/
  getSelectTrack : Option Int
deriving DecidableEq, Repr

def InvokeMeta.empty : InvokeMeta := ⟨none, none, none, none⟩

/-- `NOT_ENOUGH_DATA`, `BAD_VALUE`. -/
inductive RequestError
  | notEnoughData | badValue
deriving DecidableEq, Repr

/-- What `fillInvokeRequest` returns and writes. -/
structure FilledRequest where
  error : Option RequestError
  metaIn : InvokeMeta
  event : Int
deriving DecidableEq, Repr

/-- `readInt32()`: 0 where nothing is left. -/
def readInt32 (words : List Int) : Int := words.headD 0

/-- The request is the words of the parcel that are left; `event` is -1 before. -/
def fillInvokeRequest : List Int → FilledRequest
  | [] => ⟨some .notEnoughData, .empty, -1⟩
  | methodId :: words =>
    if methodId = invokeIdGetTrackInfo then
      ⟨none, { InvokeMeta.empty with cmd := some .getTrackInfo }, methodId⟩
    else if methodId = invokeIdSelectTrack ∨ methodId = invokeIdUnselectTrack then
      ⟨none, { InvokeMeta.empty with
        cmd := some (if methodId = invokeIdSelectTrack then .selectTrack else .unselectTrack)
        tracksIdx := some (readInt32 words) }, methodId⟩
    else if methodId = invokeIdSetVideoScalingMode then
      ⟨none, { InvokeMeta.empty with
        cmd := some .setVideoScalingMode
        videoScalingMode := some (readInt32 words) }, methodId⟩
    else if methodId = invokeIdGetSelectedTrack then
      ⟨none, { InvokeMeta.empty with
        cmd := some .getSelectedTrack
        getSelectTrack := some (translateMediaType (readInt32 words) false) }, methodId⟩
    else ⟨some .badValue, .empty, methodId⟩

/-! ## The reply -/

/-- The keys of the `RtMetaData` that the library answers with. -/
structure InvokeReplyMeta extends TracksMeta where
  /-- `kUserInvokeTracksIdx` -/
  tracksIdx : Option Int

/-- Without an answer the index is -1. -/
def fillGetSelectedTrackReply (out : InvokeReplyMeta) (reply : Parcel) : Int × Parcel :=
  (0, reply ++ [int32 (out.tracksIdx.getD (-1))])

def fillInvokeReply (printFloat : UInt32 → List Char) (event : Int) (out : InvokeReplyMeta)
    (reply : Parcel) : Int × Parcel :=
  if event = invokeIdGetTrackInfo then fillTrackInfoReply printFloat out.toTracksMeta reply
  else if event = invokeIdGetSelectedTrack then fillGetSelectedTrackReply out reply
  else (0, reply)

/-- `mPlayerImpl->invoke`. -/
abbrev LibraryInvoke (σ : Type) := σ → InvokeMeta → σ × InvokeReplyMeta

/-- The status is `OK`, and a request that is not understood goes to the library without a command.
Without a reply to fill in nothing is asked. -/
def invoke {σ : Type} (lib : LibraryInvoke σ) (printFloat : UInt32 → List Char) (s : σ)
    (request : List Int) (reply : Option Parcel) : σ × Option Parcel :=
  match reply with
  | none => (s, none)
  | some reply =>
    let filled := fillInvokeRequest request
    let answered := lib s filled.metaIn
    (answered.1, some (fillInvokeReply printFloat filled.event answered.2 reply).2)

/-! ## The records of a reply -/

/-- A record can be told from what follows it. -/
theorem encode_prefix_unique {r r' : TrackRecord} {rest rest' : Parcel}
    (h : r.encode ++ rest = r'.encode ++ rest') : r = r' ∧ rest = rest' := by
  obtain ⟨type, mime, language⟩ := r
  obtain ⟨type', mime', language'⟩ := r'
  unfold TrackRecord.encode fillTrackInfor at h
  simp only [List.nil_append, List.cons_append, List.cons.injEq, int32.injEq, string16.injEq,
    true_and] at h
  obtain ⟨rfl, rfl, rfl, hrest⟩ := h
  exact ⟨rfl, List.append_cancel_left hrest⟩

/-- The records a reply is made of are in the reply. -/
theorem flatMap_encode_inj {l l' : List TrackRecord}
    (h : l.flatMap TrackRecord.encode = l'.flatMap TrackRecord.encode) : l = l' := by
  induction l generalizing l' with
  | nil =>
    cases l' with
    | nil => rfl
    | cons r' l' =>
      have hlen := congrArg List.length h
      have hpos := length_encode_pos r'
      rw [List.flatMap_cons, List.length_append, List.flatMap_nil, List.length_nil] at hlen
      omega
  | cons r l ih =>
    cases l' with
    | nil =>
      have hlen := congrArg List.length h
      have hpos := length_encode_pos r
      rw [List.flatMap_cons, List.length_append, List.flatMap_nil, List.length_nil] at hlen
      omega
    | cons r' l' =>
      rw [List.flatMap_cons, List.flatMap_cons] at h
      obtain ⟨rfl, hrest⟩ := encode_prefix_unique h
      rw [ih hrest]

/-! ## Tracks by their place -/

/-- The library answers the request for the tracks with these. -/
def AnnouncesTracks {σ : Type} (lib : LibraryInvoke σ) (s : σ)
    (tracks : UncheckedVec RockitTrackInfor) : Prop :=
  (lib s { InvokeMeta.empty with cmd := some .getTrackInfo }).2.toTracksMeta =
    ⟨some tracks.size, some tracks⟩

/-- The track of the library that a request names. -/
def requestedTrack (tracks : List RockitTrackInfor) (request : List Int) :
    Option RockitTrackInfor :=
  (fillInvokeRequest request).metaIn.tracksIdx.bind fun idx => tracks[idx.toNat]?

/-- The record at a place in a reply is about the track that is selected and unselected by this
place, and its type asks for that track's. -/
structure AddressedBy (printFloat : UInt32 → List Char) (tracks : List RockitTrackInfor) (i : Nat)
    (r : TrackRecord) (track : RockitTrackInfor) : Prop where
  select : requestedTrack tracks [invokeIdSelectTrack, i] = some track
  unselect : requestedTrack tracks [invokeIdUnselectTrack, i] = some track
  describes : Describes printFloat track r
  asked : (fillInvokeRequest [invokeIdGetSelectedTrack, r.type]).metaIn =
    { InvokeMeta.empty with
      cmd := some .getSelectedTrack
      getSelectTrack := some track.mCodecType }

/-- Every record of the reply to the request for the tracks. -/
def Addressed {σ : Type} (lib : LibraryInvoke σ) (printFloat : UInt32 → List Char) (s : σ)
    (tracks : UncheckedVec RockitTrackInfor) : Prop :=
  ∀ (reply : Parcel) (records : List TrackRecord),
    (invoke lib printFloat s [invokeIdGetTrackInfo] (some reply)).2 =
        some (reply ++ int32 tracks.size :: records.flatMap TrackRecord.encode) →
      ∀ (i : Nat) (r : TrackRecord), records[i]? = some r →
        ∃ track, AddressedBy printFloat tracks.data i r track

theorem invoke_getTrackInfo {σ : Type} {lib : LibraryInvoke σ} {s : σ}
    {tracks : UncheckedVec RockitTrackInfor} (h : AnnouncesTracks lib s tracks)
    (printFloat : UInt32 → List Char) (reply : Parcel) :
    (invoke lib printFloat s [invokeIdGetTrackInfo] (some reply)).2 =
      some (reply ++ int32 tracks.size ::
        (recordsOf printFloat tracks.data).flatMap TrackRecord.encode) := by
  unfold AnnouncesTracks at h
  show some (fillTrackInfoReply printFloat
    (lib s { InvokeMeta.empty with cmd := some .getTrackInfo }).2.toTracksMeta reply).2 = _
  rw [h, fillTrackInfoReply_eq]
  rfl

/-- The types with a record survive the way to the client and back. -/
theorem translateMediaType_back {track : RockitTrackInfor} (h : track.HasRecord) :
    translateMediaType (translateMediaType track.mCodecType true) false = track.mCodecType := by
  rcases h with h | h | h <;> rw [h] <;> decide

/-- What a record describes has a record. -/
theorem Describes.hasRecord {printFloat : UInt32 → List Char} {track : RockitTrackInfor}
    {tracks : List RockitTrackInfor} {r : TrackRecord} (h : Describes printFloat track r)
    (hr : r ∈ recordsOf printFloat tracks) : track.HasRecord := by
  obtain ⟨own, -, hown⟩ := List.mem_flatMap.mp hr
  rcases recordOf_describes printFloat own with hnil | ⟨r', hr', hdescribes⟩
  · rw [hnil] at hown
    cases hown
  · have hhas : own.HasRecord := by
      by_contra hnot
      rw [(recordOf_eq_nil_iff printFloat own).mpr hnot] at hown
      cases hown
    rw [hr', List.mem_singleton] at hown
    subst hown
    have htype : translateMediaType track.mCodecType true =
        translateMediaType own.mCodecType true := h.type.symm.trans hdescribes.type
    rw [← translate_hasCase_iff] at hhas ⊢
    rw [htype]
    exact hhas

theorem recordsOf_cons (printFloat : UInt32 → List Char) (track : RockitTrackInfor)
    (tracks : List RockitTrackInfor) :
    recordsOf printFloat (track :: tracks) =
      recordOf printFloat track ++ recordsOf printFloat tracks := List.flatMap_cons

/-- Records and tracks are in step exactly when the tracks without a record come last. -/
theorem records_inStep_iff (printFloat : UInt32 → List Char) (tracks : List RockitTrackInfor) :
    (∀ (i : Nat) (r : TrackRecord), (recordsOf printFloat tracks)[i]? = some r →
      ∃ track, tracks[i]? = some track ∧ Describes printFloat track r) ↔
      tracks.Pairwise fun a b => b.HasRecord → a.HasRecord := by
  induction tracks with
  | nil => exact iff_of_true (fun i r h => by cases h) .nil
  | cons track tracks ih =>
    rw [List.pairwise_cons, ← ih, recordsOf_cons]
    rcases recordOf_describes printFloat track with hnil | ⟨own, hown, hdescribes⟩
    · -- the records are those of the tracks behind it, one place further
      have hnot := (recordOf_eq_nil_iff printFloat track).mp hnil
      rw [hnil, List.nil_append]
      have hlater : (∀ b ∈ tracks, b.HasRecord → track.HasRecord) ↔
          recordsOf printFloat tracks = [] := by
        unfold recordsOf
        rw [List.flatMap_eq_nil_iff]
        refine forall_congr' fun b => imp_congr_right fun _ => ?_
        rw [recordOf_eq_nil_iff]
        exact imp_congr_right fun _ => iff_of_false hnot id
      rw [hlater]
      constructor
      · intro h
        have hempty : recordsOf printFloat tracks = [] := by
          cases hfirst : recordsOf printFloat tracks with
          | nil => rfl
          | cons r records =>
            obtain ⟨t, ht, htrack⟩ := h 0 r (by rw [hfirst]; rfl)
            cases ht
            have hr : r ∈ recordsOf printFloat tracks := by
              rw [hfirst]
              exact List.mem_cons_self
            exact absurd (htrack.hasRecord hr) hnot
        exact ⟨hempty, fun i r hr => by rw [hempty] at hr; cases hr⟩
      · rintro ⟨hempty, -⟩ i r hr
        rw [hempty] at hr
        cases hr
    · have hhas : track.HasRecord := by
        by_contra hnot
        rw [(recordOf_eq_nil_iff printFloat track).mpr hnot] at hown
        cases hown
      rw [hown, List.singleton_append]
      constructor
      · intro h
        exact ⟨fun _ _ _ => hhas, fun i r hr => h (i + 1) r hr⟩
      · rintro ⟨-, h⟩ i r hr
        cases i with
        | zero =>
          cases hr
          exact ⟨track, rfl, hdescribes⟩
        | succ i => exact h i r hr

/-- **A place names one track**, for the client and for the library, exactly when no track without
a record comes before one with a record. -/
theorem tracks_addressed_iff {σ : Type} (lib : LibraryInvoke σ) (printFloat : UInt32 → List Char)
    (s : σ) (tracks : UncheckedVec RockitTrackInfor) (hannounces : AnnouncesTracks lib s tracks) :
    Addressed lib printFloat s tracks ↔
      tracks.data.Pairwise fun a b => b.HasRecord → a.HasRecord := by
  rw [← records_inStep_iff printFloat]
  constructor
  · intro h i r hr
    obtain ⟨track, haddressed⟩ := h [] _ (invoke_getTrackInfo hannounces printFloat []) i r hr
    exact ⟨track, haddressed.select, haddressed.describes⟩
  · intro h reply records hreply i r hr
    rw [invoke_getTrackInfo hannounces, Option.some.injEq] at hreply
    have hrecords := flatMap_encode_inj (List.cons.inj (List.append_cancel_left hreply)).2
    rw [← hrecords] at hr
    obtain ⟨track, htrack, hdescribes⟩ := h i r hr
    have hhas := hdescribes.hasRecord (List.mem_of_getElem? hr)
    refine ⟨track, htrack, htrack, hdescribes, ?_⟩
    show { InvokeMeta.empty with
      cmd := some RtInvokeId.getSelectedTrack
      getSelectTrack := some (translateMediaType r.type false) } = _
    rw [hdescribes.type, translateMediaType_back hhas]

/-- A library that only knows its tracks. -/
def trackLibrary (tracks : UncheckedVec RockitTrackInfor) : LibraryInvoke Unit :=
  fun s _ => (s, ⟨⟨some tracks.size, some tracks⟩, none⟩)

theorem trackLibrary_announces (tracks : UncheckedVec RockitTrackInfor) :
    AnnouncesTracks (trackLibrary tracks) () tracks := rfl

def filmTrack : RockitTrackInfor := ⟨0, 16, 9, 0, 0, 0, [], ['f', 'i', 'l', 'm']⟩

/-- A font behind the film does no harm; before it, the first record is taken for the font. -/
theorem tracks_addressed_film :
    Addressed (trackLibrary ⟨[filmTrack, fontTrack], fun _ => fontTrack⟩) (fun _ => []) ()
        ⟨[filmTrack, fontTrack], fun _ => fontTrack⟩ ∧
      ¬ Addressed (trackLibrary ⟨[fontTrack, filmTrack], fun _ => fontTrack⟩) (fun _ => []) ()
        ⟨[fontTrack, filmTrack], fun _ => fontTrack⟩ := by
  constructor
  · exact (tracks_addressed_iff _ _ _ _ (trackLibrary_announces _)).mpr (by decide)
  · intro h
    have hlast := (tracks_addressed_iff _ _ _ _ (trackLibrary_announces _)).mp h
    exact absurd hlast (by decide)

end RockchipHal.Rockit
