import Mathlib.Logic.Relation
import RockchipHal.Sound.RkAudioSettingManager

/-!
# `RkAudioSettingManager`: calls as edits

Every call edits the parts of one or both ports in place, so that what it leaves alone is
known from the parts it touches:

    setFormat            `formats` of the device's port         (setFormat_frame)
    setMode              `mode` of one port                     (setMode_frame)
    updataFormatForEdid  `formats` of the bitstream             (updataFormatForEdid_frame)
    setSelect            the attributes, and `devices` and `formats` of the bitstream
                                                                (setSelect_parts)

A run of calls is a sequence of such edits (`run_edits`), so what every `Edit` keeps, every
run keeps.
-/

namespace RockchipHal.Sound.RkAudioSettingManager

open Dom

variable {N : Type} [Dom N]

/-! ## The edits -/

theorem insertFormat_inPlace (format : String) : InPlace (insertFormat format : N → Option N) := by
  intro a b h
  unfold insertFormat at h
  split at h
  · cases h
    exact ⟨value_withChildren a _, isElement_withChildren a _⟩
  · cases h

theorem removeFormat_inPlace (format : String) : InPlace (removeFormat format : N → Option N) := by
  intro a b h
  obtain ⟨siblings, _, h⟩ := Option.bind_eq_some_iff.mp h
  cases h
  exact ⟨value_withChildren a _, isElement_withChildren a _⟩

theorem setSelectValue_eq (ch : String) (elem : N) :
    setSelectValue ch elem = elem ∨ setSelectValue ch elem = withFirstAttribute elem ch := by
  unfold setSelectValue
  split
  · exact Or.inr rfl
  · exact Or.inl rfl

theorem setSelectValue_inPlace (ch : String) :
    InPlace fun elem : N => some (setSelectValue ch elem) := by
  intro a b h
  cases h
  rcases setSelectValue_eq ch a with he | he
  · rw [he]
    exact ⟨rfl, rfl⟩
  · rw [he]
    exact ⟨value_withFirstAttribute a ch, isElement_withFirstAttribute a ch⟩

theorem setModeValue_eq (ch : String) (node : N) :
    setModeValue ch node = node ∨ setModeValue ch node = withChildren node [newText ch] := by
  unfold setModeValue
  split
  · exact Or.inr rfl
  · exact Or.inl rfl

theorem replaceMode_eq (zero one : String) (mode : Int) (node : N) :
    replaceMode zero one mode node = node ∨
      ∃ ch, replaceMode zero one mode node = withChildren node [newText ch] := by
  unfold replaceMode
  split
  · split
    · exact (setModeValue_eq zero node).imp id fun h => ⟨zero, h⟩
    · split
      · exact (setModeValue_eq one node).imp id fun h => ⟨one, h⟩
      · exact Or.inl rfl
  · exact Or.inl rfl

theorem replaceMode_inPlace (zero one : String) (mode : Int) :
    InPlace fun node : N => some (replaceMode zero one mode node) := by
  intro a b h
  cases h
  rcases replaceMode_eq zero one mode a with he | ⟨ch, he⟩
  · rw [he]
    exact ⟨rfl, rfl⟩
  · rw [he]
    exact ⟨value_withChildren a _, isElement_withChildren a _⟩

theorem replaceFirstDevice_inPlace (device : String) :
    InPlace (replaceFirstDevice device : N → Option N) := onChild_inPlace

/-- The edit of `setFormat` for the two values of `close`. -/
def editFormat (close : Int) (format : String) : N → Option N :=
  if close = 1 then removeFormat format else insertFormat format

theorem editFormat_inPlace (close : Int) (format : String) :
    InPlace (editFormat close format : N → Option N) := by
  unfold editFormat
  split
  · exact removeFormat_inPlace format
  · exact insertFormat_inPlace format

theorem setAudioSettingFormat_eq (port : Port) {close : Int} (h : close = 0 ∨ close = 1)
    (ch : String) (doc : List N) : setAudioSettingFormat port close ch doc =
      onPart port.element "formats" (editFormat close ch) doc := by
  rcases h with rfl | rfl <;> rfl

/-- The edit of `syncFormat`. -/
def syncEntry (close : Int) (ch : String) (list : N) : Option N :=
  if findText ch (siblingsFrom "format" list) = close then editFormat close ch list else some list

theorem syncEntry_inPlace (close : Int) (ch : String) :
    InPlace (syncEntry close ch : N → Option N) := by
  intro a b h
  unfold syncEntry at h
  split at h
  · exact editFormat_inPlace close ch a b h
  · cases h
    exact ⟨rfl, rfl⟩

theorem syncFormat_eq {close : Int} (h : close = 0 ∨ close = 1) (ch : String) (doc : List N) :
    syncFormat close ch doc = onPart Port.bitstream.element "formats" (syncEntry close ch) doc := by
  have he := onPart_ite Port.bitstream.element "formats"
    (fun list => findText ch (siblingsFrom "format" list) = close) (editFormat close ch) doc
  unfold syncEntry
  rw [← he, ← setAudioSettingFormat_eq .bitstream h]
  unfold syncFormat getAudioSettingBitstreamFormat getAudioSettingEntry
  cases partAt Port.bitstream.element "formats" doc <;> rfl

/-- The edit of `setSelect` in the list of devices. -/
def ensureDevice (device : String) (list : N) : Option N :=
  if findText device (siblingsFrom "device" list) ≠ 1 then replaceFirstDevice device list
  else some list

theorem ensureDevice_inPlace (device : String) : InPlace (ensureDevice device : N → Option N) := by
  intro a b h
  unfold ensureDevice at h
  split at h
  · exact replaceFirstDevice_inPlace device a b h
  · cases h
    exact ⟨rfl, rfl⟩

theorem selectBitstream_eq (device : String) {close : Int} (h : close = 0 ∨ close = 1)
    (doc : List N) : selectBitstream device close doc =
      (setAudioSettingSelect .bitstream doc).bind fun doc =>
        (onPart Port.bitstream.element "devices" (ensureDevice device) doc).bind
          (onPart Port.bitstream.element "formats" (syncEntry close "MLP")) := by
  unfold selectBitstream
  refine congrArg (Option.bind _) (funext fun doc => ?_)
  have he := onPart_ite Port.bitstream.element "devices"
    (fun list => findText device (siblingsFrom "device" list) ≠ 1) (replaceFirstDevice device) doc
  unfold ensureDevice
  rw [← he, ← funext (syncFormat_eq h "MLP")]
  unfold getAudioSettingBitstreamDevice getAudioSettingEntry
  cases partAt Port.bitstream.element "devices" doc with
  | none => rfl
  | some list =>
    show (if findText device (siblingsFrom "device" list) ≠ 1 then _ else _) =
      Option.bind (if findText device (siblingsFrom "device" list) ≠ 1 then _ else _) _
    split <;> rfl

/-- The port whose formats a device has. -/
def devicePort (device : Int) : Option Port :=
  if device = 0 then some .decode
  else if device = 1 ∨ device = 2 then some .bitstream
  else none

theorem exists_devicePort (port : Port) : ∃ device, devicePort device = some port := by
  cases port with
  | decode => exact ⟨0, rfl⟩
  | bitstream => exact ⟨1, rfl⟩

theorem devicePort_some {device : Int} {port : Port} (h : devicePort device = some port) :
    device = 0 ∧ port = .decode ∨ (device = 1 ∨ device = 2) ∧ port = .bitstream := by
  unfold devicePort at h
  split at h
  · next h0 =>
    cases h
    exact Or.inl ⟨h0, rfl⟩
  · split at h
    · next h12 =>
      cases h
      exact Or.inr ⟨h12, rfl⟩
    · cases h

theorem devicePort_none {device : Int} (h : devicePort device = none) :
    device ≠ 0 ∧ device ≠ 1 ∧ device ≠ 2 := by
  unfold devicePort at h
  split at h
  · cases h
  · split at h
    · cases h
    · omega

theorem setFormat_of_port {device : Int} {port : Port} (h : devicePort device = some port)
    (close : Int) (format : String) (doc : List N) :
    setFormat device close format doc = setAudioSettingFormat port close format doc := by
  rcases devicePort_some h with ⟨rfl, rfl⟩ | ⟨rfl | rfl, rfl⟩ <;> rfl

theorem setFormat_of_none {device : Int} (h : devicePort device = none) (close : Int)
    (format : String) (doc : List N) : setFormat device close format doc = some doc := by
  obtain ⟨h0, h1, h2⟩ := devicePort_none h
  unfold setFormat
  rw [if_neg h0, if_neg h1, if_neg h2]

theorem getFormat_of_port {device : Int} {port : Port} (h : devicePort device = some port)
    (format : String) (doc : List N) :
    getFormat device format doc = getAudioSettingEntry port "formats" "format" format doc := by
  rcases devicePort_some h with ⟨rfl, rfl⟩ | ⟨rfl | rfl, rfl⟩ <;> rfl

theorem getFormat_of_none {device : Int} (h : devicePort device = none) (format : String)
    (doc : List N) : getFormat device format doc = some 0 := by
  obtain ⟨h0, h1, h2⟩ := devicePort_none h
  unfold getFormat
  rw [if_neg h0, if_neg h1, if_neg h2]

theorem setAudioSettingFormat_other (port : Port) {close : Int} (h : ¬ (close = 0 ∨ close = 1))
    (ch : String) (doc : List N) : setAudioSettingFormat port close ch doc = some doc := by
  unfold setAudioSettingFormat
  rw [if_neg (by omega), if_neg (by omega)]

/-- `setMode` changes the `mode` of a port, with some two texts, or nothing. -/
theorem setMode_cases (device mode : Int) (doc : List N) :
    (∃ zero one, device = 0 ∧ setMode device mode doc =
      setAudioSettingMode .decode zero one mode doc) ∨
    (∃ zero one, device = 1 ∧ setMode device mode doc =
      setAudioSettingMode .bitstream zero one mode doc) ∨
    setMode device mode doc = some doc := by
  unfold setMode
  by_cases h0 : device = 0
  · exact Or.inl ⟨"decode_pcm", "multi_pcm", h0, if_pos h0⟩
  · rw [if_neg h0]
    by_cases h1 : device = 1
    · exact Or.inr (Or.inl ⟨"auto", "manual", h1, if_pos h1⟩)
    · exact Or.inr (Or.inr (if_neg h1))

theorem ParsedEdid.close_cases (edid : ParsedEdid) (hdmiLevel : Int) :
    edid.close hdmiLevel = 0 ∨ edid.close hdmiLevel = 1 := by
  unfold ParsedEdid.close
  split
  · exact Or.inl rfl
  · exact Or.inr rfl

/-- What `updataFormatForEdid` does to the list of formats. -/
def syncEntries (edid : ParsedEdid) (list : N) : Option N :=
  mSupportHdmiLevel.foldlM (fun list level => syncEntry (edid.close level.1) level.2 list) list

theorem syncEntries_inPlace (edid : ParsedEdid) : InPlace (syncEntries edid : N → Option N) :=
  foldlM_inPlace (fun level : Int × String => syncEntry_inPlace (edid.close level.1) level.2) mSupportHdmiLevel

theorem updataFormatForEdid_eq {edid : ParsedEdid} (h : edid.result ≥ 0) (doc : List N) :
    updataFormatForEdid edid doc =
      onPart Port.bitstream.element "formats" (syncEntries edid) doc := by
  have hsync : (fun (doc : List N) (level : Int × String) =>
      syncFormat (edid.close level.1) level.2 doc) = fun doc level =>
        onPart Port.bitstream.element "formats" (syncEntry (edid.close level.1) level.2) doc :=
    funext fun doc => funext fun level => syncFormat_eq (edid.close_cases level.1) level.2 doc
  unfold updataFormatForEdid updataFormatForAutoMode
  rw [if_pos h, hsync]
  cases hm : partAt Port.bitstream.element "formats" doc with
  | none =>
    rw [mSupportHdmiLevel, List.foldlM_cons, onPart_of_none hm, onPart_of_none hm]
    rfl
  | some list =>
    exact foldlM_onPart (fun level : Int × String => syncEntry_inPlace (edid.close level.1) level.2) _ _ _ _ hm

theorem updataFormatForEdid_failed {edid : ParsedEdid} (h : ¬ edid.result ≥ 0) (doc : List N) :
    updataFormatForEdid edid doc = some doc := if_neg h

/-! ## What a call leaves alone -/

theorem Port.element_ne {port port' : Port} (h : port ≠ port') : port.element ≠ port'.element := by
  cases port with
  | decode =>
    cases port' with
    | decode => exact absurd rfl h
    | bitstream => decide
  | bitstream =>
    cases port' with
    | decode => decide
    | bitstream => exact absurd rfl h

/-- Outside the `touched` parts the documents agree, and in the attributes. -/
structure Frame (touched : Port → String → Prop) (doc doc' : List N) : Prop where
  parts : ∀ port part, ¬ touched port part →
    partAt port.element part doc' = partAt port.element part doc
  selects : ∀ port : Port, (elementAt port.element doc').map firstAttribute =
    (elementAt port.element doc).map firstAttribute

theorem Frame.refl (touched : Port → String → Prop) (doc : List N) : Frame touched doc doc :=
  ⟨fun _ _ _ => rfl, fun _ => rfl⟩

theorem Frame.weaken {touched touched' : Port → String → Prop} {doc doc' : List N}
    (h : Frame touched doc doc') (hw : ∀ port part, touched port part → touched' port part) :
    Frame touched' doc doc' :=
  ⟨fun port part ht => h.parts port part fun hp => ht (hw port part hp), h.selects⟩

theorem frame_onPart {f : N → Option N} (hf : InPlace f) {port : Port} {part : String}
    {doc doc' : List N} (h : onPart port.element part f doc = some doc') :
    Frame (fun port' part' => port' = port ∧ part' = part) doc doc' where
  parts := by
    intro port' part' ht
    refine partAt_onPart_ne hf ?_ h
    by_cases hp : port' = port
    · exact Or.inr fun he => ht ⟨hp, he.symm⟩
    · exact Or.inl fun he => hp (by_contra fun hne => Port.element_ne hne he.symm)
  selects _ := elementAt_map_onElement _ (fun _ _ => firstAttribute_onChild) onChild_inPlace h

theorem setFormat_frame {device close : Int} {format : String} {doc doc' : List N}
    (h : setFormat device close format doc = some doc') :
    Frame (fun port part => devicePort device = some port ∧ part = "formats") doc doc' := by
  cases hp : devicePort device with
  | none =>
    rw [setFormat_of_none hp] at h
    cases h
    exact Frame.refl _ doc
  | some port =>
    rw [setFormat_of_port hp] at h
    by_cases hc : close = 0 ∨ close = 1
    · rw [setAudioSettingFormat_eq port hc] at h
      exact (frame_onPart (editFormat_inPlace close format) h).weaken
        fun port' part ht => ⟨congrArg some ht.1.symm, ht.2⟩
    · rw [setAudioSettingFormat_other port hc] at h
      cases h
      exact Frame.refl _ doc

theorem setMode_frame {device mode : Int} {doc doc' : List N}
    (h : setMode device mode doc = some doc') :
    Frame (fun port part => device = (if port = .decode then 0 else 1) ∧ part = "mode")
      doc doc' := by
  rcases setMode_cases device mode doc with ⟨zero, one, hd, he⟩ | ⟨zero, one, hd, he⟩ | he
  · rw [he] at h
    refine (frame_onPart (replaceMode_inPlace zero one mode) h).weaken fun port part ht => ?_
    rw [ht.1]
    exact ⟨hd, ht.2⟩
  · rw [he] at h
    refine (frame_onPart (replaceMode_inPlace zero one mode) h).weaken fun port part ht => ?_
    rw [ht.1]
    exact ⟨hd, ht.2⟩
  · rw [he] at h
    cases h
    exact Frame.refl _ doc

theorem updataFormatForEdid_frame {edid : ParsedEdid} {doc doc' : List N}
    (h : updataFormatForEdid edid doc = some doc') :
    Frame (fun port part => port = .bitstream ∧ part = "formats") doc doc' := by
  by_cases hr : edid.result ≥ 0
  · rw [updataFormatForEdid_eq hr] at h
    exact frame_onPart (syncEntries_inPlace edid) h
  · rw [updataFormatForEdid_failed hr] at h
    cases h
    exact Frame.refl _ doc

/-! ## Answers from what a call leaves alone -/

theorem getAudioSettingEntry_congr {port : Port} {list : String} {doc doc' : List N}
    (h : partAt port.element list doc' = partAt port.element list doc) (entry ch : String) :
    getAudioSettingEntry port list entry ch doc' = getAudioSettingEntry port list entry ch doc := by
  unfold getAudioSettingEntry
  rw [h]

theorem getFormat_congr {device : Int} {doc doc' : List N}
    (h : ∀ port, devicePort device = some port →
      partAt port.element "formats" doc' = partAt port.element "formats" doc) (format : String) :
    getFormat device format doc' = getFormat device format doc := by
  cases hp : devicePort device with
  | none => rw [getFormat_of_none hp, getFormat_of_none hp]
  | some port =>
    rw [getFormat_of_port hp, getFormat_of_port hp]
    exact getAudioSettingEntry_congr (h port hp) "format" format

theorem getAudioSettingMode_congr {port : Port} {doc doc' : List N}
    (h : partAt port.element "mode" doc' = partAt port.element "mode" doc) (zero one : String) :
    getAudioSettingMode port zero one doc' = getAudioSettingMode port zero one doc := by
  unfold getAudioSettingMode
  rw [h]

theorem getMode_congr {device : Int} {doc doc' : List N}
    (h : ∀ port, devicePort device = some port →
      partAt port.element "mode" doc' = partAt port.element "mode" doc) :
    getMode device doc' = getMode device doc := by
  unfold getMode
  cases hp : devicePort device with
  | none =>
    obtain ⟨h0, h1, h2⟩ := devicePort_none hp
    rw [if_neg h0, if_neg h1, if_neg h2, if_neg h0, if_neg h1, if_neg h2]
  | some port =>
    have hm := h port hp
    rcases devicePort_some hp with ⟨rfl, rfl⟩ | ⟨rfl | rfl, rfl⟩
    · exact getAudioSettingMode_congr hm "decode_pcm" "multi_pcm"
    · exact getAudioSettingMode_congr hm "auto" "manual"
    · exact getAudioSettingMode_congr hm "auto" "manual"

theorem getSelectValue_congr {elem elem' : N} (h : firstAttribute elem' = firstAttribute elem) :
    getSelectValue elem' = getSelectValue elem := by
  unfold getSelectValue
  rw [h]

theorem getAudioSettingSelect_congr {port : Port} {doc doc' : List N}
    (h : (elementAt port.element doc').map firstAttribute =
      (elementAt port.element doc).map firstAttribute) :
    getAudioSettingSelect port doc' = getAudioSettingSelect port doc := by
  unfold getAudioSettingSelect
  cases he : elementAt port.element doc with
  | none =>
    rw [he] at h
    rw [Option.map_eq_none_iff.mp h]
  | some elem =>
    rw [he] at h
    obtain ⟨elem', he', hvalue⟩ := Option.map_eq_some_iff.mp h
    rw [he']
    exact congrArg some (getSelectValue_congr hvalue)

theorem getSelect_congr {doc doc' : List N}
    (hs : ∀ port : Port, (elementAt port.element doc').map firstAttribute =
      (elementAt port.element doc).map firstAttribute)
    (hd : partAt Port.bitstream.element "devices" doc' =
      partAt Port.bitstream.element "devices" doc) (device : Int) :
    getSelect device doc' = getSelect device doc := by
  unfold getSelect getAudioSettingBitstreamDevice
  rw [getAudioSettingSelect_congr (hs .decode), getAudioSettingSelect_congr (hs .bitstream),
    getAudioSettingEntry_congr hd, getAudioSettingEntry_congr hd]

/-! ## What `setSelect` leaves alone -/

theorem markSelect_partAt {port : Port} {ch : String} {doc doc' : List N}
    (h : markSelect port ch doc = some doc') (name part : String) :
    partAt name part doc' = partAt name part doc := by
  refine partAt_onElement (fun a b hb => ?_) (setSelectValue_inPlace ch) h
  cases hb
  rcases setSelectValue_eq ch a with he | he
  · rw [he]
  · rw [he, children_withFirstAttribute]

theorem setAudioSettingSelect_partAt {port : Port} {doc doc' : List N}
    (h : setAudioSettingSelect port doc = some doc') (name part : String) :
    partAt name part doc' = partAt name part doc := by
  unfold setAudioSettingSelect at h
  cases port with
  | decode =>
    obtain ⟨doc1, h1, h2⟩ := Option.bind_eq_some_iff.mp h
    exact (markSelect_partAt h2 name part).trans (markSelect_partAt h1 name part)
  | bitstream =>
    obtain ⟨doc1, h1, h2⟩ := Option.bind_eq_some_iff.mp h
    exact (markSelect_partAt h2 name part).trans (markSelect_partAt h1 name part)

/-- `setSelect` sets the attributes, and for a bitstream output edits two lists. -/
theorem setSelect_cases (device : Int) (doc : List N) :
    (device = 0 ∧ setSelect device doc = setAudioSettingSelect .decode doc) ∨
    (∃ ch close, (device = 1 ∧ ch = "hdmi" ∨ device = 2 ∧ ch = "spdif") ∧
      (close = 0 ∨ close = 1) ∧ setSelect device doc = selectBitstream ch close doc) ∨
    (devicePort device = none ∧ setSelect device doc = some doc) := by
  unfold setSelect
  by_cases h0 : device = 0
  · exact Or.inl ⟨h0, if_pos h0⟩
  · rw [if_neg h0]
    by_cases h1 : device = 1
    · rw [if_pos h1]
      exact Or.inr (Or.inl ⟨"hdmi", 0, Or.inl ⟨h1, rfl⟩, Or.inl rfl, rfl⟩)
    · rw [if_neg h1]
      by_cases h2 : device = 2
      · rw [if_pos h2]
        exact Or.inr (Or.inl ⟨"spdif", 1, Or.inr ⟨h2, rfl⟩, Or.inr rfl, rfl⟩)
      · rw [if_neg h2]
        refine Or.inr (Or.inr ⟨?_, rfl⟩)
        unfold devicePort
        rw [if_neg h0, if_neg (by omega)]

/-- The stages of a `setSelect` of a bitstream output. -/
theorem selectBitstream_stages {ch : String} {close : Int} (hc : close = 0 ∨ close = 1)
    {doc doc' : List N} (h : selectBitstream ch close doc = some doc') :
    ∃ doc1 doc2, setAudioSettingSelect .bitstream doc = some doc1 ∧
      onPart Port.bitstream.element "devices" (ensureDevice ch) doc1 = some doc2 ∧
      onPart Port.bitstream.element "formats" (syncEntry close "MLP") doc2 = some doc' := by
  rw [selectBitstream_eq ch hc] at h
  obtain ⟨doc1, h1, h⟩ := Option.bind_eq_some_iff.mp h
  obtain ⟨doc2, h2, h3⟩ := Option.bind_eq_some_iff.mp h
  exact ⟨doc1, doc2, h1, h2, h3⟩

theorem setSelect_parts {device : Int} {doc doc' : List N} (h : setSelect device doc = some doc')
    (port : Port) (part : String)
    (ht : ¬ (port = .bitstream ∧ (part = "devices" ∨ part = "formats"))) :
    partAt port.element part doc' = partAt port.element part doc := by
  rcases setSelect_cases device doc with ⟨_, he⟩ | ⟨ch, close, _, hc, he⟩ | ⟨_, he⟩
  · rw [he] at h
    exact setAudioSettingSelect_partAt h _ part
  · rw [he] at h
    obtain ⟨doc1, doc2, h1, h2, h3⟩ := selectBitstream_stages hc h
    have hd := (frame_onPart (ensureDevice_inPlace ch) h2).parts port part
      fun hp => ht ⟨hp.1, Or.inl hp.2⟩
    have hf := (frame_onPart (syncEntry_inPlace close "MLP") h3).parts port part
      fun hp => ht ⟨hp.1, Or.inr hp.2⟩
    exact hf.trans (hd.trans (setAudioSettingSelect_partAt h1 _ part))
  · rw [he] at h
    cases h
    rfl

/-! ## Calls as sequences of edits -/

/-- One change of the document: the text of an attribute, or an edit of one part. -/
inductive Edit (doc doc' : List N) : Prop
  | select (port : Port) (ch : String) (h : markSelect port ch doc = some doc')
  | format (port : Port) (close : Int) (ch : String)
      (h : onPart port.element "formats" (editFormat close ch) doc = some doc')
  | mode (port : Port) (zero one : String) (mode : Int)
      (h : setAudioSettingMode port zero one mode doc = some doc')
  | device (ch : String) (h : setAudioSettingBitstreamDevice ch doc = some doc')

abbrev Edits : List N → List N → Prop := Relation.ReflTransGen Edit

/-- What every edit keeps, edits in a row keep. -/
theorem Edits.inv {I : List N → Prop} (hI : ∀ doc doc', I doc → Edit doc doc' → I doc')
    {doc doc' : List N} (h : Edits doc doc') (h0 : I doc) : I doc' := by
  induction h with
  | refl => exact h0
  | tail _ he ih => exact hI _ _ ih he

theorem setAudioSettingSelect_edits {port : Port} {doc doc' : List N}
    (h : setAudioSettingSelect port doc = some doc') : Edits doc doc' := by
  unfold setAudioSettingSelect at h
  cases port with
  | decode =>
    obtain ⟨doc1, h1, h2⟩ := Option.bind_eq_some_iff.mp h
    exact .tail (.single (.select .decode "yes" h1)) (.select .bitstream "no" h2)
  | bitstream =>
    obtain ⟨doc1, h1, h2⟩ := Option.bind_eq_some_iff.mp h
    exact .tail (.single (.select .decode "no" h1)) (.select .bitstream "yes" h2)

theorem setAudioSettingFormat_edits {port : Port} {close : Int} {ch : String} {doc doc' : List N}
    (h : setAudioSettingFormat port close ch doc = some doc') : Edits doc doc' := by
  by_cases hc : close = 0 ∨ close = 1
  · rw [setAudioSettingFormat_eq port hc] at h
    exact .single (.format port close ch h)
  · rw [setAudioSettingFormat_other port hc] at h
    cases h
    exact .refl

theorem syncFormat_edits {close : Int} {ch : String} {doc doc' : List N}
    (h : syncFormat close ch doc = some doc') : Edits doc doc' := by
  obtain ⟨support, _, h⟩ := Option.bind_eq_some_iff.mp h
  split at h
  · exact setAudioSettingFormat_edits h
  · cases h
    exact .refl

theorem selectBitstream_edits {ch : String} {close : Int} (hc : close = 0 ∨ close = 1)
    {doc doc' : List N} (h : selectBitstream ch close doc = some doc') : Edits doc doc' := by
  obtain ⟨doc1, doc2, h1, h2, h3⟩ := selectBitstream_stages hc h
  have hdevice : Edits doc1 doc2 := by
    rcases onPart_ite_cases h2 with h2 | rfl
    · exact .single (.device ch h2)
    · exact .refl
  rw [← syncFormat_eq hc] at h3
  exact (setAudioSettingSelect_edits h1).trans (hdevice.trans (syncFormat_edits h3))

theorem updataFormatForEdid_edits {edid : ParsedEdid} {doc doc' : List N}
    (h : updataFormatForEdid edid doc = some doc') : Edits doc doc' := by
  unfold updataFormatForEdid updataFormatForAutoMode at h
  split at h
  · generalize mSupportHdmiLevel = levels at h
    induction levels generalizing doc with
    | nil =>
      cases h
      exact .refl
    | cons level levels ih =>
      rw [List.foldlM_cons] at h
      obtain ⟨doc1, h1, h⟩ := Option.bind_eq_some_iff.mp h
      exact (syncFormat_edits h1).trans (ih h)
  · cases h
    exact .refl

theorem step_edits {call : Call} {doc doc' : List N} (h : step doc call = some doc') :
    Edits doc doc' := by
  cases call with
  | setSelect device =>
    rcases setSelect_cases device doc with ⟨_, he⟩ | ⟨ch, close, _, hc, he⟩ | ⟨_, he⟩
    · exact setAudioSettingSelect_edits (he.symm.trans h)
    · exact selectBitstream_edits hc (he.symm.trans h)
    · cases he.symm.trans h
      exact .refl
  | setFormat device close format =>
    cases hp : devicePort device with
    | none =>
      cases (setFormat_of_none hp close format doc).symm.trans h
      exact .refl
    | some port =>
      exact setAudioSettingFormat_edits ((setFormat_of_port hp close format doc).symm.trans h)
  | setMode device mode =>
    rcases setMode_cases device mode doc with ⟨zero, one, _, he⟩ | ⟨zero, one, _, he⟩ | he
    · exact .single (.mode .decode zero one mode (he.symm.trans h))
    · exact .single (.mode .bitstream zero one mode (he.symm.trans h))
    · cases he.symm.trans h
      exact .refl
  | updataFormatForEdid edid => exact updataFormatForEdid_edits h

theorem run_edits {calls : List Call} :
    ∀ {doc doc' : List N}, calls.foldlM step doc = some doc' → Edits doc doc' := by
  induction calls with
  | nil =>
    intro doc doc' h
    cases h
    exact .refl
  | cons call calls ih =>
    intro doc doc' h
    rw [List.foldlM_cons] at h
    obtain ⟨doc1, h1, h⟩ := Option.bind_eq_some_iff.mp h
    exact (step_edits h1).trans (ih h)

/-! ## What edits keep -/

theorem Edit.partAt_isSome {doc doc' : List N} (h : Edit doc doc') {name part : String}
    (hs : (partAt name part doc).isSome) : (partAt name part doc').isSome := by
  cases h with
  | select port ch h =>
    rw [markSelect_partAt h]
    exact hs
  | format port close ch h => exact partAt_isSome_onPart (editFormat_inPlace close ch) h hs
  | mode port zero one mode h => exact partAt_isSome_onPart (replaceMode_inPlace zero one mode) h hs
  | device ch h => exact partAt_isSome_onPart (replaceFirstDevice_inPlace ch) h hs

/-- Both ports have a list of formats, with `P`. -/
def FormatsHold (P : N → Prop) (doc : List N) : Prop :=
  ∀ port : Port, ∃ list, partAt port.element "formats" doc = some list ∧ P list

/-- A property of lists that adds and deletes keep. -/
def KeptByEdits (P : N → Prop) : Prop :=
  ∀ close format list list', P list → editFormat close format list = some list' → P list'

variable {P : N → Prop}

theorem KeptByEdits.syncEntry (hP : KeptByEdits P) {close : Int} {ch : String} {list list' : N}
    (h : P list) (hs : syncEntry close ch list = some list') : P list' := by
  unfold RkAudioSettingManager.syncEntry at hs
  split at hs
  · exact hP close ch list list' h hs
  · cases hs
    exact h

theorem FormatsHold.of_eq {doc doc' : List N} (h : FormatsHold P doc)
    (he : ∀ port : Port, partAt port.element "formats" doc' = partAt port.element "formats" doc) :
    FormatsHold P doc' := by
  intro port
  obtain ⟨list, hlist, hp⟩ := h port
  exact ⟨list, (he port).trans hlist, hp⟩

theorem FormatsHold.frame {touched : Port → String → Prop} {doc doc' : List N}
    (h : FormatsHold P doc) (hf : Frame touched doc doc')
    (ht : ∀ port, ¬ touched port "formats") : FormatsHold P doc' :=
  h.of_eq fun port => hf.parts port "formats" (ht port)

theorem FormatsHold.edit (hP : KeptByEdits P) {doc doc' : List N} (h : FormatsHold P doc)
    (he : Edit doc doc') : FormatsHold P doc' := by
  have hmode : "formats" ≠ "mode" := by decide
  have hdevices : "formats" ≠ "devices" := by decide
  cases he with
  | select port ch he => exact h.of_eq fun port' => markSelect_partAt he _ _
  | mode port zero one mode he =>
    exact h.frame (frame_onPart (replaceMode_inPlace zero one mode) he) fun _ ht => hmode ht.2
  | device ch he =>
    have hpart : onPart Port.bitstream.element "devices" (replaceFirstDevice ch) doc = some doc' :=
      he
    exact h.frame (frame_onPart (replaceFirstDevice_inPlace ch) hpart) fun _ ht => hdevices ht.2
  | format port close ch he =>
    have hf : InPlace (editFormat close ch : N → Option N) := editFormat_inPlace close ch
    intro port'
    obtain ⟨list, hlist, hp⟩ := h port'
    by_cases hport : port' = port
    · subst hport
      obtain ⟨list', hlist', hedit⟩ := partAt_onPart_some hf hlist he
      exact ⟨list', hlist', hP close ch list list' hp hedit⟩
    · have hsame := (frame_onPart hf he).parts port' "formats" fun ht => hport ht.1
      exact ⟨list, hsame.trans hlist, hp⟩

theorem FormatsHold.edits (hP : KeptByEdits P) {doc doc' : List N} (h : FormatsHold P doc)
    (he : Edits doc doc') : FormatsHold P doc' :=
  he.inv (fun _ _ h he => h.edit hP he) h

end RockchipHal.Sound.RkAudioSettingManager
