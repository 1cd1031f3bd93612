import Mathlib.Data.Finset.Dedup
import Mathlib.Data.Fintype.EquivFin
import RockchipHal.Sound.FormatLists

/-!
# `RkAudioSettingManager`: documents the calls get through

The getters need the parts of both ports (`tolerated_iff`): their loops skip a node without a
child.  The calls that change the document need more.  The loop of `delectFormatNode` reads
the child of every node, `addFormatNode` needs the list to be an element, and
`setAudioSettingBitstreamDevice` needs a first device:

    Tolerated doc → ((∀ call, it returns, and Tolerated afterwards) ↔ Editable doc)
                                                                     (calls_return_iff)
-/

namespace RockchipHal.Sound.RkAudioSettingManager

open Dom

variable {N : Type} [Dom N]

/-- The getters and the device lookups return, whatever they are asked. -/
structure Tolerated (doc : List N) : Prop where
  getSelect : ∀ device, (getSelect device doc).isSome
  getFormat : ∀ device format, (getFormat device format doc).isSome
  getMode : ∀ device, (getMode device doc).isSome
  decodeDevice : ∀ device, (getAudioSettingDecodeDevice device doc).isSome
  bitstreamDevice : ∀ device, (getAudioSettingBitstreamDevice device doc).isSome

/-- Both lists of formats are elements with no empty node from the first `format` on, and
there is a device to replace. -/
structure Editable (doc : List N) : Prop where
  formats : FormatsHold Walkable doc
  device : ∀ list, partAt Port.bitstream.element "devices" doc = some list →
    (firstChildNamed "device" list).isSome

/-- The parts the getters look at. -/
structure HasParts (doc : List N) : Prop where
  mode : ∀ port : Port, (partAt port.element "mode" doc).isSome
  formats : ∀ port : Port, (partAt port.element "formats" doc).isSome
  devices : ∀ port : Port, (partAt port.element "devices" doc).isSome

theorem getAudioSettingEntry_isSome (port : Port) (list entry ch : String) (doc : List N) :
    (getAudioSettingEntry port list entry ch doc).isSome =
      (partAt port.element list doc).isSome := by
  rw [getAudioSettingEntry_eq, Option.isSome_map]

theorem getAudioSettingMode_isSome (port : Port) (zero one : String) (doc : List N) :
    (getAudioSettingMode port zero one doc).isSome = (partAt port.element "mode" doc).isSome := by
  unfold getAudioSettingMode
  cases partAt port.element "mode" doc <;> rfl

theorem elementAt_of_partAt {name part : String} {doc : List N}
    (h : (partAt name part doc).isSome) : (elementAt name doc).isSome := by
  obtain ⟨m, hm⟩ := Option.isSome_iff_exists.mp h
  obtain ⟨e, he, _⟩ := Option.bind_eq_some_iff.mp hm
  rw [he]
  rfl

theorem HasParts.elements {doc : List N} (h : HasParts doc) (port : Port) :
    (elementAt port.element doc).isSome := elementAt_of_partAt (h.mode port)

theorem getAudioSettingSelect_isSome (port : Port) (doc : List N) :
    (getAudioSettingSelect port doc).isSome = (elementAt port.element doc).isSome := by
  unfold getAudioSettingSelect
  cases elementAt port.element doc <;> rfl

theorem HasParts.getSelect {doc : List N} (h : HasParts doc) (device : Int) :
    (getSelect device doc).isSome := by
  have hselect : ∀ port : Port, (getAudioSettingSelect port doc).isSome := fun port =>
    (getAudioSettingSelect_isSome port doc).trans (h.elements port)
  have hdevice : ∀ ch, (getAudioSettingBitstreamDevice ch doc).isSome := fun ch =>
    (getAudioSettingEntry_isSome .bitstream "devices" "device" ch doc).trans (h.devices .bitstream)
  have houtput : ∀ ch, (do
      if (← getAudioSettingSelect .bitstream doc) = 1 then getAudioSettingBitstreamDevice ch doc
      else return 0 : Option Int).isSome := by
    intro ch
    obtain ⟨select, hs⟩ := Option.isSome_iff_exists.mp (hselect .bitstream)
    rw [hs]
    show (if select = 1 then getAudioSettingBitstreamDevice ch doc else some 0).isSome
    split
    · exact hdevice ch
    · rfl
  unfold RkAudioSettingManager.getSelect
  split
  · exact hselect .decode
  · split
    · exact houtput "hdmi"
    · split
      · exact houtput "spdif"
      · rfl

theorem tolerated_iff (doc : List N) : Tolerated doc ↔ HasParts doc := by
  constructor
  · intro h
    refine ⟨fun port => ?_, fun port => ?_, fun port => ?_⟩
    · cases port with
      | decode =>
        exact (getAudioSettingMode_isSome .decode "decode_pcm" "multi_pcm" doc).symm.trans
          (h.getMode 0)
      | bitstream =>
        exact (getAudioSettingMode_isSome .bitstream "auto" "manual" doc).symm.trans (h.getMode 1)
    · cases port with
      | decode =>
        exact (getAudioSettingEntry_isSome .decode "formats" "format" "" doc).symm.trans
          (h.getFormat 0 "")
      | bitstream =>
        exact (getAudioSettingEntry_isSome .bitstream "formats" "format" "" doc).symm.trans
          (h.getFormat 1 "")
    · cases port with
      | decode =>
        exact (getAudioSettingEntry_isSome .decode "devices" "device" "" doc).symm.trans
          (h.decodeDevice "")
      | bitstream =>
        exact (getAudioSettingEntry_isSome .bitstream "devices" "device" "" doc).symm.trans
          (h.bitstreamDevice "")
  · intro h
    refine ⟨h.getSelect, fun device format => ?_, fun device => ?_, fun ch => ?_, fun ch => ?_⟩
    · cases hp : devicePort device with
      | none =>
        rw [getFormat_of_none hp]
        rfl
      | some port =>
        rw [getFormat_of_port hp, getAudioSettingEntry_isSome]
        exact h.formats port
    · unfold getMode
      split
      · exact (getAudioSettingMode_isSome .decode _ _ doc).trans (h.mode .decode)
      · split
        · exact (getAudioSettingMode_isSome .bitstream _ _ doc).trans (h.mode .bitstream)
        · split
          · exact (getAudioSettingMode_isSome .bitstream _ _ doc).trans (h.mode .bitstream)
          · rfl
    · exact (getAudioSettingEntry_isSome .decode _ _ ch doc).trans (h.devices .decode)
    · exact (getAudioSettingEntry_isSome .bitstream _ _ ch doc).trans (h.devices .bitstream)

/-! ## What the calls keep -/

theorem HasParts.step {call : Call} {doc doc' : List N} (h : HasParts doc)
    (hs : step doc call = some doc') : HasParts doc' := by
  have hkeeps : ∀ name part, (partAt name part doc).isSome → (partAt name part doc').isSome :=
    fun name part => (step_edits hs).inv fun _ _ h he => he.partAt_isSome h
  exact ⟨fun port => hkeeps _ _ (h.mode port), fun port => hkeeps _ _ (h.formats port),
    fun port => hkeeps _ _ (h.devices port)⟩

/-! ## What the calls need -/

theorem markSelect_returns {port : Port} (ch : String) {doc : List N}
    (h : (elementAt port.element doc).isSome) : ∃ doc', markSelect port ch doc = some doc' := by
  have hs := onElement_isSome (f := fun elem : N => some (setSelectValue ch elem)) port.element doc
  obtain ⟨e, he⟩ := Option.isSome_iff_exists.mp h
  rw [he] at hs
  exact Option.isSome_iff_exists.mp hs

theorem setAudioSettingSelect_returns {doc : List N}
    (h : ∀ port : Port, (elementAt port.element doc).isSome) (port : Port) :
    ∃ doc', setAudioSettingSelect port doc = some doc' := by
  have hboth : ∀ first second, ∃ doc', (do
      markSelect .bitstream second (← markSelect .decode first doc)) = some doc' := by
    intro first second
    obtain ⟨doc1, h1⟩ := markSelect_returns first (h .decode)
    have hsame := elementAt_onElement_ne (setSelectValue_inPlace first)
      (Port.element_ne (show Port.decode ≠ .bitstream by decide)) h1
    obtain ⟨doc2, h2⟩ := markSelect_returns second (by rw [hsame]; exact h .bitstream)
    rw [h1]
    exact ⟨doc2, h2⟩
  cases port with
  | decode => exact hboth "yes" "no"
  | bitstream => exact hboth "no" "yes"

theorem ensureDevice_returns {ch : String} {list : N}
    (h : (firstChildNamed "device" list).isSome) : (ensureDevice ch list).isSome := by
  unfold ensureDevice
  split
  · unfold replaceFirstDevice
    rw [onChild_isSome]
    obtain ⟨node, hnode⟩ := Option.isSome_iff_exists.mp h
    rw [show (children list).find? (hasValue "device") = some node from hnode]
    rfl
  · rfl

/-- Without a first device there is none to find and none to replace. -/
theorem ensureDevice_needs {ch : String} {list : N} (h : (ensureDevice ch list).isSome) :
    (firstChildNamed "device" list).isSome := by
  by_contra hnone
  have hfind : (children list).find? (hasValue "device") = none :=
    Option.not_isSome_iff_eq_none.mp hnone
  have hall : ∀ node ∈ children list, (!hasValue "device" node) = true := by
    intro node hn
    have hno := List.find?_eq_none.mp hfind node hn
    rw [eq_false_of_ne_true hno]
    rfl
  have hsiblings : siblingsFrom "device" list = [] := List.dropWhile_eq_nil_iff.mpr hall
  have hnotfound : findText ch ([] : List N) ≠ 1 := Int.zero_ne_one
  unfold ensureDevice at h
  rw [hsiblings, if_pos hnotfound] at h
  unfold replaceFirstDevice at h
  rw [onChild_isSome, hfind] at h
  cases h

theorem Editable.setSelect_returns {doc : List N} (he : Editable doc) (h : HasParts doc)
    (device : Int) : ∃ doc', setSelect device doc = some doc' := by
  rcases setSelect_cases device doc with ⟨_, hs⟩ | ⟨ch, close, _, hc, hs⟩ | ⟨_, hs⟩
  · rw [hs]
    exact setAudioSettingSelect_returns h.elements .decode
  · obtain ⟨doc1, h1⟩ := setAudioSettingSelect_returns h.elements .bitstream
    have hparts := setAudioSettingSelect_partAt h1
    obtain ⟨devices, hdevices⟩ := Option.isSome_iff_exists.mp (h.devices .bitstream)
    obtain ⟨list, hlist, hw⟩ := he.formats .bitstream
    have h2 : (onPart Port.bitstream.element "devices" (ensureDevice ch) doc1).isSome := by
      rw [onPart_isSome, hparts, hdevices]
      exact ensureDevice_returns (he.device devices hdevices)
    obtain ⟨doc2, h2⟩ := Option.isSome_iff_exists.mp h2
    have hlist2 : partAt Port.bitstream.element "formats" doc2 = some list := by
      rw [(frame_onPart (ensureDevice_inPlace ch) h2).parts .bitstream "formats"
        fun ht => absurd ht.2 (by decide), hparts]
      exact hlist
    have h3 : (onPart Port.bitstream.element "formats" (syncEntry close "MLP") doc2).isSome := by
      rw [onPart_isSome, hlist2]
      exact hw.syncEntry close "MLP"
    rw [hs, selectBitstream_eq ch hc, h1]
    show ∃ doc', (onPart _ _ _ doc1).bind _ = some doc'
    rw [h2]
    exact Option.isSome_iff_exists.mp h3
  · exact ⟨doc, hs⟩

theorem Editable.step_returns {doc : List N} (he : Editable doc) (h : HasParts doc) (call : Call) :
    ∃ doc', step doc call = some doc' := by
  cases call with
  | setSelect device => exact he.setSelect_returns h device
  | setFormat device close format =>
    exact Option.isSome_iff_exists.mp (setFormat_returns he.formats device close format)
  | setMode device mode => exact Option.isSome_iff_exists.mp (setMode_returns h.mode device mode)
  | updataFormatForEdid edid =>
    obtain ⟨list, hlist, hw⟩ := he.formats .bitstream
    exact updataFormatForEdid_returns hlist hw

/-- A list is walkable when an add to it returns, and a delete of what it does not have. -/
theorem walkable_of_returns {list : N}
    (h : ∀ close, close = 0 ∨ close = 1 → ∀ format, (editFormat close format list).isSome) :
    Walkable list := by
  refine ⟨(insertFormat_isSome "" list).mp (h 0 (Or.inl rfl) ""), ?_⟩
  obtain ⟨format, hfresh⟩ :=
    Infinite.exists_notMem_finset ((siblingsFrom "format" list).filterMap text).toFinset
  rw [List.mem_toFinset] at hfresh
  have hreach := (removeFormat_isSome format list).mp (h 1 (Or.inr rfl) format)
  have hall : (siblingsFrom "format" list).takeWhile (fun node => !hasText format node) =
      siblingsFrom "format" list := by
    refine List.takeWhile_eq_self_iff.mpr fun node hn => ?_
    have hno : hasText format node = false := by
      refine eq_false_of_ne_true fun ht => hfresh ?_
      exact List.mem_filterMap.mpr ⟨node, hn, of_decide_eq_true ht⟩
    rw [hno]
    rfl
  unfold Reaches at hreach
  rw [hall] at hreach
  exact hreach

theorem editable_of_returns {doc : List N} (h : HasParts doc)
    (hr : ∀ call, ∃ doc', step doc call = some doc') : Editable doc := by
  constructor
  · intro port
    obtain ⟨list, hlist⟩ := Option.isSome_iff_exists.mp (h.formats port)
    obtain ⟨device, hp⟩ := exists_devicePort port
    refine ⟨list, hlist, walkable_of_returns fun close hc format => ?_⟩
    obtain ⟨doc', hs⟩ := hr (.setFormat device close format)
    have hset : setFormat device close format doc = some doc' := hs
    rw [setFormat_of_port hp, setAudioSettingFormat_eq port hc] at hset
    obtain ⟨list', _, hedit⟩ := partAt_onPart_some (editFormat_inPlace close format) hlist hset
    rw [hedit]
    rfl
  · intro list hlist
    obtain ⟨doc', hs⟩ := hr (.setSelect 1)
    obtain ⟨doc1, doc2, h1, h2, _⟩ := selectBitstream_stages (Or.inl rfl)
      (show selectBitstream "hdmi" 0 doc = some doc' from hs)
    rw [← setAudioSettingSelect_partAt h1] at hlist
    obtain ⟨list', _, hedit⟩ := partAt_onPart_some (ensureDevice_inPlace "hdmi") hlist h2
    exact ensureDevice_needs (by rw [hedit]; rfl)

/-- Of the documents the getters get through, the calls get through the editable ones. -/
theorem calls_return_iff {doc : List N} (h : Tolerated doc) :
    (∀ call, ∃ doc', step doc call = some doc' ∧ Tolerated doc') ↔ Editable doc := by
  have hparts : HasParts doc := (tolerated_iff doc).mp h
  constructor
  · intro hr
    refine editable_of_returns hparts fun call => ?_
    obtain ⟨doc', hs, _⟩ := hr call
    exact ⟨doc', hs⟩
  · intro he call
    obtain ⟨doc', hs⟩ := he.step_returns hparts call
    exact ⟨doc', hs, (tolerated_iff doc').mpr (hparts.step hs)⟩

theorem calls_return_oneFormat :
    ∃ doc', step oneFormatConfig (.setSelect 2) = some doc' ∧ Tolerated doc' := by
  have hparts : HasParts oneFormatConfig := by
    refine ⟨fun port => ?_, fun port => ?_, fun port => ?_⟩ <;> cases port <;> rfl
  refine (calls_return_iff ((tolerated_iff oneFormatConfig).mpr hparts)).mpr ⟨?_, ?_⟩ (.setSelect 2)
  · intro port
    cases port with
    | decode => exact ⟨_, rfl, rfl, by decide⟩
    | bitstream => exact ⟨_, rfl, rfl, by decide⟩
  · intro list hlist
    cases hlist
    rfl

/-- A comment after the entry of a list. -/
def commentConfig : List XmlNode :=
  configOf
    (.element "decode" [("select", "yes")] [.element "mode" [] [.other "decode_pcm"],
      .element "formats" [] [.element "format" [] [.other "AC3"], .other "more formats"],
      .element "devices" [] [.element "device" [] [.other "speaker"]]])
    (sectionOf .bitstream "no" "auto" ["DTS"] ["hdmi"])

/-- The loop of `delectFormatNode` comes to the comment, which has no child. -/
theorem commentConfig_delete : Tolerated commentConfig ∧ setFormat 0 1 "DTS" commentConfig = none := by
  refine ⟨(tolerated_iff commentConfig).mpr ?_, rfl⟩
  refine ⟨fun port => ?_, fun port => ?_, fun port => ?_⟩ <;> cases port <;> rfl

end RockchipHal.Sound.RkAudioSettingManager
