import RockchipHal.Sound.CallReturns

/-!
# `RkAudioSettingManager`: the selected output

The output is coded in the attributes of the two ports and, for the bitstream, in the list of
devices.  `getSelect` looks through the whole list; `setSelect` leaves the list alone when it
has the device, and else replaces its first entry.  So a list with both devices has both
selected, and `setSelect` selects one alone when `SelectsAlone` says so of the list it
finds.  Later calls other than `setSelect` touch neither, so

    the calls return, and the output of the last `setSelect` is selected alone
      ↔ each call finds what it needs, and SelectsAlone          (lastSelect_exclusive_iff)
-/

namespace RockchipHal.Sound.RkAudioSettingManager

open Dom

variable {N : Type} [Dom N]

/-- `device` is selected, and no other. -/
def Exclusive (device : Int) (doc : List N) : Prop :=
  getSelect device doc = some 1 ∧
    ∀ other, other = 0 ∨ other = 1 ∨ other = 2 → other ≠ device → getSelect other doc = some 0

/-- The element of a port has a first attribute. -/
def HasSelects (doc : List N) : Prop :=
  ∀ port : Port, ∃ value, (elementAt port.element doc).map firstAttribute = some (some value)

/-- After `setSelect` the list of devices has `own` and not `other`: `own` is in it and
`other` is not, or the first entry is replaced and `other` is not behind it. -/
def Replaces (own other : String) (doc : List N) : Prop :=
  ∀ list, partAt Port.bitstream.element "devices" doc = some list →
    if own ∈ entries "device" list then other ∉ entries "device" list
    else ∃ first rest, siblingsFrom "device" list = first :: rest ∧ (text first).isSome ∧
      other ∉ rest.filterMap text

def SelectsAlone (device : Int) (doc : List N) : Prop :=
  (device = 1 → Replaces "hdmi" "spdif" doc) ∧ (device = 2 → Replaces "spdif" "hdmi" doc)

/-! ## The attributes -/

theorem markSelect_self {port : Port} {ch : String} {doc doc' : List N} {value : String}
    (hs : (elementAt port.element doc).map firstAttribute = some (some value))
    (h : markSelect port ch doc = some doc') :
    (elementAt port.element doc').map firstAttribute = some (some ch) := by
  obtain ⟨e, he, hv⟩ := Option.map_eq_some_iff.mp hs
  rw [elementAt_onElement_self (setSelectValue_inPlace ch) h, he, Option.bind_some, Option.map_some]
  unfold setSelectValue
  rw [hv]
  exact congrArg some (firstAttribute_withFirstAttribute e ch (by rw [hv]; rfl))

theorem markSelect_ne {port port' : Port} (hne : port ≠ port') {ch : String} {doc doc' : List N}
    (h : markSelect port ch doc = some doc') :
    elementAt port'.element doc' = elementAt port'.element doc :=
  elementAt_onElement_ne (setSelectValue_inPlace ch) (Port.element_ne hne) h

/-- The two texts `setAudioSettingSelect` leaves. -/
theorem setAudioSettingSelect_selects {port : Port} {doc doc' : List N} (hs : HasSelects doc)
    (h : setAudioSettingSelect port doc = some doc') :
    ∀ port' : Port, (elementAt port'.element doc').map firstAttribute =
      some (some (if port' = port then "yes" else "no")) := by
  have hboth : ∀ first second doc', (do
      markSelect .bitstream second (← markSelect .decode first doc)) = some doc' →
      (elementAt Port.decode.element doc').map firstAttribute = some (some first) ∧
        (elementAt Port.bitstream.element doc').map firstAttribute = some (some second) := by
    intro first second doc' h
    obtain ⟨doc1, h1, h2⟩ := Option.bind_eq_some_iff.mp h
    obtain ⟨value, hvalue⟩ := hs .decode
    obtain ⟨value', hvalue'⟩ := hs .bitstream
    rw [← markSelect_ne (show Port.decode ≠ .bitstream by decide) h1] at hvalue'
    refine ⟨?_, markSelect_self hvalue' h2⟩
    rw [markSelect_ne (show Port.bitstream ≠ .decode by decide) h2]
    exact markSelect_self hvalue h1
  intro port'
  cases port with
  | decode =>
    obtain ⟨hd, hb⟩ := hboth "yes" "no" doc' h
    cases port' with
    | decode => exact hd
    | bitstream => exact hb
  | bitstream =>
    obtain ⟨hd, hb⟩ := hboth "no" "yes" doc' h
    cases port' with
    | decode => exact hd
    | bitstream => exact hb

theorem getAudioSettingSelect_of {port : Port} {doc : List N} {value : String}
    (h : (elementAt port.element doc).map firstAttribute = some (some value)) :
    getAudioSettingSelect port doc = some (if value = "yes" then 1 else 0) := by
  obtain ⟨e, he, hv⟩ := Option.map_eq_some_iff.mp h
  unfold getAudioSettingSelect
  rw [he]
  show some (getSelectValue e) = _
  unfold getSelectValue
  rw [hv]

/-! ## The list of devices -/

theorem text_replaceDevice (device : String) (node : N) :
    text (replaceDevice device node) = (text node).map fun _ => device := by
  unfold replaceDevice
  cases hc : firstChild node with
  | none =>
    have ht : text node = none := by
      unfold text
      rw [hc]
      rfl
    show text node = (text node).map _
    rw [ht]
    rfl
  | some child =>
    have ht : text node = some (value child) := by
      unfold text
      rw [hc]
      rfl
    have hl : isElement node = true := isElement_of_text (by rw [ht]; rfl)
    show text (if isElement node then _ else node) = _
    rw [if_pos hl, ht]
    exact text_withChildren_newText hl device

theorem replaceDevice_inPlace (device : String) :
    InPlace fun node : N => some (replaceDevice device node) := by
  intro a b h
  cases h
  unfold replaceDevice
  split
  · split
    · exact ⟨value_withChildren a _, isElement_withChildren a _⟩
    · exact ⟨rfl, rfl⟩
  · exact ⟨rfl, rfl⟩

/-- The first entry is `device` afterwards if there was one, and the others are as before. -/
theorem replaceFirstDevice_siblings {device : String} {list list' : N}
    (h : replaceFirstDevice device list = some list') :
    ∃ first rest, siblingsFrom "device" list = first :: rest ∧
      entries "device" list' =
        ((text first).map fun _ => device).toList ++ rest.filterMap text := by
  obtain ⟨first, first', rest, hf, hs, hs'⟩ :=
    siblingsFrom_onChild (replaceDevice_inPlace device) h
  cases hf
  refine ⟨first, rest, hs, ?_⟩
  have ht := text_replaceDevice device first
  unfold entries
  rw [hs']
  cases hv : text first with
  | none =>
    rw [hv] at ht
    exact List.filterMap_cons_none ht
  | some value =>
    rw [hv] at ht
    exact List.filterMap_cons_some ht

/-- What `setSelect` leaves in the list, for the two devices it is about. -/
theorem ensureDevice_alone_iff {own other : String} (hne : other ≠ own) {list list' : N}
    (h : ensureDevice own list = some list') :
    (own ∈ entries "device" list' ∧ other ∉ entries "device" list') ↔
      if own ∈ entries "device" list then other ∉ entries "device" list
      else ∃ first rest, siblingsFrom "device" list = first :: rest ∧ (text first).isSome ∧
        other ∉ rest.filterMap text := by
  unfold ensureDevice at h
  rw [findText_eq] at h
  by_cases hm : own ∈ entries "device" list
  · rw [if_pos hm]
    rw [if_pos (show own ∈ List.filterMap text _ from hm), if_neg (by decide)] at h
    cases h
    exact and_iff_right hm
  · rw [if_neg hm]
    rw [if_neg (show own ∉ List.filterMap text _ from hm), if_pos (by decide)] at h
    obtain ⟨first, rest, hs, he⟩ := replaceFirstDevice_siblings h
    have hrest : own ∉ rest.filterMap text := by
      intro hr
      refine hm ?_
      unfold entries
      rw [hs]
      exact ((List.sublist_cons_self first rest).filterMap text).subset hr
    rw [he]
    constructor
    · rintro ⟨hown, hother⟩
      refine ⟨first, rest, hs, ?_, fun hr => hother (List.mem_append_right _ hr)⟩
      cases ht : text first with
      | none =>
        rw [ht] at hown
        exact absurd hown hrest
      | some value => rfl
    · rintro ⟨first', rest', hs', ht, hother⟩
      cases hs.symm.trans hs'
      obtain ⟨value, hv⟩ := Option.isSome_iff_exists.mp ht
      rw [hv]
      refine ⟨List.mem_cons_self, fun hr => ?_⟩
      rcases List.mem_cons.mp hr with he' | hr
      · exact hne he'
      · exact hother hr

/-! ## One `setSelect` -/

theorem getSelect_bitstream {device : Int} {ch : String}
    (hd : device = 1 ∧ ch = "hdmi" ∨ device = 2 ∧ ch = "spdif") {doc : List N} {value : String}
    (hs : (elementAt Port.bitstream.element doc).map firstAttribute = some (some value)) :
    getSelect device doc =
      if value = "yes" then getAudioSettingBitstreamDevice ch doc else some 0 := by
  have hselect := getAudioSettingSelect_of hs
  rcases hd with ⟨rfl, rfl⟩ | ⟨rfl, rfl⟩
  · show (getAudioSettingSelect .bitstream doc).bind _ = _
    rw [hselect]
    by_cases hv : value = "yes"
    · rw [if_pos hv, if_pos hv]
      rfl
    · rw [if_neg hv, if_neg hv]
      rfl
  · show (getAudioSettingSelect .bitstream doc).bind _ = _
    rw [hselect]
    by_cases hv : value = "yes"
    · rw [if_pos hv, if_pos hv]
      rfl
    · rw [if_neg hv, if_neg hv]
      rfl

theorem getSelect_decode {doc : List N} {value : String}
    (hs : (elementAt Port.decode.element doc).map firstAttribute = some (some value)) :
    getSelect 0 doc = some (if value = "yes" then 1 else 0) :=
  getAudioSettingSelect_of hs

theorem setSelect_decode_exclusive {doc doc' : List N} (hs : HasSelects doc)
    (h : setAudioSettingSelect .decode doc = some doc') : Exclusive 0 doc' := by
  have hselects := setAudioSettingSelect_selects hs h
  refine ⟨getSelect_decode (hselects .decode), fun other ho hne => ?_⟩
  have hbitstream := hselects .bitstream
  rcases ho with h0 | h1 | h2
  · exact absurd h0 hne
  · exact getSelect_bitstream (Or.inl ⟨h1, rfl⟩) hbitstream
  · exact getSelect_bitstream (Or.inr ⟨h2, rfl⟩) hbitstream

/-- With the bitstream marked, the list of devices decides. -/
theorem exclusive_bitstream_iff {device : Int} {own other : String}
    (hd : device = 1 ∧ own = "hdmi" ∧ other = "spdif" ∨
      device = 2 ∧ own = "spdif" ∧ other = "hdmi")
    {doc : List N} (hselects : ∀ port : Port, (elementAt port.element doc).map firstAttribute =
      some (some (if port = .bitstream then "yes" else "no")))
    {list : N} (hlist : partAt Port.bitstream.element "devices" doc = some list) :
    Exclusive device doc ↔ own ∈ entries "device" list ∧ other ∉ entries "device" list := by
  have hbitstream := hselects .bitstream
  have hanswer : ∀ device ch, (device = 1 ∧ ch = "hdmi" ∨ device = 2 ∧ ch = "spdif") →
      getSelect device doc = some (if ch ∈ entries "device" list then 1 else 0) := by
    intro device ch hdev
    have hlookup := getAudioSettingEntry_eq .bitstream "devices" "device" ch doc
    rw [hlist] at hlookup
    exact (getSelect_bitstream hdev hbitstream).trans hlookup
  have hzero : getSelect 0 doc = some 0 := getSelect_decode (hselects .decode)
  have hown : getSelect device doc = some (if own ∈ entries "device" list then 1 else 0) :=
    hanswer device own (hd.imp (fun h => ⟨h.1, h.2.1⟩) fun h => ⟨h.1, h.2.1⟩)
  have hother : getSelect (3 - device) doc =
      some (if other ∈ entries "device" list then 1 else 0) := by
    refine hanswer (3 - device) other ?_
    rcases hd with ⟨rfl, _, rfl⟩ | ⟨rfl, _, rfl⟩
    · exact Or.inr ⟨rfl, rfl⟩
    · exact Or.inl ⟨rfl, rfl⟩
  have hdevice : device = 1 ∨ device = 2 := hd.imp And.left And.left
  constructor
  · rintro ⟨hone, hrest⟩
    have hthree := hrest (3 - device) (by omega) (by omega)
    rw [hown] at hone
    rw [hother] at hthree
    refine ⟨by_contra fun hm => ?_, fun hm => ?_⟩
    · rw [if_neg hm] at hone
      cases hone
    · rw [if_pos hm] at hthree
      cases hthree
  · rintro ⟨hm, hm'⟩
    refine ⟨by rw [hown, if_pos hm], fun e he hne => ?_⟩
    rcases (show e = 0 ∨ e = 3 - device by omega) with rfl | rfl
    · exact hzero
    · rw [hother, if_neg hm']

/-- The list of devices and the attributes after the `setSelect` of a bitstream output. -/
theorem selectBitstream_after {own : String} {close : Int} (hc : close = 0 ∨ close = 1)
    {doc doc' : List N} (hs : HasSelects doc) (h : selectBitstream own close doc = some doc') :
    ∃ list list', partAt Port.bitstream.element "devices" doc = some list ∧
      ensureDevice own list = some list' ∧
      partAt Port.bitstream.element "devices" doc' = some list' ∧
      ∀ port : Port, (elementAt port.element doc').map firstAttribute =
        some (some (if port = .bitstream then "yes" else "no")) := by
  obtain ⟨doc1, doc2, h1, h2, h3⟩ := selectBitstream_stages hc h
  have hframe2 := frame_onPart (ensureDevice_inPlace own) h2
  have hframe3 := frame_onPart (syncEntry_inPlace close "MLP") h3
  obtain ⟨list, hlist⟩ : ∃ list, partAt Port.bitstream.element "devices" doc1 = some list := by
    cases hl : partAt Port.bitstream.element "devices" doc1 with
    | none =>
      rw [onPart_of_none hl] at h2
      cases h2
    | some list => exact ⟨list, rfl⟩
  obtain ⟨list', hlist', hedit⟩ := partAt_onPart_some (ensureDevice_inPlace own) hlist h2
  rw [setAudioSettingSelect_partAt h1] at hlist
  have hdevices := hframe3.parts .bitstream "devices" fun ht => absurd ht.2 (by decide)
  exact ⟨list, list', hlist, hedit, hdevices.trans hlist', fun port =>
    (hframe3.selects port).trans ((hframe2.selects port).trans
      (setAudioSettingSelect_selects hs h1 port))⟩

theorem selectBitstream_exclusive_iff {device : Int} {own other : String}
    (hd : device = 1 ∧ own = "hdmi" ∧ other = "spdif" ∨
      device = 2 ∧ own = "spdif" ∧ other = "hdmi")
    {close : Int} (hc : close = 0 ∨ close = 1) {doc doc' : List N} (hs : HasSelects doc)
    (h : selectBitstream own close doc = some doc') :
    Exclusive device doc' ↔ Replaces own other doc := by
  obtain ⟨list, list', hlist, hedit, hlist', hselects⟩ := selectBitstream_after hc hs h
  have hne : other ≠ own := by
    rcases hd with ⟨_, rfl, rfl⟩ | ⟨_, rfl, rfl⟩ <;> decide
  rw [exclusive_bitstream_iff hd hselects hlist', ensureDevice_alone_iff hne hedit]
  unfold Replaces
  rw [hlist]
  exact ⟨fun h l hl => Option.some.inj hl ▸ h, fun h => h list rfl⟩

theorem setSelect_exclusive_iff {device : Int} (hd : device = 0 ∨ device = 1 ∨ device = 2)
    {doc doc' : List N} (hs : HasSelects doc) (h : setSelect device doc = some doc') :
    Exclusive device doc' ↔ SelectsAlone device doc := by
  unfold SelectsAlone
  rcases hd with rfl | rfl | rfl
  · exact iff_of_true (setSelect_decode_exclusive hs h)
      ⟨fun h1 => absurd h1 (by decide), fun h2 => absurd h2 (by decide)⟩
  · rw [selectBitstream_exclusive_iff (Or.inl ⟨rfl, rfl, rfl⟩) (Or.inl rfl) hs h]
    exact ⟨fun hr => ⟨fun _ => hr, fun h2 => absurd h2 (by decide)⟩, fun hr => hr.1 rfl⟩
  · rw [selectBitstream_exclusive_iff (Or.inr ⟨rfl, rfl, rfl⟩) (Or.inr rfl) hs h]
    exact ⟨fun hr => ⟨fun h1 => absurd h1 (by decide), fun _ => hr⟩, fun hr => hr.2 rfl⟩

/-! ## Runs -/

/-- A `setSelect` of one of the three outputs. -/
def Call.Selects : Call → Prop
  | .setSelect device => device = 0 ∨ device = 1 ∨ device = 2
  | .setFormat _ _ _ | .setMode _ _ | .updataFormatForEdid _ => False

theorem HasSelects.edit {doc doc' : List N} (hs : HasSelects doc) (h : Edit doc doc') :
    HasSelects doc' := by
  have hframe : ∀ touched, Frame touched doc doc' → HasSelects doc' := by
    intro touched hf port
    obtain ⟨value, hv⟩ := hs port
    exact ⟨value, (hf.selects port).trans hv⟩
  cases h with
  | select port ch h =>
    intro port'
    obtain ⟨value, hv⟩ := hs port'
    by_cases hp : port = port'
    · subst hp
      exact ⟨ch, markSelect_self hv h⟩
    · rw [markSelect_ne hp h]
      exact ⟨value, hv⟩
  | format port close ch h => exact hframe _ (frame_onPart (editFormat_inPlace close ch) h)
  | mode port zero one mode h => exact hframe _ (frame_onPart (replaceMode_inPlace zero one mode) h)
  | device ch h =>
    have hpart : onPart Port.bitstream.element "devices" (replaceFirstDevice ch) doc = some doc' := h
    exact hframe _ (frame_onPart (replaceFirstDevice_inPlace ch) hpart)

theorem run_hasSelects {calls : List Call} {doc doc' : List N} (hs : HasSelects doc)
    (h : calls.foldlM step doc = some doc') : HasSelects doc' :=
  (run_edits h).inv (fun _ _ hs he => hs.edit he) hs

theorem step_getSelect {call : Call} (hc : ¬ call.Selects) {doc doc' : List N}
    (h : step doc call = some doc') (device : Int) :
    getSelect device doc' = getSelect device doc := by
  have hframe : ∀ touched : Port → String → Prop, (∀ port, ¬ touched port "devices") →
      Frame touched doc doc' → getSelect device doc' = getSelect device doc :=
    fun touched ht hf => getSelect_congr hf.selects (hf.parts .bitstream "devices" (ht _)) device
  have hmode : "devices" ≠ "mode" := by decide
  have hformats : "devices" ≠ "formats" := by decide
  cases call with
  | setSelect other =>
    rcases setSelect_cases other doc with ⟨h0, _⟩ | ⟨_, _, hd, _, _⟩ | ⟨_, he⟩
    · exact absurd (Or.inl h0) hc
    · exact absurd (Or.inr (hd.imp And.left And.left)) hc
    · cases he.symm.trans h
      rfl
  | setFormat other close format =>
    exact hframe _ (fun _ ht => hformats ht.2) (setFormat_frame h)
  | setMode other mode => exact hframe _ (fun _ ht => hmode ht.2) (setMode_frame h)
  | updataFormatForEdid edid =>
    exact hframe _ (fun _ ht => hformats ht.2) (updataFormatForEdid_frame h)

theorem run_getSelect {calls : List Call} (hc : ∀ call ∈ calls, ¬ call.Selects) :
    ∀ {doc doc' : List N}, calls.foldlM step doc = some doc' → ∀ device,
      getSelect device doc' = getSelect device doc := by
  induction calls with
  | nil =>
    intro doc doc' h device
    cases h
    rfl
  | cons call calls ih =>
    intro doc doc' h device
    rw [List.foldlM_cons] at h
    obtain ⟨doc1, h1, h⟩ := Option.bind_eq_some_iff.mp h
    exact (ih (fun c hm => hc c (List.mem_cons_of_mem _ hm)) h device).trans
      (step_getSelect (hc call List.mem_cons_self) h1 device)

/-- In a run that gets to its end, the last `setSelect` decides. -/
theorem exclusive_after_iff {start before after : List N} (hs : HasSelects start)
    {pre post : List Call} {device : Int} (hd : device = 0 ∨ device = 1 ∨ device = 2)
    (hpost : ∀ call ∈ post, ¬ call.Selects) (hpre : pre.foldlM step start = some before)
    (hrun : (pre ++ .setSelect device :: post).foldlM step start = some after) :
    Exclusive device after ↔ SelectsAlone device before := by
  rw [List.foldlM_append, hpre] at hrun
  have hrun : (List.foldlM step before (.setSelect device :: post)) = some after := hrun
  rw [List.foldlM_cons] at hrun
  obtain ⟨selected, hselect, hlater⟩ := Option.bind_eq_some_iff.mp hrun
  rw [← setSelect_exclusive_iff hd (run_hasSelects hs hpre) hselect]
  have hsame := run_getSelect hpost hlater
  unfold Exclusive
  rw [hsame device]
  exact and_congr_right fun _ => forall_congr' fun other => by rw [hsame other]

theorem HasSelects.elements {doc : List N} (hs : HasSelects doc) (port : Port) :
    (elementAt port.element doc).isSome := by
  obtain ⟨value, hv⟩ := hs port
  obtain ⟨e, he, -⟩ := Option.map_eq_some_iff.mp hv
  rw [he]
  rfl

theorem run_isSome_iff {start : List N} (hs : HasSelects start) (calls : List Call) :
    (calls.foldlM step start).isSome ↔ ∀ done call rest doc, calls = done ++ call :: rest →
      done.foldlM step start = some doc → call.Returns doc := by
  rw [foldlM_isSome_iff]
  constructor
  · intro h done call rest doc hsplit hdone
    exact (step_isSome_iff (run_hasSelects hs hdone).elements call).mp (h _ _ _ _ hsplit hdone)
  · intro h done call rest doc hsplit hdone
    exact (step_isSome_iff (run_hasSelects hs hdone).elements call).mpr (h _ _ _ _ hsplit hdone)

/-- The calls return and then the output of the last `setSelect` is selected alone, exactly when
each call finds what it needs, and that `setSelect` a list of devices that lets it. -/
theorem lastSelect_exclusive_iff {start : List N} (hs : HasSelects start) {pre post : List Call}
    {device : Int} (hd : device = 0 ∨ device = 1 ∨ device = 2)
    (hpost : ∀ call ∈ post, ¬ call.Selects) :
    (∃ after, (pre ++ .setSelect device :: post).foldlM step start = some after ∧
      Exclusive device after) ↔
    (∀ done call rest doc, pre ++ .setSelect device :: post = done ++ call :: rest →
      done.foldlM step start = some doc → call.Returns doc) ∧
    ∀ before, pre.foldlM step start = some before → SelectsAlone device before := by
  rw [← run_isSome_iff hs]
  constructor
  · rintro ⟨after, hrun, hexclusive⟩
    refine ⟨by rw [hrun]; rfl, fun before hpre => ?_⟩
    exact (exclusive_after_iff hs hd hpost hpre hrun).mp hexclusive
  · rintro ⟨hreturns, halone⟩
    obtain ⟨after, hrun⟩ := Option.isSome_iff_exists.mp hreturns
    have hrun' := hrun
    rw [List.foldlM_append] at hrun'
    obtain ⟨before, hpre, -⟩ := Option.bind_eq_some_iff.mp hrun'
    exact ⟨after, hrun, (exclusive_after_iff hs hd hpost hpre hrun).mpr (halone before hpre)⟩

theorem lastSelect_exclusive_hdmi :
    ∃ after, ([Call.setSelect 2] ++ Call.setSelect 1 :: [Call.setMode 1 1]).foldlM step
      oneFormatConfig = some after ∧ Exclusive 1 after := by
  have hs : HasSelects oneFormatConfig := by
    intro port
    cases port with
    | decode => exact ⟨_, rfl⟩
    | bitstream => exact ⟨_, rfl⟩
  have hpost : ∀ call ∈ [Call.setMode 1 1], ¬ call.Selects := by
    intro call hc
    rw [List.mem_singleton.mp hc]
    exact id
  refine (lastSelect_exclusive_iff hs (Or.inr (Or.inl rfl)) hpost).mpr
    ⟨(run_isSome_iff hs _).mp rfl, fun before hbefore => ?_⟩
  cases hbefore
  refine ⟨fun _ list hlist => ?_, fun h2 => absurd h2 (by decide)⟩
  cases hlist
  rw [if_neg (by decide)]
  exact ⟨_, _, rfl, rfl, by decide⟩

def bothDevicesConfig : List XmlNode :=
  configOf (sectionOf .decode "yes" "decode_pcm" ["AAC"] ["speaker"])
    (sectionOf .bitstream "no" "auto" ["AC3"] ["hdmi", "spdif"])

/-- `MLP` is listed behind a comment. -/
def commentBeforeMlp : List XmlNode :=
  configOf (sectionOf .decode "yes" "decode_pcm" ["AAC"] ["speaker"])
    (.element "bitstream" [("select", "no")] [.element "mode" [] [.other "auto"],
      .element "formats" [] [.element "format" [] [.other "AC3"], .other "more formats",
        .element "format" [] [.other "MLP"]],
      .element "devices" [] [.element "device" [] [.other "spdif"]]])

/-- With both devices in the list both outputs are selected.  Where the delete of `MLP` comes to
a comment, `setSelect` does not return. -/
theorem lastSelect_bothSelected :
    HasSelects bothDevicesConfig ∧
    (∃ list, partAt Port.bitstream.element "devices" bothDevicesConfig = some list ∧
      entries "device" list ≠ [] ∧
        ∀ node ∈ children list, text node ≠ none ∧ text node ≠ some "") ∧
    (∃ doc', step bothDevicesConfig (.setSelect 1) = some doc' ∧
      getSelect 1 doc' = some 1 ∧ getSelect 2 doc' = some 1) ∧
    HasSelects commentBeforeMlp ∧ SelectsAlone 2 commentBeforeMlp ∧
    step commentBeforeMlp (.setSelect 2) = none := by
  have hselects : ∀ config : List XmlNode,
      (∃ value, (elementAt "decode" config).map firstAttribute = some (some value)) →
      (∃ value, (elementAt "bitstream" config).map firstAttribute = some (some value)) →
      HasSelects config := by
    intro config hdecode hbitstream port
    cases port with
    | decode => exact hdecode
    | bitstream => exact hbitstream
  refine ⟨hselects _ ⟨_, rfl⟩ ⟨_, rfl⟩, ⟨_, rfl, by decide, by decide⟩,
    ⟨_, (Option.some_get rfl).symm, rfl, rfl⟩, hselects _ ⟨_, rfl⟩ ⟨_, rfl⟩, ?_, rfl⟩
  refine ⟨fun h1 => absurd h1 (by decide), fun _ list hlist => ?_⟩
  cases hlist
  rw [if_pos (by decide)]
  decide

end RockchipHal.Sound.RkAudioSettingManager
