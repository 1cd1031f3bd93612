import RockchipHal.Sound.AbstractSettings

/-!
# The service does what the settings do

Every request to a document that holds settings returns, answers as they do and leaves the
document holding what they have become, so over any requests the service is its settings:

    Holds document settings → serveAll serveRequest document requests and
      serveAll serveSettings settings requests have the same answers     (requests_refine)

A service that is not ready answers 0 and does nothing.  A configuration in the form of the
system's file holds its texts (`represents_configOf`).
-/

namespace RockchipHal.Sound.RkAudioSettingManager

open Dom

variable {N : Type} [Dom N]

/-! ## Calls and getters -/

theorem Represents.selectOutput {doc : List N} {s : Settings} (h : Represents doc s) (ch : String)
    (mlp : Bool) :
    ∃ doc', selectBitstream ch (if mlp then 0 else 1) doc = some doc' ∧
      Represents doc' (s.selectOutput ch mlp) := by
  have hclose : (if mlp then (0 : Int) else 1) = 0 ∨ (if mlp then (0 : Int) else 1) = 1 := by
    cases mlp with
    | true => exact .inl rfl
    | false => exact .inr rfl
  obtain ⟨doc1, h1, hr1⟩ := h.selectPort .bitstream
  obtain ⟨doc2, h2, hr2⟩ := hr1.useDevice ch
  obtain ⟨doc3, h3, hr3⟩ := hr2.editFormats .bitstream
    (syncEntry_inPlace (if mlp then 0 else 1) "MLP")
    (fun list hw => hw.syncEntry _ "MLP") fun list list' formats hof he => hof.sync he
  refine ⟨doc3, ?_, hr3⟩
  rw [selectBitstream_eq ch hclose, h1, Option.bind_some, h2]
  exact h3

theorem Represents.call {doc : List N} {s : Settings} (h : Represents doc s) (c : Call) :
    ∃ doc', step doc c = some doc' ∧ Represents doc' (s.apply c) := by
  cases c with
  | setSelect device =>
    show ∃ doc', setSelect device doc = some doc' ∧ Represents doc' (s.setSelect device)
    unfold setSelect Settings.setSelect
    by_cases h0 : device = 0
    · rw [if_pos h0, if_pos h0]
      exact h.selectPort .decode
    · rw [if_neg h0, if_neg h0]
      by_cases h1 : device = 1
      · rw [if_pos h1, if_pos h1]
        exact h.selectOutput "hdmi" true
      · rw [if_neg h1, if_neg h1]
        by_cases h2 : device = 2
        · rw [if_pos h2, if_pos h2]
          exact h.selectOutput "spdif" false
        · rw [if_neg h2, if_neg h2]
          exact ⟨doc, rfl, h⟩
  | setFormat device close format =>
    show ∃ doc', setFormat device close format doc = some doc' ∧
      Represents doc' (s.setFormat device close format)
    unfold Settings.setFormat
    cases hp : devicePort device with
    | none =>
      rw [setFormat_of_none hp]
      exact ⟨doc, rfl, h⟩
    | some port =>
      rw [setFormat_of_port hp, Option.elim_some]
      by_cases hc : close = 0 ∨ close = 1
      · rw [setAudioSettingFormat_eq port hc]
        exact h.editFormats port (editFormat_inPlace close format)
          (fun list hw => hw.editFormat close format) fun list list' formats hof he =>
            hof.edit hc he
      · -- neither an add nor a delete
        have hsame : s.editFormats port (Settings.editEntries close format) = s := by
          have hid : Settings.editEntries close format = id := by
            funext formats
            unfold Settings.editEntries
            rw [if_neg (by omega), if_neg (by omega)]
            rfl
          unfold Settings.editFormats Settings.editPort
          rw [hid]
          exact congrArg (fun p => { s with port := p }) (Function.update_eq_self port s.port)
        rw [setAudioSettingFormat_other port hc, hsame]
        exact ⟨doc, rfl, h⟩
  | setMode device mode =>
    show ∃ doc', setMode device mode doc = some doc' ∧ Represents doc' (s.setMode device mode)
    unfold setMode Settings.setMode
    by_cases h0 : device = 0
    · rw [if_pos h0, if_pos h0]
      exact h.setPortMode .decode "decode_pcm" "multi_pcm" mode
    · rw [if_neg h0, if_neg h0]
      by_cases h1 : device = 1
      · rw [if_pos h1, if_pos h1]
        exact h.setPortMode .bitstream "auto" "manual" mode
      · rw [if_neg h1, if_neg h1]
        exact ⟨doc, rfl, h⟩
  | updataFormatForEdid edid =>
    show ∃ doc', updataFormatForEdid edid doc = some doc' ∧
      Represents doc' (s.updataFormatForEdid edid)
    unfold Settings.updataFormatForEdid
    by_cases hr : edid.result ≥ 0
    · rw [updataFormatForEdid_eq hr, if_pos hr]
      exact h.editFormats .bitstream (syncEntries_inPlace edid)
        (fun list hw => hw.syncEntries edid) fun list list' formats hof he => hof.syncAll he
    · rw [updataFormatForEdid_failed hr, if_neg hr]
      exact ⟨doc, rfl, h⟩

theorem Represents.getAudioSettingSelect {doc : List N} {s : Settings} (h : Represents doc s)
    (port : Port) : getAudioSettingSelect port doc = some (s.selected port) := by
  obtain ⟨e, he, hv⟩ := Option.map_eq_some_iff.mp (h.select port)
  unfold RkAudioSettingManager.getAudioSettingSelect
  rw [he]
  show some (getSelectValue e) = _
  unfold getSelectValue Settings.selected
  rw [hv]
  cases (s.port port).select with
  | none => rfl
  | some value => simp

theorem Represents.device {doc : List N} {s : Settings} (h : Represents doc s) (ch : String) :
    getAudioSettingBitstreamDevice ch doc = some (if s.listed ch then 1 else 0) := by
  obtain ⟨list, hlist, hdevices⟩ := h.devices
  have hlookup := getAudioSettingEntry_eq .bitstream "devices" "device" ch doc
  rw [hlist] at hlookup
  refine hlookup.trans ?_
  have hiff : ch ∈ entries "device" list ↔ s.listed ch = true := by
    unfold entries Settings.listed
    rw [← mem_map_text, hdevices, decide_eq_true_iff]
  exact congrArg some (if_congr hiff rfl rfl)

theorem Represents.output {doc : List N} {s : Settings} (h : Represents doc s) (ch : String) :
    (do
      if (← RkAudioSettingManager.getAudioSettingSelect .bitstream doc) = 1 then
        getAudioSettingBitstreamDevice ch doc
      else return 0) = some (s.outputSelected ch) := by
  rw [h.getAudioSettingSelect .bitstream, h.device ch]
  unfold Settings.outputSelected
  show (if s.selected .bitstream = 1 then _ else _) = _
  split <;> rfl

theorem Represents.modeAnswer {doc : List N} {s : Settings} (h : Represents doc s) (port : Port)
    (zero one : String) : getAudioSettingMode port zero one doc =
      some (Settings.modeAnswer zero one (s.port port).mode) := by
  obtain ⟨node, hnode, ht⟩ := Option.map_eq_some_iff.mp (h.mode port)
  unfold getAudioSettingMode
  rw [hnode]
  show some (modeOf zero one node) = _
  unfold modeOf
  rw [ht]
  cases (s.port port).mode <;> rfl

theorem Represents.serve {doc : List N} {s : Settings} (h : Represents doc s)
    (r : SettingRequest) :
    ∃ doc', serveDocument doc r = some (s.answer r, doc') ∧ Represents doc' (s.next r) := by
  cases r with
  | call c =>
    obtain ⟨doc', hdoc', hr⟩ := h.call c
    refine ⟨doc', ?_, hr⟩
    show (step doc c).map _ = _
    rw [hdoc']
    rfl
  | getSelect device =>
    refine ⟨doc, ?_, h⟩
    show (getSelect device doc).map _ = some (some (s.getSelect device), doc)
    unfold getSelect Settings.getSelect
    rw [h.output, h.output, h.getAudioSettingSelect]
    split
    · rfl
    · split
      · rfl
      · split <;> rfl
  | getFormat device format =>
    refine ⟨doc, ?_, h⟩
    show (getFormat device format doc).map _ = some (some (s.getFormat device format), doc)
    unfold Settings.getFormat
    cases hp : devicePort device with
    | none =>
      rw [getFormat_of_none hp]
      rfl
    | some port =>
      obtain ⟨list, hlist, hof⟩ := h.formats port
      rw [getFormat_eq hp hlist, hof.eq]
      rfl
  | getMode device =>
    refine ⟨doc, ?_, h⟩
    show (getMode device doc).map _ = some (some (s.getMode device), doc)
    unfold getMode Settings.getMode getAudioSettingDecodeMode getAudioSettingBitStreamMode
    rw [h.modeAnswer, h.modeAnswer]
    by_cases h0 : device = 0
    · rw [if_pos h0, if_pos h0]
      rfl
    · rw [if_neg h0, if_neg h0]
      by_cases h1 : device = 1
      · rw [if_pos h1, if_pos (.inl h1)]
        rfl
      · rw [if_neg h1]
        by_cases h2 : device = 2
        · rw [if_pos h2, if_pos (.inr h2)]
          rfl
        · rw [if_neg h2, if_neg (by omega)]
          rfl

/-! ## A configuration -/

theorem siblingsFrom_section (list entry : String) (texts : List String) :
    siblingsFrom entry (XmlNode.element list []
      (texts.map fun value => .element entry [] [.other value])) =
      texts.map fun value => XmlNode.element entry [] [.other value] := by
  cases texts with
  | nil => rfl
  | cons value texts =>
    refine List.dropWhile_cons_of_neg ?_
    have hv : hasValue entry (XmlNode.element entry [] [.other value]) = true :=
      (hasValue_iff _ _).mpr rfl
    rw [hv]
    exact Bool.false_ne_true

theorem formatsOf_section (formats : List String) :
    FormatsOf (XmlNode.element "formats" []
      (formats.map fun format => .element "format" [] [.other format])) formats := by
  refine ⟨⟨rfl, ?_⟩, ⟨rfl, ?_⟩, ?_⟩
  · rw [siblingsFrom_section]
    intro node hn _
    obtain ⟨format, _, rfl⟩ := List.mem_map.mp hn
    exact (hasValue_iff _ _).mpr rfl
  · rw [siblingsFrom_section]
    intro node hn
    obtain ⟨format, _, rfl⟩ := List.mem_map.mp hn
    rfl
  · unfold entries
    rw [siblingsFrom_section, List.filterMap_map]
    exact List.filterMap_some

/-- A configuration in the form of the system's file holds its texts. -/
theorem represents_configOf (select mode : Port → String) (formats : Port → List String)
    (decodeDevices : List String) (device : String) (others : List String) :
    Represents
      (configOf (sectionOf .decode (select .decode) (mode .decode) (formats .decode) decodeDevices)
        (sectionOf .bitstream (select .bitstream) (mode .bitstream) (formats .bitstream)
          (device :: others)))
      ⟨fun port => ⟨some (select port), some (mode port), formats port⟩, some device,
        others.map some⟩ := by
  refine ⟨fun port => ?_, fun port => ?_, fun port => ?_, ?_⟩
  · cases port <;> rfl
  · cases port <;> rfl
  · cases port with
    | decode => exact ⟨_, rfl, formatsOf_section (formats .decode)⟩
    | bitstream => exact ⟨_, rfl, formatsOf_section (formats .bitstream)⟩
  · refine ⟨_, rfl, ?_⟩
    rw [siblingsFrom_section, List.map_map]
    rfl

/-- The settings of `ac3Config`. -/
def ac3Settings : Settings :=
  ⟨fun port => match port with
    | .decode => ⟨some "yes", some "decode_pcm", ["AAC"]⟩
    | .bitstream => ⟨some "no", some "manual", ["WMAPRO", "AC3"]⟩, some "hdmi", []⟩

theorem ac3Config_represents : Represents ac3Config ac3Settings := by
  have h := represents_configOf (fun port => if port = .decode then "yes" else "no")
    (fun port => if port = .decode then "decode_pcm" else "manual")
    (fun port => if port = .decode then ["AAC"] else ["WMAPRO", "AC3"]) ["speaker"] "hdmi" []
  refine ⟨fun port => ?_, fun port => ?_, fun port => ?_, h.devices⟩
  · cases port <;> rfl
  · cases port <;> rfl
  · cases port with
    | decode => exact h.formats .decode
    | bitstream => exact h.formats .bitstream

/-! ## The service -/

/-- The settings a service has; it has none while `mXMLReady` is not set. -/
inductive Holds : Option (List N) → Option Settings → Prop
  | ready {doc : List N} {s : Settings} (h : Represents doc s) : Holds (some doc) (some s)
  | notReady : Holds none none

/-- The settings, or nothing, asked in the place of the service. -/
def serveSettings : Machine (Option Settings) SettingRequest (Option Int)
  | some s, r => some (s.answer r, some (s.next r))
  | none, r => some (r.val, none)

theorem serveRequest_simulates : Simulates (Holds (N := N)) serveRequest serveSettings := by
  intro document settings r h
  cases h with
  | ready h =>
    obtain ⟨doc', hserve, hr⟩ := h.serve r
    show Agree _ ((serveDocument _ r).map _) _
    rw [hserve]
    exact agree_some (.ready hr)
  | notReady => exact agree_some .notReady

theorem serveSettings_isSome (settings : Option Settings) (r : SettingRequest) :
    (serveSettings settings r).isSome := by
  cases settings <;> rfl

/-- The service answers any requests, as the settings do, and goes on holding them. -/
theorem requests_refine {document : Option (List N)} {settings : Option Settings}
    (h : Holds document settings) (requests : List SettingRequest) :
    ∃ answers document' settings',
      serveAll serveRequest document requests = some (answers, document') ∧
      serveAll serveSettings settings requests = some (answers, settings') ∧
      Holds document' settings' := by
  obtain ⟨⟨answers, settings'⟩, hanswers⟩ :=
    Option.isSome_iff_exists.mp (serveAll_isSome serveSettings_isSome requests settings)
  have hagree := serveRequest_simulates.serveAll requests document settings h
  rw [hanswers] at hagree
  obtain ⟨document', hserve, hholds⟩ := hagree.returns
  exact ⟨answers, document', settings', hserve, hanswers, hholds⟩

/-- The service is asked after the output was changed to SPDIF. -/
theorem requests_refine_spdif :
    ∃ document' settings', serveAll serveRequest (some ac3Config)
        [.call (.setSelect 2), .getSelect 2, .getSelect 1, .getFormat 2 "AC3"] =
          some ([none, some 1, some 0, some 1], document') ∧ Holds document' settings' := by
  obtain ⟨answers, document', settings', hserve, hanswers, hholds⟩ :=
    requests_refine (.ready ac3Config_represents)
      [.call (.setSelect 2), .getSelect 2, .getSelect 1, .getFormat 2 "AC3"]
  have hlist : answers = [none, some 1, some 0, some 1] :=
    congrArg Prod.fst (Option.some.inj hanswers).symm
  rw [hlist] at hserve
  exact ⟨document', settings', hserve, hholds⟩

end RockchipHal.Sound.RkAudioSettingManager
