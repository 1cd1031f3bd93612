import Mathlib.Logic.Function.Basic
import RockchipHal.Lib.Simulation
import RockchipHal.Sound.EdidSync
import RockchipHal.Sound.OutputSelect
import RockchipHal.Sound.SettingTolerance

/-!
# The settings behind the document

What the service is for, without a document: of each port an attribute, a mode and a list of
formats, and of the bitstream a list of devices.  `Settings.apply` says what a call does to
them and `Settings.answer` what a getter tells of them.  `Represents doc s` is the document
that holds the settings `s`.  An edit of the document is one of the settings:

    onPart .. "formats" f   editFormats                     (Represents.editFormats)
    setAudioSettingMode     setPortMode                     (Represents.setPortMode)
    setAudioSettingSelect   selectPort                      (Represents.selectPort)
    onPart .. "devices" f   useDevice                       (Represents.useDevice)
-/

namespace RockchipHal.Sound.RkAudioSettingManager

open Dom

variable {N : Type} [Dom N]

/-! ## The settings -/

/-- `none` is an attribute or a mode that is not there; it cannot be set either. -/
structure PortSettings where
  select : Option String
  mode : Option String
  formats : List String
deriving DecidableEq, Repr

/-- The first device of the bitstream and the other ones; `none` is an empty entry. -/
structure Settings where
  port : Port → PortSettings
  device : Option String
  others : List (Option String)

/-- A request to the service. -/
inductive SettingRequest
  | call (c : Call)
  | getSelect (device : Int)
  | getFormat (device : Int) (format : String)
  | getMode (device : Int)
deriving DecidableEq, Repr

namespace Settings

def listed (s : Settings) (ch : String) : Bool := some ch ∈ s.device :: s.others

def editPort (s : Settings) (port : Port) (f : PortSettings → PortSettings) : Settings :=
  { s with port := Function.update s.port port (f (s.port port)) }

def editFormats (s : Settings) (port : Port) (f : List String → List String) : Settings :=
  s.editPort port fun p => { p with formats := f p.formats }

def selectPort (s : Settings) (port : Port) : Settings :=
  { s with port := fun p => { s.port p with
      select := (s.port p).select.map fun _ => if p = port then "yes" else "no" } }

/-- A device that is not listed takes the place of the first one. -/
def useDevice (s : Settings) (ch : String) : Settings :=
  if s.listed ch then s else { s with device := s.device.map fun _ => ch }

/-- The bitstream selected for an output, with `MLP` in step. -/
def selectOutput (s : Settings) (ch : String) (mlp : Bool) : Settings :=
  ((s.selectPort .bitstream).useDevice ch).editFormats .bitstream (bring mlp "MLP")

def changeMode (zero one : String) (mode : Int) (old : Option String) : Option String :=
  old.map fun text => if mode = 0 then zero else if mode = 1 then one else text

def setPortMode (s : Settings) (port : Port) (zero one : String) (mode : Int) : Settings :=
  s.editPort port fun p => { p with mode := changeMode zero one mode p.mode }

def editEntries (close : Int) (format : String) (formats : List String) : List String :=
  if close = 1 then formats.erase format
  else if close = 0 then formats ++ [format]
  else formats

def setSelect (s : Settings) (device : Int) : Settings :=
  if device = 0 then s.selectPort .decode
  else if device = 1 then s.selectOutput "hdmi" true
  else if device = 2 then s.selectOutput "spdif" false
  else s

def setFormat (s : Settings) (device close : Int) (format : String) : Settings :=
  (devicePort device).elim s fun port => s.editFormats port (editEntries close format)

/-- There is no mode to set through device 2. -/
def setMode (s : Settings) (device mode : Int) : Settings :=
  if device = 0 then s.setPortMode .decode "decode_pcm" "multi_pcm" mode
  else if device = 1 then s.setPortMode .bitstream "auto" "manual" mode
  else s

def updataFormatForEdid (s : Settings) (edid : ParsedEdid) : Settings :=
  if edid.result ≥ 0 then
    s.editFormats .bitstream (bringAll (isSupportFormat edid.infors) mSupportHdmiLevel)
  else s

def apply (s : Settings) : Call → Settings
  | .setSelect device => s.setSelect device
  | .setFormat device close format => s.setFormat device close format
  | .setMode device mode => s.setMode device mode
  | .updataFormatForEdid edid => s.updataFormatForEdid edid

def selected (s : Settings) (port : Port) : Int :=
  if (s.port port).select = some "yes" then 1 else 0

def outputSelected (s : Settings) (ch : String) : Int :=
  if s.selected .bitstream = 1 then if s.listed ch then 1 else 0 else 0

def modeAnswer (zero one : String) (mode : Option String) : Int :=
  mode.elim 0 fun value => if value = zero then 0 else if value = one then 1 else 0

def getSelect (s : Settings) (device : Int) : Int :=
  if device = 0 then s.selected .decode
  else if device = 1 then s.outputSelected "hdmi"
  else if device = 2 then s.outputSelected "spdif"
  else 0

def getFormat (s : Settings) (device : Int) (format : String) : Int :=
  (devicePort device).elim 0 fun port => if format ∈ (s.port port).formats then 1 else 0

def getMode (s : Settings) (device : Int) : Int :=
  if device = 0 then modeAnswer "decode_pcm" "multi_pcm" (s.port .decode).mode
  else if device = 1 ∨ device = 2 then modeAnswer "auto" "manual" (s.port .bitstream).mode
  else 0

/-- The answer of a getter; the calls have none. -/
def answer (s : Settings) : SettingRequest → Option Int
  | .call _ => none
  | .getSelect device => some (s.getSelect device)
  | .getFormat device format => some (s.getFormat device format)
  | .getMode device => some (s.getMode device)

def next (s : Settings) : SettingRequest → Settings
  | .call c => s.apply c
  | _ => s

end Settings

/-! ## The service -/

/-- A request to the manager of a document. -/
def serveDocument : Machine (List N) SettingRequest (Option Int)
  | doc, .call c => (step doc c).map fun doc => (none, doc)
  | doc, .getSelect device => (getSelect device doc).map fun val => (some val, doc)
  | doc, .getFormat device format => (getFormat device format doc).map fun val => (some val, doc)
  | doc, .getMode device => (getMode device doc).map fun val => (some val, doc)

/-- `val` as the getters of `RkAudioSetting` declare it. -/
def SettingRequest.val : SettingRequest → Option Int
  | .call _ => none
  | .getSelect _ | .getFormat _ _ | .getMode _ => some 0

/-- The functions of `RkAudioSetting`; the document is there when `mXMLReady` is set. -/
def serveRequest : Machine (Option (List N)) SettingRequest (Option Int)
  | some doc, r => (serveDocument doc r).map fun served => (served.1, some served.2)
  | none, r => some (r.val, none)

/-! ## Documents that hold settings -/

/-- A list of formats with these entries, which every call gets through. -/
structure FormatsOf (list : N) (formats : List String) : Prop where
  shape : FormatList list
  walk : Walkable list
  eq : entries "format" list = formats

structure Represents (doc : List N) (s : Settings) : Prop where
  select : ∀ port : Port,
    (elementAt port.element doc).map firstAttribute = some (s.port port).select
  mode : ∀ port : Port, (partAt port.element "mode" doc).map text = some (s.port port).mode
  formats : ∀ port : Port, ∃ list, partAt port.element "formats" doc = some list ∧
    FormatsOf list (s.port port).formats
  devices : ∃ list, partAt Port.bitstream.element "devices" doc = some list ∧
    (siblingsFrom "device" list).map text = s.device :: s.others

/-! ## The edits of the lists -/

theorem FormatsOf.edit {list list' : N} {formats : List String} (h : FormatsOf list formats)
    {close : Int} (hc : close = 0 ∨ close = 1) {format : String}
    (he : editFormat close format list = some list') :
    FormatsOf list' (Settings.editEntries close format formats) where
  shape := formatList_kept _ _ _ _ h.shape he
  walk := walkable_kept _ _ _ _ h.walk he
  eq := by
    rw [← h.eq]
    unfold editFormat at he
    unfold Settings.editEntries
    rcases hc with rfl | rfl
    · exact insertFormat_entries he
    · exact removeFormat_entries h.shape he

theorem FormatsOf.sync {list list' : N} {formats : List String} (h : FormatsOf list formats)
    {present : Bool} {ch : String} (he : syncEntry (if present then 0 else 1) ch list = some list') :
    FormatsOf list' (bring present ch formats) where
  shape := formatList_kept.syncEntry h.shape he
  walk := walkable_kept.syncEntry h.walk he
  eq := by
    rw [← h.eq]
    exact syncEntry_entries h.shape he

theorem keptByEdits_syncEntries {edid : ParsedEdid} {list list' : N} {P : N → Prop}
    (hP : KeptByEdits P) (h : P list) (hs : syncEntries edid list = some list') : P list' := by
  unfold syncEntries at hs
  generalize mSupportHdmiLevel = levels at hs
  induction levels generalizing list with
  | nil =>
    cases hs
    exact h
  | cons level levels ih =>
    rw [List.foldlM_cons] at hs
    obtain ⟨list1, h1, hs⟩ := Option.bind_eq_some_iff.mp hs
    exact ih (hP.syncEntry h h1) hs

theorem FormatsOf.syncAll {list list' : N} {formats : List String} (h : FormatsOf list formats)
    {edid : ParsedEdid} (he : syncEntries edid list = some list') :
    FormatsOf list' (bringAll (isSupportFormat edid.infors) mSupportHdmiLevel formats) where
  shape := keptByEdits_syncEntries formatList_kept h.shape he
  walk := keptByEdits_syncEntries walkable_kept h.walk he
  eq := by
    rw [← h.eq]
    exact syncEntries_entries h.shape he

theorem mem_map_text {ch : String} (l : List N) :
    some ch ∈ l.map text ↔ ch ∈ l.filterMap text := by
  rw [List.mem_map, List.mem_filterMap]

theorem siblingsFrom_ne_nil_iff (name : String) (n : N) :
    siblingsFrom name n ≠ [] ↔ (firstChildNamed name n).isSome := by
  unfold siblingsFrom firstChildNamed
  induction children n with
  | nil => simp
  | cons m rest ih =>
    cases hm : hasValue name m with
    | true =>
      rw [List.dropWhile_cons_of_neg (by rw [hm]; exact Bool.false_ne_true),
        List.find?_cons_of_pos hm]
      simp
    | false =>
      rw [List.dropWhile_cons_of_pos (by rw [hm]; rfl),
        List.find?_cons_of_neg (ne_true_of_eq_false hm), ih]

/-- The first device after `setSelect`, and the others as they were. -/
theorem ensureDevice_texts {ch : String} {list list' : N} {first : Option String}
    {others : List (Option String)}
    (hl : (siblingsFrom "device" list).map text = first :: others)
    (h : ensureDevice ch list = some list') :
    (siblingsFrom "device" list').map text =
      (if some ch ∈ first :: others then first else first.map fun _ => ch) :: others := by
  unfold ensureDevice at h
  rw [findText_eq] at h
  by_cases hm : some ch ∈ first :: others
  · have hlist : ch ∈ (siblingsFrom "device" list).filterMap text := by
      rw [← mem_map_text, hl]
      exact hm
    rw [if_pos hlist, if_neg (by decide)] at h
    cases h
    rw [if_pos hm, hl]
  · have hlist : ch ∉ (siblingsFrom "device" list).filterMap text := by
      rw [← mem_map_text, hl]
      exact hm
    rw [if_neg hlist, if_pos (by decide)] at h
    obtain ⟨a, b, rest, hb, hs, hs'⟩ := siblingsFrom_onChild (replaceDevice_inPlace ch) h
    cases hb
    rw [hs, List.map_cons, List.cons.injEq] at hl
    rw [if_neg hm, hs', List.map_cons, text_replaceDevice, hl.1, hl.2]

theorem text_setModeValue {node : N} {value : String} (h : text node = some value) (ch : String) :
    text (setModeValue ch node) = some ch := by
  have hl : isElement node = true := isElement_of_text (by rw [h]; rfl)
  unfold setModeValue
  rw [if_pos hl]
  exact text_withChildren_newText hl ch

theorem text_replaceMode (zero one : String) (mode : Int) (node : N) :
    text (replaceMode zero one mode node) = Settings.changeMode zero one mode (text node) := by
  unfold replaceMode Settings.changeMode
  cases hc : firstChild node with
  | none =>
    have ht : text node = none := by
      unfold text
      rw [hc]
      rfl
    show text node = _
    rw [ht]
    rfl
  | some child =>
    have ht : text node = some (value child) := by
      unfold text
      rw [hc]
      rfl
    rw [ht]
    show text (if mode = 0 then _ else _) = some (if mode = 0 then zero else _)
    split
    · exact text_setModeValue ht zero
    · split
      · exact text_setModeValue ht one
      · exact ht

/-! ## What the edits of the document do to the settings -/

theorem Settings.editPort_port (s : Settings) (port : Port) (f : PortSettings → PortSettings)
    (port' : Port) :
    (s.editPort port f).port port' = if port' = port then f (s.port port) else s.port port' :=
  Function.update_apply _ _ _ _

theorem Represents.hasMode {doc : List N} {s : Settings} (h : Represents doc s) (port : Port) :
    (partAt port.element "mode" doc).isSome := by
  obtain ⟨node, hnode, _⟩ := Option.map_eq_some_iff.mp (h.mode port)
  rw [hnode]
  rfl

/-- An edit of one part of one port, other than the devices. -/
theorem Represents.editPort {doc doc' : List N} {s : Settings} (h : Represents doc s)
    {port : Port} {part : String} (hpart : part ≠ "devices")
    (hframe : Frame (fun port' part' => port' = port ∧ part' = part) doc doc')
    {f : PortSettings → PortSettings} (hselect : (f (s.port port)).select = (s.port port).select)
    (hmode : (partAt port.element "mode" doc').map text = some (f (s.port port)).mode)
    (hformats : ∃ list, partAt port.element "formats" doc' = some list ∧
      FormatsOf list (f (s.port port)).formats) :
    Represents doc' (s.editPort port f) := by
  have hown : (s.editPort port f).port port = f (s.port port) := by
    rw [Settings.editPort_port, if_pos rfl]
  have hsame : ∀ port', port' ≠ port → (s.editPort port f).port port' = s.port port' := by
    intro port' hne
    rw [Settings.editPort_port, if_neg hne]
  refine ⟨fun port' => ?_, fun port' => ?_, fun port' => ?_, ?_⟩
  · rw [hframe.selects port', h.select port']
    by_cases hp : port' = port
    · rw [hp, hown, hselect]
    · rw [hsame port' hp]
  · by_cases hp : port' = port
    · rw [hp, hown]
      exact hmode
    · rw [hframe.parts port' "mode" fun ht => hp ht.1, h.mode port', hsame port' hp]
  · by_cases hp : port' = port
    · rw [hp, hown]
      exact hformats
    · rw [hframe.parts port' "formats" fun ht => hp ht.1, hsame port' hp]
      exact h.formats port'
  · obtain ⟨list, hlist, hdevices⟩ := h.devices
    refine ⟨list, ?_, hdevices⟩
    rw [hframe.parts .bitstream "devices" fun ht => hpart ht.2.symm]
    exact hlist

theorem Represents.editFormats {doc : List N} {s : Settings} (h : Represents doc s) (port : Port)
    {f : N → Option N} (hf : InPlace f) (hreturns : ∀ list, Walkable list → (f list).isSome)
    {g : List String → List String}
    (hg : ∀ list list' formats, FormatsOf list formats → f list = some list' →
      FormatsOf list' (g formats)) :
    ∃ doc', onPart port.element "formats" f doc = some doc' ∧
      Represents doc' (s.editFormats port g) := by
  obtain ⟨list, hlist, hof⟩ := h.formats port
  have hsome : (onPart port.element "formats" f doc).isSome := by
    rw [onPart_isSome, hlist]
    exact hreturns list hof.walk
  obtain ⟨doc', he⟩ := Option.isSome_iff_exists.mp hsome
  have hframe := frame_onPart hf he
  refine ⟨doc', he, h.editPort (by decide) hframe rfl ?_ ?_⟩
  · rw [hframe.parts port "mode" fun ht => absurd ht.2 (by decide)]
    exact h.mode port
  · obtain ⟨list', hlist', hedit⟩ := partAt_onPart_some hf hlist he
    exact ⟨list', hlist', hg list list' _ hof hedit⟩

theorem Represents.setPortMode {doc : List N} {s : Settings} (h : Represents doc s) (port : Port)
    (zero one : String) (mode : Int) :
    ∃ doc', setAudioSettingMode port zero one mode doc = some doc' ∧
      Represents doc' (s.setPortMode port zero one mode) := by
  have hf : InPlace fun node : N => some (replaceMode zero one mode node) :=
    replaceMode_inPlace zero one mode
  obtain ⟨node, hnode, ht⟩ := Option.map_eq_some_iff.mp (h.mode port)
  have hsome : (setAudioSettingMode port zero one mode doc).isSome := by
    unfold setAudioSettingMode
    rw [onPart_isSome, hnode]
    rfl
  obtain ⟨doc', he⟩ := Option.isSome_iff_exists.mp hsome
  have hframe := frame_onPart hf he
  refine ⟨doc', he, h.editPort (by decide) hframe rfl ?_ ?_⟩
  · obtain ⟨node', hnode', hedit⟩ := partAt_onPart_some hf hnode he
    cases hedit
    rw [hnode', Option.map_some, text_replaceMode, ht]
  · rw [hframe.parts port "formats" fun hp => absurd hp.2 (by decide)]
    exact h.formats port

/-- An attribute that is not there is not set. -/
theorem markSelect_attribute {port : Port} {ch : String} {doc doc' : List N} {o : Option String}
    (hs : (elementAt port.element doc).map firstAttribute = some o)
    (h : markSelect port ch doc = some doc') :
    (elementAt port.element doc').map firstAttribute = some (o.map fun _ => ch) := by
  cases o with
  | some value => exact markSelect_self hs h
  | none =>
    obtain ⟨e, he, hv⟩ := Option.map_eq_some_iff.mp hs
    rw [elementAt_onElement_self (setSelectValue_inPlace ch) h, he, Option.bind_some,
      Option.map_some]
    unfold setSelectValue
    rw [hv]
    exact congrArg some hv

theorem Represents.markBoth {doc : List N} {s : Settings} (h : Represents doc s)
    (first second : String) :
    ∃ doc', (markSelect .decode first doc).bind (markSelect .bitstream second) = some doc' ∧
      Represents doc' { s with port := fun p => { s.port p with
        select := (s.port p).select.map fun _ => if p = .decode then first else second } } := by
  have helement : ∀ port : Port, (elementAt port.element doc).isSome := fun port =>
    elementAt_of_partAt (h.hasMode port)
  obtain ⟨doc1, h1⟩ := markSelect_returns first (helement .decode)
  have hother := markSelect_ne (show Port.decode ≠ .bitstream by decide) h1
  obtain ⟨doc2, h2⟩ := markSelect_returns second
    (show (elementAt Port.bitstream.element doc1).isSome by
      rw [hother]
      exact helement .bitstream)
  have hparts : ∀ name part, partAt name part doc2 = partAt name part doc := fun name part =>
    (markSelect_partAt h2 name part).trans (markSelect_partAt h1 name part)
  refine ⟨doc2, ?_, fun port => ?_, fun port => ?_, fun port => ?_, ?_⟩
  · rw [h1]
    exact h2
  · cases port with
    | decode =>
      rw [markSelect_ne (show Port.bitstream ≠ .decode by decide) h2]
      exact markSelect_attribute (h.select .decode) h1
    | bitstream =>
      refine markSelect_attribute ?_ h2
      rw [hother]
      exact h.select .bitstream
  · rw [hparts]
    exact h.mode port
  · rw [hparts]
    exact h.formats port
  · rw [hparts]
    exact h.devices

theorem Represents.selectPort {doc : List N} {s : Settings} (h : Represents doc s) (port : Port) :
    ∃ doc', setAudioSettingSelect port doc = some doc' ∧ Represents doc' (s.selectPort port) := by
  have hport : ∀ (first second : String), (∀ p : Port, (if p = .decode then first else second) =
      if p = port then "yes" else "no") →
      ∃ doc', (markSelect .decode first doc).bind (markSelect .bitstream second) = some doc' ∧
        Represents doc' (s.selectPort port) := by
    intro first second htexts
    obtain ⟨doc', hdoc', hrep⟩ := h.markBoth first second
    refine ⟨doc', hdoc', ?_⟩
    unfold Settings.selectPort
    simp only [← htexts]
    exact hrep
  cases port with
  | decode => exact hport "yes" "no" fun p => by cases p <;> rfl
  | bitstream => exact hport "no" "yes" fun p => by cases p <;> rfl

theorem Represents.useDevice {doc : List N} {s : Settings} (h : Represents doc s) (ch : String) :
    ∃ doc', onPart Port.bitstream.element "devices" (ensureDevice ch) doc = some doc' ∧
      Represents doc' (s.useDevice ch) := by
  obtain ⟨list, hlist, hdevices⟩ := h.devices
  have hfirst : (firstChildNamed "device" list).isSome := by
    rw [← siblingsFrom_ne_nil_iff]
    intro hnil
    rw [hnil] at hdevices
    cases hdevices
  have hsome : (onPart Port.bitstream.element "devices" (ensureDevice ch) doc).isSome := by
    rw [onPart_isSome, hlist]
    exact ensureDevice_returns hfirst
  obtain ⟨doc', he⟩ := Option.isSome_iff_exists.mp hsome
  have hframe := frame_onPart (ensureDevice_inPlace ch) he
  obtain ⟨list', hlist', hedit⟩ := partAt_onPart_some (ensureDevice_inPlace ch) hlist he
  have htexts := ensureDevice_texts hdevices hedit
  have hport : (s.useDevice ch).port = s.port := by
    unfold Settings.useDevice
    split <;> rfl
  refine ⟨doc', he, fun port => ?_, fun port => ?_, fun port => ?_, list', hlist', ?_⟩
  · rw [hframe.selects port, hport]
    exact h.select port
  · rw [hframe.parts port "mode" fun ht => absurd ht.2 (by decide), hport]
    exact h.mode port
  · rw [hframe.parts port "formats" fun ht => absurd ht.2 (by decide), hport]
    exact h.formats port
  · rw [htexts]
    unfold Settings.useDevice Settings.listed
    by_cases hm : some ch ∈ s.device :: s.others
    · rw [if_pos hm, if_pos (decide_eq_true hm)]
    · rw [if_neg hm, if_neg (by rw [decide_eq_true_iff]; exact hm)]

end RockchipHal.Sound.RkAudioSettingManager
