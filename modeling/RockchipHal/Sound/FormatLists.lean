import Mathlib.Data.List.Induction
import Mathlib.Data.List.TakeWhile
import Mathlib.Data.Set.Insert
import RockchipHal.Sound.SettingEdits

/-!
# `RkAudioSettingManager`: the format lists

`entries entry list` are the texts the lookups see: those of the children from the first
`entry` on.  In a list where only `format` elements have a text (`FormatList`), an add
appends one entry and a delete erases the first that fits, once its loop gets there past
nodes that all have a child (`Reaches`):

    insertFormat : entries = entries ++ [format]            (insertFormat_entries)
    removeFormat : entries = entries.erase format           (removeFormat_entries)

So the lists are sets as long as nothing is deleted that was added twice.
-/

namespace RockchipHal.Sound.RkAudioSettingManager

open Dom

variable {N : Type} [Dom N]

/-! ## Entries -/

def entries (entry : String) (list : N) : List String :=
  (siblingsFrom entry list).filterMap text

theorem findText_eq (ch : String) (l : List N) :
    findText ch l = if ch ∈ l.filterMap text then 1 else 0 := by
  induction l with
  | nil => rfl
  | cons node rest ih =>
    unfold findText
    rw [ih]
    cases ht : text node with
    | none => rw [List.filterMap_cons_none ht, if_neg (Option.some_ne_none ch).symm]
    | some value =>
      rw [List.filterMap_cons_some ht]
      by_cases hv : value = ch
      · subst hv
        rw [if_pos rfl, if_pos List.mem_cons_self]
      · have hne : ¬ some value = some ch := fun h => hv (Option.some.inj h)
        have hiff : ch ∈ value :: rest.filterMap text ↔ ch ∈ rest.filterMap text := by
          rw [List.mem_cons]
          exact or_iff_right fun h => hv h.symm
        rw [if_neg hne]
        exact (if_congr hiff rfl rfl).symm

theorem getAudioSettingEntry_eq (port : Port) (list entry ch : String) (doc : List N) :
    getAudioSettingEntry port list entry ch doc =
      (partAt port.element list doc).map fun node => if ch ∈ entries entry node then 1 else 0 := by
  unfold getAudioSettingEntry
  cases partAt port.element list doc with
  | none => rfl
  | some node => exact congrArg some (findText_eq ch _)

/-! ## The loop of `delectFormatNode` -/

def hasText (format : String) (node : N) : Bool := text node = some format

theorem hasText_none (format : String) {node : N} (h : text node = none) :
    hasText format node = false :=
  decide_eq_false (by rw [h]; exact (Option.some_ne_none format).symm)

theorem hasText_some (format : String) {node : N} {value : String} (h : text node = some value) :
    hasText format node = decide (value = format) := by
  unfold hasText
  rw [h]
  exact decide_eq_decide.mpr Option.some_inj

/-- Every node the loop comes to before it finds the format has a child. -/
def Reaches (format : String) (siblings : List N) : Prop :=
  ∀ node ∈ siblings.takeWhile fun node => !hasText format node, (text node).isSome

theorem reaches_nil (format : String) : Reaches format ([] : List N) :=
  fun _ hn => absurd hn List.not_mem_nil

theorem reaches_cons_found {format : String} {node : N} (h : hasText format node = true)
    (rest : List N) : Reaches format (node :: rest) := by
  unfold Reaches
  rw [List.takeWhile_cons_of_neg (by rw [h]; exact Bool.false_ne_true)]
  exact fun _ hn => absurd hn List.not_mem_nil

theorem reaches_cons_next {format : String} {node : N} (h : hasText format node = false)
    (rest : List N) :
    Reaches format (node :: rest) ↔ (text node).isSome ∧ Reaches format rest := by
  unfold Reaches
  rw [List.takeWhile_cons_of_pos (by rw [h]; rfl), List.forall_mem_cons]

theorem delectSibling_isSome (format : String) (l : List N) :
    (delectSibling format l).isSome ↔ Reaches format l := by
  induction l with
  | nil => exact iff_of_true rfl (reaches_nil format)
  | cons node rest ih =>
    unfold delectSibling
    cases hv : text node with
    | none =>
      rw [reaches_cons_next (hasText_none format hv), hv]
      exact iff_of_false Bool.false_ne_true fun h => Bool.false_ne_true h.1
    | some value =>
      show (if value = format then some rest else _).isSome ↔ _
      by_cases he : value = format
      · rw [if_pos he]
        exact iff_of_true rfl
          (reaches_cons_found ((hasText_some format hv).trans (decide_eq_true he)) rest)
      · have hnext : hasText format node = false :=
          (hasText_some format hv).trans (decide_eq_false he)
        rw [if_neg he, reaches_cons_next hnext, ← ih, hv]
        cases delectSibling format rest with
        | none => exact iff_of_false Bool.false_ne_true fun h => Bool.false_ne_true h.2
        | some rest' => exact iff_of_true rfl ⟨rfl, rfl⟩

theorem delectSibling_eq_some {format : String} {l l' : List N}
    (h : delectSibling format l = some l') : l' = l.eraseP (hasText format) := by
  induction l generalizing l' with
  | nil =>
    cases h
    rfl
  | cons node rest ih =>
    unfold delectSibling at h
    obtain ⟨value, hv, h⟩ := Option.bind_eq_some_iff.mp h
    by_cases he : value = format
    · have hp : hasText format node = true := (hasText_some format hv).trans (decide_eq_true he)
      rw [if_pos he] at h
      cases h
      rw [List.eraseP_cons_of_pos hp]
    · have hn : hasText format node = false := (hasText_some format hv).trans (decide_eq_false he)
      rw [if_neg he] at h
      obtain ⟨rest', hr, h⟩ := Option.bind_eq_some_iff.mp h
      cases h
      rw [List.eraseP_cons_of_neg (ne_true_of_eq_false hn), ih hr]

theorem filterMap_eraseP_hasText (format : String) (l : List N) :
    (l.eraseP (hasText format)).filterMap text = (l.filterMap text).erase format := by
  induction l with
  | nil => rfl
  | cons node rest ih =>
    cases hv : text node with
    | none =>
      rw [List.eraseP_cons_of_neg (ne_true_of_eq_false (hasText_none format hv)),
        List.filterMap_cons_none hv, List.filterMap_cons_none hv, ih]
    | some value =>
      rw [List.filterMap_cons_some hv]
      by_cases he : value = format
      · rw [List.eraseP_cons_of_pos ((hasText_some format hv).trans (decide_eq_true he)), he,
          List.erase_cons_head]
      · have hn : hasText format node = false := (hasText_some format hv).trans (decide_eq_false he)
        rw [List.eraseP_cons_of_neg (ne_true_of_eq_false hn),
          List.filterMap_cons_some hv, ih, List.erase_cons_tail (by simpa using he)]

/-! ## Adding and deleting in a list -/

/-- The list is an element, and only `format` nodes in it have a text. -/
structure FormatList (list : N) : Prop where
  isList : isElement list = true
  only : ∀ node ∈ siblingsFrom "format" list, (text node).isSome → hasValue "format" node = true

theorem siblingsFrom_withChildren (entry : String) {list : N} (h : isElement list = true)
    (l : List N) :
    siblingsFrom entry (withChildren list l) = l.dropWhile fun node => !hasValue entry node := by
  unfold siblingsFrom
  rw [children_withChildren list l h]

theorem text_withChildren_newText {node : N} (h : isElement node = true) (ch : String) :
    text (withChildren node [newText ch]) = some ch := by
  unfold text firstChild
  rw [children_withChildren node _ h]
  exact congrArg some (value_newText ch)

theorem text_formatNode (format : String) : text (formatNode format : N) = some format :=
  text_withChildren_newText (isElement_newElement "format") format

theorem hasValue_formatNode (format : String) :
    hasValue "format" (formatNode format : N) = true := by
  rw [hasValue_iff, formatNode, value_withChildren, value_newElement]

theorem insertFormat_isSome (format : String) (list : N) :
    (insertFormat format list).isSome ↔ isElement list = true := by
  unfold insertFormat
  split
  · next h => exact iff_of_true rfl h
  · next h => exact iff_of_false Bool.false_ne_true h

theorem removeFormat_isSome (format : String) (list : N) :
    (removeFormat format list).isSome ↔ Reaches format (siblingsFrom "format" list) := by
  rw [← delectSibling_isSome]
  unfold removeFormat
  cases delectSibling format (siblingsFrom "format" list) <;> exact Iff.rfl

theorem insertFormat_siblings {format : String} {list list' : N}
    (h : insertFormat format list = some list') :
    siblingsFrom "format" list' = siblingsFrom "format" list ++ [formatNode format] := by
  have he : isElement list = true := (insertFormat_isSome format list).mp (by rw [h]; rfl)
  unfold insertFormat at h
  rw [if_pos he] at h
  cases h
  rw [siblingsFrom_withChildren "format" he, List.dropWhile_append]
  have hnew : [formatNode format].dropWhile (fun node : N => !hasValue "format" node) =
      [formatNode format] :=
    List.dropWhile_cons_of_neg (by rw [hasValue_formatNode]; exact Bool.false_ne_true)
  split
  · next hempty =>
    have hnil : siblingsFrom "format" list = [] := List.isEmpty_iff.mp hempty
    rw [hnew, hnil]
    rfl
  · rfl

/-- A delete can take the first `format` away, and then the list starts at the next one. -/
theorem removeFormat_siblings {format : String} {list list' : N}
    (h : removeFormat format list = some list') :
    siblingsFrom "format" list' =
      ((siblingsFrom "format" list).eraseP (hasText format)).dropWhile
        fun node => !hasValue "format" node := by
  obtain ⟨siblings, hs, h⟩ := Option.bind_eq_some_iff.mp h
  cases h
  rw [← delectSibling_eq_some hs]
  cases he : isElement list with
  | false =>
    have hnil : children list = [] := children_leaf list he
    unfold siblingsFrom at hs
    rw [hnil] at hs
    cases hs
    rw [hnil]
    show siblingsFrom "format" (withChildren list []) = []
    unfold siblingsFrom
    rw [children_leaf _ ((isElement_withChildren list []).trans he)]
    rfl
  | true =>
    rw [siblingsFrom_withChildren "format" he, List.dropWhile_append]
    have hbefore : ((children list).takeWhile fun node => !hasValue "format" node).dropWhile
        (fun node => !hasValue "format" node) = [] := by
      rw [List.dropWhile_eq_nil_iff]
      intro node hn
      have hp := List.mem_takeWhile_imp hn
      exact hp
    rw [hbefore]
    rfl

theorem insertFormat_entries {format : String} {list list' : N}
    (h : insertFormat format list = some list') :
    entries "format" list' = entries "format" list ++ [format] := by
  unfold entries
  rw [insertFormat_siblings h, List.filterMap_append]
  exact congrArg _ (List.filterMap_cons_some (text_formatNode format))

/-- What is skipped in front of the first `format` has no text. -/
theorem filterMap_dropWhile {l : List N}
    (h : ∀ node ∈ l, (text node).isSome → hasValue "format" node = true) :
    (l.dropWhile fun node => !hasValue "format" node).filterMap text = l.filterMap text := by
  induction l with
  | nil => rfl
  | cons node rest ih =>
    cases hv : hasValue "format" node with
    | true => rw [List.dropWhile_cons_of_neg (by rw [hv]; exact Bool.false_ne_true)]
    | false =>
      have ht : text node = none := by
        cases ht : text node with
        | none => rfl
        | some value =>
          have hp := h node List.mem_cons_self (by rw [ht]; rfl)
          rw [hv] at hp
          cases hp
      rw [List.dropWhile_cons_of_pos (by rw [hv]; rfl), List.filterMap_cons_none ht,
        ih fun node hn => h node (List.mem_cons_of_mem _ hn)]

theorem removeFormat_entries {format : String} {list list' : N} (hl : FormatList list)
    (h : removeFormat format list = some list') :
    entries "format" list' = (entries "format" list).erase format := by
  unfold entries
  rw [removeFormat_siblings h, filterMap_dropWhile, filterMap_eraseP_hasText]
  exact fun node hn => hl.only node (List.mem_of_mem_eraseP hn)

theorem insertFormat_formatList {format : String} {list list' : N} (hl : FormatList list)
    (h : insertFormat format list = some list') : FormatList list' where
  isList := (insertFormat_inPlace format list list' h).2.trans hl.isList
  only := by
    rw [insertFormat_siblings h]
    intro node hn
    rcases List.mem_append.mp hn with hn | hn
    · exact hl.only node hn
    · rw [List.mem_singleton.mp hn]
      exact fun _ => hasValue_formatNode format

theorem removeFormat_formatList {format : String} {list list' : N} (hl : FormatList list)
    (h : removeFormat format list = some list') : FormatList list' where
  isList := (removeFormat_inPlace format list list' h).2.trans hl.isList
  only := by
    rw [removeFormat_siblings h]
    exact fun node hn =>
      hl.only node (List.mem_of_mem_eraseP ((List.dropWhile_sublist _).subset hn))

theorem formatList_kept : KeptByEdits (FormatList : N → Prop) := by
  intro close format list list' hl h
  unfold editFormat at h
  split at h
  · exact removeFormat_formatList hl h
  · exact insertFormat_formatList hl h

/-- A list every delete gets through: an element, in which no node from the first `format` on
is without a child. -/
structure Walkable (list : N) : Prop where
  isList : isElement list = true
  filled : ∀ node ∈ siblingsFrom "format" list, (text node).isSome

theorem Walkable.reaches {list : N} (h : Walkable list) (format : String) :
    Reaches format (siblingsFrom "format" list) :=
  fun node hn => h.filled node ((List.takeWhile_sublist _).subset hn)

theorem Walkable.editFormat {list : N} (h : Walkable list) (close : Int) (format : String) :
    (editFormat close format list).isSome := by
  unfold RkAudioSettingManager.editFormat
  split
  · exact (removeFormat_isSome format list).mpr (h.reaches format)
  · exact (insertFormat_isSome format list).mpr h.isList

theorem walkable_kept : KeptByEdits (Walkable : N → Prop) := by
  intro close format list list' hw h
  have hl : isElement list' = true :=
    (editFormat_inPlace close format list list' h).2.trans hw.isList
  refine ⟨hl, fun node hn => ?_⟩
  unfold RkAudioSettingManager.editFormat at h
  split at h
  · rw [removeFormat_siblings h] at hn
    exact hw.filled node (List.mem_of_mem_eraseP ((List.dropWhile_sublist _).subset hn))
  · rw [insertFormat_siblings h] at hn
    rcases List.mem_append.mp hn with hn | hn
    · exact hw.filled node hn
    · rw [List.mem_singleton.mp hn, text_formatNode]
      rfl

theorem Walkable.syncEntry {list : N} (h : Walkable list) (close : Int) (ch : String) :
    (syncEntry close ch list).isSome := by
  unfold RkAudioSettingManager.syncEntry
  split
  · exact h.editFormat close ch
  · rfl

theorem Walkable.syncEntries {list : N} (h : Walkable list) (edid : ParsedEdid) :
    (syncEntries edid list).isSome := by
  unfold RkAudioSettingManager.syncEntries
  generalize mSupportHdmiLevel = levels
  induction levels generalizing list with
  | nil => rfl
  | cons level levels ih =>
    have hs := h.syncEntry (edid.close level.1) level.2
    obtain ⟨list1, h1⟩ := Option.isSome_iff_exists.mp hs
    rw [List.foldlM_cons, h1]
    exact ih (walkable_kept.syncEntry h h1)

/-! ## Calls that return -/

theorem setMode_returns {doc : List N} (h : ∀ port : Port, (partAt port.element "mode" doc).isSome)
    (device mode : Int) : (setMode device mode doc).isSome := by
  have hport : ∀ (port : Port) (zero one : String),
      (setAudioSettingMode port zero one mode doc).isSome := by
    intro port zero one
    unfold setAudioSettingMode
    rw [onPart_isSome]
    obtain ⟨node, hnode⟩ := Option.isSome_iff_exists.mp (h port)
    rw [hnode]
    rfl
  rcases setMode_cases device mode doc with ⟨zero, one, _, he⟩ | ⟨zero, one, _, he⟩ | he
  · rw [he]
    exact hport .decode zero one
  · rw [he]
    exact hport .bitstream zero one
  · rw [he]
    rfl

theorem setFormat_returns {doc : List N} (h : FormatsHold Walkable doc) (device close : Int)
    (format : String) : (setFormat device close format doc).isSome := by
  cases hp : devicePort device with
  | none =>
    rw [setFormat_of_none hp]
    rfl
  | some port =>
    rw [setFormat_of_port hp]
    by_cases hc : close = 0 ∨ close = 1
    · obtain ⟨list, hlist, hw⟩ := h port
      rw [setAudioSettingFormat_eq port hc, onPart_isSome, hlist]
      exact hw.editFormat close format
    · rw [setAudioSettingFormat_other port hc]
      rfl

theorem updataFormatForEdid_returns {edid : ParsedEdid} {doc : List N} {list : N}
    (hl : partAt Port.bitstream.element "formats" doc = some list) (hw : Walkable list) :
    ∃ doc', updataFormatForEdid edid doc = some doc' := by
  by_cases hr : edid.result ≥ 0
  · have hs := onPart_isSome (f := syncEntries edid) Port.bitstream.element "formats" doc
    rw [hl] at hs
    rw [updataFormatForEdid_eq hr]
    exact Option.isSome_iff_exists.mp (hs.trans (hw.syncEntries edid))
  · exact ⟨doc, updataFormatForEdid_failed hr doc⟩

/-! ## Runs of `setFormat` against sets -/

/-- The arguments of a `setFormat`. -/
structure FormatCall where
  device : Int
  close : Int
  format : String
deriving DecidableEq, Repr

def runFormats (calls : List FormatCall) (doc : List N) : Option (List N) :=
  calls.foldlM (fun doc call => setFormat call.device call.close call.format doc) doc

/-- What a call means for the sets of formats. -/
def applyCall (sets : Port → Set String) (call : FormatCall) (port : Port) : Set String :=
  if devicePort call.device = some port then
    if call.close = 1 then sets port \ {call.format}
    else if call.close = 0 then insert call.format (sets port)
    else sets port
  else sets port

def applyCalls (calls : List FormatCall) (sets : Port → Set String) : Port → Set String :=
  calls.foldl applyCall sets

/-- The entries of the document's lists. -/
def formatSets (doc : List N) (port : Port) : Set String :=
  {format | ∃ list ∈ partAt port.element "formats" doc, format ∈ entries "format" list}

/-- `getFormat` returns, and answers 1 exactly for the formats of the device's set. -/
def Answers (doc : List N) (sets : Port → Set String) : Prop :=
  ∀ device port, devicePort device = some port → ∀ format,
    ∃ answer, getFormat device format doc = some answer ∧ (answer = 1 ↔ format ∈ sets port)

/-- Both ports have a list of formats. -/
def FormatLists (doc : List N) : Prop := FormatsHold FormatList doc

/-- A delete finds its format once at most, and past nodes with a child. -/
def DeletesOnce (doc : List N) (call : FormatCall) : Prop :=
  call.close = 1 → ∀ port, devicePort call.device = some port →
    ∀ list, partAt port.element "formats" doc = some list →
      (entries "format" list).count call.format ≤ 1 ∧
        Reaches call.format (siblingsFrom "format" list)

/-- Erasing an entry takes it out of the set of entries when there is one of it at most. -/
theorem mem_erase_iff_count (l : List String) (a : String) :
    (∀ b, b ∈ l.erase a ↔ b ∈ l ∧ b ≠ a) ↔ l.count a ≤ 1 := by
  constructor
  · intro h
    have hnot : a ∉ l.erase a := fun ha => ((h a).mp ha).2 rfl
    have hzero : (l.erase a).count a = 0 := List.count_eq_zero.mpr hnot
    rw [List.count_erase_self] at hzero
    omega
  · intro h b
    by_cases hb : b = a
    · subst hb
      have hzero : (l.erase b).count b = 0 := by
        rw [List.count_erase_self]
        omega
      exact iff_of_false (List.count_eq_zero.mp hzero) fun hp => hp.2 rfl
    · rw [List.mem_erase_of_ne hb]
      exact (and_iff_left hb).symm

theorem getFormat_eq {device : Int} {port : Port} (hp : devicePort device = some port)
    {doc : List N} {list : N} (hl : partAt port.element "formats" doc = some list)
    (format : String) :
    getFormat device format doc = some (if format ∈ entries "format" list then 1 else 0) := by
  rw [getFormat_of_port hp, getAudioSettingEntry_eq, hl]
  rfl

theorem answers_iff {doc : List N} (hl : FormatLists doc) (sets : Port → Set String) :
    Answers doc sets ↔ ∀ port list, partAt port.element "formats" doc = some list →
      ∀ format, format ∈ entries "format" list ↔ format ∈ sets port := by
  have hone : ∀ (list : N) (format : String),
      (if format ∈ entries "format" list then (1 : Int) else 0) = 1 ↔
        format ∈ entries "format" list := by
    intro list format
    split
    · next h => exact iff_of_true rfl h
    · next h => exact iff_of_false (by decide) h
  constructor
  · intro ha port list hlist format
    obtain ⟨device, hp⟩ := exists_devicePort port
    obtain ⟨answer, hanswer, hiff⟩ := ha device port hp format
    rw [getFormat_eq hp hlist] at hanswer
    cases hanswer
    exact (hone list format).symm.trans hiff
  · intro h device port hp format
    obtain ⟨list, hlist, _⟩ := hl port
    exact ⟨_, getFormat_eq hp hlist format, (hone list format).trans (h port list hlist format)⟩

/-- A `setFormat` on its own list. -/
theorem setFormat_list {call : FormatCall} {port : Port} (hp : devicePort call.device = some port)
    (hc : call.close = 0 ∨ call.close = 1) {doc doc' : List N} {list : N}
    (hl : partAt port.element "formats" doc = some list)
    (h : setFormat call.device call.close call.format doc = some doc') :
    ∃ list', partAt port.element "formats" doc' = some list' ∧
      editFormat call.close call.format list = some list' := by
  rw [setFormat_of_port hp, setAudioSettingFormat_eq port hc] at h
  exact partAt_onPart_some (editFormat_inPlace call.close call.format) hl h

theorem setFormat_formatLists {call : FormatCall} {doc doc' : List N} (hl : FormatLists doc)
    (h : setFormat call.device call.close call.format doc = some doc') : FormatLists doc' := by
  have hstep : step doc (.setFormat call.device call.close call.format) = some doc' := h
  exact FormatsHold.edits formatList_kept hl (step_edits hstep)

/-- The entries of the edited list mean what the call means. -/
theorem editFormat_meaning {call : FormatCall} {port : Port}
    (hp : devicePort call.device = some port) (hc : call.close = 0 ∨ call.close = 1)
    {list list' : N} (hf : FormatList list)
    (h : editFormat call.close call.format list = some list') {sets : Port → Set String}
    (hs : ∀ format, format ∈ entries "format" list ↔ format ∈ sets port) :
    (∀ format, format ∈ entries "format" list' ↔ format ∈ applyCall sets call port) ↔
      (call.close = 1 → (entries "format" list).count call.format ≤ 1) := by
  unfold applyCall
  rw [if_pos hp]
  unfold editFormat at h
  rcases hc with h0 | h1
  · have h1 : call.close ≠ 1 := by omega
    rw [if_neg h1] at h
    rw [if_neg h1, if_pos h0, insertFormat_entries h]
    refine iff_of_true (fun format => ?_) fun hclose => absurd hclose h1
    rw [List.mem_append, List.mem_singleton, Set.mem_insert_iff, hs format]
    exact or_comm
  · rw [if_pos h1] at h
    rw [if_pos h1, removeFormat_entries hf h, ← mem_erase_iff_count]
    constructor
    · intro hmem _ format
      rw [hmem format, hs format]
      exact Iff.rfl
    · intro hmem format
      rw [hmem h1 format, hs format]
      exact Iff.rfl

theorem editFormat_isSome {close : Int} (hc : close = 0 ∨ close = 1) (format : String) {list : N}
    (hf : FormatList list) : (editFormat close format list).isSome ↔
      (close = 1 → Reaches format (siblingsFrom "format" list)) := by
  unfold editFormat
  rcases hc with h0 | h1
  · rw [if_neg (by omega), insertFormat_isSome]
    exact iff_of_true hf.isList fun h1 => absurd h1 (by omega)
  · rw [if_pos h1, removeFormat_isSome]
    exact ⟨fun h _ => h, fun h => h h1⟩

/-- After a call that returns, the answers are those of the sets as far as one list goes. -/
theorem answers_after_iff {doc doc' : List N} (hl : FormatLists doc) {call : FormatCall}
    {port : Port} (hp : devicePort call.device = some port)
    (hc : call.close = 0 ∨ call.close = 1)
    (h : setFormat call.device call.close call.format doc = some doc') {list : N}
    (hlist : partAt port.element "formats" doc = some list) (hf : FormatList list)
    {sets : Port → Set String} (ha : Answers doc sets) :
    Answers doc' (applyCall sets call) ↔
      (call.close = 1 → (entries "format" list).count call.format ≤ 1) := by
  have hs := (answers_iff hl sets).mp ha
  obtain ⟨list', hlist', hedit⟩ := setFormat_list hp hc hlist h
  rw [answers_iff (setFormat_formatLists hl h), ← editFormat_meaning hp hc hf hedit (hs port list hlist)]
  constructor
  · exact fun hall => hall port list' hlist'
  · intro hown port1 list1 hlist1 format
    by_cases hport : port1 = port
    · subst hport
      cases hlist'.symm.trans hlist1
      exact hown format
    · have hne : devicePort call.device ≠ some port1 := by
        rw [hp]
        exact fun he => hport (Option.some.inj he).symm
      rw [(setFormat_frame h).parts port1 "formats" fun hpart => hne hpart.1] at hlist1
      unfold applyCall
      rw [if_neg hne]
      exact hs port1 list1 hlist1 format

theorem setFormat_isSome_iff {call : FormatCall} {port : Port}
    (hp : devicePort call.device = some port) (hc : call.close = 0 ∨ call.close = 1)
    {doc : List N} {list : N} (hlist : partAt port.element "formats" doc = some list)
    (hf : FormatList list) :
    (∃ doc', setFormat call.device call.close call.format doc = some doc') ↔
      (call.close = 1 → Reaches call.format (siblingsFrom "format" list)) := by
  rw [← editFormat_isSome hc call.format hf, setFormat_of_port hp, setAudioSettingFormat_eq port hc,
    ← Option.isSome_iff_exists, onPart_isSome, hlist]
  rfl

/-- A call for no port, or neither an add nor a delete. -/
theorem setFormat_nothing {call : FormatCall}
    (ht : ¬ ∃ port, devicePort call.device = some port ∧ (call.close = 0 ∨ call.close = 1))
    (doc : List N) (sets : Port → Set String) :
    setFormat call.device call.close call.format doc = some doc ∧ applyCall sets call = sets := by
  constructor
  · cases hp : devicePort call.device with
    | none => exact setFormat_of_none hp _ _ doc
    | some port =>
      rw [setFormat_of_port hp]
      exact setAudioSettingFormat_other port (fun hc => ht ⟨port, hp, hc⟩) _ doc
  · funext port
    unfold applyCall
    split
    · next hp =>
      have hc : ¬ (call.close = 0 ∨ call.close = 1) := fun hc => ht ⟨port, hp, hc⟩
      rw [if_neg (by omega), if_neg (by omega)]
    · rfl

/-- One call keeps the answers those of the sets exactly when it deletes once. -/
theorem setFormat_answers {doc : List N} (hl : FormatLists doc) {sets : Port → Set String}
    (ha : Answers doc sets) (call : FormatCall) :
    (∃ doc', setFormat call.device call.close call.format doc = some doc' ∧
      Answers doc' (applyCall sets call)) ↔ DeletesOnce doc call := by
  by_cases ht : ∃ port, devicePort call.device = some port ∧ (call.close = 0 ∨ call.close = 1)
  · obtain ⟨port, hp, hc⟩ := ht
    obtain ⟨list, hlist, hf⟩ := hl port
    have hreturns := setFormat_isSome_iff hp hc hlist hf
    constructor
    · rintro ⟨doc', h, ha'⟩ hclose port' hp' list1 hlist1
      cases hp.symm.trans hp'
      cases hlist.symm.trans hlist1
      exact ⟨(answers_after_iff hl hp hc h hlist hf ha).mp ha' hclose,
        hreturns.mp ⟨doc', h⟩ hclose⟩
    · intro hdel
      obtain ⟨doc', h⟩ := hreturns.mpr fun hclose => (hdel hclose port hp list hlist).2
      exact ⟨doc', h, (answers_after_iff hl hp hc h hlist hf ha).mpr
        fun hclose => (hdel hclose port hp list hlist).1⟩
  · obtain ⟨hset, hsets⟩ := setFormat_nothing ht doc sets
    rw [hset, hsets]
    exact iff_of_true ⟨doc, rfl, ha⟩ fun hclose port hp => absurd ⟨port, hp, Or.inr hclose⟩ ht

theorem runFormats_concat (calls : List FormatCall) (call : FormatCall) (doc : List N) :
    runFormats (calls ++ [call]) doc =
      (runFormats calls doc).bind (setFormat call.device call.close call.format) := by
  unfold runFormats
  rw [List.foldlM_append]
  refine congrArg ((runFormats calls doc).bind ·) (funext fun doc' => ?_)
  rw [List.foldlM_cons]
  cases setFormat call.device call.close call.format doc' <;> rfl

theorem runFormats_formatLists {doc : List N} (hl : FormatLists doc) (calls : List FormatCall) :
    ∀ doc', runFormats calls doc = some doc' → FormatLists doc' := by
  induction calls using List.reverseRecOn with
  | nil =>
    intro doc' h
    cases h
    exact hl
  | append_singleton calls call ih =>
    intro doc' h
    rw [runFormats_concat] at h
    obtain ⟨doc1, h1, h⟩ := Option.bind_eq_some_iff.mp h
    exact setFormat_formatLists (ih doc1 h1) h

/-- The lists behave as sets through a run exactly when each of its calls deletes once. -/
theorem formatLists_sets_iff {doc : List N} (hl : FormatLists doc) (calls : List FormatCall) :
    (∀ done, done <+: calls → ∃ doc', runFormats done doc = some doc' ∧
      Answers doc' (applyCalls done (formatSets doc))) ↔
    (∀ done call doc', done ++ [call] <+: calls → runFormats done doc = some doc' →
      DeletesOnce doc' call) := by
  have hstart : Answers doc (formatSets doc) := by
    refine (answers_iff hl _).mpr fun port list hlist format => ⟨fun h => ⟨list, hlist, h⟩, ?_⟩
    rintro ⟨list', hlist', h⟩
    cases hlist.symm.trans hlist'
    exact h
  have happly : ∀ done call, applyCalls (done ++ [call]) (formatSets doc) =
      applyCall (applyCalls done (formatSets doc)) call := by
    intro done call
    unfold applyCalls
    rw [List.foldl_append]
    rfl
  constructor
  · intro h done call doc' hpre hrun
    obtain ⟨doc1, hrun1, ha⟩ := h done ((List.prefix_append done [call]).trans hpre)
    cases hrun.symm.trans hrun1
    obtain ⟨doc2, hrun2, ha2⟩ := h (done ++ [call]) hpre
    rw [runFormats_concat, hrun] at hrun2
    rw [happly] at ha2
    exact (setFormat_answers (runFormats_formatLists hl done doc' hrun) ha call).mp
      ⟨doc2, hrun2, ha2⟩
  · intro h done
    induction done using List.reverseRecOn with
    | nil => exact fun _ => ⟨doc, rfl, hstart⟩
    | append_singleton done call ih =>
      intro hpre
      obtain ⟨doc1, hrun, ha⟩ := ih ((List.prefix_append done [call]).trans hpre)
      rw [runFormats_concat, hrun, happly]
      exact (setFormat_answers (runFormats_formatLists hl done doc1 hrun) ha call).mpr
        (h done call doc1 hpre hrun)

def oneFormatConfig : List XmlNode :=
  configOf (sectionOf .decode "yes" "decode_pcm" [] ["speaker"])
    (sectionOf .bitstream "no" "auto" ["DTS"] ["hdmi"])

theorem oneFormatConfig_formatLists : FormatLists oneFormatConfig := by
  intro port
  cases port with
  | decode => exact ⟨_, rfl, rfl, by decide⟩
  | bitstream => exact ⟨_, rfl, rfl, by decide⟩

/-- Two formats are added and two taken out again, one of them the configuration's own. -/
def addsAndDeletes : List FormatCall :=
  [⟨0, 0, "AC3"⟩, ⟨0, 0, "EAC3"⟩, ⟨0, 1, "AC3"⟩, ⟨1, 1, "DTS"⟩]

theorem formatLists_sets_deleted :
    ∃ doc', runFormats addsAndDeletes oneFormatConfig = some doc' ∧
      Answers doc' (applyCalls addsAndDeletes (formatSets oneFormatConfig)) := by
  refine (formatLists_sets_iff oneFormatConfig_formatLists addsAndDeletes).mpr ?_
    addsAndDeletes (List.prefix_refl _)
  intro done call doc' hpre hrun hclose port hport list hlist
  obtain ⟨rest, hrest⟩ := hpre
  rcases done with _ | ⟨_, _ | ⟨_, _ | ⟨_, _ | ⟨_, done⟩⟩⟩⟩
  · cases hrest
    cases hclose
  · cases hrest
    cases hclose
  · cases hrest
    cases hport
    cases hrun
    cases hlist
    exact ⟨by decide, (delectSibling_isSome _ _).mp rfl⟩
  · cases hrest
    cases hport
    cases hrun
    cases hlist
    exact ⟨by decide, (delectSibling_isSome _ _).mp rfl⟩
  · simp [addsAndDeletes] at hrest

/-- As a user interface does that sets a switch again. -/
def addedTwice : List FormatCall := [⟨0, 0, "AC3"⟩, ⟨0, 0, "AC3"⟩, ⟨0, 1, "AC3"⟩]

/-- No entry is repeated or empty, and after the delete `getFormat` still answers 1. -/
theorem addedTwice_listed :
    (∀ port : Port, ∃ list, partAt port.element "formats" oneFormatConfig = some list ∧
      FormatList list ∧ (entries "format" list).Nodup ∧
        ∀ node ∈ children list, text node ≠ none ∧ text node ≠ some "") ∧
    (runFormats addedTwice oneFormatConfig).bind (getFormat 0 "AC3") = some 1 ∧
    "AC3" ∉ applyCalls addedTwice (formatSets oneFormatConfig) .decode := by
  refine ⟨fun port => ?_, rfl, fun h => ?_⟩
  · cases port with
    | decode => exact ⟨_, rfl, ⟨rfl, by decide⟩, by decide, by decide⟩
    | bitstream => exact ⟨_, rfl, ⟨rfl, by decide⟩, by decide, by decide⟩
  · have hd : "AC3" ∈ (_ : Set String) \ {"AC3"} := h
    exact hd.2 rfl

end RockchipHal.Sound.RkAudioSettingManager
