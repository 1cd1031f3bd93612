import RockchipHal.Lib.InStep
import RockchipHal.Sound.CallReturns

/-!
# `RkAudioSettingManager`: the formats of the sink

`updataFormatForEdid` brings the bitstream formats in step with the EDID, six names of
`mSupportHdmiLevel` one after the other:

    entries after = bringAll (supported levels) mSupportHdmiLevel entries   (syncEntries_entries)

It does so in either mode.  The comment on it says "when select auto mode", and the mode is
not looked at: in manual mode the formats stay only while they are in step already.
-/

namespace RockchipHal.Sound.RkAudioSettingManager

open Dom

variable {N : Type} [Dom N]

theorem mSupportHdmiLevel_nodup : (mSupportHdmiLevel.map Prod.snd).Nodup := by decide

/-! ## One name -/

theorem syncEntry_entries {list list' : N} (hf : FormatList list) {present : Bool} {ch : String}
    (h : syncEntry (if present then 0 else 1) ch list = some list') :
    entries "format" list' = bring present ch (entries "format" list) := by
  unfold syncEntry at h
  rw [findText_eq] at h
  unfold bring
  cases present with
  | true =>
    rw [if_pos rfl] at h ⊢
    by_cases hm : ch ∈ entries "format" list
    · rw [if_pos hm]
      rw [if_pos (show ch ∈ List.filterMap text _ from hm), if_neg (by decide)] at h
      cases h
      rfl
    · rw [if_neg hm]
      rw [if_neg (show ch ∉ List.filterMap text _ from hm), if_pos rfl] at h
      exact insertFormat_entries h
  | false =>
    show _ = (entries "format" list).erase ch
    by_cases hm : ch ∈ entries "format" list
    · rw [if_pos (show ch ∈ List.filterMap text _ from hm)] at h
      exact removeFormat_entries hf h
    · rw [if_neg (show ch ∉ List.filterMap text _ from hm)] at h
      cases h
      exact (List.erase_of_not_mem hm).symm

/-- A name that is in step is not touched. -/
theorem syncEntry_inStep {list : N} {present : Bool} {ch : String}
    (h : ch ∈ entries "format" list ↔ present = true) :
    syncEntry (if present then 0 else 1) ch list = some list := by
  unfold syncEntry
  rw [findText_eq]
  cases present with
  | true =>
    have hm : ch ∈ List.filterMap text (siblingsFrom "format" list) := h.mpr rfl
    rw [if_pos hm]
    rfl
  | false =>
    have hm : ch ∉ List.filterMap text (siblingsFrom "format" list) :=
      fun hm => Bool.false_ne_true (h.mp hm)
    rw [if_neg hm]
    rfl

/-! ## The six names -/

theorem syncEntries_entries {edid : ParsedEdid} {list list' : N} (hf : FormatList list)
    (h : syncEntries edid list = some list') :
    entries "format" list' =
      bringAll (isSupportFormat edid.infors) mSupportHdmiLevel (entries "format" list) := by
  unfold syncEntries at h
  unfold bringAll
  generalize mSupportHdmiLevel = levels at h ⊢
  induction levels generalizing list with
  | nil =>
    cases h
    rfl
  | cons level levels ih =>
    rw [List.foldlM_cons] at h
    obtain ⟨list1, h1, h⟩ := Option.bind_eq_some_iff.mp h
    rw [List.foldl_cons, ← syncEntry_entries hf h1]
    exact ih (formatList_kept.syncEntry hf h1) h

theorem syncEntries_inStep {edid : ParsedEdid} {list : N}
    (h : ∀ level ∈ mSupportHdmiLevel,
      level.2 ∈ entries "format" list ↔ isSupportFormat edid.infors level.1 = true) :
    syncEntries edid list = some list := by
  unfold syncEntries
  generalize mSupportHdmiLevel = levels at h ⊢
  induction levels with
  | nil => rfl
  | cons level levels ih =>
    have hfirst : syncEntry (edid.close level.1) level.2 list = some list :=
      syncEntry_inStep (h level List.mem_cons_self)
    rw [List.foldlM_cons, hfirst]
    exact ih fun l hl => h l (List.mem_cons_of_mem _ hl)

/-- The list after a parse that worked. -/
theorem updataFormatForEdid_list {edid : ParsedEdid} (hr : 0 ≤ edid.result) {doc doc' : List N}
    {list : N} (hl : partAt Port.bitstream.element "formats" doc = some list)
    (h : updataFormatForEdid edid doc = some doc') :
    ∃ list', partAt Port.bitstream.element "formats" doc' = some list' ∧
      syncEntries edid list = some list' := by
  rw [updataFormatForEdid_eq hr] at h
  exact partAt_onPart_some (syncEntries_inPlace edid) hl h

/-- `format` is none of the six names. -/
def notInLevels (format : String) : Bool := format ∉ mSupportHdmiLevel.map Prod.snd

/-- The formats follow the EDID, and nothing else in the list changes. -/
theorem updataFormatForEdid_follows {doc : List N} {list : N}
    (hl : partAt Port.bitstream.element "formats" doc = some list) (hf : FormatList list)
    (hn : (entries "format" list).Nodup) (edid : ParsedEdid) :
    (edid.result < 0 → updataFormatForEdid edid doc = some doc) ∧
    ((∀ node ∈ siblingsFrom "format" list, (text node).isSome) →
      ∃ doc', updataFormatForEdid edid doc = some doc') ∧
    (0 ≤ edid.result → ∀ doc', updataFormatForEdid edid doc = some doc' →
      ∃ list', partAt Port.bitstream.element "formats" doc' = some list' ∧
        (∀ level ∈ mSupportHdmiLevel,
          level.2 ∈ entries "format" list' ↔ isSupportFormat edid.infors level.1 = true) ∧
        (entries "format" list').filter notInLevels =
          (entries "format" list).filter notInLevels ∧
        (entries "format" list').Nodup ∧
        updataFormatForEdid edid doc' = some doc') := by
  refine ⟨fun hr => updataFormatForEdid_failed (by omega) doc,
    fun hfilled => updataFormatForEdid_returns hl ⟨hf.isList, hfilled⟩, ?_⟩
  intro hr doc' h
  obtain ⟨list', hl', hs⟩ := updataFormatForEdid_list hr hl h
  have he := syncEntries_entries hf hs
  have hstep : ∀ level ∈ mSupportHdmiLevel,
      level.2 ∈ entries "format" list' ↔ isSupportFormat edid.infors level.1 = true := by
    intro level hlevel
    have hone : (entries "format" list).count level.2 ≤ 1 := List.nodup_iff_count_le_one.mp hn _
    rw [← List.count_pos_iff, he, count_bringAll mSupportHdmiLevel_nodup hlevel]
    cases isSupportFormat edid.infors level.1 with
    | true =>
      rw [if_pos rfl]
      exact iff_of_true (by omega) rfl
    | false =>
      show 0 < _ - 1 ↔ _
      exact iff_of_false (by omega) Bool.false_ne_true
  refine ⟨list', hl', hstep, ?_, ?_, ?_⟩
  · rw [he]
    refine filter_bringAll (fun entry hentry => ?_) _
    exact decide_eq_false fun hnot => hnot (List.mem_map_of_mem hentry)
  · rw [he]
    exact nodup_bringAll hn
  · rw [updataFormatForEdid_eq hr]
    exact onPart_eq_self hl' (syncEntries_inStep hstep)

def ac3Config : List XmlNode :=
  configOf (sectionOf .decode "yes" "decode_pcm" ["AAC"] ["speaker"])
    (sectionOf .bitstream "no" "manual" ["WMAPRO", "AC3"] ["hdmi"])

/-- A sink with one descriptor, of DTS. -/
def dtsEdid : ParsedEdid := ⟨0, ⟨1, -1, some ⟨0, [⟨7, 6, 7, 0, 0, 0⟩]⟩⟩⟩

theorem ac3Config_formatLists : FormatLists ac3Config := by
  intro port
  cases port with
  | decode => exact ⟨_, rfl, rfl, by decide⟩
  | bitstream => exact ⟨_, rfl, rfl, by decide⟩

theorem updataFormatForEdid_follows_dts :
    ∃ doc' list', updataFormatForEdid dtsEdid ac3Config = some doc' ∧
      partAt Port.bitstream.element "formats" doc' = some list' ∧
      "DTS" ∈ entries "format" list' ∧ "AC3" ∉ entries "format" list' := by
  obtain ⟨_, hreturns, hfollows⟩ :=
    updataFormatForEdid_follows
      (show partAt Port.bitstream.element "formats" ac3Config = some _ from rfl)
      ⟨rfl, by decide⟩ (by decide) dtsEdid
  obtain ⟨doc', h⟩ := hreturns (by decide)
  obtain ⟨list', hl', hsteps, _⟩ := hfollows (by decide) doc' h
  refine ⟨doc', list', h, hl', (hsteps (7, "DTS") (by decide)).mpr (by decide), fun hm => ?_⟩
  exact absurd ((hsteps (2, "AC3") (by decide)).mp hm) (by decide)

/-! ## Manual mode -/

/-- The formats of the sink are listed, and no other of the six exactly once. -/
def InStep (edid : ParsedEdid) (doc : List N) : Prop :=
  ∀ list, partAt Port.bitstream.element "formats" doc = some list →
    ∀ level ∈ mSupportHdmiLevel,
      if isSupportFormat edid.infors level.1 then level.2 ∈ entries "format" list
      else (entries "format" list).count level.2 ≠ 1

/-- Being listed, before and after a name was brought in step. -/
theorem bring_listed_iff (present : Bool) (before : Nat) :
    ((0 < if present then max before 1 else before - 1) ↔ 0 < before) ↔
      if present then 0 < before else before ≠ 1 := by
  cases present with
  | true =>
    show (0 < max before 1 ↔ 0 < before) ↔ 0 < before
    omega
  | false =>
    show (0 < before - 1 ↔ 0 < before) ↔ before ≠ 1
    omega

theorem bringAll_listed_iff (edid : ParsedEdid) (l : List String) :
    (∀ format, format ∈ bringAll (isSupportFormat edid.infors) mSupportHdmiLevel l ↔ format ∈ l) ↔
      ∀ level ∈ mSupportHdmiLevel, if isSupportFormat edid.infors level.1 then level.2 ∈ l
        else l.count level.2 ≠ 1 := by
  have hlevel : ∀ level ∈ mSupportHdmiLevel,
      ((level.2 ∈ bringAll (isSupportFormat edid.infors) mSupportHdmiLevel l ↔ level.2 ∈ l) ↔
        if isSupportFormat edid.infors level.1 then level.2 ∈ l else l.count level.2 ≠ 1) := by
    intro level hm
    rw [← List.count_pos_iff, ← List.count_pos_iff, count_bringAll mSupportHdmiLevel_nodup hm]
    exact bring_listed_iff _ _
  constructor
  · exact fun h level hm => (hlevel level hm).mp (h level.2)
  · intro h format
    by_cases hnames : format ∈ mSupportHdmiLevel.map Prod.snd
    · obtain ⟨level, hm, rfl⟩ := List.mem_map.mp hnames
      exact (hlevel level hm).mpr (h level hm)
    · rw [← List.count_pos_iff, ← List.count_pos_iff, count_bringAll_of_notMem hnames]

theorem updataFormatForEdid_answers_iff {doc doc' : List N} (hl : FormatLists doc)
    {edid : ParsedEdid} (h : updataFormatForEdid edid doc = some doc') :
    (∀ device format, getFormat device format doc' = getFormat device format doc) ↔
      edid.result < 0 ∨ InStep edid doc := by
  by_cases hr : 0 ≤ edid.result
  · obtain ⟨list, hlist, hf⟩ := hl .bitstream
    obtain ⟨list', hlist', hs⟩ := updataFormatForEdid_list hr hlist h
    have hin : InStep edid doc ↔ ∀ format, format ∈ entries "format" list' ↔
        format ∈ entries "format" list := by
      rw [syncEntries_entries hf hs, bringAll_listed_iff]
      unfold InStep
      rw [hlist]
      exact ⟨fun h => h list rfl, fun h l hl => Option.some.inj hl ▸ h⟩
    rw [hin]
    constructor
    · intro hsame
      refine Or.inr fun format => ?_
      have hone := hsame 1 format
      rw [getFormat_eq (show devicePort 1 = some .bitstream from rfl) hlist,
        getFormat_eq (show devicePort 1 = some .bitstream from rfl) hlist'] at hone
      by_cases hm : format ∈ entries "format" list
      · rw [if_pos hm] at hone
        refine iff_of_true (by_contra fun hm' => ?_) hm
        rw [if_neg hm'] at hone
        cases hone
      · rw [if_neg hm] at hone
        refine iff_of_false (fun hm' => ?_) hm
        rw [if_pos hm'] at hone
        cases hone
    · intro hsame device format
      have hmem := (hsame.resolve_left (by omega)) format
      by_cases hp : devicePort device = some .bitstream
      · rw [getFormat_eq hp hlist, getFormat_eq hp hlist', if_congr hmem rfl rfl]
      · refine getFormat_congr (fun port hport => ?_) format
        refine (updataFormatForEdid_frame h).parts port "formats" fun ht => hp ?_
        rw [hport, ht.1]
  · rw [updataFormatForEdid_failed (by omega)] at h
    cases h
    exact iff_of_true (fun _ _ => rfl) (Or.inl (by omega))

/-- After any calls: an update in manual mode returns and keeps the answers exactly when it finds
what it needs, and the parse failed or the formats are in step already. -/
theorem manualMode_keeps_iff {start doc : List N} (hl : FormatLists start) {calls : List Call}
    (hrun : calls.foldlM step start = some doc) (edid : ParsedEdid) :
    (getMode 1 doc = some 1 → ∃ doc', updataFormatForEdid edid doc = some doc' ∧
      ∀ device format, getFormat device format doc' = getFormat device format doc) ↔
    (getMode 1 doc = some 1 →
      (Call.updataFormatForEdid edid).Returns doc ∧ (edid.result < 0 ∨ InStep edid doc)) := by
  have hlists : FormatLists doc := FormatsHold.edits formatList_kept hl (run_edits hrun)
  refine imp_congr_right fun _ => ?_
  rw [← updataFormatForEdid_returns_iff]
  constructor
  · rintro ⟨doc', h, hsame⟩
    exact ⟨by rw [h]; rfl, (updataFormatForEdid_answers_iff hlists h).mp hsame⟩
  · rintro ⟨hreturns, hstep⟩
    obtain ⟨doc', h⟩ := Option.isSome_iff_exists.mp hreturns
    exact ⟨doc', h, (updataFormatForEdid_answers_iff hlists h).mpr hstep⟩

/-- The user sets the formats of the sink before manual mode. -/
def dtsCalls : List Call := [.setFormat 1 1 "AC3", .setFormat 1 0 "DTS", .setMode 1 1]

theorem manualMode_keeps_dts :
    ∃ doc, dtsCalls.foldlM step ac3Config = some doc ∧
      (getMode 1 doc = some 1 → ∃ doc', updataFormatForEdid dtsEdid doc = some doc' ∧
        ∀ device format, getFormat device format doc' = getFormat device format doc) := by
  refine ⟨_, (Option.some_get rfl).symm, ?_⟩
  refine (manualMode_keeps_iff ac3Config_formatLists (Option.some_get rfl).symm dtsEdid).mpr
    fun _ => ⟨(updataFormatForEdid_returns_iff dtsEdid _).mp rfl, Or.inr ?_⟩
  intro list hlist
  cases hlist
  decide

/-- The user has set manual mode and AC3, which the sink does not take. -/
theorem manualMode_ac3_lost :
    getMode 1 ac3Config = some 1 ∧ getFormat 1 "AC3" ac3Config = some 1 ∧
      (updataFormatForEdid dtsEdid ac3Config).bind (getFormat 1 "AC3") = some 0 :=
  ⟨rfl, rfl, rfl⟩

end RockchipHal.Sound.RkAudioSettingManager
