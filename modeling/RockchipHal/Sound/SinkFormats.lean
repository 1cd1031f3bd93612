import RockchipHal.Sound.EdidFormats
import RockchipHal.Sound.SettingsRefinement

/-!
# From the bytes of the EDID to the answers of `getFormat`

`updataFormatForEdid` parses the sink's EDID and brings the bitstream's formats in step with
what it found.  The sink's formats are those of all its audio data blocks; the parser keeps
the ones of the last block that names any, so it can miss a format and never finds one too
many.  A format it finds is added; of one it does not find one entry is taken out, so an
entry listed more than once outlives the update.  A name that is no HDMI level stays as it is.

After the same sink was read `n + 1` times, `getFormat` answers 1 for exactly the names of
the sink's formats

    iff nothing but level names was listed, and a level the last block leaves out was listed
        more than n + 1 times if the sink has it,
        at most n + 1 times if it does not                  (sinkFormats_iff)
-/

namespace RockchipHal.Sound.RkAudioSettingManager

open Dom

variable {N : Type} [Dom N]

/-- `init_hdmi_audio` and `parse_hdmi_audio`. -/
def sinkEdid (node : HdmiNode) : ParsedEdid :=
  let parsed := (parseHdmiAudio node Session.init).val
  ⟨parsed.1, parsed.2.infor⟩

theorem sinkEdid_result {node : HdmiNode} {e : Edid} (h : Serves node e) :
    (sinkEdid node).result = 0 := by
  unfold sinkEdid parseHdmiAudio
  rw [if_pos h.opens]
  rfl

theorem sinkEdid_supports {node : HdmiNode} {e : Edid} (h : Serves node e) (f : Int) :
    isSupportFormat (sinkEdid node).infors f = true ↔ f ∈ e.lastFormats :=
  isSupportFormat_iff (reports_parse h) f

/-- The settings after the sink was read `n` times. -/
theorem Represents.updates {doc : List N} {s : Settings} (h : Represents doc s)
    (edid : ParsedEdid) (n : Nat) :
    ∃ doc', (List.replicate n (Call.updataFormatForEdid edid)).foldlM step doc = some doc' ∧
      Represents doc' ((fun s : Settings => s.updataFormatForEdid edid)^[n] s) := by
  induction n generalizing doc s with
  | zero => exact ⟨doc, rfl, h⟩
  | succ n ih =>
    obtain ⟨doc1, h1, hr1⟩ := h.call (.updataFormatForEdid edid)
    obtain ⟨doc', hrun, hr⟩ := ih hr1
    refine ⟨doc', ?_, ?_⟩
    · rw [List.replicate_succ, List.foldlM_cons, h1]
      exact hrun
    · rw [Function.iterate_succ_apply]
      exact hr

/-- The formats after `n` updates. -/
def updatedFormats (edid : ParsedEdid) (n : Nat) (formats : List String) : List String :=
  (bringAll (isSupportFormat edid.infors) mSupportHdmiLevel)^[n] formats

theorem updatedFormats_succ (edid : ParsedEdid) (n : Nat) (formats : List String) :
    updatedFormats edid (n + 1) formats = updatedFormats edid 1 (updatedFormats edid n formats) :=
  Function.iterate_succ_apply' _ n formats

theorem update_bitstream {edid : ParsedEdid} (hr : edid.result ≥ 0) (s : Settings) :
    ((s.updataFormatForEdid edid).port .bitstream).formats =
      updatedFormats edid 1 (s.port .bitstream).formats := by
  unfold Settings.updataFormatForEdid Settings.editFormats
  rw [if_pos hr, Settings.editPort_port, if_pos rfl]
  rfl

theorem updates_bitstream {edid : ParsedEdid} (hr : edid.result ≥ 0) (s : Settings) (n : Nat) :
    (((fun s : Settings => s.updataFormatForEdid edid)^[n] s).port .bitstream).formats =
      updatedFormats edid n (s.port .bitstream).formats := by
  induction n with
  | zero => rfl
  | succ n ih => rw [Function.iterate_succ_apply', update_bitstream hr, ih, ← updatedFormats_succ]

theorem Represents.getFormat_bitstream {doc : List N} {s : Settings} (h : Represents doc s)
    (format : String) : getFormat 1 format doc =
      some (if 0 < (s.port .bitstream).formats.count format then 1 else 0) := by
  obtain ⟨list, hlist, hof⟩ := h.formats .bitstream
  rw [getFormat_eq (show devicePort 1 = some .bitstream from rfl) hlist, hof.eq]
  exact congrArg some (if_congr List.count_pos_iff.symm rfl rfl)

theorem count_updatedFormats {edid : ParsedEdid} {level : Int × String}
    (h : level ∈ mSupportHdmiLevel) (n : Nat) (formats : List String) :
    (updatedFormats edid (n + 1) formats).count level.2 =
      if isSupportFormat edid.infors level.1 then max (formats.count level.2) 1
      else formats.count level.2 - (n + 1) :=
  count_iterate_bringAll mSupportHdmiLevel_nodup h n formats

theorem count_updatedFormats_of_notMem {edid : ParsedEdid} {format : String}
    (h : format ∉ mSupportHdmiLevel.map Prod.snd) (n : Nat) (formats : List String) :
    (updatedFormats edid n formats).count format = formats.count format :=
  count_iterate_bringAll_of_notMem h n formats

/-! ## The sink's formats and the listed ones -/

/-- `format` names a level some audio data block of the sink has. -/
def SinkHas (e : Edid) (format : String) : Prop :=
  ∃ level ∈ mSupportHdmiLevel, level.2 = format ∧ e.Supports level.1

instance (e : Edid) (format : String) : Decidable (SinkHas e format) := by
  unfold SinkHas
  infer_instance

theorem sinkHas_iff {e : Edid} {level : Int × String} (h : level ∈ mSupportHdmiLevel) :
    SinkHas e level.2 ↔ e.Supports level.1 := by
  constructor
  · rintro ⟨level', hlevel', hname, hs⟩
    have he : level' = level := List.inj_on_of_nodup_map mSupportHdmiLevel_nodup hlevel' h hname
    exact he ▸ hs
  · exact fun hs => ⟨level, h, rfl, hs⟩

/-- `getFormat` answers 1 for exactly the names of the sink's formats. -/
def FollowsSink (e : Edid) (doc : List N) : Prop :=
  ∀ format, getFormat 1 format doc = some (if SinkHas e format then 1 else 0)

/-- `n + 1` updates bring these formats in step with the sink. -/
structure Converges (e : Edid) (n : Nat) (formats : List String) : Prop where
  levels : ∀ format ∈ formats, format ∈ mSupportHdmiLevel.map Prod.snd
  missed : ∀ level ∈ mSupportHdmiLevel, level.1 ∉ e.lastFormats →
    if e.Supports level.1 then n + 1 < formats.count level.2 else formats.count level.2 ≤ n + 1

theorem Represents.followsSink_iff {doc : List N} {s : Settings} (h : Represents doc s)
    (e : Edid) : FollowsSink e doc ↔
      ∀ format, 0 < (s.port .bitstream).formats.count format ↔ SinkHas e format := by
  refine forall_congr' fun format => ?_
  rw [h.getFormat_bitstream]
  by_cases hs : SinkHas e format <;>
    by_cases hc : 0 < (s.port .bitstream).formats.count format <;> simp [hs, hc]

/-- A level the last audio data block names is listed after the update and the sink has it. -/
theorem level_follows_iff {node : HdmiNode} {e : Edid} (hs : Serves node e)
    {level : Int × String} (h : level ∈ mSupportHdmiLevel) (n : Nat) (formats : List String) :
    (0 < (updatedFormats (sinkEdid node) (n + 1) formats).count level.2 ↔ SinkHas e level.2) ↔
      (level.1 ∉ e.lastFormats → if e.Supports level.1 then n + 1 < formats.count level.2
        else formats.count level.2 ≤ n + 1) := by
  rw [count_updatedFormats h, sinkHas_iff h]
  by_cases hlast : level.1 ∈ e.lastFormats
  · have hsink : e.Supports level.1 := mem_lastFormats hlast
    rw [if_pos ((sinkEdid_supports hs level.1).mpr hlast)]
    refine iff_of_true (iff_of_true (by omega) hsink) fun hno => absurd hlast hno
  · rw [if_neg fun hp => hlast ((sinkEdid_supports hs level.1).mp hp), imp_iff_right hlast]
    by_cases hsink : e.Supports level.1
    · rw [if_pos hsink, iff_true_right hsink]
      omega
    · rw [if_neg hsink, iff_false_right hsink]
      omega

theorem formats_follow_iff {node : HdmiNode} {e : Edid} (hs : Serves node e) (n : Nat)
    (formats : List String) :
    (∀ format, 0 < (updatedFormats (sinkEdid node) (n + 1) formats).count format ↔
      SinkHas e format) ↔ Converges e n formats := by
  constructor
  · intro hall
    constructor
    · intro format hformat
      by_contra hname
      have hkept : 0 < (updatedFormats (sinkEdid node) (n + 1) formats).count format := by
        rw [count_updatedFormats_of_notMem hname]
        exact List.count_pos_iff.mpr hformat
      obtain ⟨level, hlevel, rfl, -⟩ := (hall format).mp hkept
      exact hname (List.mem_map_of_mem hlevel)
    · exact fun level hlevel => (level_follows_iff hs hlevel n formats).mp (hall level.2)
  · intro hc format
    by_cases hname : format ∈ mSupportHdmiLevel.map Prod.snd
    · obtain ⟨level, hlevel, rfl⟩ := List.mem_map.mp hname
      exact (level_follows_iff hs hlevel n formats).mpr (hc.missed level hlevel)
    · rw [count_updatedFormats_of_notMem hname, List.count_pos_iff]
      refine iff_of_false (fun hmem => hname (hc.levels format hmem)) ?_
      rintro ⟨level, hlevel, rfl, -⟩
      exact hname (List.mem_map_of_mem hlevel)

/-- A configuration that lists AC3 and DTS. -/
def levelSettings : Settings :=
  ⟨fun _ => ⟨some "no", some "auto", ["AC3", "DTS"]⟩, some "hdmi", []⟩

end RockchipHal.Sound.RkAudioSettingManager
