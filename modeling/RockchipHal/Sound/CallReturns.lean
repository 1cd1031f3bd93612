import RockchipHal.Lib.Reach
import RockchipHal.Sound.SettingTolerance

/-!
# `RkAudioSettingManager`: where a call returns

`Call.Returns` is what one call needs of the document it is made on, where the attributes of
both ports are there: the part it edits, a first device, and in a list of formats what
`EditReturns` says.  `updataFormatForEdid` needs that at each turn of its loop, in the list the
turns before have left.

    (step doc call).isSome ↔ call.Returns doc                      (step_isSome_iff)
-/

namespace RockchipHal.Sound.RkAudioSettingManager

open Dom

variable {N : Type} [Dom N]

/-- An add finds an element; a delete comes to its format, or the end, past nodes with a child. -/
def EditReturns (close : Int) (format : String) (list : N) : Prop :=
  if close = 1 then Reaches format (siblingsFrom "format" list) else isElement list = true

/-- `syncFormat` edits when it is to delete and the format is listed, or to add and it is not. -/
def SyncReturns (close : Int) (ch : String) (list : N) : Prop :=
  (close = 1 ↔ ch ∈ entries "format" list) → EditReturns close ch list

/-- The turns of the loop of `updataFormatForAutoMode`. -/
def SyncsReturn (edid : ParsedEdid) : List (Int × String) → N → Prop
  | [], _ => True
  | level :: levels, list => SyncReturns (edid.close level.1) level.2 list ∧
      ∀ list', syncEntry (edid.close level.1) level.2 list = some list' →
        SyncsReturn edid levels list'

/-- `setSelect` of a bitstream output: there is a device to look at, and `MLP` can be brought in
step. -/
structure SelectReturns (close : Int) (doc : List N) : Prop where
  device : ∃ list, partAt Port.bitstream.element "devices" doc = some list ∧
    (firstChildNamed "device" list).isSome
  formats : ∃ list, partAt Port.bitstream.element "formats" doc = some list ∧
    SyncReturns close "MLP" list

def Call.Returns (doc : List N) : Call → Prop
  | .setSelect device => (device = 1 → SelectReturns 0 doc) ∧ (device = 2 → SelectReturns 1 doc)
  | .setFormat device close format =>
    ∀ port, devicePort device = some port → close = 0 ∨ close = 1 →
      ∃ list, partAt port.element "formats" doc = some list ∧ EditReturns close format list
  | .setMode device _ =>
    (device = 0 → (partAt Port.decode.element "mode" doc).isSome) ∧
      (device = 1 → (partAt Port.bitstream.element "mode" doc).isSome)
  | .updataFormatForEdid edid =>
    0 ≤ edid.result → ∃ list, partAt Port.bitstream.element "formats" doc = some list ∧
      SyncsReturn edid mSupportHdmiLevel list

/-! ## Edits of a list -/

theorem editFormat_isSome_iff (close : Int) (format : String) (list : N) :
    (editFormat close format list).isSome ↔ EditReturns close format list := by
  unfold editFormat EditReturns
  split
  · exact removeFormat_isSome format list
  · exact insertFormat_isSome format list

theorem syncEntry_isSome_iff {close : Int} (hc : close = 0 ∨ close = 1) (ch : String) (list : N) :
    (syncEntry close ch list).isSome ↔ SyncReturns close ch list := by
  have hfind : findText ch (siblingsFrom "format" list) = close ↔
      (close = 1 ↔ ch ∈ entries "format" list) := by
    rw [findText_eq]
    show (if ch ∈ entries "format" list then (1 : Int) else 0) = close ↔ _
    by_cases hm : ch ∈ entries "format" list
    · rw [if_pos hm, iff_true_right hm]
      exact eq_comm
    · rw [if_neg hm, iff_false_right hm]
      omega
  unfold syncEntry SyncReturns
  split
  · next he => rw [editFormat_isSome_iff, imp_iff_right (hfind.mp he)]
  · next he => exact iff_of_true rfl fun h => absurd (hfind.mpr h) he

theorem syncEntries_isSome_iff (edid : ParsedEdid) (list : N) :
    (syncEntries edid list).isSome ↔ SyncsReturn edid mSupportHdmiLevel list := by
  unfold syncEntries
  generalize mSupportHdmiLevel = levels
  induction levels generalizing list with
  | nil => exact iff_of_true rfl trivial
  | cons level levels ih =>
    rw [List.foldlM_cons]
    unfold SyncsReturn
    rw [← syncEntry_isSome_iff (edid.close_cases level.1)]
    cases hs : syncEntry (edid.close level.1) level.2 list with
    | none => exact iff_of_false Bool.false_ne_true fun h => Bool.false_ne_true h.1
    | some list' =>
      refine (ih list').trans ?_
      exact ⟨fun h => ⟨rfl, fun l hl => Option.some.inj hl ▸ h⟩, fun h => h.2 list' rfl⟩

theorem onPart_isSome_iff {f : N → Option N} {P : N → Prop} (hf : ∀ n, (f n).isSome ↔ P n)
    (name part : String) (doc : List N) :
    (onPart name part f doc).isSome ↔ ∃ n, partAt name part doc = some n ∧ P n := by
  rw [onPart_isSome]
  cases partAt name part doc with
  | none => exact iff_of_false Bool.false_ne_true (by rintro ⟨n, hn, -⟩; cases hn)
  | some n => exact (hf n).trans ⟨fun h => ⟨n, rfl, h⟩, fun ⟨_, hn, h⟩ => Option.some.inj hn ▸ h⟩

/-! ## Calls -/

theorem ensureDevice_isSome_iff (ch : String) (list : N) :
    (ensureDevice ch list).isSome ↔ (firstChildNamed "device" list).isSome :=
  ⟨ensureDevice_needs, ensureDevice_returns⟩

theorem selectBitstream_isSome_iff {doc : List N}
    (h : ∀ port : Port, (elementAt port.element doc).isSome) (ch : String) {close : Int}
    (hc : close = 0 ∨ close = 1) :
    (selectBitstream ch close doc).isSome ↔ SelectReturns close doc := by
  obtain ⟨doc1, h1⟩ := setAudioSettingSelect_returns h .bitstream
  have hdevices := onPart_isSome_iff (ensureDevice_isSome_iff ch) Port.bitstream.element "devices" doc1
  rw [setAudioSettingSelect_partAt h1] at hdevices
  rw [selectBitstream_eq ch hc, h1]
  show ((onPart Port.bitstream.element "devices" (ensureDevice ch) doc1).bind _).isSome ↔ _
  cases h2 : onPart Port.bitstream.element "devices" (ensureDevice ch) doc1 with
  | none =>
    rw [h2] at hdevices
    exact iff_of_false Bool.false_ne_true fun hr => Bool.false_ne_true (hdevices.mpr hr.device)
  | some doc2 =>
    rw [h2] at hdevices
    -- the list of formats is as before
    have hsame : partAt Port.bitstream.element "formats" doc2 =
        partAt Port.bitstream.element "formats" doc := by
      rw [(frame_onPart (ensureDevice_inPlace ch) h2).parts .bitstream "formats"
        fun ht => absurd ht.2 (by decide), setAudioSettingSelect_partAt h1]
    show (onPart Port.bitstream.element "formats" (syncEntry close "MLP") doc2).isSome ↔ _
    rw [onPart_isSome_iff (syncEntry_isSome_iff hc "MLP"), hsame]
    exact ⟨fun hf => ⟨hdevices.mp rfl, hf⟩, fun hr => hr.formats⟩

theorem setSelect_isSome_iff {doc : List N}
    (h : ∀ port : Port, (elementAt port.element doc).isSome) (device : Int) :
    (setSelect device doc).isSome ↔ (Call.setSelect device).Returns doc := by
  unfold setSelect Call.Returns
  by_cases h0 : device = 0
  · rw [if_pos h0]
    refine iff_of_true ?_ ⟨fun h1 => absurd h1 (by omega), fun h2 => absurd h2 (by omega)⟩
    exact Option.isSome_iff_exists.mpr (setAudioSettingSelect_returns h .decode)
  · rw [if_neg h0]
    by_cases h1 : device = 1
    · rw [if_pos h1, selectBitstream_isSome_iff h "hdmi" (Or.inl rfl)]
      exact ⟨fun hr => ⟨fun _ => hr, fun h2 => absurd h2 (by omega)⟩, fun hr => hr.1 h1⟩
    · rw [if_neg h1]
      by_cases h2 : device = 2
      · rw [if_pos h2, selectBitstream_isSome_iff h "spdif" (Or.inr rfl)]
        exact ⟨fun hr => ⟨fun h1' => absurd h1' h1, fun _ => hr⟩, fun hr => hr.2 h2⟩
      · rw [if_neg h2]
        exact iff_of_true rfl ⟨fun h1' => absurd h1' h1, fun h2' => absurd h2' h2⟩

theorem setFormat_returns_iff (device close : Int) (format : String) (doc : List N) :
    (setFormat device close format doc).isSome ↔
      (Call.setFormat device close format).Returns doc := by
  show _ ↔ ∀ port, devicePort device = some port → close = 0 ∨ close = 1 →
    ∃ list, partAt port.element "formats" doc = some list ∧ EditReturns close format list
  cases hp : devicePort device with
  | none =>
    rw [setFormat_of_none hp]
    exact iff_of_true rfl fun port hport => by cases hport
  | some port =>
    rw [setFormat_of_port hp]
    by_cases hc : close = 0 ∨ close = 1
    · rw [setAudioSettingFormat_eq port hc, onPart_isSome_iff (editFormat_isSome_iff close format)]
      exact ⟨fun hr _ hport _ => Option.some.inj hport ▸ hr, fun hr => hr port rfl hc⟩
    · rw [setAudioSettingFormat_other port hc]
      exact iff_of_true rfl fun _ _ hc' => absurd hc' hc

theorem setAudioSettingMode_isSome (port : Port) (zero one : String) (mode : Int) (doc : List N) :
    (setAudioSettingMode port zero one mode doc).isSome =
      (partAt port.element "mode" doc).isSome := by
  unfold setAudioSettingMode
  rw [onPart_isSome]
  cases partAt port.element "mode" doc <;> rfl

theorem setMode_returns_iff (device mode : Int) (doc : List N) :
    (setMode device mode doc).isSome ↔ (Call.setMode device mode).Returns doc := by
  unfold setMode Call.Returns
  by_cases h0 : device = 0
  · rw [if_pos h0]
    unfold setAudioSettingDecodeMode
    rw [setAudioSettingMode_isSome]
    exact ⟨fun hr => ⟨fun _ => hr, fun h1 => absurd h1 (by omega)⟩, fun hr => hr.1 h0⟩
  · rw [if_neg h0]
    by_cases h1 : device = 1
    · rw [if_pos h1]
      unfold setAudioSettingBitStreamMode
      rw [setAudioSettingMode_isSome]
      exact ⟨fun hr => ⟨fun h0' => absurd h0' h0, fun _ => hr⟩, fun hr => hr.2 h1⟩
    · rw [if_neg h1]
      exact iff_of_true rfl ⟨fun h0' => absurd h0' h0, fun h1' => absurd h1' h1⟩

theorem updataFormatForEdid_returns_iff (edid : ParsedEdid) (doc : List N) :
    (updataFormatForEdid edid doc).isSome ↔ (Call.updataFormatForEdid edid).Returns doc := by
  show _ ↔ (0 ≤ edid.result → ∃ list, partAt Port.bitstream.element "formats" doc = some list ∧
    SyncsReturn edid mSupportHdmiLevel list)
  by_cases hr : 0 ≤ edid.result
  · rw [updataFormatForEdid_eq hr, onPart_isSome_iff (syncEntries_isSome_iff edid),
      imp_iff_right hr]
  · rw [updataFormatForEdid_failed hr]
    exact iff_of_true rfl fun hr' => absurd hr' hr

theorem step_isSome_iff {doc : List N} (h : ∀ port : Port, (elementAt port.element doc).isSome)
    (call : Call) : (step doc call).isSome ↔ call.Returns doc := by
  cases call with
  | setSelect device => exact setSelect_isSome_iff h device
  | setFormat device close format => exact setFormat_returns_iff device close format doc
  | setMode device mode => exact setMode_returns_iff device mode doc
  | updataFormatForEdid edid => exact updataFormatForEdid_returns_iff edid doc

end RockchipHal.Sound.RkAudioSettingManager
