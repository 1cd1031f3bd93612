import RockchipHal.Sound.SettingsRefinement

/-!
# The mode that was set last

`getMode` answers with the mode the last `setMode` for the output set, whatever other calls
there were:

    getMode device after = (lastMode device calls).or (getMode device before)   (getMode_last)

It tells devices 1 and 2 of the mode of the bitstream, and only device 1 sets it.
-/

namespace RockchipHal.Sound.RkAudioSettingManager

open Dom

variable {N : Type} [Dom N]

/-- The mode a call sets for the outputs `getMode device` tells of. -/
def Call.modeFor (device : Int) : Call → Option Int
  | .setMode target mode =>
    if (target = 0 ∧ device = 0 ∨ target = 1 ∧ (device = 1 ∨ device = 2)) ∧ (mode = 0 ∨ mode = 1)
    then some mode else none
  | _ => none

def lastMode (device : Int) (calls : List Call) : Option Int :=
  (calls.filterMap (Call.modeFor device)).getLast?

namespace Settings

/-- Both ports have a mode that can be set. -/
def HasModes (s : Settings) : Prop := ∀ port, (s.port port).mode.isSome

theorem editFormats_mode (s : Settings) (port : Port) (f : List String → List String)
    (port' : Port) : ((s.editFormats port f).port port').mode = (s.port port').mode := by
  unfold editFormats
  rw [editPort_port]
  split
  · next hp => rw [hp]
  · rfl

theorem setPortMode_mode (s : Settings) (port : Port) (zero one : String) (mode : Int)
    (port' : Port) : ((s.setPortMode port zero one mode).port port').mode =
      if port' = port then changeMode zero one mode (s.port port).mode
      else (s.port port').mode := by
  unfold setPortMode
  rw [editPort_port]
  split <;> rfl

theorem selectOutput_mode (s : Settings) (ch : String) (mlp : Bool) (port : Port) :
    ((s.selectOutput ch mlp).port port).mode = (s.port port).mode := by
  unfold selectOutput useDevice
  rw [editFormats_mode]
  split <;> rfl

/-- Of the calls, `setMode` alone changes a mode. -/
theorem apply_mode (s : Settings) (c : Call) (port : Port) :
    ((s.apply c).port port).mode = (s.port port).mode ∨ ∃ device mode, c = .setMode device mode := by
  cases c with
  | setMode device mode => exact .inr ⟨device, mode, rfl⟩
  | setSelect device =>
    left
    show ((s.setSelect device).port port).mode = _
    unfold setSelect
    split
    · rfl
    · split
      · exact s.selectOutput_mode "hdmi" true port
      · split
        · exact s.selectOutput_mode "spdif" false port
        · rfl
  | setFormat device close format =>
    left
    show ((s.setFormat device close format).port port).mode = _
    unfold setFormat
    cases devicePort device with
    | none => rfl
    | some port' => exact s.editFormats_mode port' _ port
  | updataFormatForEdid edid =>
    left
    show ((s.updataFormatForEdid edid).port port).mode = _
    unfold updataFormatForEdid
    split
    · exact s.editFormats_mode .bitstream _ port
    · rfl

theorem changeMode_answer {zero one : String} (mode : Int) {old : Option String}
    (h : old.isSome) (hne : zero ≠ one) :
    (changeMode zero one mode old).isSome ∧
      modeAnswer zero one (changeMode zero one mode old) =
        if mode = 0 ∨ mode = 1 then mode else modeAnswer zero one old := by
  obtain ⟨value, rfl⟩ := Option.isSome_iff_exists.mp h
  refine ⟨rfl, ?_⟩
  unfold changeMode
  show modeAnswer zero one (some (if mode = 0 then zero else if mode = 1 then one else value)) = _
  by_cases h0 : mode = 0
  · rw [if_pos h0, if_pos (.inl h0), h0]
    exact if_pos rfl
  · rw [if_neg h0]
    by_cases h1 : mode = 1
    · rw [if_pos h1, if_pos (.inr h1), h1]
      exact (if_neg hne.symm).trans (if_pos rfl)
    · rw [if_neg h1, if_neg (by omega)]

theorem hasModes_setPortMode {s : Settings} (h : s.HasModes) (port : Port) (zero one : String)
    (mode : Int) : (s.setPortMode port zero one mode).HasModes := by
  intro port'
  rw [setPortMode_mode]
  by_cases hp : port' = port
  · rw [if_pos hp, changeMode, Option.isSome_map]
    exact h port
  · rw [if_neg hp]
    exact h port'

theorem HasModes.apply {s : Settings} (h : s.HasModes) (c : Call) : (s.apply c).HasModes := by
  intro port
  rcases s.apply_mode c port with hsame | ⟨device, mode, rfl⟩
  · rw [hsame]
    exact h port
  · show ((s.setMode device mode).port port).mode.isSome
    unfold Settings.setMode
    split
    · exact hasModes_setPortMode h .decode _ _ mode port
    · split
      · exact hasModes_setPortMode h .bitstream _ _ mode port
      · exact h port

theorem setMode_mode (s : Settings) (device mode : Int) :
    ((s.setMode device mode).port .decode).mode =
      (if device = 0 then changeMode "decode_pcm" "multi_pcm" mode (s.port .decode).mode
        else (s.port .decode).mode) ∧
    ((s.setMode device mode).port .bitstream).mode =
      if device = 1 then changeMode "auto" "manual" mode (s.port .bitstream).mode
      else (s.port .bitstream).mode := by
  have hne : Port.decode ≠ .bitstream := by decide
  unfold setMode
  by_cases h0 : device = 0
  · rw [if_pos h0, if_pos h0, if_neg (by omega), setPortMode_mode, setPortMode_mode, if_pos rfl,
      if_neg hne.symm]
    exact ⟨rfl, rfl⟩
  · rw [if_neg h0, if_neg h0]
    by_cases h1 : device = 1
    · rw [if_pos h1, if_pos h1, setPortMode_mode, setPortMode_mode, if_neg hne, if_pos rfl]
      exact ⟨rfl, rfl⟩
    · rw [if_neg h1, if_neg h1]
      exact ⟨rfl, rfl⟩

/-- A mode that is set for an output, or not. -/
theorem ite_getD {c d : Prop} [Decidable c] [Decidable d] (mode old : Int) :
    (if c then if d then mode else old else old) =
      (if c ∧ d then some mode else none).getD old := by
  by_cases hc : c
  · by_cases hd : d
    · rw [if_pos hc, if_pos hd, if_pos ⟨hc, hd⟩, Option.getD_some]
    · rw [if_pos hc, if_neg hd, if_neg fun h => hd h.2, Option.getD_none]
  · rw [if_neg hc, if_neg fun h => hc h.1, Option.getD_none]

/-- One call sets the mode it is for, and no other. -/
theorem getMode_apply {s : Settings} (h : s.HasModes) (c : Call) (device : Int) :
    (s.apply c).getMode device = (c.modeFor device).getD (s.getMode device) := by
  by_cases hc : ∃ target mode, c = .setMode target mode
  · obtain ⟨target, mode, rfl⟩ := hc
    obtain ⟨hdecode, hbitstream⟩ := s.setMode_mode target mode
    have hzero := changeMode_answer mode (h .decode) (show "decode_pcm" ≠ "multi_pcm" by decide)
    have hone := changeMode_answer mode (h .bitstream) (show "auto" ≠ "manual" by decide)
    show (s.setMode target mode).getMode device =
      (if _ ∧ _ then some mode else none).getD (s.getMode device)
    rw [← ite_getD]
    unfold getMode
    rw [hdecode, hbitstream]
    by_cases hd : device = 0
    · rw [if_pos hd, if_pos hd]
      by_cases ht : target = 0
      · rw [if_pos ht, if_pos (.inl ⟨ht, hd⟩), hzero.2]
      · rw [if_neg ht, if_neg (by omega)]
    · rw [if_neg hd, if_neg hd]
      by_cases hd' : device = 1 ∨ device = 2
      · rw [if_pos hd', if_pos hd']
        by_cases ht : target = 1
        · rw [if_pos ht, if_pos (.inr ⟨ht, hd'⟩), hone.2]
        · rw [if_neg ht, if_neg (by omega)]
      · rw [if_neg hd', if_neg hd', if_neg (by omega)]
  · have hsame : ∀ port, ((s.apply c).port port).mode = (s.port port).mode := fun port =>
      (s.apply_mode c port).resolve_right hc
    have hnone : c.modeFor device = none := by
      cases c with
      | setMode target mode => exact absurd ⟨target, mode, rfl⟩ hc
      | setSelect _ | setFormat _ _ _ | updataFormatForEdid _ => rfl
    rw [hnone, Option.getD_none]
    unfold getMode
    rw [hsame, hsame]

end Settings

/-- After any calls `getMode` answers with the mode the last `setMode` for it set. -/
theorem getMode_last {doc : List N} {s : Settings} (h : Represents doc s) (hm : s.HasModes)
    (calls : List Call) (device : Int) :
    ∃ doc', calls.foldlM step doc = some doc' ∧
      getMode device doc' = (lastMode device calls).or (getMode device doc) := by
  have hanswer : ∀ {doc : List N} {s : Settings}, Represents doc s →
      getMode device doc = some (s.getMode device) := by
    intro doc s h
    obtain ⟨doc', hserve, _⟩ := h.serve (.getMode device)
    obtain ⟨val, hval, hpair⟩ := Option.map_eq_some_iff.mp hserve
    cases hpair
    exact hval
  induction calls generalizing doc s with
  | nil => exact ⟨doc, rfl, rfl⟩
  | cons c calls ih =>
    obtain ⟨doc1, h1, hr1⟩ := h.call c
    obtain ⟨doc', hrun, hlast⟩ := ih hr1 (hm.apply c)
    refine ⟨doc', ?_, ?_⟩
    · rw [List.foldlM_cons, h1]
      exact hrun
    · rw [hlast, hanswer hr1, hanswer h, Settings.getMode_apply hm c device]
      unfold lastMode
      cases hc : c.modeFor device with
      | none => rw [List.filterMap_cons_none hc, Option.getD_none]
      | some mode =>
        rw [List.filterMap_cons_some hc, List.getLast?_cons, Option.getD_some, Option.some_or]
        cases (calls.filterMap (Call.modeFor device)).getLast? <;> rfl

/-- Manual mode is left through device 1, and a call for device 2 sets nothing. -/
theorem getMode_last_auto :
    ∃ doc', [Call.setMode 1 0, .setSelect 2, .setMode 2 1].foldlM step ac3Config = some doc' ∧
      getMode 2 doc' = some 0 := by
  have hmodes : ac3Settings.HasModes := by
    intro port
    cases port <;> rfl
  exact getMode_last ac3Config_represents hmodes [.setMode 1 0, .setSelect 2, .setMode 2 1] 2

end RockchipHal.Sound.RkAudioSettingManager
