import RockchipHal.Sound.FormatLists

/-!
# `RkAudioSettingManager`: the two ports

Apart from `setSelect` a call belongs to one port (`Call.side`) and edits below that port's
element, so it changes no answer about the other port and none of `getSelect`, and calls of
different ports may change order:

    a on decode → b on bitstream → (step doc a).bind (step · b) = (step doc b).bind (step · a)

which also says that neither order fails where the other does not     (step_comm)
-/

namespace RockchipHal.Sound.RkAudioSettingManager

open Dom

variable {N : Type} [Dom N]

/-- The port whose part a call edits; `setSelect` has no one port. -/
def Call.side : Call → Option Port
  | .setSelect _ => none
  | .setFormat device _ _ => devicePort device
  | .setMode device _ =>
    if device = 0 then some .decode else if device = 1 then some .bitstream else none
  | .updataFormatForEdid _ => some .bitstream

/-- The part a call edits. -/
def Call.part : Call → String
  | .setMode _ _ => "mode"
  | .setSelect _ | .setFormat _ _ _ | .updataFormatForEdid _ => "formats"

theorem step_frame {call : Call} {port : Port} (hs : call.side = some port) {doc doc' : List N}
    (h : step doc call = some doc') :
    Frame (fun port' part => port' = port ∧ part = call.part) doc doc' := by
  cases call with
  | setSelect device => cases hs
  | setFormat device close format =>
    refine (setFormat_frame h).weaken fun port' part ht => ⟨?_, ht.2⟩
    exact Option.some.inj (ht.1.symm.trans hs)
  | setMode device mode =>
    refine (setMode_frame h).weaken fun port' part ht => ⟨?_, ht.2⟩
    have hside : (if device = 0 then some Port.decode
        else if device = 1 then some Port.bitstream else none) = some port := hs
    rw [ht.1] at hside
    cases port' with
    | decode => exact Option.some.inj hside
    | bitstream => exact Option.some.inj hside
  | updataFormatForEdid edid =>
    refine (updataFormatForEdid_frame h).weaken fun port' part ht => ⟨?_, ht.2⟩
    exact ht.1.trans (Option.some.inj hs)

theorem Call.part_ne_devices (call : Call) : "devices" ≠ call.part := by
  have hmode : "devices" ≠ "mode" := by decide
  have hformats : "devices" ≠ "formats" := by decide
  cases call with
  | setMode device mode => exact hmode
  | setSelect device => exact hformats
  | setFormat device close format => exact hformats
  | updataFormatForEdid edid => exact hformats

/-! ## The order of calls of different ports -/

/-- Nothing, or an edit below one port's element. -/
def EditsBelow (port : Port) (act : List N → Option (List N)) : Prop :=
  act = some ∨ ∃ f, InPlace f ∧ act = onElement port.element f

theorem editsBelow_onPart {f : N → Option N} (port : Port) (part : String) :
    EditsBelow port (onPart port.element part f) :=
  Or.inr ⟨_, onChild_inPlace, rfl⟩

theorem step_editsBelow {call : Call} {port : Port} (h : call.side = some port) :
    EditsBelow (N := N) port fun doc => step doc call := by
  cases call with
  | setSelect device => cases h
  | setFormat device close format =>
    have hset : (fun doc : List N => step doc (.setFormat device close format)) =
        setAudioSettingFormat port close format := funext (setFormat_of_port h close format)
    rw [hset]
    by_cases hc : close = 0 ∨ close = 1
    · rw [funext (setAudioSettingFormat_eq port hc format)]
      exact editsBelow_onPart port "formats"
    · exact Or.inl (funext (setAudioSettingFormat_other port hc format))
  | setMode device mode =>
    have hside : (if device = 0 then some Port.decode
        else if device = 1 then some Port.bitstream else none) = some port := h
    split at hside
    · next h0 =>
      subst h0
      cases hside
      exact editsBelow_onPart .decode "mode"
    · split at hside
      · next h1 =>
        subst h1
        cases hside
        exact editsBelow_onPart .bitstream "mode"
      · cases hside
  | updataFormatForEdid edid =>
    cases h
    by_cases hr : edid.result ≥ 0
    · have hset : (fun doc : List N => step doc (.updataFormatForEdid edid)) =
          onPart Port.bitstream.element "formats" (syncEntries edid) :=
        funext (updataFormatForEdid_eq hr)
      rw [hset]
      exact editsBelow_onPart .bitstream "formats"
    · exact Or.inl (funext (updataFormatForEdid_failed hr))

theorem EditsBelow.comm {a b : List N → Option (List N)} (ha : EditsBelow .decode a)
    (hb : EditsBelow .bitstream b) (doc : List N) : (a doc).bind b = (b doc).bind a := by
  rcases ha with rfl | ⟨f, hf, rfl⟩
  · rw [Option.bind_some, Option.bind_fun_some]
  · rcases hb with rfl | ⟨g, hg, rfl⟩
    · rw [Option.bind_some, Option.bind_fun_some]
    · exact onElement_comm hf hg (by decide) doc

theorem step_comm {a b : Call} (ha : a.side = some .decode) (hb : b.side = some .bitstream)
    (doc : List N) :
    ((step doc a).bind fun doc => step doc b) = (step doc b).bind fun doc => step doc a :=
  (step_editsBelow ha).comm (step_editsBelow hb) doc

/-! ## The ports are independent -/

/-- `setSelect` belongs to neither port, and leaves the modes and the decode formats. -/
theorem setSelect_keeps_answers {device : Int} {doc doc' : List N}
    (h : setSelect device doc = some doc') :
    (∀ other, getMode other doc' = getMode other doc) ∧
      ∀ format, getFormat 0 format doc' = getFormat 0 format doc := by
  have hmode : ¬ ("mode" = "devices" ∨ "mode" = "formats") := by decide
  refine ⟨fun other => getMode_congr fun port _ => ?_, getFormat_congr fun port hp => ?_⟩
  · exact setSelect_parts h port "mode" fun ht => hmode ht.2
  · refine setSelect_parts h port "formats" fun ht => ?_
    rw [ht.1] at hp
    cases hp

/-- A call of one port changes no answer about the other and none of `getSelect`, modes and
formats do not change each other's answers, calls of different ports may change order, and
they return where both ports have a mode and a walkable list of formats. -/
theorem ports_independent (doc : List N) :
    (∀ call port, call.side = some port → ∀ doc', step doc call = some doc' →
      (∀ device, getSelect device doc' = getSelect device doc) ∧
      ∀ device other, devicePort device = some other → other ≠ port →
        (∀ format, getFormat device format doc' = getFormat device format doc) ∧
          getMode device doc' = getMode device doc) ∧
    (∀ device mode doc', setMode device mode doc = some doc' →
      ∀ device' format, getFormat device' format doc' = getFormat device' format doc) ∧
    (∀ device close format doc', setFormat device close format doc = some doc' →
      ∀ device', getMode device' doc' = getMode device' doc) ∧
    (∀ a b : Call, a.side = some .decode → b.side = some .bitstream →
      ((step doc a).bind fun doc => step doc b) = (step doc b).bind fun doc => step doc a) ∧
    (FormatsHold Walkable doc → (∀ port : Port, (partAt port.element "mode" doc).isSome) →
      (∀ device close format, (setFormat device close format doc).isSome) ∧
        ∀ device mode, (setMode device mode doc).isSome) := by
  refine ⟨?_, ?_, ?_, fun a b ha hb => step_comm ha hb doc, ?_⟩
  · intro call port hs doc' h
    have hframe := step_frame hs h
    refine ⟨getSelect_congr hframe.selects
      (hframe.parts .bitstream "devices" fun ht => call.part_ne_devices ht.2), ?_⟩
    intro device other hp hne
    have hother : ∀ port', devicePort device = some port' → ∀ part,
        partAt port'.element part doc' = partAt port'.element part doc := by
      intro port' hp' part
      cases hp.symm.trans hp'
      exact hframe.parts other part fun ht => hne ht.1
    exact ⟨getFormat_congr fun port' hp' => hother port' hp' "formats",
      getMode_congr fun port' hp' => hother port' hp' "mode"⟩
  · intro device mode doc' h device' format
    have hne : "formats" ≠ "mode" := by decide
    exact getFormat_congr (fun port _ =>
      (setMode_frame h).parts port "formats" fun ht => hne ht.2) format
  · intro device close format doc' h device'
    have hne : "mode" ≠ "formats" := by decide
    exact getMode_congr fun port _ =>
      (setFormat_frame h).parts port "mode" fun ht => hne ht.2
  · intro hw hmode
    exact ⟨setFormat_returns hw, setMode_returns hmode⟩

theorem oneFormatConfig_walkable : FormatsHold Walkable oneFormatConfig := by
  intro port
  cases port with
  | decode => exact ⟨_, rfl, rfl, by decide⟩
  | bitstream => exact ⟨_, rfl, rfl, by decide⟩

theorem ports_independent_oneFormat :
    (setFormat 1 1 "DTS" oneFormatConfig).isSome ∧
    ((setMode 0 1 oneFormatConfig).bind fun doc => setFormat 2 0 "AC3" doc) =
      (setFormat 2 0 "AC3" oneFormatConfig).bind fun doc => setMode 0 1 doc := by
  obtain ⟨_, _, _, hcomm, hreturns⟩ := ports_independent oneFormatConfig
  have hmode : ∀ port : Port, (partAt port.element "mode" oneFormatConfig).isSome := by
    intro port
    cases port <;> rfl
  exact ⟨(hreturns oneFormatConfig_walkable hmode).1 1 1 "DTS",
    hcomm (.setMode 0 1) (.setFormat 2 0 "AC3") rfl rfl⟩

end RockchipHal.Sound.RkAudioSettingManager
