import Mathlib.Data.Nat.Bitwise
import RockchipHal.Sideband.OutputDetect

/-!
# Which encoder and which crtc `detect` selects

For a topology that answers every lookup, each search is a list operation:

    encoder loop = the entry at the connector's index, if it has the type      (encoderLoop_eq)
    crtc loop    = the last crtc that is possible or active                    (crtcLoop_eq)

The first is that of an index that belongs to another loop; the second lets an active
crtc overwrite a possible one.  So an encoder of the type is found, and a crtc the
encoder can drive, exactly when that entry has the type and that last crtc is possible
(`detect_selects_iff`).
-/

namespace RockchipHal.Sideband

/-! ## The searches as list operations -/

theorem isPossible_iff (possible : UInt32) {j : Nat} (hj : j < 32) :
    isPossible possible j ↔ possible.toNat.testBit j = true := by
  have hshift : (1 <<< UInt32.ofNat j : UInt32).toNat = 2 ^ j := by
    have hlt : 2 ^ j < 2 ^ 32 := Nat.pow_lt_pow_right (by decide) hj
    rw [UInt32.toNat_shiftLeft, UInt32.toNat_ofNat', Nat.mod_eq_of_lt (show j < 2 ^ 32 by omega),
      Nat.mod_eq_of_lt hj, UInt32.toNat_one, Nat.one_shiftLeft, Nat.mod_eq_of_lt hlt]
  have hzero : possible &&& (1 <<< UInt32.ofNat j) = 0 ↔ possible.toNat.testBit j = false := by
    rw [← UInt32.toNat_inj, UInt32.toNat_and, hshift, Nat.and_two_pow]
    cases possible.toNat.testBit j <;> simp
  unfold isPossible
  rw [ne_eq, hzero, Bool.not_eq_false]

section

variable {topo : DrmTopology} (hanswers : ∀ l, topo.fails l = false)
include hanswers

theorem ask_eq {α : Type} (l : Lookup) (object : Option α) : topo.ask l object = object := by
  unfold DrmTopology.ask
  rw [if_neg (by simp [hanswers l])]

theorem encoderLoop_eq (res : DrmModeRes) (i : Nat) (type : UInt32) (j : Nat)
    (ids : List UInt32) :
    encoderLoop topo res i type j ids =
      if ∃ id ∈ ids, id ≠ 0 then
        (topo.encoders (res.encoders.get i)).filter fun e => e.encoderType = type
      else none := by
  induction ids generalizing j with
  | nil => rfl
  | cons id ids ih =>
    unfold encoderLoop
    by_cases hid : id = 0
    · have hrest : (∃ a ∈ id :: ids, a ≠ 0) ↔ ∃ a ∈ ids, a ≠ 0 := by simp [hid]
      rw [if_pos hid, ih]
      simp only [hrest]
    · have hsome : ∃ a ∈ id :: ids, a ≠ 0 := ⟨id, List.mem_cons_self, hid⟩
      rw [if_neg hid, if_pos hsome, ask_eq hanswers]
      cases hobject : topo.encoders (res.encoders.get i) with
      | none =>
        dsimp only
        rw [ih, hobject]
        split <;> rfl
      | some e =>
        dsimp only
        rw [ih, hobject]
        by_cases htype : e.encoderType = type
        · rw [if_pos htype, Option.filter_some_pos (by simpa using htype)]
        · rw [if_neg htype, Option.filter_some_neg (by simpa using htype)]
          split <;> rfl

/-- One of its properties is `ACTIVE`, with a value. -/
def isActive (topo : DrmTopology) (crtc : DrmCrtc) : Bool :=
  (topo.crtcProps crtc.crtcId).any fun props =>
    props.any fun prop => prop.name = "ACTIVE" ∧ prop.value ≠ 0

theorem findActive_eq (j k : Nat) (props : List DrmProperty) :
    findActive topo j k props =
      .ok (props.any fun prop => prop.name = "ACTIVE" ∧ prop.value ≠ 0) := by
  induction props generalizing k with
  | nil => rfl
  | cons prop props ih =>
    unfold findActive
    rw [if_neg (by simp [hanswers]), List.any_cons]
    by_cases hactive : prop.name = "ACTIVE" ∧ prop.value ≠ 0
    · rw [if_pos hactive]
      simp [hactive]
    · rw [if_neg hactive, ih]
      simp [hactive]

/-- The crtc at an entry of the list, if the entry is one the loop may choose. -/
def candidate (topo : DrmTopology) (possible : UInt32) (entry : UInt32 × Nat) :
    Option DrmCrtc :=
  (if entry.1 = 0 then none else topo.crtcs entry.1).filter fun crtc =>
    possible.toNat.testBit entry.2 ∨ isActive topo crtc

/-- An entry of the list replaces the choice so far if it is a candidate. -/
theorem crtcLoop_cons (possible : UInt32) {j : Nat} (hj : j < 32) (id : UInt32)
    (ids : List UInt32) (crtc : Option DrmCrtc) :
    crtcLoop topo possible j (id :: ids) crtc =
      crtcLoop topo possible (j + 1) ids ((candidate topo possible (id, j)).or crtc) := by
  have hbit := isPossible_iff possible hj
  simp only [crtcLoop, ask_eq hanswers, findActive_eq hanswers, hbit, candidate]
  by_cases hid : id = 0
  · rw [if_pos hid, if_pos hid]
    rfl
  · rw [if_neg hid, if_neg hid]
    cases hobject : topo.crtcs id with
    | none => rfl
    | some c =>
      have hactive : isActive topo c = (topo.crtcProps c.crtcId).any fun props =>
          props.any fun prop => prop.name = "ACTIVE" ∧ prop.value ≠ 0 := rfl
      dsimp only
      cases hprops : topo.crtcProps c.crtcId with
      | none =>
        rw [hprops, Option.any_none] at hactive
        by_cases hpossible : possible.toNat.testBit j = true
        · rw [if_pos hpossible, Option.filter_some_pos (by simp [hpossible])]
          rfl
        · rw [if_neg hpossible, Option.filter_some_neg (by simp [hpossible, hactive])]
          rfl
      | some props =>
        rw [hprops, Option.any_some] at hactive
        dsimp only
        rw [← hactive]
        by_cases hpossible : possible.toNat.testBit j = true
        · rw [if_pos hpossible, ite_self, Option.filter_some_pos (by simp [hpossible])]
          rfl
        · rw [if_neg hpossible]
          by_cases hon : isActive topo c = true
          · rw [if_pos hon, Option.filter_some_pos (by simp [hon])]
            rfl
          · rw [if_neg hon, Option.filter_some_neg (by simp [hon, hpossible])]
            rfl

/-- So the last candidate of the list is chosen. -/
theorem crtcLoop_eq (possible : UInt32) (j : Nat) (ids : List UInt32)
    (crtc : Option DrmCrtc) (hlen : j + ids.length ≤ 32) :
    crtcLoop topo possible j ids crtc =
      (none, (((ids.zipIdx j).filterMap (candidate topo possible)).getLast?).or crtc) := by
  induction ids generalizing j crtc with
  | nil => rfl
  | cons id ids ih =>
    rw [List.length_cons] at hlen
    have hj : j < 32 := by omega
    have hrest : j + 1 + ids.length ≤ 32 := by omega
    rw [crtcLoop_cons hanswers possible hj, ih (j + 1) _ hrest, List.zipIdx_cons]
    cases hc : candidate topo possible (id, j) with
    | none => rw [List.filterMap_cons_none hc, Option.none_or]
    | some c =>
      rw [List.filterMap_cons_some hc, List.getLast?_cons, Option.some_or]
      cases ((ids.zipIdx (j + 1)).filterMap (candidate topo possible)).getLast? <;> rfl

end

/-! ## What is selected -/

/-- Every call answers, and every id that is not 0 has its object. -/
structure Answers (topo : DrmTopology) (res : DrmModeRes) : Prop where
  resources : topo.resources = some res
  universalPlanes : topo.universalPlanes = 0
  atomic : topo.atomic = 0
  lookups : ∀ l, topo.fails l = false
  connectors : ∀ id, id ≠ 0 → (topo.connectors id).isSome = true
  encoders : ∀ id, id ≠ 0 → (topo.encoders id).isSome = true
  crtcs : ∀ id, id ≠ 0 → (topo.crtcs id).isSome = true
  crtcProps : ∀ id, id ≠ 0 → (topo.crtcProps id).isSome = true

/-- The first connector entry that is not 0 is the one at `i`, and it is connected. -/
def FirstConnected (topo : DrmTopology) (res : DrmModeRes) (i : Nat)
    (connector : DrmConnector) : Prop :=
  ∃ id rest, res.connectors = List.replicate i 0 ++ id :: rest ∧ id ≠ 0 ∧
    topo.connectors id = some connector ∧ connector.connection = .connected

/-- The connector has no encoder attached, and the resources have one of the type. -/
def NeedsListed (topo : DrmTopology) (res : DrmModeRes) (type : UInt32)
    (connector : DrmConnector) : Prop :=
  connector.encoderId = 0 ∧
    ∃ id ∈ res.encoders.data, id ≠ 0 ∧ ∃ e, topo.encoders id = some e ∧ e.encoderType = type

/-- The crtc is listed at a position whose bit the encoder has. -/
def CanDrive (topo : DrmTopology) (res : DrmModeRes) (e : DrmEncoder) (crtc : DrmCrtc) : Prop :=
  ∃ (j : Nat) (id : UInt32), res.crtcs[j]? = some id ∧ id ≠ 0 ∧ topo.crtcs id = some crtc ∧
    e.possibleCrtcs.toNat.testBit j = true

structure Selects (topo : DrmTopology) (res : DrmModeRes) (type : UInt32)
    (connector : DrmConnector) (out : DrmOutput) : Prop where
  encoder : NeedsListed topo res type connector →
    ∃ e, out.encoder = some e ∧ e.encoderType = type
  crtc : ∀ e crtc, out.encoder = some e → out.crtc = some crtc →
    e.crtcId ≠ 0 ∧ topo.crtcs e.crtcId = some crtc ∨ CanDrive topo res e crtc

/-- The encoder attached; without one, the one at the connector's index, if some entry is
not 0 and it has the type. -/
def IsEncoder (topo : DrmTopology) (res : DrmModeRes) (type : UInt32) (i : Nat)
    (connector : DrmConnector) (e : DrmEncoder) : Prop :=
  if connector.encoderId ≠ 0 then topo.encoders connector.encoderId = some e
  else (∃ id ∈ res.encoders.data, id ≠ 0) ∧
    topo.encoders (res.encoders.get i) = some e ∧ e.encoderType = type

/-- The last crtc of the list that is possible or active. -/
def lastCandidate (topo : DrmTopology) (res : DrmModeRes) (e : DrmEncoder) : Option DrmCrtc :=
  (res.crtcs.zipIdx.filterMap (candidate topo e.possibleCrtcs)).getLast?

section

variable {topo : DrmTopology} {res : DrmModeRes} (h : Answers topo res)
include h

theorem chooseEncoder_iff (device : Int32) (i : Nat) (connector : DrmConnector)
    (e : DrmEncoder) :
    chooseEncoder topo res device i connector none = some e ↔
      IsEncoder topo res (getDrmEncoder device) i connector e := by
  unfold chooseEncoder IsEncoder
  simp only [ask_eq h.lookups]
  by_cases hid : connector.encoderId ≠ 0
  · obtain ⟨attached, hattached⟩ := Option.isSome_iff_exists.mp (h.encoders _ hid)
    rw [if_pos hid, if_pos hid, hattached]
  · rw [if_neg hid, if_neg hid]
    dsimp only
    rw [encoderLoop_eq h.lookups]
    by_cases hsome : ∃ id ∈ res.encoders.data, id ≠ 0
    · rw [if_pos hsome, Option.filter_eq_some_iff]
      simp [hsome]
    · rw [if_neg hsome]
      simp [hsome]

theorem chooseCrtc_eq (hlen : res.crtcs.length ≤ 32) (e : DrmEncoder) :
    chooseCrtc topo res e none =
      (none, if e.crtcId ≠ 0 then topo.crtcs e.crtcId else lastCandidate topo res e) := by
  unfold chooseCrtc
  simp only [ask_eq h.lookups]
  by_cases hid : e.crtcId ≠ 0
  · obtain ⟨attached, hattached⟩ := Option.isSome_iff_exists.mp (h.crtcs _ hid)
    rw [if_pos hid, if_pos hid, hattached]
  · rw [if_neg hid, if_neg hid]
    dsimp only
    rw [crtcLoop_eq h.lookups _ 0 res.crtcs none (by omega), Option.or_none]
    rfl

/-- The loop comes to the connected connector with its own index. -/
theorem connectorLoop_replicate (device : Int32) {id : UInt32} (hid : id ≠ 0)
    {connector : DrmConnector} (hconnector : topo.connectors id = some connector)
    (hconnected : connector.connection = .connected) (rest : List UInt32) (out : DrmOutput)
    (n i : Nat) :
    connectorLoop topo res device i (List.replicate n 0 ++ id :: rest) out =
      useConnector topo res device (i + n) connector out := by
  induction n generalizing i with
  | zero =>
    have hnot : ¬ connector.connection ≠ .connected := not_not_intro hconnected
    rw [List.replicate_zero, List.nil_append]
    unfold connectorLoop
    rw [if_neg hid, ask_eq h.lookups, hconnector]
    dsimp only
    rw [if_neg hnot, Nat.add_zero]
  | succ n ih =>
    rw [List.replicate_succ, List.cons_append]
    unfold connectorLoop
    rw [if_pos rfl, ih, Nat.add_right_comm, Nat.add_assoc]

end

theorem useConnector_output (topo : DrmTopology) (res : DrmModeRes) (device : Int32) (i : Nat)
    (connector : DrmConnector) (out : DrmOutput) :
    (useConnector topo res device i connector out).output.encoder =
        chooseEncoder topo res device i connector out.encoder ∧
      (useConnector topo res device i connector out).output.crtc =
        (chooseEncoder topo res device i connector out.encoder).elim out.crtc fun e =>
          (chooseCrtc topo res e out.crtc).2 := by
  unfold useConnector
  dsimp only
  cases hencoder : chooseEncoder topo res device i connector out.encoder with
  | none => exact ⟨rfl, rfl⟩
  | some e =>
    dsimp only
    split
    · exact ⟨rfl, rfl⟩
    · split
      · exact ⟨rfl, rfl⟩
      · exact ⟨rfl, rfl⟩

/-- What is selected, for the first connected connector. -/
theorem detect_output (r : DrmVop) {device : Int32} {index : OutputIndex}
    (hindex : getOutputIndex device = some index) {topo : DrmTopology} {res : DrmModeRes}
    (h : Answers topo res) (hlen : res.crtcs.length ≤ 32) {i : Nat} {connector : DrmConnector}
    (hfirst : FirstConnected topo res i connector) :
    (∀ e, ((detect r device topo).render.mOutputs index).encoder = some e ↔
        IsEncoder topo res (getDrmEncoder device) i connector e) ∧
      ∀ e, IsEncoder topo res (getDrmEncoder device) i connector e →
        ((detect r device topo).render.mOutputs index).crtc =
          if e.crtcId ≠ 0 then topo.crtcs e.crtcId else lastCandidate topo res e := by
  obtain ⟨id, rest, hids, hid, hconnector, hconnected⟩ := hfirst
  have hdetect : detect r device topo = finishDetect topo r index
      (useConnector topo res device i connector
        { resetOutput (r.mOutputs index) with res := some res }) := by
    unfold detect
    rw [hindex, h.resources]
    dsimp only
    rw [if_neg (by simp [h.universalPlanes]), if_neg (by simp [h.atomic]), hids,
      connectorLoop_replicate h device hid hconnector hconnected, Nat.zero_add]
  obtain ⟨hencoder, hcrtc⟩ := finishDetect_output topo r index
    (useConnector topo res device i connector
      { resetOutput (r.mOutputs index) with res := some res })
  obtain ⟨hencoder', hcrtc'⟩ := useConnector_output topo res device i connector
    { resetOutput (r.mOutputs index) with res := some res }
  rw [hdetect, hencoder, hcrtc, hencoder', hcrtc']
  show (∀ e, chooseEncoder topo res device i connector none = some e ↔ _) ∧
    ∀ e, _ → (chooseEncoder topo res device i connector none).elim none _ = _
  refine ⟨chooseEncoder_iff h device i connector, fun e he => ?_⟩
  rw [(chooseEncoder_iff h device i connector e).mpr he, Option.elim_some]
  show (chooseCrtc topo res e none).2 = _
  rw [chooseCrtc_eq h hlen]

/-- For every topology whose first connector is connected: encoder and crtc are selected as
they should be exactly when the encoder at the connector's index has the type, if it is
needed, and, for an encoder without a crtc, the last crtc that is possible or active is
possible. -/
theorem detect_selects_iff (r : DrmVop) (device : Int32) (index : OutputIndex)
    (hindex : getOutputIndex device = some index) (topo : DrmTopology) (res : DrmModeRes)
    (h : Answers topo res) (hlen : res.crtcs.length ≤ 32) (i : Nat) (connector : DrmConnector)
    (hfirst : FirstConnected topo res i connector) :
    Selects topo res (getDrmEncoder device) connector
        ((detect r device topo).render.mOutputs index) ↔
      (NeedsListed topo res (getDrmEncoder device) connector →
        ∃ e, topo.encoders (res.encoders.get i) = some e ∧
          e.encoderType = getDrmEncoder device) ∧
      ∀ e, IsEncoder topo res (getDrmEncoder device) i connector e → e.crtcId = 0 →
        ∀ crtc, lastCandidate topo res e = some crtc → CanDrive topo res e crtc := by
  obtain ⟨hencoder, hcrtc⟩ := detect_output r hindex h hlen hfirst
  constructor
  · intro hselects
    refine ⟨fun hneeds => ?_, fun e he hzero crtc hlast => ?_⟩
    · obtain ⟨e, he, htype⟩ := hselects.encoder hneeds
      have hchosen := (hencoder e).mp he
      unfold IsEncoder at hchosen
      rw [if_neg (not_not_intro hneeds.1)] at hchosen
      exact ⟨e, hchosen.2⟩
    · have hselected := hcrtc e he
      rw [if_neg (not_not_intro hzero), hlast] at hselected
      rcases hselects.crtc e crtc ((hencoder e).mpr he) hselected with ⟨hne, -⟩ | hdrives
      · exact absurd hzero hne
      · exact hdrives
  · rintro ⟨hlisted, hdrives⟩
    refine ⟨fun hneeds => ?_, fun e crtc he hselected => ?_⟩
    · obtain ⟨e, hobject, htype⟩ := hlisted hneeds
      obtain ⟨hnone, id, hid, hne, -⟩ := hneeds
      refine ⟨e, (hencoder e).mpr ?_, htype⟩
      unfold IsEncoder
      rw [if_neg (not_not_intro hnone)]
      exact ⟨⟨id, hid, hne⟩, hobject, htype⟩
    · have hchosen := (hencoder e).mp he
      rw [hcrtc e hchosen] at hselected
      by_cases hzero : e.crtcId = 0
      · rw [if_neg (not_not_intro hzero)] at hselected
        exact .inr (hdrives e hchosen hzero crtc hselected)
      · rw [if_pos hzero] at hselected
        exact .inl ⟨hzero, hselected⟩

/-- Connector 1, and these. -/
def listing (encoders crtcs : List UInt32) : DrmModeRes := ⟨[1], ⟨encoders, fun _ => 0⟩, crtcs⟩

/-- Connector and encoder have nothing attached; the first encoder has the type and can drive the
second of two crtcs. -/
def nothingAttached : DrmTopology where
  resources := some (listing [10, 11] [3, 4])
  universalPlanes := 0
  atomic := 0
  connectors := fun _ => some ⟨.connected, 0⟩
  encoders := fun id => some (if id = 10 then ⟨2, 0, 2⟩ else ⟨1, 0, 1⟩)
  crtcs := fun id => some ⟨id, 0, 0⟩
  crtcProps := fun _ => some []
  planes := some []
  fails := fun _ => false

theorem detect_selects_nothingAttached :
    Selects nothingAttached (listing [10, 11] [3, 4]) 2 ⟨.connected, 0⟩
      ((detect freshVop 0 nothingAttached).render.mOutputs .primary) := by
  have hanswers : Answers nothingAttached (listing [10, 11] [3, 4]) :=
    ⟨rfl, rfl, rfl, fun _ => rfl, fun _ _ => rfl, fun _ _ => rfl, fun _ _ => rfl, fun _ _ => rfl⟩
  refine (detect_selects_iff freshVop 0 .primary rfl nothingAttached _ hanswers
    (by decide) 0 ⟨.connected, 0⟩ ⟨1, [], rfl, by decide, rfl, rfl⟩).mpr ⟨?_, ?_⟩
  · exact fun _ => ⟨⟨2, 0, 2⟩, rfl, rfl⟩
  · intro e he _ crtc hlast
    unfold IsEncoder at he
    rw [if_neg (by decide)] at he
    cases Option.some.inj he.2.1
    cases Option.some.inj hlast
    exact ⟨1, 4, rfl, by decide, rfl, by decide⟩

/-- The second of two encoders has the type. -/
def secondEncoder : DrmTopology where
  resources := some (listing [10, 11] [3])
  universalPlanes := 0
  atomic := 0
  connectors := fun _ => some ⟨.connected, 0⟩
  encoders := fun id => some (if id = 11 then ⟨2, 0, 1⟩ else ⟨1, 0, 1⟩)
  crtcs := fun id => some ⟨id, 0, 0⟩
  crtcProps := fun _ => some []
  planes := some []
  fails := fun _ => false

/-- The encoder can drive the first of two crtcs, and the second is active. -/
def secondActive : DrmTopology where
  resources := some (listing [10] [3, 4])
  universalPlanes := 0
  atomic := 0
  connectors := fun _ => some ⟨.connected, 0⟩
  encoders := fun _ => some ⟨2, 0, 1⟩
  crtcs := fun id => some ⟨id, 0, 0⟩
  crtcProps := fun id => some [⟨"ACTIVE", if id = 4 then 1 else 0⟩]
  planes := some []
  fails := fun _ => false

/-- No encoder is selected in the first, and in the second a crtc the encoder cannot drive. -/
theorem detect_not_selects :
    (Answers secondEncoder (listing [10, 11] [3]) ∧
      FirstConnected secondEncoder (listing [10, 11] [3]) 0 ⟨.connected, 0⟩ ∧
      ¬ Selects secondEncoder (listing [10, 11] [3]) 2 ⟨.connected, 0⟩
        ((detect freshVop 0 secondEncoder).render.mOutputs .primary)) ∧
    Answers secondActive (listing [10] [3, 4]) ∧
      FirstConnected secondActive (listing [10] [3, 4]) 0 ⟨.connected, 0⟩ ∧
      ¬ Selects secondActive (listing [10] [3, 4]) 2 ⟨.connected, 0⟩
        ((detect freshVop 0 secondActive).render.mOutputs .primary) := by
  refine ⟨⟨?_, ⟨1, [], rfl, by decide, rfl, rfl⟩, fun h => ?_⟩, ?_,
    ⟨1, [], rfl, by decide, rfl, rfl⟩, fun h => ?_⟩
  · exact ⟨rfl, rfl, rfl, fun _ => rfl, fun _ _ => rfl, fun _ _ => rfl, fun _ _ => rfl,
      fun _ _ => rfl⟩
  · have hneeds : NeedsListed secondEncoder (listing [10, 11] [3]) 2 ⟨.connected, 0⟩ :=
      ⟨rfl, 11, by simp [listing], by decide, ⟨2, 0, 1⟩, rfl, rfl⟩
    obtain ⟨e, he, -⟩ := h.encoder hneeds
    cases he
  · exact ⟨rfl, rfl, rfl, fun _ => rfl, fun _ _ => rfl, fun _ _ => rfl, fun _ _ => rfl,
      fun _ _ => rfl⟩
  · rcases h.crtc ⟨2, 0, 1⟩ ⟨4, 0, 0⟩ rfl rfl with ⟨hne, -⟩ | ⟨j, id, hid, -, hcrtc, hbit⟩
    · exact hne rfl
    · have hfour : id = 4 := congrArg DrmCrtc.crtcId (Option.some.inj hcrtc)
      subst hfour
      rcases j with _ | _ | j
      · exact absurd hid (by decide)
      · exact absurd hbit (by decide)
      · cases hid

end RockchipHal.Sideband
