import RockchipHal.Lib.Reads
import RockchipHal.Sideband.DrmVopRender

/-!
# `DrmVopRender`: detecting an output

`detect` looks for a connected connector, an encoder for it and a crtc for that.  What
the kernel has is a `DrmTopology`: its objects by id, and which lookups fail this time.
`Detected` is how the call ends, with the renderer as it then is.

No search leads out of the function early: behind the loop over the connectors the crtc
is used whatever was found, and the status is only ever set where a display is not
connected.  So the output is found consistent exactly where the function returns before
the loop, with no output for the device or no resources (`detect_consistent_iff`).
-/

namespace RockchipHal.Sideband

/-! ## What the kernel has -/

/-- `drmModeConnection`. -/
inductive Connection
  | connected | disconnected | unknown
deriving DecidableEq, Repr

structure DrmConnector where
  connection : Connection
  encoderId : UInt32
deriving DecidableEq, Repr

structure DrmEncoder where
  encoderType : UInt32
  crtcId : UInt32
  possibleCrtcs : UInt32
deriving DecidableEq, Repr

structure DrmCrtc where
  crtcId : UInt32
  width : UInt32
  height : UInt32
deriving DecidableEq, Repr

structure DrmProperty where
  name : String
  value : UInt64
deriving DecidableEq, Repr

/-- The ids of the resources, 0 for an entry that is none.  An array that is `NULL` is read
like one of zeros. -/
structure DrmModeRes where
  connectors : List UInt32
  encoders : UncheckedVec UInt32
  crtcs : List UInt32

/-- A call of `detect` into the kernel, by its place in the loops. -/
inductive Lookup
  | connector (i : Nat)
  | attachedEncoder
  | encoder (j : Nat)
  | attachedCrtc
  | crtc (j : Nat)
  | crtcProperties (j : Nat)
  | property (j k : Nat)
  | outputProperties
deriving DecidableEq, Repr

structure DrmTopology where
  /-- `drmModeGetResources` -/
  resources : Option DrmModeRes
  /-- `drmSetClientCap` of the two capabilities -/
  universalPlanes : Int
  atomic : Int
  connectors : UInt32 → Option DrmConnector
  encoders : UInt32 → Option DrmEncoder
  crtcs : UInt32 → Option DrmCrtc
  /-- the properties of a crtc -/
  crtcProps : UInt32 → Option (List DrmProperty)
  /-- `drmModeGetPlaneResources` -/
  planes : Option (List UInt32)
  /-- the lookups that fail although there is an object -/
  fails : Lookup → Bool

/-- The answer to a lookup. -/
def DrmTopology.ask {α : Type} (topo : DrmTopology) (l : Lookup) (object : Option α) :
    Option α :=
  if topo.fails l then none else object

/-! ## The renderer -/

/-- Without the fields nothing reads: mode, plane, request, property, orientation. -/
structure DrmOutput where
  connector : Option DrmConnector
  encoder : Option DrmEncoder
  crtc : Option DrmCrtc
  planeRes : Option (List UInt32)
  res : Option DrmModeRes
  props : Option (List DrmProperty)
  fbHandle : UInt32
  fbId : UInt32
  connected : Bool

inductive OutputIndex
  | primary | external
deriving DecidableEq, Repr

/-- `HWC_DISPLAY_PRIMARY`, `HWC_DISPLAY_EXTERNAL`. -/
def hwcDisplayPrimary : Int32 := 0
def hwcDisplayExternal : Int32 := 1

/-- `none` for -1. -/
def getOutputIndex (device : Int32) : Option OutputIndex :=
  if device = hwcDisplayPrimary then some .primary
  else if device = hwcDisplayExternal then some .external
  else none

/-- `DrmVopRender` with its outputs and its DRM device. -/
structure DrmVop extends DrmVopRender where
  mDrmFd : Int
  mInitialized : Bool
  mOutputs : OutputIndex → DrmOutput

def DrmVop.setOutput (r : DrmVop) (index : OutputIndex) (out : DrmOutput) : DrmVop :=
  { r with mOutputs := fun i => if i = index then out else r.mOutputs i }

@[simp] theorem DrmVop.setOutput_self (r : DrmVop) (index : OutputIndex) (out : DrmOutput) :
    (r.setOutput index out).mOutputs index = out := if_pos rfl

/-- Plane resources, resources and properties stay. -/
def resetOutput (out : DrmOutput) : DrmOutput :=
  { out with
    connected := false
    connector := none
    encoder := none
    crtc := none
    fbId := 0
    fbHandle := 0 }

/-- A pointer that is `NULL` where it is used. -/
inductive VopFault
  | nullCrtc | nullProperty | nullPlane | nullPlaneRes
deriving DecidableEq, Repr

/-! ## detect -/

/-- `DRM_MODE_ENCODER_TMDS`, `DRM_MODE_ENCODER_NONE`. -/
def drmModeEncoderTmds : UInt32 := 2
def drmModeEncoderNone : UInt32 := 0

def getDrmEncoder (device : Int32) : UInt32 :=
  if device = hwcDisplayPrimary then 2
  else if device = hwcDisplayExternal then drmModeEncoderTmds
  else drmModeEncoderNone

/-- The loop over the encoders, for the connector at `i`: only the entry at `j` is tested,
and the one at `i` looked up. -/
def encoderLoop (topo : DrmTopology) (res : DrmModeRes) (i : Nat) (type : UInt32) :
    (j : Nat) → List UInt32 → Option DrmEncoder
  | _, [] => none
  | j, id :: ids =>
    if id = 0 then encoderLoop topo res i type (j + 1) ids
    else
      match topo.ask (.encoder j) (topo.encoders (res.encoders.get i)) with
      | none => encoderLoop topo res i type (j + 1) ids
      | some encoder =>
        if encoder.encoderType = type then some encoder
        else encoderLoop topo res i type (j + 1) ids

/-- The walk over the properties of the crtc at `j`, until one is `ACTIVE` with a value. -/
def findActive (topo : DrmTopology) (j : Nat) : (k : Nat) → List DrmProperty →
    Except VopFault Bool
  | _, [] => .ok false
  | k, prop :: props =>
    if topo.fails (.property j k) then .error .nullProperty
    else if prop.name = "ACTIVE" ∧ prop.value ≠ 0 then .ok true
    else findActive topo j (k + 1) props

/-- `possible & (1 << j)`; the shift is undefined from 32 on. -/
def isPossible (possible : UInt32) (j : Nat) : Prop := possible &&& (1 <<< UInt32.ofNat j) ≠ 0

instance (possible : UInt32) (j : Nat) : Decidable (isPossible possible j) :=
  inferInstanceAs (Decidable (possible &&& (1 <<< UInt32.ofNat j) ≠ 0))

/-- The loop over the crtcs; `crtc` is the one chosen so far. -/
def crtcLoop (topo : DrmTopology) (possible : UInt32) :
    (j : Nat) → List UInt32 → (crtc : Option DrmCrtc) → Option VopFault × Option DrmCrtc
  | _, [], crtc => (none, crtc)
  | j, id :: ids, crtc =>
    if id = 0 then crtcLoop topo possible (j + 1) ids crtc
    else
      match topo.ask (.crtc j) (topo.crtcs id) with
      | none => crtcLoop topo possible (j + 1) ids crtc
      | some c =>
        let crtc := if isPossible possible j then some c else crtc
        match topo.ask (.crtcProperties j) (topo.crtcProps c.crtcId) with
        | none => crtcLoop topo possible (j + 1) ids crtc
        | some props =>
          match findActive topo j 0 props with
          | .error fault => (some fault, crtc)
          | .ok active => crtcLoop topo possible (j + 1) ids (if active then some c else crtc)

/-- How the loop over the connectors ends. -/
structure Found where
  fault : Option VopFault
  ret : Bool
  output : DrmOutput

/-- The encoder of the connector at `i`: the one attached, or one from the loop. -/
def chooseEncoder (topo : DrmTopology) (res : DrmModeRes) (device : Int32) (i : Nat)
    (connector : DrmConnector) (encoder : Option DrmEncoder) : Option DrmEncoder :=
  let encoder :=
    if connector.encoderId ≠ 0 then topo.ask .attachedEncoder (topo.encoders connector.encoderId)
    else encoder
  match encoder with
  | some encoder => some encoder
  | none => encoderLoop topo res i (getDrmEncoder device) 0 res.encoders.data

/-- The crtc of the encoder: the one attached, or one from the loop. -/
def chooseCrtc (topo : DrmTopology) (res : DrmModeRes) (encoder : DrmEncoder)
    (crtc : Option DrmCrtc) : Option VopFault × Option DrmCrtc :=
  let crtc :=
    if encoder.crtcId ≠ 0 then topo.ask .attachedCrtc (topo.crtcs encoder.crtcId) else crtc
  match crtc with
  | some crtc => (none, some crtc)
  | none => crtcLoop topo encoder.possibleCrtcs 0 res.crtcs none

/-- The rest of the turn of a connected connector, which always ends the loop. -/
def useConnector (topo : DrmTopology) (res : DrmModeRes) (device : Int32) (i : Nat)
    (connector : DrmConnector) (out : DrmOutput) : Found :=
  let out := { out with connector := some connector, connected := true }
  let out := { out with encoder := chooseEncoder topo res device i connector out.encoder }
  match out.encoder with
  | none => ⟨none, false, out⟩
  | some encoder =>
    let chosen := chooseCrtc topo res encoder out.crtc
    let out := { out with crtc := chosen.2 }
    match chosen.1 with
    | some fault => ⟨some fault, false, out⟩
    | none =>
      match out.crtc with
      | none => ⟨none, false, out⟩
      | some _ => ⟨none, false, { out with planeRes := topo.planes }⟩

def connectorLoop (topo : DrmTopology) (res : DrmModeRes) (device : Int32) :
    (i : Nat) → List UInt32 → DrmOutput → Found
  | _, [], out => ⟨none, false, out⟩
  | i, id :: ids, out =>
    if id = 0 then connectorLoop topo res device (i + 1) ids out
    else
      match topo.ask (.connector i) (topo.connectors id) with
      | none => connectorLoop topo res device (i + 1) ids out
      | some connector =>
        if connector.connection ≠ .connected then ⟨none, true, out⟩
        else useConnector topo res device i connector out

/-- How the call ends, and the renderer then. -/
structure Detected where
  outcome : Except VopFault Bool
  render : DrmVop

/-- Behind the loop, the crtc is dereferenced. -/
def finishDetect (topo : DrmTopology) (r : DrmVop) (index : OutputIndex) (found : Found) :
    Detected :=
  match found.fault with
  | some fault => ⟨.error fault, r.setOutput index found.output⟩
  | none =>
    match found.output.crtc with
    | none => ⟨.error .nullCrtc, r.setOutput index found.output⟩
    | some crtc =>
      ⟨.ok found.ret, r.setOutput index
        { found.output with props := topo.ask .outputProperties (topo.crtcProps crtc.crtcId) }⟩

def detect (r : DrmVop) (device : Int32) (topo : DrmTopology) : Detected :=
  match getOutputIndex device with
  | none => ⟨.ok false, r⟩
  | some index =>
    let out := resetOutput (r.mOutputs index)
    match topo.resources with
    | none => ⟨.ok false, r.setOutput index out⟩
    | some res =>
      -- a result that is not 0 is returned, as a `bool`
      if topo.universalPlanes ≠ 0 then ⟨.ok true, r.setOutput index out⟩
      else if topo.atomic ≠ 0 then ⟨.ok true, r.setOutput index out⟩
      else
        finishDetect topo r index
          (connectorLoop topo res device 0 res.connectors { out with res := some res })

/-! ## When the output is consistent -/

/-- The call returns; and the output is connected, complete and reported so, or is not
connected and reported so. -/
def Detected.Consistent (d : Detected) (device : Int32) : Prop :=
  ∃ ret, d.outcome = .ok ret ∧
    ((∃ index, getOutputIndex device = some index ∧
        (d.render.mOutputs index).connected = true ∧
        (d.render.mOutputs index).connector.isSome ∧ (d.render.mOutputs index).encoder.isSome ∧
        (d.render.mOutputs index).crtc.isSome ∧ (d.render.mOutputs index).planeRes.isSome ∧
        ret = true) ∨
      (∀ index, getOutputIndex device = some index →
        (d.render.mOutputs index).connected = false) ∧ ret = false)

/-- The tail of the function keeps encoder and crtc. -/
theorem finishDetect_output (topo : DrmTopology) (r : DrmVop) (index : OutputIndex)
    (found : Found) :
    ((finishDetect topo r index found).render.mOutputs index).encoder = found.output.encoder ∧
      ((finishDetect topo r index found).render.mOutputs index).crtc = found.output.crtc := by
  unfold finishDetect
  split
  · dsimp only
    rw [DrmVop.setOutput_self]
    exact ⟨rfl, rfl⟩
  · split
    · dsimp only
      rw [DrmVop.setOutput_self]
      exact ⟨rfl, rfl⟩
    · dsimp only
      rw [DrmVop.setOutput_self]
      exact ⟨rfl, rfl⟩

/-- A connected connector leaves the status as it is. -/
theorem useConnector_found (topo : DrmTopology) (res : DrmModeRes) (device : Int32) (i : Nat)
    (connector : DrmConnector) (out : DrmOutput) :
    (useConnector topo res device i connector out).output.connected = true ∧
      (useConnector topo res device i connector out).ret = false := by
  unfold useConnector
  dsimp only
  split
  · exact ⟨rfl, rfl⟩
  · split
    · exact ⟨rfl, rfl⟩
    · split
      · exact ⟨rfl, rfl⟩
      · exact ⟨rfl, rfl⟩

/-- A crtc is found only for a connected connector, and then the status is still 0. -/
theorem connectorLoop_crtc (topo : DrmTopology) (res : DrmModeRes) (device : Int32) (i : Nat)
    (ids : List UInt32) (out : DrmOutput) (hout : out.crtc = none)
    (h : (connectorLoop topo res device i ids out).output.crtc.isSome = true) :
    (connectorLoop topo res device i ids out).output.connected = true ∧
      (connectorLoop topo res device i ids out).ret = false := by
  induction ids generalizing i with
  | nil =>
    unfold connectorLoop at h
    rw [hout] at h
    cases h
  | cons id ids ih =>
    unfold connectorLoop at h ⊢
    split
    · next hid =>
      rw [if_pos hid] at h
      exact ih (i + 1) h
    · next hid =>
      rw [if_neg hid] at h
      split
      · next hask =>
        rw [hask] at h
        exact ih (i + 1) h
      · next connector hask =>
        rw [hask] at h
        dsimp only at h
        split
        · next hnot =>
          rw [if_pos hnot, hout] at h
          cases h
        · exact useConnector_found topo res device i connector out

theorem finishDetect_not_consistent (topo : DrmTopology) (r : DrmVop) {device : Int32}
    {index : OutputIndex} (hindex : getOutputIndex device = some index) (found : Found)
    (h : found.output.crtc.isSome = true → found.output.connected = true ∧ found.ret = false) :
    ¬ (finishDetect topo r index found).Consistent device := by
  rintro ⟨ret, hret, hends⟩
  unfold finishDetect at hret hends
  cases hfault : found.fault with
  | some fault =>
    rw [hfault] at hret
    cases hret
  | none =>
    rw [hfault] at hret hends
    dsimp only at hret hends
    cases hcrtc : found.output.crtc with
    | none =>
      rw [hcrtc] at hret
      cases hret
    | some crtc =>
      rw [hcrtc] at hret hends
      dsimp only at hret hends
      obtain ⟨hconnected, hfalse⟩ := h (by rw [hcrtc]; rfl)
      have hret : found.ret = ret := Except.ok.inj hret
      rcases hends with ⟨i, -, -, -, -, -, -, htrue⟩ | ⟨hnot, -⟩
      · rw [← hret, hfalse] at htrue
        cases htrue
      · have hoff := hnot index hindex
        rw [DrmVop.setOutput_self, hconnected] at hoff
        cases hoff

/-- For every topology: the output is consistent with what is returned exactly when there
is no output for the device or no resources are given. -/
theorem detect_consistent_iff (r : DrmVop) (device : Int32) (topo : DrmTopology) :
    (detect r device topo).Consistent device ↔
      getOutputIndex device = none ∨ topo.resources = none := by
  unfold detect
  cases hindex : getOutputIndex device with
  | none =>
    refine iff_of_true ⟨false, rfl, .inr ⟨fun index h => ?_, rfl⟩⟩ (.inl rfl)
    rw [hindex] at h
    cases h
  | some index =>
    cases hres : topo.resources with
    | none =>
      refine iff_of_true ⟨false, rfl, .inr ⟨fun i h => ?_, rfl⟩⟩ (.inr rfl)
      rw [hindex] at h
      obtain rfl := Option.some.inj h
      dsimp only
      rw [DrmVop.setOutput_self]
      rfl
    | some res =>
      refine iff_of_false ?_ (by simp)
      have hcap : ¬ (⟨.ok true, r.setOutput index (resetOutput (r.mOutputs index))⟩ :
          Detected).Consistent device := by
        rintro ⟨ret, hret, ⟨i, hi, hconnected, -⟩ | ⟨-, hfalse⟩⟩
        · rw [hindex] at hi
          obtain rfl := Option.some.inj hi
          dsimp only at hconnected
          rw [DrmVop.setOutput_self] at hconnected
          cases hconnected
        · rw [hfalse] at hret
          cases hret
      dsimp only
      split
      · exact hcap
      · split
        · exact hcap
        · exact finishDetect_not_consistent topo r hindex _
            (connectorLoop_crtc topo res device 0 res.connectors _ rfl)

/-- An output as `initialize` leaves it. -/
def emptyOutput : DrmOutput := ⟨none, none, none, none, none, none, 0, 0, false⟩

def freshVop : DrmVop := ⟨⟨[]⟩, 3, true, fun _ => emptyOutput⟩

/-- One connector, 1, with encoder 2 attached and to that crtc 3. -/
def oneDisplay (connection : Connection) : DrmTopology where
  resources := some ⟨[1], ⟨[2], fun _ => 0⟩, [3]⟩
  universalPlanes := 0
  atomic := 0
  connectors := fun _ => some ⟨connection, 2⟩
  encoders := fun _ => some ⟨2, 3, 1⟩
  crtcs := fun _ => some ⟨3, 1920, 1080⟩
  crtcProps := fun _ => some []
  planes := some []
  fails := fun _ => false

/-- Unplugged, the missing crtc is dereferenced; plugged in, the output is not reported. -/
theorem detect_not_consistent :
    (detect freshVop 0 (oneDisplay .disconnected)).outcome = .error .nullCrtc ∧
      ¬ (detect freshVop 0 (oneDisplay .disconnected)).Consistent 0 ∧
      ((detect freshVop 0 (oneDisplay .connected)).render.mOutputs .primary).connected = true ∧
      (detect freshVop 0 (oneDisplay .connected)).outcome = .ok false ∧
      ¬ (detect freshVop 0 (oneDisplay .connected)).Consistent 0 := by
  refine ⟨rfl, ?_, rfl, rfl, ?_⟩
  · rintro ⟨ret, hret, -⟩
    cases hret
  · rintro ⟨ret, hret, ⟨index, -, -, -, -, -, -, htrue⟩ | ⟨hnot, -⟩⟩
    · rw [htrue] at hret
      cases hret
    · exact absurd (hnot .primary rfl) Bool.noConfusion

end RockchipHal.Sideband
