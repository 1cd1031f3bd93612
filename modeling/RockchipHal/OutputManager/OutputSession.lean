import RockchipHal.Lib.Unwritten
import RockchipHal.OutputManager.RkOutputManager

/-!
# What a client of the output manager sees

The getters pass the device a local that nothing has written, and answer with what is in it
afterwards: a number and a mode's name also when the device reports an error, a vector only when it
reports none.  The tables are copied as far as the client's count says, the device's arrays as far
as its own.  Over any requests, what the device is asked and the clients are told does not depend on
what lay in memory exactly when

* the device writes every number it is asked for, and ends every name,
* it fills every vector it reports no error for, and its arrays are as long as it says, and
* no client's count exceeds one of its tables                        (session_independent_iff).
-/

namespace RockchipHal.OutputManager

/-! ## types.hal -/

/-- The fields of `drm_mode_t` too, which are copied one by one; the refresh rate as its bits. -/
structure RkDrmMode where
  width : UInt32
  height : UInt32
  refreshRate : UInt32
  clock : UInt32
  flags : UInt32
  interlaceFlag : UInt32
  yuvFlag : UInt32
  connectorId : UInt32
  mode_type : UInt32
  idx : UInt32
  hsync_start : UInt32
  hsync_end : UInt32
  htotal : UInt32
  hskew : UInt32
  vsync_start : UInt32
  vsync_end : UInt32
  vtotal : UInt32
  vscan : UInt32
deriving DecidableEq, Repr, Inhabited

/-- Those of `connector_info_t`. -/
structure RkConnectorInfo where
  type : UInt32
  id : UInt32
  state : UInt32
deriving DecidableEq, Repr, Inhabited

/-! ## The device -/

/-- Its functions that answer nothing, or whose answer is dropped. -/
inductive DeviceCommand
  | deviceInitialize | saveConfig | hotplug
  | setMode (display : Display) (mode : List UInt8)
  | set3DMode (mode : List UInt8)
  | setBrightness (display : Display) (value : UInt32)
  | setContrast (display : Display) (value : UInt32)
  | setSat (display : Display) (value : UInt32)
  | setHue (display : Display) (value : UInt32)
  | setScreenScale (display : Display) (direction value : UInt32)
  | setHdrMode (display : Display) (hdrmode : UInt32)
  | setColorMode (display : Display) (mode : List UInt8)
deriving DecidableEq, Repr

inductive NumberFunction
  | getNumConnectors | getConnectorState | getBuiltIn
deriving DecidableEq, Repr

inductive NameFunction
  | getCurColorMode | getCurMode
deriving DecidableEq, Repr

inductive VectorFunction
  | getColorConfigs | getOverscan | getBcsh
deriving DecidableEq, Repr

/-- The number of elements of the local. -/
def VectorFunction.size : VectorFunction → Nat
  | getColorConfigs => 2
  | getOverscan | getBcsh => 4

/-- `hw_output_device`, on its state.  What it writes where it is pointed to is part of its answer:
an element it leaves unwritten is `none`, an array it allocates comes with the count it gives. -/
structure OutputDevice (σ : Type) where
  command : σ → DeviceCommand → σ
  lut : σ → LutCall → σ × Int
  updateDispHeader : σ → σ × Int
  number : σ → NumberFunction → Display → σ × Int × Option UInt32
  name : σ → NameFunction → Display → σ × Int × List UInt8
  vector : σ → VectorFunction → Display → σ × Int × (Nat → Option UInt32)
  getDisplayModes : σ → Display → σ × Option (List RkDrmMode × UInt32)
  getConnectorInfo : σ → σ × Option (List RkConnectorInfo × UInt32)

/-- A call of the device. -/
inductive DeviceCall
  | command (c : DeviceCommand)
  | lut (c : LutCall)
  | updateDispHeader
  | number (f : NumberFunction) (display : Display)
  | name (f : NameFunction) (display : Display)
  | vector (f : VectorFunction) (display : Display)
  | getDisplayModes (display : Display)
  | getConnectorInfo
deriving DecidableEq

/-! ## The manager -/

/-- What lies where nothing was written: in the locals, and past the ends of vectors and arrays.
`name` is as far as to a `NUL`. -/
structure Unwritten where
  number : UInt32
  name : List UInt8
  vector : Nat → UInt32
  red : Nat → UInt16
  green : Nat → UInt16
  blue : Nat → UInt16
  modes : Nat → RkDrmMode
  infos : Nat → RkConnectorInfo
deriving Inhabited

inductive ClientReply
  | void
  | result (error : Result)
  | number (error : Result) (n : UInt32)
  | name (error : Result) (mode : List UInt8)
  | vector (error : Result) (elements : List UInt32)
  | modes (error : Result) (modes : List RkDrmMode)
  | infos (error : Result) (infos : List RkConnectorInfo)
deriving DecidableEq

/-- The device afterwards; what it was asked, and the reply. -/
abbrev Handled (σ : Type) := σ × DeviceCall × ClientReply

/-- `c_str()`: a `hidl_string` may have a `NUL` inside. -/
def cStr (bytes : List UInt8) : List UInt8 := bytes.takeWhile (· ≠ 0)

def resultOf (ret : Int) : Result := if ret = 0 then .ok else .unknown

namespace RkOutputManager

section
variable {σ : Type} (dev : OutputDevice σ) (s : σ) (w : Unwritten)

/-- The shape of `initial`, `saveConfig`, `hotPlug` and the setters. -/
def passOn (c : DeviceCommand) (reply : ClientReply) : Handled σ :=
  (dev.command s c, .command c, reply)

def initial : Handled σ := passOn dev s .deviceInitialize .void

def saveConfig : Handled σ := passOn dev s .saveConfig .void

def hotPlug : Handled σ := passOn dev s .hotplug .void

def setMode (display : Display) (mode : List UInt8) : Handled σ :=
  passOn dev s (.setMode display (cStr mode)) (.result .ok)

def set3DMode (mode : List UInt8) : Handled σ :=
  passOn dev s (.set3DMode (cStr mode)) (.result .ok)

def setBrightness (display : Display) (value : UInt32) : Handled σ :=
  passOn dev s (.setBrightness display value) (.result .ok)

def setContrast (display : Display) (value : UInt32) : Handled σ :=
  passOn dev s (.setContrast display value) (.result .ok)

def setSaturation (display : Display) (value : UInt32) : Handled σ :=
  passOn dev s (.setSat display value) (.result .ok)

def setHue (display : Display) (value : UInt32) : Handled σ :=
  passOn dev s (.setHue display value) (.result .ok)

def setScreenScale (display : Display) (direction value : UInt32) : Handled σ :=
  passOn dev s (.setScreenScale display direction value) (.result .ok)

def setHdrMode (display : Display) (hdrmode : UInt32) : Handled σ :=
  passOn dev s (.setHdrMode display hdrmode) (.result .ok)

def setColorMode (display : Display) (mode : List UInt8) : Handled σ :=
  passOn dev s (.setColorMode display (cStr mode)) (.result .ok)

/-- `setGamma` and `set3DLut`, on a device with a state. -/
def passLut (function : LutFunction) (display : Display) (size : UInt32) (r g b : List UInt16) :
    Handled σ :=
  let served := setLut function (fun call => (dev.lut s call).2) display size ⟨r, w.red⟩
    ⟨g, w.green⟩ ⟨b, w.blue⟩
  ((dev.lut s served.call).1, .lut served.call, .result served.res)

def updateDispHeader : Handled σ :=
  let r := dev.updateDispHeader s
  (r.1, .updateDispHeader, .result (resultOf r.2))

/-- The shape of the getters of a number: the local is answered with also after an error. -/
def getNumber (f : NumberFunction) (display : Display) : Handled σ :=
  let r := dev.number s f display
  (r.1, .number f display, .number (resultOf r.2.1) (r.2.2.getD w.number))

def getNumConnectors (display : Display) : Handled σ := getNumber dev s w .getNumConnectors display

def getConnectState (display : Display) : Handled σ := getNumber dev s w .getConnectorState display

def getBuiltIn (display : Display) : Handled σ := getNumber dev s w .getBuiltIn display

/-- The shape of the getters of a name: likewise, up to the first `NUL` from its start. -/
def getName (f : NameFunction) (display : Display) : Handled σ :=
  let r := dev.name s f display
  let mCurMode := r.2.2 ++ w.name.drop r.2.2.length
  (r.1, .name f display, .name (resultOf r.2.1) (cStr mCurMode))

def getCurCorlorMode (display : Display) : Handled σ := getName dev s w .getCurColorMode display

def getCurMode (display : Display) : Handled σ := getName dev s w .getCurMode display

/-- The shape of the getters of a vector: it is filled after a success only. -/
def getVector (f : VectorFunction) (display : Display) : Handled σ :=
  let r := dev.vector s f display
  let elements := (List.range f.size).map fun i => (r.2.2 i).getD (w.vector i)
  (r.1, .vector f display,
    if r.2.1 = 0 then .vector .ok elements else .vector .unknown [])

def getCorlorModeConfigs (display : Display) : Handled σ :=
  getVector dev s w .getColorConfigs display

def getOverscan (display : Display) : Handled σ := getVector dev s w .getOverscan display

def getBcsh (display : Display) : Handled σ := getVector dev s w .getBcsh display

/-- The copy of an array that the device has allocated. -/
def copyArray {α : Type} (array : List α × UInt32) (past : Nat → α) : List α :=
  (List.range array.2.toNat).map (UncheckedVec.get ⟨array.1, past⟩)

def getDisplayModes (display : Display) : Handled σ :=
  let r := dev.getDisplayModes s display
  (r.1, .getDisplayModes display,
    r.2.elim (.modes .unknown []) fun mModes => .modes .ok (copyArray mModes w.modes))

def getConnectorInfo : Handled σ :=
  let r := dev.getConnectorInfo s
  (r.1, .getConnectorInfo,
    r.2.elim (.infos .unknown []) fun mInfo => .infos .ok (copyArray mInfo w.infos))

end

end RkOutputManager

/-- A client's request. -/
inductive ClientRequest
  | initial | saveConfig | hotPlug | updateDispHeader | getConnectorInfo
  | setMode (display : Display) (mode : List UInt8)
  | set3DMode (mode : List UInt8)
  | setColorMode (display : Display) (mode : List UInt8)
  | setGamma (display : Display) (size : UInt32) (r g b : List UInt16)
  | set3DLut (display : Display) (size : UInt32) (r g b : List UInt16)
  | setBrightness (display : Display) (value : UInt32)
  | setContrast (display : Display) (value : UInt32)
  | setSaturation (display : Display) (value : UInt32)
  | setHue (display : Display) (value : UInt32)
  | setScreenScale (display : Display) (direction value : UInt32)
  | setHdrMode (display : Display) (hdrmode : UInt32)
  | getCurCorlorMode (display : Display)
  | getCurMode (display : Display)
  | getNumConnectors (display : Display)
  | getConnectState (display : Display)
  | getBuiltIn (display : Display)
  | getCorlorModeConfigs (display : Display)
  | getOverscan (display : Display)
  | getBcsh (display : Display)
  | getDisplayModes (display : Display)
deriving DecidableEq

namespace RkOutputManager

variable {σ : Type} (dev : OutputDevice σ) (s : σ)

def handle (s : σ) (request : ClientRequest) (w : Unwritten) : Handled σ :=
  match request with
  | .initial => initial dev s
  | .saveConfig => saveConfig dev s
  | .hotPlug => hotPlug dev s
  | .updateDispHeader => updateDispHeader dev s
  | .getConnectorInfo => getConnectorInfo dev s w
  | .setMode display mode => setMode dev s display mode
  | .set3DMode mode => set3DMode dev s mode
  | .setColorMode display mode => setColorMode dev s display mode
  | .setGamma display size r g b => passLut dev s w .setGamma display size r g b
  | .set3DLut display size r g b => passLut dev s w .set3DLut display size r g b
  | .setBrightness display value => setBrightness dev s display value
  | .setContrast display value => setContrast dev s display value
  | .setSaturation display value => setSaturation dev s display value
  | .setHue display value => setHue dev s display value
  | .setScreenScale display direction value => setScreenScale dev s display direction value
  | .setHdrMode display hdrmode => setHdrMode dev s display hdrmode
  | .getCurCorlorMode display => getCurCorlorMode dev s w display
  | .getCurMode display => getCurMode dev s w display
  | .getNumConnectors display => getNumConnectors dev s w display
  | .getConnectState display => getConnectState dev s w display
  | .getBuiltIn display => getBuiltIn dev s w display
  | .getCorlorModeConfigs display => getCorlorModeConfigs dev s w display
  | .getOverscan display => getOverscan dev s w display
  | .getBcsh display => getBcsh dev s w display
  | .getDisplayModes display => getDisplayModes dev s w display

/-! ## When memory does not show -/

def WritesNumber (f : NumberFunction) (display : Display) : Prop :=
  (dev.number s f display).2.2.isSome = true

def EndsName (f : NameFunction) (display : Display) : Prop := 0 ∈ (dev.name s f display).2.2

def FillsVector (f : VectorFunction) (display : Display) : Prop :=
  (dev.vector s f display).2.1 = 0 →
    ∀ i < f.size, ((dev.vector s f display).2.2 i).isSome = true

/-- The array is as long as its count. -/
def Allocates {α : Type} (array : Option (List α × UInt32)) : Prop :=
  ∀ a ∈ array, a.2.toNat ≤ a.1.length

/-- What the device must do for the request, or the client have done. -/
def Written : ClientRequest → Prop
  | .getNumConnectors display => WritesNumber dev s .getNumConnectors display
  | .getConnectState display => WritesNumber dev s .getConnectorState display
  | .getBuiltIn display => WritesNumber dev s .getBuiltIn display
  | .getCurCorlorMode display => EndsName dev s .getCurColorMode display
  | .getCurMode display => EndsName dev s .getCurMode display
  | .getCorlorModeConfigs display => FillsVector dev s .getColorConfigs display
  | .getOverscan display => FillsVector dev s .getOverscan display
  | .getBcsh display => FillsVector dev s .getBcsh display
  | .getDisplayModes display => Allocates (dev.getDisplayModes s display).2
  | .getConnectorInfo => Allocates (dev.getConnectorInfo s).2
  | .setGamma _ size r g b | .set3DLut _ size r g b =>
    size.toNat ≤ r.length ∧ size.toNat ≤ g.length ∧ size.toNat ≤ b.length
  | _ => True

/-- A copy shows what lies past the end exactly when it goes past it. -/
theorem copy_independent_iff {α : Type} {a b : α} (hne : a ≠ b) (l : List α) (n : Nat) :
    (∀ past past', (List.range n).map (UncheckedVec.get ⟨l, past⟩) =
        (List.range n).map (UncheckedVec.get ⟨l, past'⟩)) ↔ n ≤ l.length := by
  constructor
  · intro h
    by_contra hlt
    have hall := List.map_inj_left.mp (h (fun _ => a) fun _ => b) l.length
      (List.mem_range.mpr (by omega))
    have hpast : ∀ past, UncheckedVec.get ⟨l, past⟩ l.length = past l.length :=
      fun past => UncheckedVec.get_of_size_le ⟨l, past⟩ l.length (Nat.le_refl _)
    rw [hpast, hpast] at hall
    exact hne hall
  · intro hle past past'
    refine List.map_congr_left fun i hi => ?_
    have hlt : i < l.length := by
      have := List.mem_range.mp hi
      omega
    rw [UncheckedVec.get_of_lt _ _ hlt, UncheckedVec.get_of_lt _ _ hlt]

theorem getNumber_independent_iff (f : NumberFunction) (display : Display) :
    (∀ w w', (getNumber dev s w f display).2 = (getNumber dev s w' f display).2) ↔
      WritesNumber dev s f display := by
  unfold WritesNumber getNumber
  cases hn : (dev.number s f display).2.2 with
  | none =>
    refine iff_of_false (fun h => ?_) Bool.false_ne_true
    have hnumber := h { (default : Unwritten) with number := 0 }
      { (default : Unwritten) with number := 1 }
    simp [hn] at hnumber
  | some n => exact iff_of_true (fun w w' => by simp [hn]) rfl

theorem cStr_append_of_not_mem {name : List UInt8} (h : 0 ∉ name) (more : List UInt8) :
    cStr (name ++ more) = name ++ cStr more := by
  refine List.takeWhile_append_of_pos fun b hb => decide_eq_true fun hzero => h ?_
  rw [← hzero]
  exact hb

theorem cStr_append_of_mem {name : List UInt8} (h : 0 ∈ name) (more : List UInt8) :
    cStr (name ++ more) = cStr name := by
  obtain ⟨front, back, rfl, hfront⟩ := List.eq_append_cons_of_mem h
  rw [List.append_assoc, cStr_append_of_not_mem hfront, cStr_append_of_not_mem hfront]
  rfl

theorem getName_independent_iff (f : NameFunction) (display : Display) :
    (∀ w w', (getName dev s w f display).2 = (getName dev s w' f display).2) ↔
      EndsName dev s f display := by
  show (∀ w w' : Unwritten, (_, ClientReply.name _ (cStr (_ ++ List.drop _ w.name))) =
    (_, ClientReply.name _ (cStr (_ ++ List.drop _ w'.name)))) ↔ 0 ∈ _
  generalize (dev.name s f display).2.2 = name
  constructor
  · intro h
    by_contra hnot
    -- the name goes on with what was in the array
    have hmore := h { (default : Unwritten) with name := List.replicate name.length 0 }
      { (default : Unwritten) with name := List.replicate name.length 0 ++ [1] }
    rw [cStr_append_of_not_mem hnot, cStr_append_of_not_mem hnot] at hmore
    simp [cStr] at hmore
  · intro hmem w w'
    rw [cStr_append_of_mem hmem, cStr_append_of_mem hmem]

theorem getVector_independent_iff (f : VectorFunction) (display : Display) :
    (∀ w w', (getVector dev s w f display).2 = (getVector dev s w' f display).2) ↔
      FillsVector dev s f display := by
  unfold FillsVector getVector
  by_cases hret : (dev.vector s f display).2.1 = 0
  · constructor
    · intro h _ i hi
      by_contra hnone
      have hboth := h { (default : Unwritten) with vector := fun _ => 0 }
        { (default : Unwritten) with vector := fun _ => 1 }
      simp only [if_pos hret, Prod.mk.injEq, ClientReply.vector.injEq, true_and] at hboth
      have hat := List.map_inj_left.mp hboth i (List.mem_range.mpr hi)
      rw [Option.not_isSome_iff_eq_none.mp hnone] at hat
      simp at hat
    · intro hfills w w'
      simp only [if_pos hret, Prod.mk.injEq, ClientReply.vector.injEq, true_and]
      refine List.map_congr_left fun i hi => ?_
      obtain ⟨n, hn⟩ := Option.isSome_iff_exists.mp (hfills hret i (List.mem_range.mp hi))
      rw [hn]
      rfl
  · exact iff_of_true (fun w w' => by simp only [if_neg hret]) fun h => absurd h hret

/-- A copied array, in a reply that shows it. -/
theorem array_independent_iff {α β : Type} {a b : α} (hne : a ≠ b)
    (array : Option (List α × UInt32)) (failed : β) {reply : List α → β}
    (hshows : Function.Injective reply) :
    (∀ past past', (array.elim failed fun x => reply (copyArray x past)) =
        array.elim failed fun x => reply (copyArray x past')) ↔ Allocates array := by
  unfold Allocates
  cases array with
  | none => exact iff_of_true (fun _ _ => rfl) fun x hx => by cases hx
  | some x =>
    have hcopy := copy_independent_iff hne x.1 x.2.toNat
    constructor
    · intro h y hy
      cases hy
      exact hcopy.mp fun past past' => hshows (h past past')
    · intro hle past past'
      exact congrArg reply (hcopy.mpr (hle x rfl) past past')

theorem getDisplayModes_independent_iff (display : Display) :
    (∀ w w', (getDisplayModes dev s w display).2 = (getDisplayModes dev s w' display).2) ↔
      Allocates (dev.getDisplayModes s display).2 := by
  have hne : (default : RkDrmMode) ≠ { (default : RkDrmMode) with width := 1 } := by decide
  rw [← array_independent_iff hne _ (ClientReply.modes .unknown [])
    (fun _ _ h => (ClientReply.modes.inj h).2)]
  constructor
  · intro h past past'
    exact congrArg Prod.snd (h { (default : Unwritten) with modes := past }
      { (default : Unwritten) with modes := past' })
  · intro h w w'
    exact congrArg (Prod.mk _) (h w.modes w'.modes)

theorem getConnectorInfo_independent_iff :
    (∀ w w', (getConnectorInfo dev s w).2 = (getConnectorInfo dev s w').2) ↔
      Allocates (dev.getConnectorInfo s).2 := by
  have hne : (default : RkConnectorInfo) ≠ { (default : RkConnectorInfo) with type := 1 } := by
    decide
  rw [← array_independent_iff hne _ (ClientReply.infos .unknown [])
    (fun _ _ h => (ClientReply.infos.inj h).2)]
  constructor
  · intro h past past'
    exact congrArg Prod.snd (h { (default : Unwritten) with infos := past }
      { (default : Unwritten) with infos := past' })
  · intro h w w'
    exact congrArg (Prod.mk _) (h w.infos w'.infos)

theorem passLut_independent_iff (function : LutFunction) (display : Display) (size : UInt32)
    (r g b : List UInt16) :
    (∀ w w', (passLut dev s w function display size r g b).2 =
        (passLut dev s w' function display size r g b).2) ↔
      size.toNat ≤ r.length ∧ size.toNat ≤ g.length ∧ size.toNat ≤ b.length := by
  have hcopy : ∀ v : List UInt16, (∀ past past', (copyChannel size ⟨v, past⟩).val =
      (copyChannel size ⟨v, past'⟩).val) ↔ size.toNat ≤ v.length := by
    intro v
    simp only [copyChannel_val]
    exact copy_independent_iff (show (0 : UInt16) ≠ 1 by decide) v size.toNat
  constructor
  · intro h
    have hcall : ∀ w w', (passLut dev s w function display size r g b).2.1 =
        (passLut dev s w' function display size r g b).2.1 := fun w w' => by rw [h w w']
    refine ⟨(hcopy r).mp fun past past' => ?_, (hcopy g).mp fun past past' => ?_,
      (hcopy b).mp fun past past' => ?_⟩
    · have hboth := hcall { (default : Unwritten) with red := past }
        { (default : Unwritten) with red := past' }
      exact congrArg LutCall.red (DeviceCall.lut.inj hboth)
    · have hboth := hcall { (default : Unwritten) with green := past }
        { (default : Unwritten) with green := past' }
      exact congrArg LutCall.green (DeviceCall.lut.inj hboth)
    · have hboth := hcall { (default : Unwritten) with blue := past }
        { (default : Unwritten) with blue := past' }
      exact congrArg LutCall.blue (DeviceCall.lut.inj hboth)
  · rintro ⟨hr, hg, hb⟩ w w'
    have hcall : ∀ w : Unwritten, (passLut dev s w function display size r g b).2.1 =
        .lut ⟨function, display, size, (copyChannel size ⟨r, w.red⟩).val,
          (copyChannel size ⟨g, w.green⟩).val, (copyChannel size ⟨b, w.blue⟩).val⟩ := fun _ => rfl
    have hsame : (passLut dev s w function display size r g b).2.1 =
        (passLut dev s w' function display size r g b).2.1 := by
      rw [hcall, hcall, (hcopy r).mpr hr w.red w'.red, (hcopy g).mpr hg w.green w'.green,
        (hcopy b).mpr hb w.blue w'.blue]
    exact congrArg (fun call => (DeviceCall.lut call,
      ClientReply.result (if (dev.lut s call).2 = 0 then .ok else .unknown)))
        (DeviceCall.lut.inj hsame)

/-- What memory shows in the handling of a request. -/
theorem handle_independent_iff (request : ClientRequest) :
    Independent (handle dev) s request ↔ Written dev s request := by
  cases request with
  | getNumConnectors display => exact getNumber_independent_iff dev s .getNumConnectors display
  | getConnectState display => exact getNumber_independent_iff dev s .getConnectorState display
  | getBuiltIn display => exact getNumber_independent_iff dev s .getBuiltIn display
  | getCurCorlorMode display => exact getName_independent_iff dev s .getCurColorMode display
  | getCurMode display => exact getName_independent_iff dev s .getCurMode display
  | getCorlorModeConfigs display => exact getVector_independent_iff dev s .getColorConfigs display
  | getOverscan display => exact getVector_independent_iff dev s .getOverscan display
  | getBcsh display => exact getVector_independent_iff dev s .getBcsh display
  | getDisplayModes display => exact getDisplayModes_independent_iff dev s display
  | getConnectorInfo => exact getConnectorInfo_independent_iff dev s
  | setGamma display size r g b => exact passLut_independent_iff dev s .setGamma display size r g b
  | set3DLut display size r g b => exact passLut_independent_iff dev s .set3DLut display size r g b
  | _ => exact iff_of_true (fun _ _ => rfl) trivial

/-- The device goes on alike when it is asked alike. -/
theorem handle_state {request : ClientRequest} {w w' : Unwritten}
    (h : (handle dev s request w).2 = (handle dev s request w').2) :
    (handle dev s request w).1 = (handle dev s request w').1 := by
  cases request with
  | setGamma display size r g b | set3DLut display size r g b =>
    have hcall := DeviceCall.lut.inj (congrArg Prod.fst h)
    exact congrArg (fun call => (dev.lut s call).1) hcall
  | _ => rfl

end RkOutputManager

end RockchipHal.OutputManager
