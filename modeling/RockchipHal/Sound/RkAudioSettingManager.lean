import RockchipHal.Lib.Dom
import RockchipHal.Sound.AudioHwHdmi

/-!
# `RkAudioSettingManager`

The settings live in `XMLDoc`: below the root an element `decode` and an element `bitstream`,
each with an attribute and with the children `mode`, `formats` and `devices`.  A function
that changes the document gives the document afterwards; `none` is the dereference of a node
that is not there.  `SaveFile` is left out, since its result is only logged.
-/

namespace RockchipHal.Sound.RkAudioSettingManager

open Dom

variable {N : Type} [Dom N]

/-- `hdmi_level` and `value`; `HDMI_AUDIO_MLP` has two names. -/
def mSupportHdmiLevel : List (Int × String) :=
  [(2, "AC3"), (10, "EAC3"), (7, "DTS"), (11, "DTSHD"), (12, "TRUEHD"), (12, "MLP")]

/-- `SELECT_DECODE` and `SELECT_BITSTREAM`. -/
inductive Port
  | decode
  | bitstream
deriving DecidableEq, Repr

def Port.element : Port → String
  | decode => "decode"
  | bitstream => "bitstream"

/-- `ADD_NODE` and `DELECT_NODE`. -/
inductive NodeCmd
  | addNode
  | delectNode
deriving DecidableEq, Repr

/-! ## Values -/

/-- `no` is 0, and so is any other text. -/
def getSelectValue (elem : N) : Int :=
  match firstAttribute elem with
  | some value => if value = "yes" then 1 else 0
  | none => 0

def setSelectValue (ch : String) (elem : N) : N :=
  match firstAttribute elem with
  | some _ => withFirstAttribute elem ch
  | none => elem

/-- `Clear`, and a new text linked. -/
def setModeValue (ch : String) (node : N) : N :=
  if isElement node then withChildren node [newText ch] else node

/-! ## Format lists -/

def formatNode (format : String) : N := withChildren (newElement "format") [newText format]

/-- `parent->ToElement()` is not there when something else is named `formats`. -/
def insertFormat (format : String) (list : N) : Option N :=
  if isElement list then some (withChildren list (children list ++ [formatNode format])) else none

def addFormatNode (port : Port) (format : String) (doc : List N) : Option (List N) :=
  onPart port.element "formats" (insertFormat format) doc

/-- The siblings without the one the loop removes.  The loop reads the first child of every
node it comes to. -/
def delectSibling (format : String) : List N → Option (List N)
  | [] => some []
  | node :: rest => do
    let value ← text node
    if value = format then some rest
    else
      let rest ← delectSibling format rest
      return node :: rest

def removeFormat (format : String) (list : N) : Option N := do
  let siblings ← delectSibling format (siblingsFrom "format" list)
  return withChildren list
    ((children list).takeWhile (fun node => !hasValue "format" node) ++ siblings)

def delectFormatNode (port : Port) (format : String) (doc : List N) : Option (List N) :=
  onPart port.element "formats" (removeFormat format) doc

def setFormats (port : Port) (cmd : NodeCmd) (format : String) (doc : List N) : Option (List N) :=
  match cmd with
  | .addNode => addFormatNode port format doc
  | .delectNode => delectFormatNode port format doc

/-! ## One setting of one port -/

def getAudioSettingSelect (port : Port) (doc : List N) : Option Int := do
  let elem ← elementAt port.element doc
  return getSelectValue elem

def markSelect (port : Port) (ch : String) (doc : List N) : Option (List N) :=
  onElement port.element (fun elem => some (setSelectValue ch elem)) doc

def setAudioSettingSelect (port : Port) (doc : List N) : Option (List N) :=
  match port with
  | .decode => do markSelect .bitstream "no" (← markSelect .decode "yes" doc)
  | .bitstream => do markSelect .bitstream "yes" (← markSelect .decode "no" doc)

/-- The mode functions of both ports, with their texts for the modes 0 and 1. -/
def modeOf (zero one : String) (node : N) : Int :=
  match text node with
  | some value => if value = zero then 0 else if value = one then 1 else 0
  | none => 0

def getAudioSettingMode (port : Port) (zero one : String) (doc : List N) : Option Int := do
  let node ← partAt port.element "mode" doc
  return modeOf zero one node

def replaceMode (zero one : String) (mode : Int) (node : N) : N :=
  match firstChild node with
  | some _ =>
    if mode = 0 then setModeValue zero node
    else if mode = 1 then setModeValue one node
    else node
  | none => node

def setAudioSettingMode (port : Port) (zero one : String) (mode : Int) (doc : List N) :
    Option (List N) :=
  onPart port.element "mode" (fun node => some (replaceMode zero one mode node)) doc

def getAudioSettingDecodeMode (doc : List N) : Option Int :=
  getAudioSettingMode .decode "decode_pcm" "multi_pcm" doc

def setAudioSettingDecodeMode (mode : Int) (doc : List N) : Option (List N) :=
  setAudioSettingMode .decode "decode_pcm" "multi_pcm" mode doc

def getAudioSettingBitStreamMode (doc : List N) : Option Int :=
  getAudioSettingMode .bitstream "auto" "manual" doc

def setAudioSettingBitStreamMode (mode : Int) (doc : List N) : Option (List N) :=
  setAudioSettingMode .bitstream "auto" "manual" mode doc

/-- The loop over the siblings, which skips the empty ones. -/
def findText (ch : String) : List N → Int
  | [] => 0
  | node :: rest => if text node = some ch then 1 else findText ch rest

/-- The lookups in the lists `list` of entries `entry`. -/
def getAudioSettingEntry (port : Port) (list entry ch : String) (doc : List N) : Option Int := do
  let node ← partAt port.element list doc
  return findText ch (siblingsFrom entry node)

def getAudioSettingDecodeFormat (ch : String) (doc : List N) : Option Int :=
  getAudioSettingEntry .decode "formats" "format" ch doc

def getAudioSettingBitstreamFormat (ch : String) (doc : List N) : Option Int :=
  getAudioSettingEntry .bitstream "formats" "format" ch doc

def getAudioSettingDecodeDevice (device : String) (doc : List N) : Option Int :=
  getAudioSettingEntry .decode "devices" "device" device doc

def getAudioSettingBitstreamDevice (device : String) (doc : List N) : Option Int :=
  getAudioSettingEntry .bitstream "devices" "device" device doc

/-- `close` is 1 to delete and 0 to add. -/
def setAudioSettingFormat (port : Port) (close : Int) (ch : String) (doc : List N) :
    Option (List N) :=
  if close = 1 then setFormats port .delectNode ch doc
  else if close = 0 then setFormats port .addNode ch doc
  else some doc

def setAudioSettingDecodeFormat (close : Int) (ch : String) (doc : List N) : Option (List N) :=
  setAudioSettingFormat .decode close ch doc

def setAudioSettingBitstreamFormat (close : Int) (ch : String) (doc : List N) : Option (List N) :=
  setAudioSettingFormat .bitstream close ch doc

/-- Only the first device is replaced, and only when it has a child. -/
def replaceDevice (device : String) (node : N) : N :=
  match firstChild node with
  | some _ => if isElement node then withChildren node [newText device] else node
  | none => node

def replaceFirstDevice (device : String) (list : N) : Option N :=
  onChild (hasValue "device") (fun node => some (replaceDevice device node)) list

def setAudioSettingBitstreamDevice (device : String) (doc : List N) : Option (List N) :=
  onPart Port.bitstream.element "devices" (replaceFirstDevice device) doc

/-! ## The interface -/

def getSelect (device : Int) (doc : List N) : Option Int :=
  if device = 0 then getAudioSettingSelect .decode doc
  else if device = 1 then do
    if (← getAudioSettingSelect .bitstream doc) = 1 then getAudioSettingBitstreamDevice "hdmi" doc
    else return 0
  else if device = 2 then do
    if (← getAudioSettingSelect .bitstream doc) = 1 then getAudioSettingBitstreamDevice "spdif" doc
    else return 0
  else some 0

/-- Adds a format that is not listed (`close` is 0), or deletes one that is (`close` is 1). -/
def syncFormat (close : Int) (ch : String) (doc : List N) : Option (List N) := do
  let support ← getAudioSettingBitstreamFormat ch doc
  if support = close then setAudioSettingBitstreamFormat close ch doc else return doc

/-- `setSelect` of the two bitstream outputs. -/
def selectBitstream (device : String) (close : Int) (doc : List N) : Option (List N) := do
  let doc ← setAudioSettingSelect .bitstream doc
  let listed ← getAudioSettingBitstreamDevice device doc
  let doc ← if listed ≠ 1 then setAudioSettingBitstreamDevice device doc else some doc
  syncFormat close "MLP" doc

def setSelect (device : Int) (doc : List N) : Option (List N) :=
  if device = 0 then setAudioSettingSelect .decode doc
  else if device = 1 then selectBitstream "hdmi" 0 doc
  else if device = 2 then selectBitstream "spdif" 1 doc
  else some doc

def setFormat (device close : Int) (format : String) (doc : List N) : Option (List N) :=
  if device = 0 then setAudioSettingDecodeFormat close format doc
  else if device = 1 then setAudioSettingBitstreamFormat close format doc
  else if device = 2 then setAudioSettingBitstreamFormat close format doc
  else some doc

def getFormat (device : Int) (format : String) (doc : List N) : Option Int :=
  if device = 0 then getAudioSettingDecodeFormat format doc
  else if device = 1 then getAudioSettingBitstreamFormat format doc
  else if device = 2 then getAudioSettingBitstreamFormat format doc
  else some 0

def setMode (device mode : Int) (doc : List N) : Option (List N) :=
  if device = 0 then setAudioSettingDecodeMode mode doc
  else if device = 1 then setAudioSettingBitStreamMode mode doc
  else some doc

def getMode (device : Int) (doc : List N) : Option Int :=
  if device = 0 then getAudioSettingDecodeMode doc
  else if device = 1 then getAudioSettingBitStreamMode doc
  else if device = 2 then getAudioSettingBitStreamMode doc
  else some 0

/-- What `parse_hdmi_audio` returns and leaves in `hdmi_edid`. -/
structure ParsedEdid where
  result : Int
  infors : HdmiAudioInfors
deriving DecidableEq, Repr

/-- The `close` a turn of the loop calls `syncFormat` with. -/
def ParsedEdid.close (edid : ParsedEdid) (hdmiLevel : Int) : Int :=
  if isSupportFormat edid.infors hdmiLevel then 0 else 1

def updataFormatForAutoMode (edid : ParsedEdid) (doc : List N) : Option (List N) :=
  if edid.result ≥ 0 then
    mSupportHdmiLevel.foldlM (fun doc level => syncFormat (edid.close level.1) level.2 doc) doc
  else some doc

def updataFormatForEdid (edid : ParsedEdid) (doc : List N) : Option (List N) :=
  updataFormatForAutoMode edid doc

/-- A call that may change the document. -/
inductive Call
  | setSelect (device : Int)
  | setFormat (device close : Int) (format : String)
  | setMode (device mode : Int)
  | updataFormatForEdid (edid : ParsedEdid)
deriving DecidableEq, Repr

def step (doc : List N) : Call → Option (List N)
  | .setSelect device => setSelect device doc
  | .setFormat device close format => setFormat device close format doc
  | .setMode device mode => setMode device mode doc
  | .updataFormatForEdid edid => updataFormatForEdid edid doc

/-! ## A configuration -/

/-- The element of a port, from its texts. -/
def sectionOf (port : Port) (select mode : String) (formats devices : List String) : XmlNode :=
  .element port.element [("select", select)]
    [.element "mode" [] [.other mode],
      .element "formats" [] (formats.map fun format => .element "format" [] [.other format]),
      .element "devices" [] (devices.map fun device => .element "device" [] [.other device])]

def configOf (decode bitstream : XmlNode) : List XmlNode :=
  [.element "audio" [] [decode, bitstream]]

end RockchipHal.Sound.RkAudioSettingManager
