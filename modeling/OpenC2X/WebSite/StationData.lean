import OpenC2X.HttpServer.Requests
import OpenC2X.Lib.InsertionMap
import OpenC2X.Lib.JavaScript

/-!
# CAMs on the web site

The web site keeps the last CAM of every station in a map, by the text of the station ID.  Its own
ID is the `myMac` that it asks the HTTP server for; until it has it, it drops all CAMs.

The fields of the CAMs are read from what the HTTP server writes.
-/

namespace OpenC2X.WebSite

open Buffers HttpServer JsValue PbJson

/-! ## The data of the stations -/

/-- `camData` -/
structure StationData where
  mymac : List Char
  cams : InsertionMap (List Char) JsValue

def StationData.new : StationData := ⟨[], InsertionMap.empty⟩

/-- `init` returns whether the own ID is known. -/
def StationData.init (d : StationData) : Bool := d.mymac ≠ []

/-- `cam.header.stationID.toString()` -/
def stationKey (cam : JsValue) : Option (List Char) :=
  match properties ["header", "stationID"] (some cam) with
  | .ok stationID => numberToString stationID
  | .error _ => none

/-- The loop of `digestCams`, which ends where there is an error. -/
def setStations (cams : InsertionMap (List Char) JsValue) :
    List JsValue → InsertionMap (List Char) JsValue
  | [] => cams
  | cam :: msgs =>
      match stationKey cam with
      | some key => setStations (cams.set key cam) msgs
      | none => cams

def StationData.digestCams (data : JsValue) (d : StationData) : StationData :=
  if d.init then
    match data.get? "msgs".toList with
    | some (.array msgs) => { d with cams := setStations d.cams msgs }
    | _ => d
  else
    d

/-- What `init` does with the answer to its request for the own ID. -/
def StationData.digestMyMac (data : JsValue) (d : StationData) : StationData :=
  match data.get? "myMac".toList with
  | some (.string mymac) => { d with mymac := mymac }
  | _ => d

/-! ## The fields of a CAM -/

section

variable {number : Double → Json}

/-- The value of a message that is a field of another one, on the web site. -/
def messageValue (number : Double → Json) (descriptor : Descriptor) (m : descriptor.Message) :
    JsValue :=
  .ofJson (messageJson number descriptor m)

theorem property_messageValue (key : String) (descriptor : Descriptor) (m : descriptor.Message) :
    property key (some (messageValue number descriptor m)) =
      .ok (((messageJson number descriptor m).get? key.toList).map .ofJson) := by
  rw [← get?_ofJson]
  rfl

theorem property_header_cam (cam : CAM) :
    property "header" (some (.ofJson (shown number cam))) =
      .ok (some (messageValue number ItsPduHeader.descriptor cam.header.value.toMessage)) := by
  rw [← getD_map_value cam.header ItsPduHeader.toMessage]
  exact property_messageValue "header" CAM.descriptor cam.toMessage

theorem property_coop (cam : CAM) :
    property "coop" (some (.ofJson (shown number cam))) =
      .ok (some (messageValue number CoopAwareness.descriptor cam.coop.value.toMessage)) := by
  rw [← getD_map_value cam.coop CoopAwareness.toMessage]
  exact property_messageValue "coop" CAM.descriptor cam.toMessage

theorem property_camParameters (m : CoopAwareness) :
    property "camParameters" (some (messageValue number CoopAwareness.descriptor m.toMessage)) =
      .ok (some (messageValue number CamParameters.descriptor
        m.camParameters.value.toMessage)) := by
  rw [← getD_map_value m.camParameters CamParameters.toMessage, property_messageValue]
  rfl

theorem property_basicContainer (m : CamParameters) :
    property "basicContainer" (some (messageValue number CamParameters.descriptor m.toMessage)) =
      .ok (some (messageValue number BasicContainer.descriptor
        m.basicContainer.value.toMessage)) := by
  rw [← getD_map_value m.basicContainer BasicContainer.toMessage, property_messageValue,
    get?_messageJson (by decide)]
  rfl

theorem property_highFreqContainer (m : CamParameters) :
    property "highFreqContainer"
        (some (messageValue number CamParameters.descriptor m.toMessage)) =
      .ok (some (messageValue number HighFreqContainer.descriptor
        m.highFreqContainer.value.toMessage)) := by
  rw [← getD_map_value m.highFreqContainer HighFreqContainer.toMessage, property_messageValue,
    get?_messageJson (by decide)]
  rfl

/-- An optional message that is not set is `undefined`. -/
theorem property_basicVehicleHighFreqContainer (m : HighFreqContainer) :
    property "basicVehicleHighFreqContainer"
        (some (messageValue number HighFreqContainer.descriptor m.toMessage)) =
      .ok (m.basicVehicleHighFreqContainer.map fun m =>
        messageValue number BasicVehicleHighFreqContainer.descriptor m.toMessage) := by
  rw [property_messageValue]
  obtain ⟨type, _ | basicVehicle, _ | rsu⟩ := m <;> rfl

theorem property_speed (m : BasicVehicleHighFreqContainer) :
    property "speed"
        (some (messageValue number BasicVehicleHighFreqContainer.descriptor m.toMessage)) =
      .ok (some (.ofJson (.number m.speed.value.toInt 0))) := by
  rw [property_messageValue, get?_messageJson (by decide)]
  rfl

/-- A CAM is kept under the digits of its station ID. -/
theorem stationKey_shown {cam : CAM} (hlt : cam.stationid.toNat < 2 ^ 53) :
    stationKey (.ofJson (shown number cam)) = some (Nat.toDigits 10 cam.stationid.toNat) := by
  have habs : |(cam.stationid.toNat : ℤ)| < 2 ^ 53 := by
    rw [abs_of_nonneg (Int.natCast_nonneg _)]
    exact_mod_cast hlt
  have hproperties : properties ["header", "stationID"] (some (.ofJson (shown number cam))) =
      .ok (some (.number (.finite (cam.stationid.toNat : ℤ)))) := by
    rw [properties_cons (property_header_cam cam), ← ofJson_number habs]
    exact property_messageValue "stationID" ItsPduHeader.descriptor cam.header.value.toMessage
  rw [stationKey, hproperties]
  dsimp only
  rw [numberToString, Rat.den_intCast, Rat.num_intCast, if_pos ⟨rfl, habs⟩]
  rfl

end

end OpenC2X.WebSite
