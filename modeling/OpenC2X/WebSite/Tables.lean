import OpenC2X.WebSite.StationData

/-!
# The table of received CAMs

The web site shows the CAMs of the other stations in a table, with a row for each of them.  The
table is an object, with the station IDs as its keys.  An error in one row ends the function before
it calls back, so that the table is not shown.

There is no error exactly if every other station that calls itself a passenger car has the
container of a vehicle.
-/

namespace OpenC2X.WebSite

open Buffers HttpServer JsValue PbJson

/-! ## Tables -/

/-- A row of the table. -/
structure Row where
  protocolVersion : Option JsValue
  messageID : Option JsValue
  stationID : Option JsValue
  latitude : Double
  longitude : Double
  altitude : Option JsValue
  /-- Whether `stationType` is "Vehicle"; otherwise it is "RSU". -/
  isVehicle : Bool
  /-- The number before "m/s". -/
  speed : Option Double

/-- `value === 5` -/
def isFive : Option JsValue → Bool
  | some (.number x) => x = .finite 5
  | _ => false

/-- The row of a CAM, with the speed of a vehicle. -/
def camRow (cam : JsValue) : Except TypeError Row := do
  let basic ← properties ["coop", "camParameters", "basicContainer"] (some cam)
  let isVehicle := isFive (← property "stationType" basic)
  let header ← property "header" (some cam)
  let protocolVersion ← property "protocolVersion" header
  let messageID ← property "messageID" header
  let stationID ← property "stationID" header
  let latitude ← property "latitude" basic
  let longitude ← property "longitude" basic
  let altitude ← property "altitude" basic
  let row : Row := {
    protocolVersion, messageID, stationID
    latitude := divide latitude 10000000
    longitude := divide longitude 10000000
    altitude, isVehicle
    speed := none }
  if isVehicle then
    let speed ← properties ["coop", "camParameters", "highFreqContainer",
      "basicVehicleHighFreqContainer", "speed"] (some cam)
    return { row with speed := some (divide speed 100) }
  else
    return row

/-- The loop over the map, with the properties in the order in which they are made. -/
def receivedRows (mymac : List Char) :
    List (List Char × JsValue) → Except TypeError (List (List Char × Row))
  | [] => .ok []
  | (stationID, cam) :: rest =>
      if stationID = mymac then
        receivedRows mymac rest
      else do
        let r ← camRow cam
        let rows ← receivedRows mymac rest
        return (stationID, r) :: rows

/-- The rows that the callback shows, if it is called.  The keys of the map differ, so that each
makes a property of its own. -/
def getReceivedCamDetail (d : StationData) : Option (List (List Char × Row)) :=
  if d.init then
    match receivedRows d.mymac d.cams.entries with
    | .ok rows => some (enumerate rows)
    | .error _ => none
  else
    none

/-! ## The row of a CAM -/

/-- The row of a CAM, without a speed. -/
def camDetail (cam : CAM) : Row where
  protocolVersion := some (.ofJson (.number cam.header.value.protocolVersion.value.toInt 0))
  messageID := some (.ofJson (.number cam.header.value.messageID.value.toInt 0))
  stationID := some (.ofJson (.number cam.header.value.stationID.value.toNat 0))
  latitude :=
    divide (some (.ofJson (.number cam.basiccontainer.value.latitude.value.toInt 0))) 10000000
  longitude :=
    divide (some (.ofJson (.number cam.basiccontainer.value.longitude.value.toInt 0))) 10000000
  altitude := some (.ofJson (.number cam.basiccontainer.value.altitude.value.toInt 0))
  isVehicle := cam.basiccontainer.value.stationType.value = 5
  speed := none

theorem isFive_number (n : Int64) :
    isFive (some (.ofJson (.number n.toInt 0))) = decide (n = 5) := by
  have hsmall : |n.toInt| < 2 ^ 1023 := by
    have hle : |n.toInt| ≤ 2 ^ 63 := abs_le.mpr ⟨n.le_toInt, n.toInt_lt.le⟩
    exact hle.trans_lt (pow_lt_pow_right₀ (by omega) (by omega))
  rw [ofJson, zpow_zero, mul_one, Double.nearest_intCast hsmall, isFive]
  apply decide_eq_decide.mpr
  constructor
  · intro h
    exact Int64.toInt_inj.mp
      (eq_of_roundSignificant_two (by decide : (5 : ℤ) % 2 = 1) (Double.finite.inj h))
  · rintro rfl
    have hself := @roundSignificant_eq_self 2 53 (by omega) 5 0 (by decide)
    rw [zpow_zero, mul_one] at hself
    exact congrArg Double.finite hself

section

variable {number : Double → Json}

theorem basiccontainer_value (cam : CAM) :
    cam.basiccontainer.value = cam.coop.value.camParameters.value.basicContainer.value := by
  rw [CAM.basiccontainer, ProtoField.value_bind _ rfl, ProtoField.value_bind _ rfl]

theorem properties_basicContainer (cam : CAM) :
    properties ["coop", "camParameters", "basicContainer"] (some (.ofJson (shown number cam))) =
      .ok (some (messageValue number BasicContainer.descriptor
        cam.basiccontainer.value.toMessage)) := by
  rw [properties_cons (property_coop cam), properties_cons (property_camParameters _),
    properties_cons (property_basicContainer _), basiccontainer_value]
  rfl

theorem highFreqContainer_basicVehicle (cam : CAM) :
    cam.basicvehiclehighfreqcontainer =
      cam.coop.value.camParameters.value.highFreqContainer.value.basicVehicleHighFreqContainer := by
  unfold CAM.basicvehiclehighfreqcontainer CAM.highfreqcontainer
  cases cam.coop with
  | none => rfl
  | some coop =>
      cases coop with
      | mk genDeltaTime camParameters =>
          cases camParameters with
          | none => rfl
          | some camParameters =>
              cases camParameters with
              | mk basic high low special => cases high <;> rfl

theorem properties_speed (cam : CAM) :
    properties ["coop", "camParameters", "highFreqContainer", "basicVehicleHighFreqContainer",
        "speed"] (some (.ofJson (shown number cam))) =
      match cam.basicvehiclehighfreqcontainer with
      | some vehicle => .ok (some (.ofJson (.number vehicle.speed.value.toInt 0)))
      | none => .error .cannotReadProperty := by
  rw [properties_cons (property_coop cam), properties_cons (property_camParameters _),
    properties_cons (property_highFreqContainer _),
    properties_cons (property_basicVehicleHighFreqContainer _), ← highFreqContainer_basicVehicle]
  cases cam.basicvehiclehighfreqcontainer with
  | none => rfl
  | some vehicle => exact properties_cons (property_speed vehicle) []

/-- The row of a CAM: that of a vehicle needs its container. -/
theorem camRow_shown (cam : CAM) :
    camRow (.ofJson (shown number cam)) =
      if cam.basiccontainer.value.stationType.value = 5 then
        match cam.basicvehiclehighfreqcontainer with
        | some vehicle =>
            .ok { camDetail cam with
              speed := some (divide (some (.ofJson (.number vehicle.speed.value.toInt 0))) 100) }
        | none => .error .cannotReadProperty
      else
        .ok (camDetail cam) := by
  rw [camRow, properties_basicContainer, property_header_cam, properties_speed]
  change (if isFive (some (.ofJson (.number
    cam.basiccontainer.value.stationType.value.toInt 0))) = true then _ else _) = _
  split_ifs with h₁ h₂ h₃
  · cases cam.basicvehiclehighfreqcontainer with
    | none => rfl
    | some vehicle =>
        rw [camDetail, ← isFive_number]
        rfl
  · rw [isFive_number] at h₁
    exact absurd (of_decide_eq_true h₁) h₂
  · rw [isFive_number] at h₁
    exact absurd (decide_eq_true h₃) h₁
  · rw [camDetail, ← isFive_number]
    rfl

/-- The CAM does not call its station a passenger car, or it has the container of a vehicle. -/
def Displayable (cam : CAM) : Prop :=
  cam.basiccontainer.value.stationType.value = 5 → cam.basicvehiclehighfreqcontainer ≠ none

theorem exists_camRow_iff (cam : CAM) :
    (∃ row, camRow (.ofJson (shown number cam)) = .ok row) ↔ Displayable cam := by
  rw [camRow_shown, Displayable]
  split
  next hvehicle =>
    cases cam.basicvehiclehighfreqcontainer with
    | none => simp [hvehicle]
    | some vehicle => exact ⟨fun _ _ => Option.some_ne_none vehicle, fun _ => ⟨_, rfl⟩⟩
  next hother => exact ⟨fun _ h => absurd h hother, fun _ => ⟨_, rfl⟩⟩

end

/-! ### The loop -/

section

variable {mymac : List Char}

theorem receivedRows_cons_of_ne {stationID : List Char} (hne : stationID ≠ mymac)
    (cam : JsValue) (entries : List (List Char × JsValue)) :
    receivedRows mymac ((stationID, cam) :: entries) = do
      let r ← camRow cam
      let rows ← receivedRows mymac entries
      return (stationID, r) :: rows := by
  rw [receivedRows, if_neg hne]

/-- The rows are those of the other stations. -/
theorem forall₂_receivedRows {entries : List (List Char × JsValue)}
    {rows : List (List Char × Row)} (h : receivedRows mymac entries = .ok rows) :
    List.Forall₂ (fun entry r => r.1 = entry.1 ∧ camRow entry.2 = .ok r.2)
      (entries.filter fun entry => entry.1 ≠ mymac) rows := by
  induction entries generalizing rows with
  | nil =>
      cases h
      exact .nil
  | cons entry entries ih =>
      obtain ⟨stationID, cam⟩ := entry
      by_cases hown : stationID = mymac
      · rw [receivedRows, if_pos hown] at h
        rw [List.filter_cons_of_neg (by simp [hown])]
        exact ih h
      · rw [receivedRows_cons_of_ne hown] at h
        rw [List.filter_cons_of_pos (by simp [hown])]
        cases hrow : camRow cam with
        | error e =>
            rw [hrow] at h
            cases h
        | ok r =>
            cases hrest : receivedRows mymac entries with
            | error e =>
                rw [hrow, hrest] at h
                cases h
            | ok rows' =>
                rw [hrow, hrest] at h
                cases h
                exact .cons ⟨rfl, hrow⟩ (ih hrest)

/-- There is no error if there is none in any of these rows. -/
theorem exists_receivedRows_iff {entries : List (List Char × JsValue)} :
    (∃ rows, receivedRows mymac entries = .ok rows) ↔
      ∀ entry ∈ entries, entry.1 ≠ mymac → ∃ r, camRow entry.2 = .ok r := by
  induction entries with
  | nil => simp [receivedRows]
  | cons entry entries ih =>
      obtain ⟨stationID, cam⟩ := entry
      rw [List.forall_mem_cons, ← ih]
      by_cases hown : stationID = mymac
      · rw [receivedRows, if_pos hown]
        exact ⟨fun h => ⟨fun hne => absurd hown hne, h⟩, fun h => h.2⟩
      · rw [receivedRows_cons_of_ne hown]
        constructor
        · rintro ⟨rows, hrows⟩
          cases hrow : camRow cam with
          | error e =>
              rw [hrow] at hrows
              cases hrows
          | ok r =>
              cases hrest : receivedRows mymac entries with
              | error e =>
                  rw [hrow, hrest] at hrows
                  cases hrows
              | ok rows' => exact ⟨fun _ => ⟨r, rfl⟩, ⟨rows', rfl⟩⟩
        · rintro ⟨hfirst, rows, hrows⟩
          obtain ⟨r, hr⟩ := hfirst hown
          rw [hr, hrows]
          exact ⟨(stationID, r) :: rows, rfl⟩

end

end OpenC2X.WebSite
