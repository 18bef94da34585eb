import OpenC2X.Cam.CaService
import OpenC2X.Common.Buffers
import OpenC2X.Denm.Conversion
import Mathlib.Data.Rat.Floor
import Mathlib.Tactic.IntervalCases

/-!
# Generated DENMs

`generateDenm` fills a DENM with the station, the latest position and the time.  The time
stamps are bit strings of 42 bits, read with the most significant bit first; the standard
wants the milliseconds since the start of 2004.  The code copies the low six bytes of the
clock reading, nanoseconds since 1970, as they are in memory.  On a little endian host the
lowest byte comes first, and so becomes the most significant one.

So the order of two time stamps is not the order of the readings.  What decides is the
difference of the two readings modulo 256, and, if that is 0 or 128, the other bytes of the
readings from the second lowest one upwards (`ordered_iff`).
-/

namespace OpenC2X

/-! ## The structure in C -/

/-- A bit string of asn1c: the bytes, and how many bits at the end of them do not count. -/
structure Asn1.BIT_STRING where
  buf : List UInt8
  size : ℕ
  bits_unused : ℕ
  deriving DecidableEq, Repr

/-- The number that the bits denote, the most significant bit first. -/
def Asn1.BIT_STRING.number (bits : Asn1.BIT_STRING) : ℕ :=
  bits.buf.foldl (fun n byte => 256 * n + byte.toNat) 0 / 2 ^ bits.bits_unused

/-- A DENM with the time stamps of its management container. -/
structure Asn1.StampedDENM extends Asn1.DENM where
  detectionTime : Asn1.BIT_STRING
  referenceTime : Asn1.BIT_STRING
  deriving DecidableEq, Repr

namespace Asn1

def messageID_denm : ℤ := 1
def SemiAxisLength_unavailable : ℤ := 4095

end Asn1

namespace Denm

open Asn1 Buffers

/-- The bytes of an `int64_t` in memory, on a little endian host. -/
def memory64 (x : Int64) : List UInt8 :=
  (List.range 8).map fun k => UInt8.ofNat (x.toUInt64.toNat / 256 ^ k)

/-- `memcpy(timestamp->buf, &currTime, 6)` -/
def timestamp (currTime : Int64) : BIT_STRING where
  buf := (memory64 currTime).take 6
  size := 6
  bits_unused := 6

/-- The position in tenths of microdegrees, if there is one.  GpsService skips positions that are
not numbers. -/
def eventPosition (mLatestGps : Buffers.GPS) : ReferencePosition where
  latitude :=
    if mLatestGps.time.isSome then Cam.truncate (mLatestGps.latitude.value.toRat * 10000000)
    else Latitude_unavailable
  longitude :=
    if mLatestGps.time.isSome then Cam.truncate (mLatestGps.longitude.value.toRat * 10000000)
    else Longitude_unavailable
  altitude :=
    { altitudeValue :=
        if mLatestGps.time.isSome then Cam.truncate mLatestGps.altitude.value.toRat
        else AltitudeValue_unavailable
      altitudeConfidence := AltitudeConfidence_unavailable }
  positionConfidenceEllipse :=
    { semiMajorConfidence := SemiAxisLength_unavailable
      semiMinorConfidence := SemiAxisLength_unavailable
      semiMajorOrientation := HeadingValue_unavailable }

def generateDenm (mStationID : UInt32) (mLatestGps : Buffers.GPS) (currTime : Int64) :
    StampedDENM where
  header :=
    { stationID := mStationID.toNat
      messageID := messageID_denm
      protocolVersion := protocolVersion_currentVersion }
  denm :=
    { management :=
        { actionID := { originatingStationID := mStationID.toNat, sequenceNumber := 1 }
          eventPosition := eventPosition mLatestGps
          validityDuration := some 60
          stationType := StationType_passengerCar } }
  detectionTime := timestamp currTime
  referenceTime := timestamp currTime

/-- A generated DENM has a validity duration, so `send` can convert it for the LDM, which
gets it without the duration. -/
theorem convert_generateDenm (mStationID : UInt32) (mLatestGps : Buffers.GPS) (currTime : Int64) :
    ∃ proto,
      convertAsn1toProtoBuf (generateDenm mStationID mLatestGps currTime).toDENM = some proto ∧
      proto.validityDuration = none :=
  ⟨_, rfl, rfl⟩

/-! ## The number of a time stamp -/

/-- The bytes of a clock reading; the lowest one is number 0. -/
def clockByte (k : ℕ) (time : ℤ) : ℤ := time / 256 ^ k % 256

/-- What is copied behind the lowest byte, in the order in which it is read. -/
def upperBytes (time : ℤ) : List ℤ :=
  [clockByte 1 time, clockByte 2 time, clockByte 3 time, clockByte 4 time, clockByte 5 time / 64]

/-- What these bytes contribute to the number. -/
def lowPart (time : ℤ) : ℤ :=
  2 ^ 26 * clockByte 1 time + 2 ^ 18 * clockByte 2 time + 2 ^ 10 * clockByte 3 time +
    2 ^ 2 * clockByte 4 time + clockByte 5 time / 64

theorem clockByte_nonneg (k : ℕ) (time : ℤ) : 0 ≤ clockByte k time :=
  Int.emod_nonneg _ (by omega)

theorem clockByte_lt (k : ℕ) (time : ℤ) : clockByte k time < 256 :=
  Int.emod_lt_of_pos _ (by omega)

/-- A byte in memory, also of a negative number. -/
theorem toNat_memory64 {k : ℕ} (hk : k < 6) (time : Int64) :
    ((UInt8.ofNat (time.toUInt64.toNat / 256 ^ k)).toNat : ℤ) = clockByte k time.toInt := by
  have hlt : time.toUInt64.toNat < 2 ^ 64 := time.toUInt64.toNat_lt
  have hint : time.toInt = (time.toUInt64.toNat : ℤ).bmod (2 ^ 64) :=
    BitVec.toInt_eq_toNat_bmod time.toBitVec
  rw [UInt8.toNat_ofNat', clockByte, hint, Int.bmod_def]
  interval_cases k <;> omega

theorem number_timestamp (time : Int64) :
    ((timestamp time).number : ℤ) = 2 ^ 34 * clockByte 0 time.toInt + lowPart time.toInt := by
  have hbuf : (timestamp time).buf =
      (List.range 6).map fun k => UInt8.ofNat (time.toUInt64.toNat / 256 ^ k) := rfl
  have hbits : (timestamp time).bits_unused = 6 := rfl
  have h0 := toNat_memory64 (show 0 < 6 by omega) time
  have h1 := toNat_memory64 (show 1 < 6 by omega) time
  have h2 := toNat_memory64 (show 2 < 6 by omega) time
  have h3 := toNat_memory64 (show 3 < 6 by omega) time
  have h4 := toNat_memory64 (show 4 < 6 by omega) time
  have h5 := toNat_memory64 (show 5 < 6 by omega) time
  rw [BIT_STRING.number, hbuf, hbits, lowPart, ← h0, ← h1, ← h2, ← h3, ← h4, ← h5]
  simp only [List.range, List.range.loop, List.map_cons, List.map_nil, List.foldl_cons,
    List.foldl_nil]
  omega

/-- The upper bytes are as good as digits. -/
theorem lowPart_bounds (time : ℤ) : 0 ≤ lowPart time ∧ lowPart time < 2 ^ 34 := by
  have hbyte := fun k => And.intro (clockByte_nonneg k time) (clockByte_lt k time)
  have h1 := hbyte 1
  have h2 := hbyte 2
  have h3 := hbyte 3
  have h4 := hbyte 4
  have h5 := hbyte 5
  rw [lowPart]
  omega

/-- Of two numbers the one with the larger first digit is larger. -/
theorem lowPart_lt_iff (t₁ t₂ : ℤ) : lowPart t₁ < lowPart t₂ ↔ upperBytes t₁ < upperBytes t₂ := by
  have hbyte := fun k t => And.intro (clockByte_nonneg k t) (clockByte_lt k t)
  have h2 := hbyte 2 t₁
  have h3 := hbyte 3 t₁
  have h4 := hbyte 4 t₁
  have h5 := hbyte 5 t₁
  have h2' := hbyte 2 t₂
  have h3' := hbyte 3 t₂
  have h4' := hbyte 4 t₂
  have h5' := hbyte 5 t₂
  simp only [upperBytes, List.cons_lt_cons_iff, List.lt_irrefl, and_false, or_false, lowPart]
  omega

/-! ## The order of two time stamps -/

/-- The second number comes behind the first one, up to wrap-around modulo `2 ^ 42`. -/
def Ordered (r₁ r₂ : ℕ) : Prop :=
  0 < ((r₂ : ℤ) - r₁) % 2 ^ 42 ∧ ((r₂ : ℤ) - r₁) % 2 ^ 42 < 2 ^ 41

instance (r₁ r₂ : ℕ) : Decidable (Ordered r₁ r₂) := inferInstanceAs (Decidable (_ ∧ _))

/-- The time stamps of two DENMs are in the order of the clock readings if the difference of
the readings is small modulo 256; where it is 0 or 128, the upper bytes decide. -/
theorem ordered_iff (mStationID₁ mStationID₂ : UInt32) (gps₁ gps₂ : Buffers.GPS)
    (t₁ t₂ : Int64) :
    Ordered (generateDenm mStationID₁ gps₁ t₁).referenceTime.number
        (generateDenm mStationID₂ gps₂ t₂).referenceTime.number ↔
      (1 ≤ (t₂.toInt - t₁.toInt) % 256 ∧ (t₂.toInt - t₁.toInt) % 256 ≤ 127) ∨
      ((t₂.toInt - t₁.toInt) % 256 = 0 ∧ upperBytes t₁.toInt < upperBytes t₂.toInt) ∨
      ((t₂.toInt - t₁.toInt) % 256 = 128 ∧ upperBytes t₂.toInt < upperBytes t₁.toInt) := by
  have hstamp : ∀ id gps t, (generateDenm id gps t).referenceTime = timestamp t :=
    fun _ _ _ => rfl
  have hzero : ∀ t : ℤ, clockByte 0 t = t % 256 := fun t => by
    rw [clockByte, pow_zero, Int.ediv_one]
  rw [hstamp, hstamp, Ordered, number_timestamp, number_timestamp, hzero, hzero, ← lowPart_lt_iff,
    ← lowPart_lt_iff]
  have h₁ := lowPart_bounds t₁.toInt
  have h₂ := lowPart_bounds t₂.toInt
  omega

/-- Two DENMs three milliseconds apart, with their time stamps in the wrong order. -/
theorem not_ordered :
    ¬∀ (mStationID₁ mStationID₂ : UInt32) (gps₁ gps₂ : Buffers.GPS) (t₁ t₂ : Int64),
      1072915200 * 10 ^ 9 ≤ t₁.toInt → 10 ^ 6 ≤ t₂.toInt - t₁.toInt →
      t₂.toInt - t₁.toInt < 2 ^ 41 * 10 ^ 6 →
      Ordered (generateDenm mStationID₁ gps₁ t₁).referenceTime.number
        (generateDenm mStationID₂ gps₂ t₂).referenceTime.number := by
  intro hall
  have hordered := hall 1 1 {} {} 1700000000000000000 1700000000003000000 (by decide) (by decide)
    (by decide)
  exact absurd hordered (by decide)

end Denm

end OpenC2X
