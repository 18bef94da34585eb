import OpenC2X.Common.Buffers
import OpenC2X.Common.Utils

/-!
# Printed messages

The LDM writes GPS and OBD2 messages to its log.  The time of a message goes through
`readableTime`, which cannot print a time in the first second of 1970: a message with such a
time, and so one without a time, ends the process.
-/

namespace OpenC2X.Ldm

open Buffers Decimal Utils

/-- `shown` is what `<<` writes for a `double` with a precision of 15 digits. -/
def printGps (localtime : Int64 → tm) (shown : Double → List Char) (gps : GPS) :
    Option (List Char) := do
  let time ← readableTime localtime gps.time.value
  return "GPS - ".toList ++ time ++ ", lat: ".toList ++ shown gps.latitude.value
    ++ ", long: ".toList ++ shown gps.longitude.value ++ ", alt: ".toList
    ++ shown gps.altitude.value

def printObd2 (localtime : Int64 → tm) (shown : Double → List Char) (obd2 : OBD2) :
    Option (List Char) := do
  let time ← readableTime localtime obd2.time.value
  return "OBD2 - ".toList ++ time ++ ", speed: ".toList ++ shown obd2.speed.value
    ++ ", rpm: ".toList ++ ofInt obd2.rpm.value.toInt

variable (localtime : Int64 → tm) (shown : Double → List Char)

theorem printGps_isSome_iff {gps : GPS} (h : 0 ≤ gps.time.value.toInt) :
    (printGps localtime shown gps).isSome ↔ 10 ^ 9 ≤ gps.time.value.toInt := by
  rw [← readableTime_isSome_iff localtime h, printGps]
  cases readableTime localtime gps.time.value <;> rfl

theorem printObd2_isSome_iff {obd2 : OBD2} (h : 0 ≤ obd2.time.value.toInt) :
    (printObd2 localtime shown obd2).isSome ↔ 10 ^ 9 ≤ obd2.time.value.toInt := by
  rw [← readableTime_isSome_iff localtime h, printObd2]
  cases readableTime localtime obd2.time.value <;> rfl

end OpenC2X.Ldm
