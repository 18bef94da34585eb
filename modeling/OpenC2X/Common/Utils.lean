import OpenC2X.Common.Wrapping
import OpenC2X.Lib.Decimal

/-!
# Utils

`readableTime` prints the time of day of a time in nanoseconds since the epoch, as
HH:MM:SS.ms.  The milliseconds are meant to be the remainder of `milliTime` by 1000; the
code takes the remainder by `epochTime`, the number of seconds since the epoch.  That is
the same where the seconds are more than the milliseconds of the last second
(`prints_milliseconds_iff`), as today.  In the first second of 1970 the remainder is one by
zero, and the process ends.
-/

namespace OpenC2X.Utils

open Decimal

/-- What `%T` prints of a `struct tm`. -/
structure tm where
  tm_hour : Fin 24
  tm_min : Fin 60
  tm_sec : Fin 61
  deriving DecidableEq

/-- `strftime` with the format `%T` -/
def strftime (timeinfo : tm) : List Char :=
  padded 2 timeinfo.tm_hour ++ ':' :: (padded 2 timeinfo.tm_min ++ ':' :: padded 2 timeinfo.tm_sec)

/-- `localtime` depends on the time zone.  Without a result the process has ended. -/
def readableTime (localtime : Int64 → tm) (nanoTime : Int64) : Option (List Char) :=
  let milliTime := nanoTime / (1 * 1000 * 1000)
  let epochTime := milliTime / 1000
  let buffer := strftime (localtime epochTime)
  if epochTime = 0 then none
  else
    let ms : Int32 := (milliTime % epochTime).toInt32
    some (buffer ++ '.' :: ofInt ms.toInt)

/-! ## The parts of a time -/

/-- The milliseconds of the last second. -/
def milliseconds (nanoTime : Int64) : ℤ := nanoTime.toInt / 10 ^ 6 % 1000

variable {localtime : Int64 → tm} {nanoTime : Int64}

theorem toInt_div_of_nonneg {x : Int64} (hx : 0 ≤ x.toInt) (y : Int64) :
    (x / y).toInt = x.toInt / y.toInt := by
  have hmin : x ≠ Int64.minValue := by
    rintro rfl
    exact absurd hx (by decide)
  rw [Int64.toInt_div_of_ne_left _ _ hmin, Int.tdiv_eq_ediv_of_nonneg hx]

theorem toInt_milliTime (h : 0 ≤ nanoTime.toInt) :
    (nanoTime / (1 * 1000 * 1000)).toInt = nanoTime.toInt / 10 ^ 6 :=
  toInt_div_of_nonneg h _

theorem toInt_epochTime (h : 0 ≤ nanoTime.toInt) :
    (nanoTime / (1 * 1000 * 1000) / 1000).toInt = nanoTime.toInt / 10 ^ 9 := by
  have hmilli := toInt_milliTime h
  rw [toInt_div_of_nonneg (by omega), hmilli, show (1000 : Int64).toInt = 1000 from rfl]
  omega

/-- The whole seconds leave nothing over. -/
theorem milliTime_emod_epochTime (n : ℤ) :
    n / 10 ^ 6 % (n / 10 ^ 9) = n / 10 ^ 6 % 1000 % (n / 10 ^ 9) := by
  have hsplit : n / 10 ^ 6 = n / 10 ^ 6 % 1000 + n / 10 ^ 9 * 1000 := by omega
  nth_rewrite 1 [hsplit]
  exact Int.add_mul_emod_self_left _ _ _

/-! ## What is printed -/

theorem readableTime_eq_none (h : 0 ≤ nanoTime.toInt) (hlt : nanoTime.toInt < 10 ^ 9) :
    readableTime localtime nanoTime = none := by
  have hzero : nanoTime / (1 * 1000 * 1000) / 1000 = 0 := by
    apply Int64.toInt_inj.mp
    rw [toInt_epochTime h, Int64.toInt_zero]
    omega
  rw [readableTime, if_pos hzero]

theorem readableTime_eq_some (localtime : Int64 → tm) (h : 10 ^ 9 ≤ nanoTime.toInt) :
    readableTime localtime nanoTime =
      some (strftime (localtime (nanoTime / (1 * 1000 * 1000) / 1000))
        ++ '.' :: ofInt (milliseconds nanoTime % (nanoTime.toInt / 10 ^ 9))) := by
  have hnonneg : 0 ≤ nanoTime.toInt := by omega
  have hepoch := toInt_epochTime hnonneg
  have hmilli := toInt_milliTime hnonneg
  have hne : nanoTime / (1 * 1000 * 1000) / 1000 ≠ 0 := by
    intro hzero
    rw [hzero, Int64.toInt_zero] at hepoch
    omega
  have hmod : (nanoTime / (1 * 1000 * 1000) % (nanoTime / (1 * 1000 * 1000) / 1000)).toInt =
      milliseconds nanoTime % (nanoTime.toInt / 10 ^ 9) := by
    rw [Int64.toInt_mod, hepoch, hmilli, Int.tmod_eq_emod_of_nonneg (by omega),
      milliTime_emod_epochTime, milliseconds]
  have hlow : 0 ≤ milliseconds nanoTime % (nanoTime.toInt / 10 ^ 9) :=
    Int.emod_nonneg _ (by omega)
  have hhigh : milliseconds nanoTime % (nanoTime.toInt / 10 ^ 9) < 1000 := by
    have hms : milliseconds nanoTime < 1000 := by rw [milliseconds]; omega
    have hmsNonneg : 0 ≤ milliseconds nanoTime := by rw [milliseconds]; omega
    rcases lt_or_ge (milliseconds nanoTime) (nanoTime.toInt / 10 ^ 9) with hlt | hle
    · rwa [Int.emod_eq_of_lt hmsNonneg hlt]
    · exact (Int.emod_lt_of_pos _ (by omega)).trans_le (hle.trans hms.le)
  have hms : (nanoTime / (1 * 1000 * 1000) % (nanoTime / (1 * 1000 * 1000) / 1000)).toInt32.toInt =
      milliseconds nanoTime % (nanoTime.toInt / 10 ^ 9) := by
    rw [Int64.toInt_toInt32, hmod]
    exact int32_of_isInt32 ⟨by omega, by omega⟩
  simp only [readableTime]
  rw [if_neg hne, hms]

/-- A time after the first second is printed. -/
theorem readableTime_isSome_iff (localtime : Int64 → tm) (h : 0 ≤ nanoTime.toInt) :
    (readableTime localtime nanoTime).isSome ↔ 10 ^ 9 ≤ nanoTime.toInt := by
  rcases lt_or_ge nanoTime.toInt (10 ^ 9) with hlt | hle
  · rw [readableTime_eq_none h hlt, Option.isSome_none, Bool.false_eq_true, false_iff, not_le]
    exact hlt
  · rw [readableTime_eq_some localtime hle, Option.isSome_some]
    exact iff_of_true rfl hle

theorem notMem_ofInt (n : ℤ) : '.' ∉ ofInt n := by
  intro hdot
  rcases mem_ofInt hdot with hdigit | hminus
  · exact absurd hdigit (by decide)
  · exact absurd hminus (by decide)

theorem notMem_strftime (timeinfo : tm) : '.' ∉ strftime timeinfo := by
  have hpadded : ∀ n, '.' ∉ padded 2 n := fun n hdot =>
    absurd (isDigit_of_mem_padded hdot) (by decide)
  simp [strftime, hpadded]

/-- The number behind the dot is the right one if the seconds are more than the
milliseconds of the last second, and only then. -/
theorem prints_milliseconds_iff (localtime : Int64 → tm) (nanoTime : Int64)
    (h : 0 ≤ nanoTime.toInt) :
    (∃ clock : List Char, '.' ∉ clock ∧
      readableTime localtime nanoTime =
        some (clock ++ '.' :: ofInt (nanoTime.toInt / 10 ^ 6 % 1000))) ↔
    nanoTime.toInt / 10 ^ 6 % 1000 < nanoTime.toInt / 10 ^ 9 := by
  rw [← milliseconds]
  by_cases hsecond : nanoTime.toInt < 10 ^ 9
  · -- no whole second: the remainder by zero
    rw [readableTime_eq_none h hsecond, milliseconds]
    simp
    omega
  have hread := readableTime_eq_some localtime (not_lt.mp hsecond)
  have hnonneg : 0 ≤ milliseconds nanoTime := by rw [milliseconds]; omega
  constructor
  · rintro ⟨clock, -, htext⟩
    rw [hread, Option.some.injEq] at htext
    obtain ⟨-, htail⟩ :=
      (List.append_cons_inj_of_notMem (notMem_strftime _) (notMem_ofInt _)).mp htext
    rw [← ofInt_injective htail.2]
    exact Int.emod_lt_of_pos _ (by omega)
  · intro hlt
    exact ⟨_, notMem_strftime _, by rw [hread, Int.emod_eq_of_lt hnonneg hlt]⟩

/-! ### In UTC -/

/-- `localtime` in the time zone UTC -/
def utc (epochTime : Int64) : tm where
  tm_hour := Fin.ofNat 24 (epochTime.toInt / 3600 % 24).toNat
  tm_min := Fin.ofNat 60 (epochTime.toInt / 60 % 60).toNat
  tm_sec := Fin.ofNat 61 (epochTime.toInt % 60).toNat

theorem prints_milliseconds_iff_today :
    (∃ clock : List Char, '.' ∉ clock ∧
      readableTime utc 1700000000123456789 = some (clock ++ '.' :: ofInt 123)) ↔
    (123 : ℤ) < 1700000000 :=
  prints_milliseconds_iff utc 1700000000123456789 (by decide)

/-- A time that is not set cannot be printed, and half a second is lost one second after the
epoch. -/
theorem not_prints_milliseconds :
    readableTime utc 0 = none ∧
    readableTime utc 1500000000 = some "00:00:01.0".toList ∧
    ¬∀ (localtime : Int64 → tm) (nanoTime : Int64), 0 ≤ nanoTime.toInt →
      ∃ clock : List Char, '.' ∉ clock ∧
        readableTime localtime nanoTime =
          some (clock ++ '.' :: ofInt (nanoTime.toInt / 10 ^ 6 % 1000)) := by
  refine ⟨by decide, by decide, fun hall => ?_⟩
  obtain ⟨clock, -, htext⟩ := hall utc 0 (by decide)
  exact Option.some_ne_none _ (htext.symm.trans (show readableTime utc 0 = none by decide))

end OpenC2X.Utils
