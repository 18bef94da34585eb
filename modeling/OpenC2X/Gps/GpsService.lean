import OpenC2X.Common.Buffers
import OpenC2X.Common.LoggingUtility
import OpenC2X.Lib.Lines

/-!
# Replay of a GPS trace

GpsService writes the position of every message that it sends to its statistics file, and it
can take such a file as a trail and send the positions again.  A line of the file is the
name of the module, a tab and the three numbers with tabs between them; the reader splits it
at every tab and takes the second to the fourth part.

No number and no module name contains a tab or a newline, so the parts are where the reader
expects them, and numbers with at most six decimals are read as they were
(`convertTrailDataToBuffer_trace`).  A replay sends the positions of the trace and writes the
same trace again (`simulateFromDemoTrail_trace`).
-/

namespace OpenC2X.Gps

open Buffers Decimal LoggingUtility

def GPS_MODULE_NAME : List Char := "GPS".toList

/-- `std::to_string` of a `double` -/
def to_string : Double → List Char
  | .finite x => fixed 6 x
  | .infinity negative => withSign negative "inf".toList
  | .nan negative => withSign negative "nan".toList

/-- `std::stod` of a decimal number.  It throws an exception where there is no number. -/
def stod (text : List Char) : Option Double := (number text).map fun n => .finite n.1

/-- The sender and the logger of the service. -/
structure GpsService where
  mSender : List GPS
  mLogger : LoggingUtility

def csvPosition (gps : GPS) : List Char :=
  to_string gps.latitude.value ++ '\t' ::
    (to_string gps.longitude.value ++ '\t' :: to_string gps.altitude.value)

namespace GpsService

def new (logFileBasePath : List Char) (expNo : ℤ) (timeinfo : tm) : GpsService where
  mSender := []
  mLogger := LoggingUtility.new GPS_MODULE_NAME logFileBasePath expNo timeinfo

def sendToServices (s : GpsService) (gps : GPS) : GpsService where
  mSender := s.mSender ++ [gps]
  mLogger := s.mLogger.logStats (csvPosition gps)

/-- Sends one message after the other. -/
def sendAll (s : GpsService) (fixes : List GPS) : GpsService := fixes.foldl sendToServices s

end GpsService

/-- `none` where a number or a part of the line is missing. -/
def convertTrailDataToBuffer (currentTime : Int64) (line : List Char) : Option GPS := do
  let values := line.splitOn '\t'
  return {
    latitude := some (← stod (← values[1]?))
    longitude := some (← stod (← values[2]?))
    altitude := some (← stod (← values[3]?))
    epx := some (.finite 0)
    epy := some (.finite 0)
    time := some currentTime
    online := some 0
    satellites := some 1 }

/-- One pass of `simulateFromDemoTrail` over the lines of the file.  `clock n` is the time
after `n` messages. -/
def simulateFromDemoTrail (clock : ℕ → Int64) (file : List Char) (s : GpsService) :
    Option GpsService :=
  (lines file).foldlM
    (fun s line =>
      (convertTrailDataToBuffer (clock s.mSender.length) line).map s.sendToServices) s

/-! ## A line of the statistics -/

/-- A number with at most six decimals. -/
def IsMicro (x : Double) : Prop := ∃ n : ℤ, x = .finite (n / 10 ^ 6)

/-- The position of a message has at most six decimals. -/
structure HasMicroPosition (gps : GPS) : Prop where
  latitude : IsMicro gps.latitude.value
  longitude : IsMicro gps.longitude.value
  altitude : IsMicro gps.altitude.value

theorem stod_to_string (blanks : List Char) (hblanks : ∀ c ∈ blanks, isBlank c = true)
    {x : Double} (h : IsMicro x) : stod (blanks ++ to_string x) = some x := by
  obtain ⟨n, rfl⟩ := h
  rw [stod, to_string, number_fixed (by omega) hblanks, Option.map_some]

/-- The characters between the parts and the lines do not occur in a number. -/
theorem notMem_to_string {c : Char} (hdigit : c.isDigit = false)
    (hother : c ∉ "-.infa".toList) (x : Double) : c ∉ to_string x := by
  intro hc
  cases x with
  | finite x =>
      rcases mem_fixed hc with h | rfl | rfl
      · exact absurd h (by simp [hdigit])
      · exact hother (by decide)
      · exact hother (by decide)
  | infinity negative | nan negative =>
      cases negative <;> simp_all [to_string, withSign]

theorem tab_notMem_to_string (x : Double) : '\t' ∉ to_string x :=
  notMem_to_string rfl (by decide) x

theorem newline_notMem_to_string (x : Double) : '\n' ∉ to_string x :=
  notMem_to_string rfl (by decide) x

/-- The line that is written for a message. -/
def trailLine (gps : GPS) : List Char := statisticsLine GPS_MODULE_NAME (csvPosition gps)

theorem splitOn_trailLine (gps : GPS) :
    (trailLine gps).splitOn '\t' =
      ["GPS ".toList, ' ' :: to_string gps.latitude.value, to_string gps.longitude.value,
        to_string gps.altitude.value] := by
  have hline : trailLine gps = "GPS ".toList ++ '\t' ::
      (' ' :: to_string gps.latitude.value ++ '\t' ::
        (to_string gps.longitude.value ++ '\t' :: to_string gps.altitude.value)) := rfl
  have hblank : '\t' ∉ ' ' :: to_string gps.latitude.value := by
    rw [List.mem_cons, not_or]
    exact ⟨by decide, tab_notMem_to_string _⟩
  rw [hline, List.splitOn_append_cons_self_of_not_mem (by decide),
    List.splitOn_append_cons_self_of_not_mem hblank,
    List.splitOn_append_cons_self_of_not_mem (tab_notMem_to_string _),
    List.splitOn_eq_singleton (tab_notMem_to_string _)]

theorem newline_notMem_trailLine (gps : GPS) : '\n' ∉ trailLine gps := by
  have hline : trailLine gps = "GPS \t ".toList ++ csvPosition gps := rfl
  simp [hline, csvPosition, newline_notMem_to_string]

/-- The message that is sent for a line. -/
def replayed (currentTime : Int64) (gps : GPS) : GPS where
  latitude := some gps.latitude.value
  longitude := some gps.longitude.value
  altitude := some gps.altitude.value
  epx := some (.finite 0)
  epy := some (.finite 0)
  time := some currentTime
  online := some 0
  satellites := some 1

theorem convertTrailDataToBuffer_trailLine {gps : GPS} (h : HasMicroPosition gps)
    (currentTime : Int64) :
    convertTrailDataToBuffer currentTime (trailLine gps) = some (replayed currentTime gps) := by
  have hlatitude : stod (' ' :: to_string gps.latitude.value) = some gps.latitude.value :=
    stod_to_string [' '] (by simp [isBlank]) h.latitude
  have hlongitude : stod (to_string gps.longitude.value) = some gps.longitude.value :=
    stod_to_string [] (by simp) h.longitude
  have haltitude : stod (to_string gps.altitude.value) = some gps.altitude.value :=
    stod_to_string [] (by simp) h.altitude
  simp [convertTrailDataToBuffer, splitOn_trailLine, hlatitude, hlongitude, haltitude, replayed]

/-! ## The trace -/

/-- Each message adds its line. -/
theorem statistics_sendAll {s : GpsService} (h : s.mLogger.mModuleName = GPS_MODULE_NAME)
    (fixes : List GPS) :
    (s.sendAll fixes).mLogger.statistics =
      s.mLogger.statistics ++ fixes.flatMap fun gps => trailLine gps ++ ['\n'] := by
  induction fixes generalizing s with
  | nil => exact (List.append_nil _).symm
  | cons gps fixes ih =>
      have hline : (s.sendToServices gps).mLogger.statistics =
          s.mLogger.statistics ++ (trailLine gps ++ ['\n']) := by
        rw [GpsService.sendToServices, statistics_logStats, h, trailLine]
      rw [List.flatMap_cons, ← List.append_assoc, ← hline]
      exact ih h

theorem lines_trace (path : List Char) (expNo : ℤ) (timeinfo : tm) (fixes : List GPS) :
    lines ((GpsService.new path expNo timeinfo).sendAll fixes).mLogger.statistics =
      fixes.map trailLine := by
  rw [statistics_sendAll rfl]
  exact lines_flatMap fun gps _ => newline_notMem_trailLine gps

/-- The lines of a trace give the positions of its messages, in their order. -/
theorem convertTrailDataToBuffer_trace (path : List Char) (expNo : ℤ) (timeinfo : tm)
    (fixes : List GPS) (h : ∀ gps ∈ fixes, HasMicroPosition gps) :
    List.Forall₂
      (fun line gps => ∀ currentTime, ∃ buffer,
        convertTrailDataToBuffer currentTime line = some buffer ∧
        buffer.latitude.value = gps.latitude.value ∧
        buffer.longitude.value = gps.longitude.value ∧
        buffer.altitude.value = gps.altitude.value)
      (lines ((GpsService.new path expNo timeinfo).sendAll fixes).mLogger.statistics) fixes := by
  rw [lines_trace, List.forall₂_map_left_iff, List.forall₂_same]
  intro gps hgps currentTime
  exact ⟨replayed currentTime gps, convertTrailDataToBuffer_trailLine (h gps hgps) currentTime,
    rfl, rfl, rfl⟩

/-- A position south of the equator and just west of Greenwich. -/
def southWest : GPS where
  latitude := some (.finite (-34.603722))
  longitude := some (.finite (-0.000001))
  altitude := some (.finite 25.5)

def northEast : GPS where
  latitude := some (.finite 51.732724)
  longitude := some (.finite 8.735936)
  altitude := some (.finite 0)

/-- The vehicle is at the same place twice. -/
def trail : List GPS := [southWest, northEast, southWest]

def trailLines : List (List Char) :=
  ["GPS \t -34.603722\t-0.000001\t25.500000".toList,
   "GPS \t 51.732724\t8.735936\t0.000000".toList,
   "GPS \t -34.603722\t-0.000001\t25.500000".toList]

theorem convertTrailDataToBuffer_trace_southWest :
    List.Forall₂
      (fun line (gps : GPS) => ∀ currentTime, ∃ buffer,
        convertTrailDataToBuffer currentTime line = some buffer ∧
        buffer.latitude.value = gps.latitude.value ∧
        buffer.longitude.value = gps.longitude.value ∧
        buffer.altitude.value = gps.altitude.value)
      trailLines trail := by
  have hsouthWest : HasMicroPosition southWest :=
    ⟨⟨-34603722, by norm_num [southWest, ProtoField.value]⟩,
      ⟨-1, by norm_num [southWest, ProtoField.value]⟩,
      ⟨25500000, by norm_num [southWest, ProtoField.value]⟩⟩
  have hnorthEast : HasMicroPosition northEast :=
    ⟨⟨51732724, by norm_num [northEast, ProtoField.value]⟩,
      ⟨8735936, by norm_num [northEast, ProtoField.value]⟩,
      ⟨0, by norm_num [northEast, ProtoField.value]⟩⟩
  have hmicro : ∀ gps ∈ trail, HasMicroPosition gps := by
    simp only [trail, List.mem_cons, List.not_mem_nil, or_false]
    rintro gps (rfl | rfl | rfl)
    · exact hsouthWest
    · exact hnorthEast
    · exact hsouthWest
  have htrace := convertTrailDataToBuffer_trace [] 1 ⟨⟨0, 0, 0⟩, 126, 0, 1⟩ trail hmicro
  have hlines : lines ((GpsService.new [] 1 ⟨⟨0, 0, 0⟩, 126, 0, 1⟩).sendAll
      trail).mLogger.statistics = trailLines := by decide +kernel
  rwa [hlines] at htrace

/-- The lines of a trace are replayed whenever the messages are sent. -/
theorem foldlM_trailLine {fixes : List GPS} (h : ∀ gps ∈ fixes, HasMicroPosition gps)
    (clock : ℕ → Int64) {s : GpsService} (hname : s.mLogger.mModuleName = GPS_MODULE_NAME) :
    ∃ s', (fixes.map trailLine).foldlM
        (fun s line =>
          (convertTrailDataToBuffer (clock s.mSender.length) line).map s.sendToServices) s =
        some s' ∧
      s'.mLogger.statistics = (s.sendAll fixes).mLogger.statistics := by
  induction fixes generalizing s with
  | nil => exact ⟨s, rfl, rfl⟩
  | cons gps fixes ih =>
      have hread := convertTrailDataToBuffer_trailLine (h gps List.mem_cons_self)
        (clock s.mSender.length)
      -- a replayed message has the line of the message that was traced
      have hline : (s.sendToServices (replayed (clock s.mSender.length) gps)).mLogger =
          (s.sendToServices gps).mLogger := rfl
      obtain ⟨s', hrun, hstatistics⟩ := ih (fun gps hgps => h gps (List.mem_cons_of_mem _ hgps))
        (s := s.sendToServices (replayed (clock s.mSender.length) gps)) hname
      refine ⟨s', ?_, ?_⟩
      · rw [List.map_cons, List.foldlM_cons, hread]
        exact hrun
      · rw [hstatistics, statistics_sendAll (s := s.sendToServices _) hname, hline,
          ← statistics_sendAll (s := s.sendToServices gps) hname]
        rfl

/-- A replay of a trace writes the same trace again. -/
theorem simulateFromDemoTrail_trace {path : List Char} {expNo : ℤ} {timeinfo : tm}
    {fixes : List GPS} (h : ∀ gps ∈ fixes, HasMicroPosition gps) (clock : ℕ → Int64)
    {s : GpsService} (hname : s.mLogger.mModuleName = GPS_MODULE_NAME) :
    ∃ s', simulateFromDemoTrail clock
        ((GpsService.new path expNo timeinfo).sendAll fixes).mLogger.statistics s = some s' ∧
      s'.mLogger.statistics = s.mLogger.statistics ++
        ((GpsService.new path expNo timeinfo).sendAll fixes).mLogger.statistics := by
  rw [simulateFromDemoTrail, lines_trace]
  obtain ⟨s', hrun, hstatistics⟩ := foldlM_trailLine h clock hname
  refine ⟨s', hrun, ?_⟩
  rw [hstatistics, statistics_sendAll hname, statistics_sendAll rfl]
  rfl

end OpenC2X.Gps
