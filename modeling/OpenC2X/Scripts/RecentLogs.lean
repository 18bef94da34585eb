import OpenC2X.Common.LoggingUtility
import OpenC2X.Lib.StableSort
import OpenC2X.Scripts.LogReader
import Mathlib.Data.Char
import Mathlib.Data.List.Lex

/-!
# Recent logs

`log_interleaver.py` merges the most recent ones of the log files of a directory.  It splits
their names at the underscores, sorts them by two of the parts and takes the first
`interleave_last_x_files`.

In the names that LoggingUtility gives, the two parts are the module and the date
(`logfile_text`), not the date and the time.  So the logs of a module whose name comes late
in the alphabet are taken before newer logs of another one.  `mostRecent_iff` says when the
logs that are taken are the most recent ones.
-/

namespace OpenC2X.Scripts

open Decimal LoggingUtility

/-! ## The selection -/

def interleave_last_x_files : ℕ := 5

/-- `f[-4:] == ".log"` -/
def isLog (f : List Char) : Bool := f.drop (f.length - 4) = ".log".toList

/-- `f[0:-4].split('_')` -/
def logfile (f : List Char) : List (List Char) := (f.take (f.length - 4)).splitOn '_'

/-- `'_'.join(logfile)+".log"` -/
def fname (logfile : List (List Char)) : List Char :=
  ['_'].intercalate logfile ++ ".log".toList

def getTimePlusDate (logfile : List (List Char)) : Except PyError (List Char) :=
  match logfile[2]?, logfile[3]? with
  | some second, some third => .ok (second ++ third)
  | _, _ => .error .IndexError

def withKey (logfile : List (List Char)) : Except PyError (List Char × List (List Char)) := do
  return (← getTimePlusDate logfile, logfile)

/-- The names of the files in the directory come in some order. -/
def recentLogs (files : List (List Char)) : Except PyError (List (List (List Char))) := do
  let logfiles ← ((files.filter isLog).map logfile).mapM withKey
  let sorted := logfiles.insertionSort fun a b => b.1 ≤ a.1
  return (sorted.map Prod.snd).take interleave_last_x_files

theorem isLog_append (text : List Char) : isLog (text ++ ".log".toList) = true := by
  rw [isLog, List.length_append, show ".log".toList.length = 4 from rfl, Nat.add_sub_cancel,
    List.drop_left]
  rfl

/-- A name is put together from its parts again. -/
theorem fname_logfile {f : List Char} (h : isLog f = true) : fname (logfile f) = f := by
  have hend : f.drop (f.length - 4) = ".log".toList := of_decide_eq_true h
  rw [fname, logfile, List.intercalate_splitOn, ← hend, List.take_append_drop]

/-- Other files do not matter. -/
theorem recentLogs_filter (files : List (List Char)) :
    recentLogs (files.filter isLog) = recentLogs files := by
  rw [recentLogs, List.filter_filter, recentLogs]
  simp only [Bool.and_self]

section

variable {ι : Type} {name key : ι → List Char} {files : List ι}

theorem mapM_withKey
    (hkey : ∀ a ∈ files, getTimePlusDate (logfile (name a)) = .ok (key a)) :
    ((files.map name).map logfile).mapM withKey =
      .ok (files.map fun a => (key a, logfile (name a))) := by
  induction files with
  | nil => rfl
  | cons a files ih =>
      have hfirst : withKey (logfile (name a)) = .ok (key a, logfile (name a)) := by
        rw [withKey, hkey a List.mem_cons_self]
        rfl
      rw [List.map_cons, List.map_cons, List.mapM_cons, hfirst,
        ih fun b hb => hkey b (List.mem_cons_of_mem _ hb)]
      rfl

/-- If every name has its parts, the files are sorted and the first ones taken. -/
theorem recentLogs_eq (hlog : ∀ a ∈ files, isLog (name a) = true)
    (hkey : ∀ a ∈ files, getTimePlusDate (logfile (name a)) = .ok (key a)) :
    recentLogs (files.map name) =
      .ok (((files.insertionSort fun a b => key b ≤ key a).take interleave_last_x_files).map
        fun a => logfile (name a)) := by
  have hfilter : (files.map name).filter isLog = files.map name := by
    rw [List.filter_eq_self]
    intro f hf
    obtain ⟨a, ha, rfl⟩ := List.mem_map.mp hf
    exact hlog a ha
  have hsort : (files.map fun a => (key a, logfile (name a))).insertionSort
      (fun a b => b.1 ≤ a.1) =
      (files.insertionSort fun a b => key b ≤ key a).map fun a => (key a, logfile (name a)) := by
    symm
    apply List.map_insertionSort
    exact fun a _ b _ => Iff.rfl
  rw [recentLogs, hfilter, mapM_withKey hkey]
  show Except.ok _ = Except.ok _
  rw [hsort, ← List.map_take, ← List.map_take, List.map_map]
  rfl

end

/-! ## The names of LoggingUtility -/

/-- A log file of a module. -/
structure LogName where
  expNo : ℤ
  moduleName : List Char
  timeinfo : tm
  noUnderscore : '_' ∉ moduleName
  deriving DecidableEq

namespace LogName

def text (a : LogName) : List Char := (new a.moduleName [] a.expNo a.timeinfo).logsPath

/-- The date and the time in the name. -/
def stamp (a : LogName) : List ℕ :=
  [a.timeinfo.tm_year, a.timeinfo.tm_mon, a.timeinfo.tm_mday, a.timeinfo.tm_hour,
    a.timeinfo.tm_min]

/-- By this the names are sorted. -/
def key (a : LogName) : List Char := a.moduleName ++ date a.timeinfo

theorem isLog_text (a : LogName) : isLog a.text = true := isLog_append _

theorem underscore_notMem_padded (width n : ℕ) : '_' ∉ padded width n := fun h =>
  absurd (isDigit_of_mem_padded h) (by decide)

theorem underscore_notMem_ofInt (n : ℤ) : '_' ∉ ofInt n := fun h => by
  rcases mem_ofInt h with hdigit | hminus
  · exact absurd hdigit (by decide)
  · exact absurd hminus (by decide)

theorem logfile_text (a : LogName) :
    logfile a.text =
      [ofInt a.expNo, "log".toList, a.moduleName, date a.timeinfo, timeOfDay a.timeinfo] := by
  have hdate : '_' ∉ date a.timeinfo := by
    simp [date, underscore_notMem_padded]
  have htime : '_' ∉ timeOfDay a.timeinfo := by
    simp [timeOfDay, underscore_notMem_padded]
  have htext : a.text.take (a.text.length - 4) = ofInt a.expNo ++ '_' :: ("log".toList ++ '_' ::
      (a.moduleName ++ '_' :: (date a.timeinfo ++ '_' :: timeOfDay a.timeinfo))) := by
    have hlogsPath : a.text = ofInt a.expNo ++ '_' :: ("log".toList ++ '_' ::
        (a.moduleName ++ '_' :: (date a.timeinfo ++ '_' :: timeOfDay a.timeinfo))) ++
          ".log".toList := by
      simp [text, new, timeString]
    rw [hlogsPath, List.length_append, show ".log".toList.length = 4 from rfl,
      Nat.add_sub_cancel, List.take_left]
  rw [logfile, htext,
    List.splitOn_append_cons_self_of_not_mem (underscore_notMem_ofInt _),
    List.splitOn_append_cons_self_of_not_mem (by decide),
    List.splitOn_append_cons_self_of_not_mem a.noUnderscore,
    List.splitOn_append_cons_self_of_not_mem hdate,
    List.splitOn_eq_singleton htime]

theorem getTimePlusDate_text (a : LogName) : getTimePlusDate (logfile a.text) = .ok a.key := by
  rw [logfile_text]
  rfl

end LogName

/-! ## The most recent ones -/

/-- No file that is left out is later than one that is taken. -/
def MostRecent (files : List LogName) : Prop :=
  ∃ recent, recentLogs (files.map LogName.text) = .ok recent ∧
    ∀ a ∈ files, ∀ b ∈ files, logfile a.text ∉ recent → logfile b.text ∈ recent →
      ¬b.stamp < a.stamp

/-- The files that come before `a` by their modules and dates.  Files of one module and one
date stay in the order of the directory. -/
def ahead (files : List LogName) (a : LogName) : ℕ := StableSort.ahead LogName.key files a

/-- The files in front of which less than `interleave_last_x_files` come are taken. -/
theorem mem_recentLogs {files : List LogName} (hnames : (files.map LogName.text).Nodup) :
    ∃ recent, recentLogs (files.map LogName.text) = .ok recent ∧
      ∀ a ∈ files, logfile a.text ∈ recent ↔ ahead files a < interleave_last_x_files := by
  refine ⟨_, recentLogs_eq (fun a _ => a.isLog_text) (fun a _ => a.getTimePlusDate_text), ?_⟩
  intro a ha
  have hsorted := (List.mem_insertionSort fun a b : LogName => b.key ≤ a.key).mpr ha
  have hmem : logfile a.text ∈ ((files.insertionSort fun a b => b.key ≤ a.key).take
      interleave_last_x_files).map (fun a => logfile a.text) ↔
      a ∈ (files.insertionSort fun a b => b.key ≤ a.key).take interleave_last_x_files := by
    constructor
    · intro h
      obtain ⟨b, hb, hparts⟩ := List.mem_map.mp h
      have hbfiles : b ∈ files := (List.mem_insertionSort _).mp (List.mem_of_mem_take hb)
      -- the parts of a name give the name
      have htext : b.text = a.text := by
        rw [← fname_logfile b.isLog_text, hparts, fname_logfile a.isLog_text]
      rwa [← List.inj_on_of_nodup_map hnames hbfiles ha htext]
    · exact fun h => List.mem_map.mpr ⟨a, h, rfl⟩
  rw [hmem, List.mem_take_iff_idxOf_lt hsorted, StableSort.idxOf_insertionSort ha]
  rfl

/-- The logs that are taken are the most recent ones if and only if the module and the date
put no later file behind an earlier one. -/
theorem mostRecent_iff (files : List LogName) (hnames : (files.map LogName.text).Nodup) :
    MostRecent files ↔
      ∀ a ∈ files, ∀ b ∈ files, interleave_last_x_files ≤ ahead files a →
        ahead files b < interleave_last_x_files → ¬b.stamp < a.stamp := by
  obtain ⟨recent, hrecent, hmem⟩ := mem_recentLogs hnames
  constructor
  · rintro ⟨recent', hrecent', h⟩ a ha b hb hleft htaken
    obtain rfl := Except.ok.inj (hrecent.symm.trans hrecent')
    exact h a ha b hb (fun hin => absurd ((hmem a ha).mp hin) (by omega)) ((hmem b hb).mpr htaken)
  · intro h
    refine ⟨recent, hrecent, ?_⟩
    intro a ha b hb hleft htaken
    exact h a ha b hb (not_lt.mp fun hlt => hleft ((hmem a ha).mpr hlt)) ((hmem b hb).mp htaken)

/-- The log of a module that was started at ten o'clock on a day of June 2024. -/
def juneLog (moduleName : List Char) (mday : Fin 32) (h : '_' ∉ moduleName) : LogName where
  expNo := 1
  moduleName := moduleName
  timeinfo := ⟨Utils.utc 36000, 124, 5, mday⟩
  noUnderscore := h

/-- Dcc was started on six days. -/
theorem mostRecent_iff_dcc : MostRecent (([1, 2, 3, 4, 5, 6] : List (Fin 32)).map fun mday =>
    juneLog "Dcc".toList mday (by decide)) :=
  (mostRecent_iff _ (by decide +kernel)).mpr (by decide +kernel)

/-- All modules are started on one day, and CaService once more on the next. -/
def restarted : List LogName :=
  [juneLog "CaService".toList 2 (by decide), juneLog "DenService".toList 1 (by decide),
    juneLog "Dcc".toList 1 (by decide), juneLog "Ldm".toList 1 (by decide),
    juneLog "GPS".toList 1 (by decide), juneLog "Obd2Service".toList 1 (by decide)]

/-- The newest log is left out. -/
theorem not_mostRecent : ¬MostRecent restarted := by
  rintro ⟨recent, hrecent, h⟩
  have hselected : recentLogs (restarted.map LogName.text) =
      .ok (["1_log_Obd2Service_2024-06-01_10:00.log".toList,
        "1_log_Ldm_2024-06-01_10:00.log".toList, "1_log_GPS_2024-06-01_10:00.log".toList,
        "1_log_DenService_2024-06-01_10:00.log".toList,
        "1_log_Dcc_2024-06-01_10:00.log".toList].map logfile) := by
    decide +kernel
  obtain rfl := Except.ok.inj (hselected.symm.trans hrecent)
  refine h (juneLog "CaService".toList 2 (by decide)) (by decide +kernel)
    (juneLog "Dcc".toList 1 (by decide)) (by decide +kernel) (by decide +kernel)
    (by decide +kernel) (by decide +kernel)

end OpenC2X.Scripts
