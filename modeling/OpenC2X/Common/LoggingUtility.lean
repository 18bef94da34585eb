import OpenC2X.Common.Utils

/-!
# Logs and statistics

Every module writes a log file and a statistics file.  Their names are made of the number of
the experiment, the kind of the file, the module, and the date and time of the start; what
is written to them is one line for each message.  Both files must be enabled.
-/

namespace OpenC2X

open Decimal

/-! ## File names -/

/-- A `struct tm` with a date, up to the year 9999. -/
structure LoggingUtility.tm extends Utils.tm where
  /-- The years since 1900. -/
  tm_year : Fin 8100
  tm_mon : Fin 12
  tm_mday : Fin 32
  deriving DecidableEq

namespace LoggingUtility

/-- The format `%F` -/
def date (timeinfo : tm) : List Char :=
  padded 4 (1900 + timeinfo.tm_year) ++ '-' ::
    (padded 2 (1 + timeinfo.tm_mon) ++ '-' :: padded 2 timeinfo.tm_mday)

/-- The format `%R` -/
def timeOfDay (timeinfo : tm) : List Char :=
  padded 2 timeinfo.tm_hour ++ ':' :: padded 2 timeinfo.tm_min

/-- The format `%F_%R` -/
def timeString (timeinfo : tm) : List Char := date timeinfo ++ '_' :: timeOfDay timeinfo

end LoggingUtility

/-! ## The logger -/

/-- The level of a message in the log. -/
inductive Level
  | info
  | debug
  | error
  deriving DecidableEq

/-- `%level` -/
def Level.name : Level → List Char
  | .info => "INFO".toList
  | .debug => "DEBUG".toList
  | .error => "ERROR".toList

/-- The logger of a module, with what it has written to its files. -/
structure LoggingUtility where
  mModuleName : List Char
  statisticsPath : List Char
  logsPath : List Char
  statistics : List Char
  log : List Char

namespace LoggingUtility

def new (moduleName logFileBasePath : List Char) (expNo : ℤ) (timeinfo : tm) : LoggingUtility where
  mModuleName := moduleName
  statisticsPath := logFileBasePath ++ ofInt expNo ++ "_stats_".toList ++ moduleName ++ '_' ::
    timeString timeinfo ++ ".csv".toList
  logsPath := logFileBasePath ++ ofInt expNo ++ "_log_".toList ++ moduleName ++ '_' ::
    timeString timeinfo ++ ".log".toList
  statistics := []
  log := []

/-- A line of the statistics: `mModuleName + " \t %msg"` -/
def statisticsLine (moduleName message : List Char) : List Char :=
  moduleName ++ " \t ".toList ++ message

/-- The format `%h:%m:%s,%g` of `%datetime`, with hours up to 11. -/
def datetime (timeinfo : Utils.tm) (msec : Fin 1000) : List Char :=
  padded 2 (timeinfo.tm_hour % 12) ++ ':' ::
    (padded 2 timeinfo.tm_min ++ ':' :: (padded 2 timeinfo.tm_sec ++ ',' :: padded 3 msec))

/-- A message in the log: `mModuleName + ", %datetime{…} \t %level \t %msg \t\t"` -/
def logLine (moduleName : List Char) (timeinfo : Utils.tm) (msec : Fin 1000) (level : Level)
    (message : List Char) : List Char :=
  moduleName ++ ", ".toList ++ datetime timeinfo msec ++ " \t ".toList ++ level.name
    ++ " \t ".toList ++ message ++ " \t\t".toList

def logStats (message : List Char) (s : LoggingUtility) : LoggingUtility :=
  { s with statistics := s.statistics ++ (statisticsLine s.mModuleName message ++ ['\n']) }

/-- `logInfo`, `logDebug` and `logError` -/
def logMessage (timeinfo : Utils.tm) (msec : Fin 1000) (level : Level) (message : List Char)
    (s : LoggingUtility) : LoggingUtility :=
  { s with log := s.log ++ (logLine s.mModuleName timeinfo msec level message ++ ['\n']) }

@[simp] theorem mModuleName_logStats (message : List Char) (s : LoggingUtility) :
    (s.logStats message).mModuleName = s.mModuleName := rfl

@[simp] theorem statistics_logStats (message : List Char) (s : LoggingUtility) :
    (s.logStats message).statistics =
      s.statistics ++ (statisticsLine s.mModuleName message ++ ['\n']) := rfl

end LoggingUtility

end OpenC2X
