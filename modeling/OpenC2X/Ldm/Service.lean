import OpenC2X.Lib.Double
import OpenC2X.Ldm.CamStore
import OpenC2X.Ldm.DenmStore

/-!
# The LDM service

Beside CAMs and DENMs the LDM keeps what the other services report: the state of the DCC
for every access category, and the reason of the last CAM.  Their tables have columns of
different types, and the statements that fill them carry texts between quotes and
floating point numbers with fifteen digits.  What is printed of an infinity or of `NaN` is not
a number for SQLite, which rejects the statement.

SQLite is a parameter as far as the LDM relies on more than rows and queries: the values
it makes of literals, the conversions when a column is read, what it does with a statement
whose text ends a literal early, which statements it accepts, and whether their rows come to an
end.
-/

namespace OpenC2X.Ldm

open Buffers

/-! ## Values -/

inductive SqlValue
  | null
  | integer (n : Int64)
  /-- SQLite has infinities, and NULL for `NaN`. -/
  | real (x : Double)
  | text (s : String)
  deriving DecidableEq, Inhabited

namespace SqlValue

/-- The value of a number. -/
def number : SqlValue → WithBot (WithTop ℚ)
  | integer n => ((n.toInt : ℚ) : WithTop ℚ)
  | real (.finite x) => (x : WithTop ℚ)
  | real (.infinity false) => (⊤ : WithTop ℚ)
  | real (.infinity true) => ⊥
  | _ => (0 : WithTop ℚ)

/-- `a = b`, which is not true of NULL. -/
def eq : SqlValue → SqlValue → Bool
  | null, _ | _, null => false
  | text s, text t => s = t
  | text _, _ | _, text _ => false
  | a, b => a.number = b.number

/-- `a < b`: numbers come before texts. -/
def lt : SqlValue → SqlValue → Bool
  | null, _ | _, null => false
  | text s, text t => s < t
  | text _, _ => false
  | _, text _ => true
  | a, b => a.number < b.number

end SqlValue

/-- A literal in the text of a statement, as the LDM writes it. -/
inductive SqlLiteral
  | integer (n : Int64)
  /-- A floating point number, by the value of its text. -/
  | decimal (x : ℚ)
  /-- What is printed of a number that is not finite. -/
  | nonFinite (x : Double)
  /-- A text between quotes. -/
  | quoted (s : String)

/-- The literal ends where it should: a text has no quote, and no character that ends the
statement. -/
def SqlLiteral.plain : SqlLiteral → Bool
  | quoted s => s.toList.all fun c => c ≠ Char.ofNat 39 && c ≠ Char.ofNat 0
  | _ => true

/-- SQLite takes the text for a value.  It reads `inf` and `nan` as the names of columns, which
it does not know. -/
def SqlLiteral.isValue : SqlLiteral → Bool
  | nonFinite _ => false
  | _ => true

/-- `stream << setprecision(15) << x` -/
def setprecision15 : Double → SqlLiteral
  | .finite x => .decimal (roundSignificant 10 15 x)
  | x => .nonFinite x

/-! ## Tables -/

/-- The columns of the table DccInfo after its key. -/
inductive DccInfoColumn
  | time
  | channelLoad
  | state
  | AC
  | availableTokens
  | queuedPackets
  | dccMechanism
  | txPower
  | tokenInterval
  | datarate
  | carrierSense
  | flushReqPackets
  | flushNotReqPackets
  deriving DecidableEq

/-- Their order in `CREATE TABLE DccInfo`. -/
def DccInfoColumn.created : List DccInfoColumn :=
  [.time, .channelLoad, .state, .AC, .availableTokens, .queuedPackets, .dccMechanism, .txPower,
   .tokenInterval, .datarate, .carrierSense, .flushReqPackets, .flushNotReqPackets]

/-- The columns that `receiveDccInfo` names. -/
def DccInfoColumn.inserted : List DccInfoColumn :=
  [.time, .channelLoad, .state, .AC, .availableTokens, .queuedPackets, .dccMechanism, .txPower,
   .tokenInterval, .datarate, .carrierSense, .flushReqPackets, .flushNotReqPackets]

/-- The values that `receiveDccInfo` gives for them. -/
def dccInfoValues (dccInfo : DccInfo) : List SqlLiteral :=
  [.integer dccInfo.time.value, setprecision15 dccInfo.channelLoad.value,
   .quoted dccInfo.state.value, .quoted dccInfo.accesscategory,
   .integer dccInfo.availableTokens.value.toInt64, .integer dccInfo.queuedPackets.value.toInt64,
   .integer dccInfo.dccMechanism.value.toInt64, setprecision15 dccInfo.txPower.value,
   setprecision15 dccInfo.tokenInterval.value, setprecision15 dccInfo.datarate.value,
   setprecision15 dccInfo.carrierSense.value, .integer dccInfo.flushReqPackets.value.toInt64,
   .integer dccInfo.flushNotReqPackets.value.toInt64]

/-- The columns of the table CamInfo after its key. -/
inductive CamInfoColumn
  | time
  | triggerReason
  | delta
  deriving DecidableEq

/-- The columns that `receiveCamInfo` names. -/
def CamInfoColumn.inserted : List CamInfoColumn := [.time, .triggerReason, .delta]

/-- The values that `receiveCamInfo` gives for them. -/
def camInfoValues (camInfo : CamInfo) : List SqlLiteral :=
  [.integer camInfo.time.value, .quoted camInfo.triggerReason.value,
   setprecision15 camInfo.delta.value]

/-- The tables that the LDM writes. -/
structure Tables where
  cam : Table (CamColumn → Int64)
  denm : Table (DenmColumn → Int64)
  dccInfo : Table (DccInfoColumn → SqlValue)
  camInfo : Table (CamInfoColumn → SqlValue)

/-- A statement `INSERT INTO … VALUES (values)`. -/
inductive InsertStatement
  | dccInfo (values : List SqlLiteral)
  | camInfo (values : List SqlLiteral)

/-! ## SQLite -/

/-- What becomes of a SELECT statement: it is rejected, or its steps give some rows, by column
number, and then the end, or they come to no end. -/
inductive Selection
  | rejected
  | rows (rows : List (ℕ → SqlValue))
  | endless

structure Sqlite where
  /-- What is stored for a numeric literal in a column of type DOUBLE. -/
  real : ℚ → Double
  column_int64 : SqlValue → Int64
  column_int : SqlValue → Int32
  column_double : SqlValue → Double
  /-- A null pointer is `none`. -/
  column_text : SqlValue → Option String
  /-- The effect of a statement with a literal that ends early. -/
  exec : InsertStatement → Tables → Tables
  prepare : String → Tables → Selection

namespace Sqlite

variable (sqlite : Sqlite)

/-- Stored values are returned exactly, and a literal with fifteen digits is stored as the
nearest floating point number. -/
structure ReturnsStored : Prop where
  real : ∀ x, sqlite.real (roundSignificant 10 15 x) = .nearest (roundSignificant 10 15 x)
  column_int64 : ∀ n, sqlite.column_int64 (.integer n) = n
  column_int : ∀ n : Int32, sqlite.column_int (.integer n.toInt64) = n
  column_double : ∀ x, sqlite.column_double (.real x) = x
  column_text : ∀ s, sqlite.column_text (.text s) = some s

/-- The value of a literal in a column of its type. -/
def stored : SqlLiteral → SqlValue
  | .integer n => .integer n
  | .decimal x => .real (sqlite.real x)
  | .nonFinite _ => .null
  | .quoted s => .text s

/-- `insert` with a statement for the table DccInfo. -/
def insertDccInfo (values : List SqlLiteral) (tables : Tables) : Tables :=
  if values.all SqlLiteral.plain then
    if values.all SqlLiteral.isValue then
      { tables with
        dccInfo := tables.dccInfo.insert
          (Table.record DccInfoColumn.inserted (values.map sqlite.stored)) }
    else
      tables
  else
    sqlite.exec (.dccInfo values) tables

/-- `insert` with a statement for the table CamInfo. -/
def insertCamInfo (values : List SqlLiteral) (tables : Tables) : Tables :=
  if values.all SqlLiteral.plain then
    if values.all SqlLiteral.isValue then
      { tables with
        camInfo := tables.camInfo.insert
          (Table.record CamInfoColumn.inserted (values.map sqlite.stored)) }
    else
      tables
  else
    sqlite.exec (.camInfo values) tables

end Sqlite

/-- SQLite on numbers and texts in columns of their type, with empty tables, and with one
statement that it does not accept. -/
def exactSqlite : Sqlite where
  real := .nearest
  column_int64
    | .integer n => n
    | _ => 0
  column_int
    | .integer n => n.toInt32
    | _ => 0
  column_double
    | .real x => x
    | _ => .finite 0
  column_text
    | .text s => some s
    | _ => none
  exec _ tables := tables
  prepare sql _ := if sql = "SELECT * from GPS WHERE" then .rejected else .rows []

theorem exactSqlite_returnsStored : exactSqlite.ReturnsStored where
  real _ := rfl
  column_int64 _ := rfl
  column_int n := Int32.toInt32_toInt64 n
  column_double _ := rfl
  column_text _ := rfl

/-! ## The service -/

structure LDM where
  camCache : Cache (stationName CAM.stationid)
  denmCache : Cache (stationName DENM.stationid)
  dccInfoCache : Cache DccInfo.accesscategory
  camInfoCache : CamInfo
  tables : Tables

/-- `dccInfoCache` with the table DccInfo. -/
abbrev DccInfoStore : Type := Store DccInfo.accesscategory (DccInfoColumn → SqlValue)

namespace LDM

/-- The LDM on a new database. -/
def new : LDM where
  camCache := Cache.empty
  denmCache := Cache.empty
  dccInfoCache := Cache.empty
  camInfoCache := {}
  tables := ⟨Table.empty, Table.empty, Table.empty, Table.empty⟩

/-- The LDM starts again on the same database. -/
def restart (ldm : LDM) : LDM := { new with tables := ldm.tables }

def camStore (ldm : LDM) : CamStore := ⟨ldm.camCache, ldm.tables.cam⟩

def withCamStore (ldm : LDM) (s : CamStore) : LDM :=
  { ldm with camCache := s.cache, tables := { ldm.tables with cam := s.table } }

def denmStore (ldm : LDM) : DenmStore := ⟨ldm.denmCache, ldm.tables.denm⟩

def withDenmStore (ldm : LDM) (s : DenmStore) : LDM :=
  { ldm with denmCache := s.cache, tables := { ldm.tables with denm := s.table } }

def dccInfoStore (ldm : LDM) : DccInfoStore := ⟨ldm.dccInfoCache, ldm.tables.dccInfo⟩

end LDM

/-- An iteration of `receiveDccInfo`, after the message is parsed. -/
def receiveDccInfo (sqlite : Sqlite) (dccInfo : DccInfo) (ldm : LDM) : LDM :=
  { ldm with
    tables := sqlite.insertDccInfo (dccInfoValues dccInfo) ldm.tables
    dccInfoCache := ldm.dccInfoCache.assign dccInfo }

/-- An iteration of `receiveCamInfo`, after the message is parsed into `camInfoCache`. -/
def receiveCamInfo (sqlite : Sqlite) (camInfo : CamInfo) (ldm : LDM) : LDM :=
  { ldm with
    camInfoCache := camInfo
    tables := sqlite.insertCamInfo (camInfoValues camInfo) ldm.tables }

/-- The condition of the query for the latest rows: `dccInfo1.AC = dccInfo2.AC AND
dccInfo1.time < dccInfo2.time`. -/
def laterDccInfo (row row' : Table.Row (DccInfoColumn → SqlValue)) : Bool :=
  (row.value .AC).eq (row'.value .AC) && (row.value .time).lt (row'.value .time)

/-- The message that `dccInfoSelect` makes of a row.  A text that is NULL does not get
this far. -/
def readDccInfo (sqlite : Sqlite) (row : Table.Row (DccInfoColumn → SqlValue)) : DccInfo :=
  let column := row.column DccInfoColumn.created
  { time := some (sqlite.column_int64 (column 1))
    channelLoad := some (sqlite.column_double (column 2))
    state := some ((sqlite.column_text (column 3)).getD "")
    accessCategory := some ((sqlite.column_text (column 4)).getD "")
    availableTokens := some (sqlite.column_int (column 5))
    queuedPackets := some (sqlite.column_int (column 6))
    dccMechanism := some (sqlite.column_int (column 7))
    txPower := some (sqlite.column_double (column 8))
    tokenInterval := some (sqlite.column_double (column 9))
    datarate := some (sqlite.column_double (column 10))
    carrierSense := some (sqlite.column_double (column 11))
    flushReqPackets := some (sqlite.column_int (column 12))
    flushNotReqPackets := some (sqlite.column_int (column 13)) }

/-- The condition that comes with the request is not looked at. -/
def dccInfoSelect (sqlite : Sqlite) (_condition : String) (s : DccInfoStore) :
    LdmData DccInfo × DccInfoStore :=
  s.select .dccInfo laterDccInfo (readDccInfo sqlite)

end OpenC2X.Ldm
