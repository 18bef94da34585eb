import OpenC2X.Ldm.DccInfoStore

/-!
# Malformed messages

The receiving threads parse every message into an object that they use again, and do not
look at the result of `ParseFromString`.  If a message is malformed, they store what the
parser has left in the object, as if it were complete.

So a malformed message is not without effect, but its effect is bounded: one entry of one
cache and at most one row of one table, both with the fields that were parsed.
-/

namespace OpenC2X.Ldm

open Buffers

/-! ## Receiving serialized messages -/

/-- `ParseFromString` for every kind of message: the object afterwards, and the result. -/
structure Protobuf where
  parseCam : List UInt8 → CAM × Bool
  parseDenm : List UInt8 → DENM × Bool
  parseDccInfo : List UInt8 → DccInfo × Bool
  parseCamInfo : List UInt8 → CamInfo × Bool

/-- A serialized message for one of the four receiving threads. -/
inductive Reception
  | cam (serialized : List UInt8)
  | denm (serialized : List UInt8)
  | dccInfo (serialized : List UInt8)
  | camInfo (serialized : List UInt8)

/-- `ParseFromString` returns false. -/
def Protobuf.rejects (protobuf : Protobuf) : Reception → Prop
  | .cam serialized => (protobuf.parseCam serialized).2 = false
  | .denm serialized => (protobuf.parseDenm serialized).2 = false
  | .dccInfo serialized => (protobuf.parseDccInfo serialized).2 = false
  | .camInfo serialized => (protobuf.parseCamInfo serialized).2 = false

namespace LDM

variable (protobuf : Protobuf) (sqlite : Sqlite)

/-- One iteration of `receiveFromCa`. -/
def receiveFromCa (serializedCam : List UInt8) (ldm : LDM) : LDM :=
  ldm.withCamStore (Ldm.receiveFromCa (protobuf.parseCam serializedCam).1 ldm.camStore)

/-- One iteration of `receiveFromDen`. -/
def receiveFromDen (serializedDenm : List UInt8) (ldm : LDM) : LDM :=
  ldm.withDenmStore (Ldm.receiveFromDen (protobuf.parseDenm serializedDenm).1 ldm.denmStore)

/-- One iteration of `receiveDccInfo`. -/
def receiveDccInfo (serializedDccInfo : List UInt8) (ldm : LDM) : LDM :=
  Ldm.receiveDccInfo sqlite (protobuf.parseDccInfo serializedDccInfo).1 ldm

/-- One iteration of `receiveCamInfo`. -/
def receiveCamInfo (serializedCamInfo : List UInt8) (ldm : LDM) : LDM :=
  Ldm.receiveCamInfo sqlite (protobuf.parseCamInfo serializedCamInfo).1 ldm

def receive (ldm : LDM) : Reception → LDM
  | .cam serialized => ldm.receiveFromCa protobuf serialized
  | .denm serialized => ldm.receiveFromDen protobuf serialized
  | .dccInfo serialized => ldm.receiveDccInfo protobuf sqlite serialized
  | .camInfo serialized => ldm.receiveCamInfo protobuf sqlite serialized

end LDM

/-! ## What a reception changes -/

/-- A cache afterwards: the message is the entry of its name. -/
structure StoredIn {M : Type} {name : M → String} (m : M) (cache cache' : Cache name) : Prop where
  entry : cache'.get? (name m) = some m
  others : ∀ key, key ≠ name m → cache'.get? key = cache.get? key

/-- A table afterwards: it has one more row, after all others. -/
def AppendedTo {R : Type} (value : R) (table table' : Table R) : Prop :=
  ∃ key, (∀ row ∈ table.rows, row.key < key) ∧ table'.rows = table.rows ++ [⟨key, value⟩]

theorem storedIn_assign {M : Type} {name : M → String} (m : M) (cache : Cache name) :
    StoredIn m cache (cache.assign m) where
  entry := by rw [Cache.get?_assign, if_pos rfl]
  others key hne := by rw [Cache.get?_assign, if_neg (Ne.symm hne)]

theorem appendedTo_insert {R : Type} (value : R) (table : Table R) :
    AppendedTo value table (table.insert value) :=
  ⟨table.nextKey, fun _ hrow => table.key_lt_nextKey hrow, rfl⟩

def camInfoRow (sqlite : Sqlite) (m : CamInfo) : CamInfoColumn → SqlValue :=
  Table.record CamInfoColumn.inserted ((camInfoValues m).map sqlite.stored)

/-- What a reception changes, with the message that is left in the object: the entry and
the row of this message.  A floating point number that is not finite makes an INSERT of it that
SQLite rejects.  A text that ends its literal early makes another statement of it, and what
becomes of the tables is up to SQLite. -/
def StoresParsed (protobuf : Protobuf) (sqlite : Sqlite) (ldm ldm' : LDM) : Reception → Prop
  | .cam serialized =>
      StoredIn (protobuf.parseCam serialized).1 ldm.camCache ldm'.camCache ∧
      AppendedTo (camRow (protobuf.parseCam serialized).1) ldm.tables.cam ldm'.tables.cam ∧
      ldm' = { ldm with
        camCache := ldm'.camCache
        tables := { ldm.tables with cam := ldm'.tables.cam } }
  | .denm serialized =>
      StoredIn (protobuf.parseDenm serialized).1 ldm.denmCache ldm'.denmCache ∧
      AppendedTo (denmRow (protobuf.parseDenm serialized).1) ldm.tables.denm ldm'.tables.denm ∧
      ldm' = { ldm with
        denmCache := ldm'.denmCache
        tables := { ldm.tables with denm := ldm'.tables.denm } }
  | .dccInfo serialized =>
      let m := (protobuf.parseDccInfo serialized).1
      StoredIn m ldm.dccInfoCache ldm'.dccInfoCache ∧
      ldm' = { ldm with dccInfoCache := ldm'.dccInfoCache, tables := ldm'.tables } ∧
      if (dccInfoValues m).all SqlLiteral.plain then
        if (dccInfoValues m).all SqlLiteral.isValue then
          AppendedTo (dccInfoRow sqlite m) ldm.tables.dccInfo ldm'.tables.dccInfo ∧
          ldm'.tables = { ldm.tables with dccInfo := ldm'.tables.dccInfo }
        else
          ldm'.tables = ldm.tables
      else
        ldm'.tables = sqlite.exec (.dccInfo (dccInfoValues m)) ldm.tables
  | .camInfo serialized =>
      let m := (protobuf.parseCamInfo serialized).1
      ldm'.camInfoCache = m ∧
      ldm' = { ldm with camInfoCache := ldm'.camInfoCache, tables := ldm'.tables } ∧
      if (camInfoValues m).all SqlLiteral.plain then
        if (camInfoValues m).all SqlLiteral.isValue then
          AppendedTo (camInfoRow sqlite m) ldm.tables.camInfo ldm'.tables.camInfo ∧
          ldm'.tables = { ldm.tables with camInfo := ldm'.tables.camInfo }
        else
          ldm'.tables = ldm.tables
      else
        ldm'.tables = sqlite.exec (.camInfo (camInfoValues m)) ldm.tables

/-- **Malformed messages.**  In every state, a received string is stored as the message
that the parser leaves, whether it was accepted or rejected, and nothing else changes. -/
theorem receive_storesParsed (protobuf : Protobuf) (sqlite : Sqlite) (ldm : LDM)
    (reception : Reception) :
    StoresParsed protobuf sqlite ldm (ldm.receive protobuf sqlite reception) reception := by
  cases reception with
  | cam serialized => exact ⟨storedIn_assign _ _, appendedTo_insert _ _, rfl⟩
  | denm serialized => exact ⟨storedIn_assign _ _, appendedTo_insert _ _, rfl⟩
  | dccInfo serialized =>
      refine ⟨storedIn_assign _ _, rfl, ?_⟩
      simp only [LDM.receive, LDM.receiveDccInfo, receiveDccInfo, Sqlite.insertDccInfo]
      by_cases hplain : (dccInfoValues (protobuf.parseDccInfo serialized).1).all SqlLiteral.plain
      · rw [if_pos hplain, if_pos hplain]
        by_cases hvalue :
          (dccInfoValues (protobuf.parseDccInfo serialized).1).all SqlLiteral.isValue
        · rw [if_pos hvalue, if_pos hvalue]
          exact ⟨appendedTo_insert _ _, rfl⟩
        · rw [if_neg hvalue, if_neg hvalue]
      · rw [if_neg hplain, if_neg hplain]
  | camInfo serialized =>
      refine ⟨rfl, rfl, ?_⟩
      simp only [LDM.receive, LDM.receiveCamInfo, receiveCamInfo, Sqlite.insertCamInfo]
      by_cases hplain : (camInfoValues (protobuf.parseCamInfo serialized).1).all SqlLiteral.plain
      · rw [if_pos hplain, if_pos hplain]
        by_cases hvalue :
          (camInfoValues (protobuf.parseCamInfo serialized).1).all SqlLiteral.isValue
        · rw [if_pos hvalue, if_pos hvalue]
          exact ⟨appendedTo_insert _ _, rfl⟩
        · rw [if_neg hvalue, if_neg hvalue]
      · rw [if_neg hplain, if_neg hplain]

/-! ## A CAM without its second part -/

/-- The header of `vehicleCam`, and nothing after it. -/
def headerOnly : List UInt8 := [0x0a, 0x06, 0x08, 0x01, 0x10, 0x02, 0x18, 0x07]

/-- The parser on this string, which leaves the header in the object and rejects the string
because `coop` is missing. -/
def headerParser : Protobuf where
  parseCam serialized :=
    if serialized = headerOnly then ({ header := vehicleCam.header }, false) else ({}, false)
  parseDenm _ := ({}, false)
  parseDccInfo serialized := ({}, serialized.isEmpty)
  parseCamInfo serialized := ({}, serialized.isEmpty)

/-- The LDM with one CAM of the station. -/
def vehicleLdm : LDM := LDM.new.withCamStore (receiveFromCa vehicleCam Store.new)

/-- The rejected string replaces the CAM in the cache and adds a row. -/
theorem not_unchanged_headerOnly :
    headerParser.rejects (.cam headerOnly) ∧
      vehicleLdm.receive headerParser exactSqlite (.cam headerOnly) ≠ vehicleLdm := by
  refine ⟨rfl, ?_⟩
  intro hsame
  have hrows := congrArg (fun ldm : LDM => ldm.tables.cam.rows.length) hsame
  exact absurd hrows (by decide)

end OpenC2X.Ldm
