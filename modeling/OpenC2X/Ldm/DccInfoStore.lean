import OpenC2X.Ldm.Service

/-!
# The DccInfo store

The cache keeps the last message of every access category.  The query keeps the rows of a
category that no row of a later time follows; of several with the latest time the last one
stays in the cache.  With times that do not decrease within a category the two agree.

What comes back from the table differs in one respect: `receiveDccInfo` writes floating
point numbers with fifteen significant digits, and what comes back is the floating point number
nearest to them, which need not be the one that was written.
-/

namespace OpenC2X.Ldm

open Buffers

/-! ## What DCC produces -/

/-- All fields are set. -/
def allSet (m : DccInfo) : Bool :=
  m.time.isSome && m.channelLoad.isSome && m.state.isSome && m.accessCategory.isSome &&
    m.availableTokens.isSome && m.queuedPackets.isSome && m.dccMechanism.isSome &&
    m.txPower.isSome && m.tokenInterval.isSome && m.datarate.isSome && m.carrierSense.isSome &&
    m.flushReqPackets.isSome && m.flushNotReqPackets.isSome

/-- The floating point fields that are set. -/
def doubles (m : DccInfo) : List Double :=
  m.channelLoad.toList ++ m.txPower.toList ++ m.tokenInterval.toList ++ m.datarate.toList ++
    m.carrierSense.toList

/-- A message of DCC sets all fields, its texts need no care between quotes, and its floating
point numbers are finite. -/
structure Produced (m : DccInfo) : Prop where
  allSet : allSet m = true
  finite : ∀ x ∈ doubles m, x.isFinite = true
  state : (SqlLiteral.quoted m.state.value).plain = true
  accessCategory : (SqlLiteral.quoted m.accesscategory).plain = true

example : ["relaxed", "active", "restricted", "VI", "VO", "BE", "BK", "NO"].all
    fun s => (SqlLiteral.quoted s).plain := by decide

/-- Within an access category the times do not decrease. -/
def NondecreasingTimes (received : List DccInfo) : Prop :=
  received.Pairwise fun m m' => m.accesscategory = m'.accesscategory → m.time.value ≤ m'.time.value

/-! ## Writing and reading a row -/

def dccInfoRow (sqlite : Sqlite) (m : DccInfo) : DccInfoColumn → SqlValue :=
  Table.record DccInfoColumn.inserted ((dccInfoValues m).map sqlite.stored)

/-- A floating point number as it comes back from the table. -/
def reread (sqlite : Sqlite) (x : Double) : Double :=
  sqlite.column_double (sqlite.stored (setprecision15 x))

/-- The number nearest to the text of a finite one. -/
def printed : Double → Double
  | .finite x => .nearest (roundSignificant 10 15 x)
  | x => x

/-- A message with its floating point numbers as printed. -/
def printedDccInfo (m : DccInfo) : DccInfo :=
  { m with
    channelLoad := m.channelLoad.map printed
    txPower := m.txPower.map printed
    tokenInterval := m.tokenInterval.map printed
    datarate := m.datarate.map printed
    carrierSense := m.carrierSense.map printed }

/-- What `dccInfoSelect` makes of the row of a message. -/
def restoredDccInfo (sqlite : Sqlite) (m : DccInfo) : DccInfo where
  time := some m.time.value
  channelLoad := some (reread sqlite m.channelLoad.value)
  state := some m.state.value
  accessCategory := some m.accesscategory
  availableTokens := some m.availableTokens.value
  queuedPackets := some m.queuedPackets.value
  dccMechanism := some m.dccMechanism.value
  txPower := some (reread sqlite m.txPower.value)
  tokenInterval := some (reread sqlite m.tokenInterval.value)
  datarate := some (reread sqlite m.datarate.value)
  carrierSense := some (reread sqlite m.carrierSense.value)
  flushReqPackets := some m.flushReqPackets.value
  flushNotReqPackets := some m.flushNotReqPackets.value

variable {sqlite : Sqlite}

theorem readDccInfo_dccInfoRow (hsqlite : sqlite.ReturnsStored) (key : ℕ) (m : DccInfo) :
    readDccInfo sqlite ⟨key, dccInfoRow sqlite m⟩ = restoredDccInfo sqlite m := by
  have htext : ∀ s, (sqlite.column_text (.text s)).getD "" = s := by
    intro s
    rw [hsqlite.column_text]
    rfl
  have hread : readDccInfo sqlite ⟨key, dccInfoRow sqlite m⟩ =
      { time := some (sqlite.column_int64 (.integer m.time.value))
        channelLoad := some (reread sqlite m.channelLoad.value)
        state := some ((sqlite.column_text (.text m.state.value)).getD "")
        accessCategory := some ((sqlite.column_text (.text m.accesscategory)).getD "")
        availableTokens :=
          some (sqlite.column_int (.integer m.availableTokens.value.toInt64))
        queuedPackets := some (sqlite.column_int (.integer m.queuedPackets.value.toInt64))
        dccMechanism := some (sqlite.column_int (.integer m.dccMechanism.value.toInt64))
        txPower := some (reread sqlite m.txPower.value)
        tokenInterval := some (reread sqlite m.tokenInterval.value)
        datarate := some (reread sqlite m.datarate.value)
        carrierSense := some (reread sqlite m.carrierSense.value)
        flushReqPackets := some (sqlite.column_int (.integer m.flushReqPackets.value.toInt64))
        flushNotReqPackets :=
          some (sqlite.column_int (.integer m.flushNotReqPackets.value.toInt64)) } := rfl
  rw [hread]
  simp only [hsqlite.column_int64, hsqlite.column_int, htext]
  rfl

theorem reread_of_isFinite (hsqlite : sqlite.ReturnsStored) {x : Double}
    (hfinite : x.isFinite = true) : reread sqlite x = printed x := by
  cases x with
  | finite x =>
      have hstored : reread sqlite (.finite x) =
          sqlite.column_double (.real (sqlite.real (roundSignificant 10 15 x))) := rfl
      rw [hstored, hsqlite.column_double, hsqlite.real, printed]
  | _ => cases hfinite

/-- A message of DCC comes back with its numbers as printed. -/
theorem restoredDccInfo_eq_printed (hsqlite : sqlite.ReturnsStored) {m : DccInfo}
    (h : Produced m) : restoredDccInfo sqlite m = printedDccInfo m := by
  obtain ⟨hset, hfinite, -, -⟩ := h
  obtain ⟨time, channelLoad, state, accessCategory, availableTokens, queuedPackets,
    dccMechanism, txPower, tokenInterval, datarate, carrierSense, flushReqPackets,
    flushNotReqPackets⟩ := m
  simp only [allSet, Bool.and_eq_true, Option.isSome_iff_exists] at hset
  obtain ⟨⟨⟨⟨⟨⟨⟨⟨⟨⟨⟨⟨⟨_, rfl⟩, ⟨_, rfl⟩⟩, ⟨_, rfl⟩⟩, ⟨_, rfl⟩⟩, ⟨_, rfl⟩⟩, ⟨_, rfl⟩⟩, ⟨_, rfl⟩⟩,
    ⟨_, rfl⟩⟩, ⟨_, rfl⟩⟩, ⟨_, rfl⟩⟩, ⟨_, rfl⟩⟩, ⟨_, rfl⟩⟩, ⟨_, rfl⟩⟩ := hset
  have hprinted : ∀ x ∈ doubles _, reread sqlite x = printed x :=
    fun x hx => reread_of_isFinite hsqlite (hfinite x hx)
  simp only [doubles, Option.toList_some, List.cons_append, List.nil_append,
    List.forall_mem_cons] at hprinted
  obtain ⟨hload, hpower, hinterval, hrate, hsense, -⟩ := hprinted
  simp only [restoredDccInfo, ProtoField.value, Option.getD_some, hload, hpower, hinterval, hrate,
    hsense]
  rfl

theorem map_eq_self_iff {x : ProtoField Double} :
    x.map printed = x ↔ ∀ y ∈ x.toList, printed y = y := by
  cases x <;> simp

/-- Printing changes a message if it changes one of its numbers. -/
theorem printedDccInfo_eq_self_iff {m : DccInfo} :
    printedDccInfo m = m ↔ ∀ x ∈ doubles m, printed x = x := by
  simp only [doubles, List.forall_mem_append, ← map_eq_self_iff]
  constructor
  · intro h
    exact ⟨⟨⟨⟨congrArg DccInfo.channelLoad h, congrArg DccInfo.txPower h⟩,
      congrArg DccInfo.tokenInterval h⟩, congrArg DccInfo.datarate h⟩,
      congrArg DccInfo.carrierSense h⟩
  · rintro ⟨⟨⟨⟨hload, hpower⟩, hinterval⟩, hrate⟩, hsense⟩
    rw [printedDccInfo, hload, hpower, hinterval, hrate, hsense]

/-- A floating point number that is the nearest one to a number with at most fifteen decimal
digits comes back as it was. -/
theorem printed_nearest {m e : ℤ} {x : ℚ} (hm : |m| < 10 ^ 15)
    (hnormal : (2 : ℚ) ^ (-1022 : ℤ) ≤ |(m : ℚ) * (10 : ℕ) ^ e|)
    (hx : .nearest ((m : ℚ) * (10 : ℕ) ^ e) = Double.finite x) :
    printed (.finite x) = .finite x := by
  rw [printed, Double.roundSignificant_nearest hm hnormal hx, hx]

/-! ## Receiving messages -/

def receiveAllDccInfo (sqlite : Sqlite) (received : List DccInfo) (ldm : LDM) : LDM :=
  received.foldl (fun ldm m => receiveDccInfo sqlite m ldm) ldm

/-- What a message with plain texts does to the cache and the table. -/
def storeDccInfo (sqlite : Sqlite) (m : DccInfo) (s : DccInfoStore) : DccInfoStore :=
  (s.assign m).insert (dccInfoRow sqlite m)

theorem plain_setprecision15 (x : Double) : (setprecision15 x).plain = true := by
  cases x <;> rfl

theorem isValue_setprecision15 (x : Double) : (setprecision15 x).isValue = x.isFinite := by
  cases x <;> rfl

theorem Produced.plain {m : DccInfo} (h : Produced m) :
    (dccInfoValues m).all SqlLiteral.plain = true := by
  have hstate := h.state
  have haccessCategory := h.accessCategory
  simp only [dccInfoValues, List.all_cons, List.all_nil, hstate, haccessCategory,
    plain_setprecision15]
  rfl

theorem Produced.isValue {m : DccInfo} (h : Produced m) :
    (dccInfoValues m).all SqlLiteral.isValue = true := by
  -- a field that is not set has the value 0
  have hvalue : ∀ field : ProtoField Double, (∀ x ∈ field.toList, x.isFinite = true) →
      field.value.isFinite = true := by
    intro field hfield
    cases field with
    | none => rfl
    | some x => exact hfield x (List.mem_singleton_self x)
  have hfinite := h.finite
  simp only [doubles, List.forall_mem_append] at hfinite
  obtain ⟨⟨⟨⟨hload, hpower⟩, hinterval⟩, hrate⟩, hsense⟩ := hfinite
  simp only [dccInfoValues, List.all_cons, List.all_nil, isValue_setprecision15, hvalue _ hload,
    hvalue _ hpower, hvalue _ hinterval, hvalue _ hrate, hvalue _ hsense]
  rfl

theorem dccInfoStore_receiveDccInfo {m : DccInfo} (h : Produced m) (ldm : LDM) :
    (receiveDccInfo sqlite m ldm).dccInfoStore = storeDccInfo sqlite m ldm.dccInfoStore := by
  unfold receiveDccInfo Sqlite.insertDccInfo
  rw [if_pos h.plain, if_pos h.isValue]
  rfl

theorem dccInfoStore_receiveAll {received : List DccInfo} (h : ∀ m ∈ received, Produced m)
    (ldm : LDM) :
    (receiveAllDccInfo sqlite received ldm).dccInfoStore =
      Store.receiveAll (storeDccInfo sqlite) received ldm.dccInfoStore := by
  induction received generalizing ldm with
  | nil => rfl
  | cons m received ih =>
      have hfirst : (receiveDccInfo sqlite m ldm).dccInfoStore =
          storeDccInfo sqlite m ldm.dccInfoStore :=
        dccInfoStore_receiveDccInfo (h m List.mem_cons_self) ldm
      have hrest := ih (fun m' hm' => h m' (List.mem_cons_of_mem m hm'))
        (receiveDccInfo sqlite m ldm)
      rw [receiveAllDccInfo, List.foldl_cons, ← receiveAllDccInfo, hrest, hfirst]
      rfl

theorem dccInfoStore_readsBack (hsqlite : sqlite.ReturnsStored) :
    Store.ReadsBack (readDccInfo sqlite) (storeDccInfo sqlite) (restoredDccInfo sqlite) where
  exists_row m := ⟨dccInfoRow sqlite m, fun key => readDccInfo_dccInfoRow hsqlite key m,
    fun _ => rfl⟩
  name_restored _ := rfl

/-! ## The latest time -/

theorem values_receiveAll (received : List DccInfo) (s : DccInfoStore) :
    (Store.receiveAll (storeDccInfo sqlite) received s).table.rows.map Table.Row.value =
      s.table.rows.map Table.Row.value ++ received.map (dccInfoRow sqlite) := by
  induction received generalizing s with
  | nil => simp [Store.receiveAll]
  | cons m received ih =>
      have hrows : (storeDccInfo sqlite m s).table.rows.map Table.Row.value =
          s.table.rows.map Table.Row.value ++ [dccInfoRow sqlite m] := by
        simp [storeDccInfo, Store.insert, Store.assign]
      rw [Store.receiveAll, List.foldl_cons, ← Store.receiveAll, ih, hrows, List.append_assoc]
      rfl

/-- The condition of the query for the rows of two messages. -/
theorem laterDccInfo_dccInfoRow (key key' : ℕ) (m m' : DccInfo) :
    laterDccInfo ⟨key, dccInfoRow sqlite m⟩ ⟨key', dccInfoRow sqlite m'⟩ = true ↔
      m.accesscategory = m'.accesscategory ∧ m.time.value < m'.time.value := by
  have hlater : laterDccInfo ⟨key, dccInfoRow sqlite m⟩ ⟨key', dccInfoRow sqlite m'⟩ =
      (decide (m.accesscategory = m'.accesscategory) &&
        decide ((((m.time.value.toInt : ℚ) : WithTop ℚ) : WithBot (WithTop ℚ)) <
          ((m'.time.value.toInt : ℚ) : WithTop ℚ))) := rfl
  rw [hlater, Bool.and_eq_true, decide_eq_true_iff, decide_eq_true_iff, WithBot.coe_lt_coe,
    WithTop.coe_lt_coe, Int.cast_lt, ← Int64.lt_iff_toInt_lt]

/-- Of two rows of a table, one comes first. -/
theorem row_trichotomy {α : Type} {table : Table α} {P : Table.Row α → Table.Row α → Prop}
    (hP : table.rows.Pairwise P) {row row' : Table.Row α} (hrow : row ∈ table.rows)
    (hrow' : row' ∈ table.rows) :
    row = row' ∨ row.key < row'.key ∨ P row' row := by
  obtain ⟨i, hi, rfl⟩ := List.mem_iff_getElem.mp hrow
  obtain ⟨j, hj, rfl⟩ := List.mem_iff_getElem.mp hrow'
  rcases Nat.lt_trichotomy i j with hlt | rfl | hgt
  · exact .inr (.inl (List.pairwise_iff_getElem.mp table.increasing i j hi hj hlt))
  · exact .inl rfl
  · exact .inr (.inr (List.pairwise_iff_getElem.mp hP j i hj hi hgt))

/-- If the times do not decrease, the query matches a row with later ones only. -/
theorem dccInfoStore_matchesLater (hsqlite : sqlite.ReturnsStored) {received : List DccInfo}
    (htimes : NondecreasingTimes received) :
    (Store.receiveAll (storeDccInfo sqlite) received Store.new).MatchesLater laterDccInfo
      (readDccInfo sqlite) := by
  set table := (Store.receiveAll (storeDccInfo sqlite) received Store.new).table
  have hvalues : table.rows.map Table.Row.value = received.map (dccInfoRow sqlite) :=
    values_receiveAll received Store.new
  have hmessage : ∀ row ∈ table.rows, ∃ m, row = ⟨row.key, dccInfoRow sqlite m⟩ := by
    intro row hrow
    have hmem : row.value ∈ received.map (dccInfoRow sqlite) :=
      hvalues ▸ List.mem_map_of_mem hrow
    obtain ⟨m, -, hm⟩ := List.mem_map.mp hmem
    exact ⟨m, by rw [hm]⟩
  -- a later row does not have an earlier time
  have hnot : table.rows.Pairwise fun row row' => ¬laterDccInfo row' row = true := by
    have hmap : (table.rows.map Table.Row.value).Pairwise fun v v' =>
        ¬laterDccInfo ⟨0, v'⟩ ⟨0, v⟩ = true := by
      rw [hvalues, List.pairwise_map]
      refine htimes.imp ?_
      intro m m' hle hlater
      obtain ⟨hcategory, htime⟩ := (laterDccInfo_dccInfoRow 0 0 m' m).mp hlater
      exact Int64.not_lt.mpr (hle hcategory.symm) htime
    exact List.pairwise_map.mp hmap
  intro row hmem row' hmem' hlater
  obtain ⟨m, hm⟩ := hmessage row hmem
  obtain ⟨m', hm'⟩ := hmessage row' hmem'
  have hsame : m.accesscategory = m'.accesscategory ∧ m.time.value < m'.time.value := by
    rw [hm, hm'] at hlater
    exact (laterDccInfo_dccInfoRow row.key row'.key m m').mp hlater
  constructor
  · show (readDccInfo sqlite row).accesscategory = (readDccInfo sqlite row').accesscategory
    rw [hm, hm', readDccInfo_dccInfoRow hsqlite, readDccInfo_dccInfoRow hsqlite]
    exact hsame.1
  · rcases row_trichotomy hnot hmem hmem' with rfl | hlt | hbefore
    · rw [hm, laterDccInfo_dccInfoRow] at hlater
      exact absurd hlater.2 (Int64.lt_irrefl)
    · exact hlt
    · exact absurd hlater hbefore

/-! ## The replies before and after a restart -/

section

variable {received : List DccInfo}

theorem dccInfoEntry_warm (hsqlite : sqlite.ReturnsStored) (hproduced : ∀ m ∈ received, Produced m)
    (condition category : String) :
    (dccInfoSelect sqlite condition
        (receiveAllDccInfo sqlite received .new).dccInfoStore).2.cache.get? category =
      Cache.latest DccInfo.accesscategory received category := by
  rw [dccInfoStore_receiveAll hproduced]
  exact Store.get?_select_warm (dccInfoStore_readsBack hsqlite) received category

theorem dccInfoEntry_restart (hsqlite : sqlite.ReturnsStored)
    (hproduced : ∀ m ∈ received, Produced m) (htimes : NondecreasingTimes received)
    (condition category : String) :
    (dccInfoSelect sqlite condition
        (receiveAllDccInfo sqlite received .new).restart.dccInfoStore).2.cache.get? category =
      (Cache.latest DccInfo.accesscategory received category).map printedDccInfo := by
  have hrestart : (receiveAllDccInfo sqlite received .new).restart.dccInfoStore =
      (receiveAllDccInfo sqlite received .new).dccInfoStore.restart := rfl
  rw [hrestart, dccInfoStore_receiveAll hproduced, dccInfoSelect]
  refine (Store.get?_select_restart (dccInfoStore_readsBack hsqlite)
    (dccInfoStore_matchesLater hsqlite htimes) category).trans ?_
  apply Option.map_congr
  intro m hlast
  have hmem : m ∈ received := (List.mem_filter.mp (List.mem_of_getLast? hlast)).1
  exact restoredDccInfo_eq_printed hsqlite (hproduced m hmem)

theorem filter_dccInfoSelect (condition category : String) (s : DccInfoStore) :
    ((dccInfoSelect sqlite condition s).1.data.filter fun m => m.accesscategory = category) =
      ((dccInfoSelect sqlite condition s).2.cache.get? category).toList :=
  Cache.filter_messages _ category

/-- The reply before a restart has the last message of every access category, and the one
after it the same messages with their floating point numbers as printed. -/
structure DccInfoReplies (received : List DccInfo) (warm cold : LdmData DccInfo) : Prop where
  last : ∀ category, (warm.data.filter fun m => m.accesscategory = category) =
    (Cache.latest DccInfo.accesscategory received category).toList
  cold_eq : cold = ⟨warm.type, warm.data.map printedDccInfo⟩
  /-- They agree if fifteen digits determine all numbers. -/
  eq_iff : cold = warm ↔ ∀ m ∈ warm.data, ∀ x ∈ doubles m, printed x = x

theorem map_printedDccInfo_eq_self_iff {data : List DccInfo} :
    data.map printedDccInfo = data ↔ ∀ m ∈ data, ∀ x ∈ doubles m, printed x = x := by
  simp only [← printedDccInfo_eq_self_iff]
  constructor
  · intro h m hm
    obtain ⟨i, hi, rfl⟩ := List.mem_iff_getElem.mp hm
    have hget := congrArg (fun data : List DccInfo => data[i]?) h
    simpa [hi] using hget
  · intro h
    rw [List.map_congr_left h, List.map_id'']
    exact fun _ => rfl

/-- **DccInfo store.**  For every sequence of messages of DCC with times that do not
decrease within an access category, the replies before and after a restart agree up to the
printing of floating point numbers with fifteen digits. -/
theorem dccInfoReplies (hsqlite : sqlite.ReturnsStored) (hproduced : ∀ m ∈ received, Produced m)
    (htimes : NondecreasingTimes received) (condition condition' : String) :
    DccInfoReplies received
      (dccInfoSelect sqlite condition (receiveAllDccInfo sqlite received .new).dccInfoStore).1
      (dccInfoSelect sqlite condition'
        (receiveAllDccInfo sqlite received .new).restart.dccInfoStore).1 := by
  have hmessages := Cache.messages_eq_map (f := printedDccInfo) fun category =>
    (dccInfoEntry_restart hsqlite hproduced htimes condition' category).trans
      (congrArg _ (dccInfoEntry_warm hsqlite hproduced condition category).symm)
  have hcold := congrArg (LdmData.mk .dccInfo) hmessages
  constructor
  · intro category
    rw [filter_dccInfoSelect, dccInfoEntry_warm hsqlite hproduced]
  · exact hcold
  · rw [← map_printedDccInfo_eq_self_iff]
    constructor
    · intro h
      exact congrArg LdmData.data (hcold.symm.trans h)
    · intro h
      exact hcold.trans (congrArg (LdmData.mk .dccInfo) h)

end

/-! ## A measured channel load -/

/-- The message about AC_BE of a relaxed DCC with the given channel load. -/
def beDccInfo (channelLoad : Double) : DccInfo where
  time := some 1000000000
  channelLoad := some channelLoad
  state := some "relaxed"
  accessCategory := some "BE"
  availableTokens := some 1
  queuedPackets := some 0
  dccMechanism := some 7
  txPower := some (.finite 33)
  tokenInterval := some (.finite (1 / 4))
  datarate := some (.finite 3)
  carrierSense := some (.finite (-95))
  flushReqPackets := some 0
  flushNotReqPackets := some 0

theorem produced_beDccInfo (channelLoad : ℚ) : Produced (beDccInfo (.finite channelLoad)) where
  allSet := rfl
  finite := by simp [doubles, beDccInfo, Double.isFinite]
  state := show (SqlLiteral.quoted "relaxed").plain = true by decide
  accessCategory := show (SqlLiteral.quoted "BE").plain = true by decide

/-- A channel load of 33 % as the channel prober gives it: with the 24 binary digits of a
`float`. -/
def measuredLoad : ℚ := roundSignificant 2 24 (33 / 100)

theorem dccInfoReplies_measuredLoad :
    DccInfoReplies [beDccInfo (.finite measuredLoad)]
      (dccInfoSelect exactSqlite ""
        (receiveAllDccInfo exactSqlite
          [beDccInfo (.finite measuredLoad)] .new).dccInfoStore).1
      (dccInfoSelect exactSqlite ""
        (receiveAllDccInfo exactSqlite
          [beDccInfo (.finite measuredLoad)] .new).restart.dccInfoStore).1 := by
  refine dccInfoReplies exactSqlite_returnsStored ?_ (List.pairwise_singleton _ _) "" ""
  intro m hm
  rw [List.mem_singleton.mp hm]
  exact produced_beDccInfo measuredLoad

/-- After a restart the channel load is another number. -/
theorem not_sameReply_measuredLoad :
    (exactSqlite.ReturnsStored ∧ Produced (beDccInfo (.finite measuredLoad)) ∧
      NondecreasingTimes [beDccInfo (.finite measuredLoad)]) ∧
    (dccInfoSelect exactSqlite ""
        (receiveAllDccInfo exactSqlite
          [beDccInfo (.finite measuredLoad)] .new).restart.dccInfoStore).1 ≠
      (dccInfoSelect exactSqlite ""
        (receiveAllDccInfo exactSqlite
          [beDccInfo (.finite measuredLoad)] .new).dccInfoStore).1 := by
  have hproduced : ∀ m ∈ [beDccInfo (.finite measuredLoad)], Produced m := by
    intro m hm
    rw [List.mem_singleton.mp hm]
    exact produced_beDccInfo measuredLoad
  have htimes : NondecreasingTimes [beDccInfo (.finite measuredLoad)] := List.pairwise_singleton _ _
  refine ⟨⟨exactSqlite_returnsStored, produced_beDccInfo measuredLoad, htimes⟩, ?_⟩
  intro hsame
  have hentries := congrArg
    (fun reply : LdmData DccInfo => reply.data.filter fun m => m.accesscategory = "BE") hsame
  rw [filter_dccInfoSelect, filter_dccInfoSelect,
    dccInfoEntry_warm exactSqlite_returnsStored hproduced,
    dccInfoEntry_restart exactSqlite_returnsStored hproduced htimes] at hentries
  have hload : printed (.finite measuredLoad) = .finite measuredLoad := by
    have hmessage := List.singleton_injective hentries
    exact Option.some.inj (congrArg DccInfo.channelLoad hmessage)
  exact absurd hload (by decide +kernel)

end OpenC2X.Ldm
