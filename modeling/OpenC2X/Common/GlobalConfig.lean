import OpenC2X.Lib.PartialRun
import Mathlib.Data.Finset.Card
import Mathlib.Data.Fintype.Defs

/-!
# Experiment numbers

All modules log into one directory for each experiment.  `GlobalConfig::loadConfig` finds
the number of the experiment from the directories and the lock files that earlier starts
have left: it is the first number without a lock file of the module.

A module has one lock file for each of its starts, numbered without gaps, whatever the
other modules do.  So its next start gets the next number.

The lock files carry the name that the caller passes, and `DenmApp` passes the name of
`DenService`: these two programs count their starts together.
-/

namespace OpenC2X.GlobalConfig

/-! ## The log directory -/

/-- The modules, each of which passes a name of its own to `loadConfig`. -/
inductive Module
  | cam
  | dcc
  | denm
  | gps
  | obd2
  | ldm
  | httpServer
  deriving DecidableEq

instance : Fintype Module where
  elems := {.cam, .dcc, .denm, .gps, .obd2, .ldm, .httpServer}
  complete m := by cases m <;> decide

/-- The constants `CAM_CONFIG_NAME`, … of the modules. -/
def Module.configName : Module → String
  | .cam => "cam"
  | .dcc => "dcc"
  | .denm => "denm"
  | .gps => "gps"
  | .obd2 => "obd2"
  | .ldm => "ldm"
  | .httpServer => "httpServer"

theorem configName_inj {m m' : Module} : m.configName = m'.configName ↔ m = m' := by
  revert m m'
  decide

/-- The programs that call `loadConfig`. -/
inductive Caller
  | module (m : Module)
  | denmApp
  deriving DecidableEq

/-- The module under whose name a program calls `loadConfig`: `DenmApp` uses
`DENM_CONFIG_NAME` as well. -/
def Caller.owner : Caller → Module
  | .module m => m
  | .denmApp => .denm

def Caller.configName (p : Caller) : String := p.owner.configName

/-- The directories that `loadConfig` uses. -/
inductive LogPath
  | logBasePath
  | appPath
  | expPath (expNo : ℕ)
  deriving DecidableEq

/-- The directory that a directory is created in, as far as `loadConfig` is responsible
for it. -/
def LogPath.parent : LogPath → Option LogPath
  | .logBasePath => none
  | .appPath => some .logBasePath
  | .expPath _ => some .appPath

/-- The part of the file system that `loadConfig` works on. -/
structure LogDirectory where
  dirs : Finset LogPath
  /-- The lock files: `expPath + "/." + application_name`. -/
  locks : Finset (ℕ × String)
  deriving DecidableEq

namespace LogDirectory

def empty : LogDirectory := ⟨∅, ∅⟩

def HasParent (d : LogDirectory) (path : LogPath) : Prop := ∀ p ∈ path.parent, p ∈ d.dirs

instance (d : LogDirectory) (path : LogPath) : Decidable (d.HasParent path) :=
  inferInstanceAs (Decidable (∀ p ∈ path.parent, p ∈ d.dirs))

/-- `none` where `mkdir` fails and the process ends. -/
def createDir (path : LogPath) (d : LogDirectory) : Option LogDirectory :=
  if path ∉ d.dirs ∧ d.HasParent path then
    some { d with dirs := insert path d.dirs }
  else
    none

/-- Creates a directory if it does not exist. -/
def ensureDir (path : LogPath) (d : LogDirectory) : Option LogDirectory :=
  if path ∈ d.dirs then some d else d.createDir path

/-- Opens the lock file for writing, which creates it if there is the directory. -/
def createFile (expNo : ℕ) (application_name : String) (d : LogDirectory) : LogDirectory :=
  if .expPath expNo ∈ d.dirs then
    { d with locks := insert (expNo, application_name) d.locks }
  else
    d

end LogDirectory

open LogPath LogDirectory

/-! ## `loadConfig` -/

/-- The loop of `loadConfig`, with the number tried last. -/
def search (application_name : String) (tmpExpNo : ℕ) (d : LogDirectory) :
    Option (ℕ × LogDirectory) :=
  if expPath (tmpExpNo + 1) ∈ d.dirs then
    if (tmpExpNo + 1, application_name) ∈ d.locks then
      search application_name (tmpExpNo + 1) d
    else
      some (tmpExpNo + 1, d)
  else
    (d.createDir (expPath (tmpExpNo + 1))).map fun d' => (tmpExpNo + 1, d')
termination_by (d.locks.filter fun lock => tmpExpNo < lock.1).card
decreasing_by
  rename_i hlock
  -- the lock file just found is behind the loop
  apply Finset.card_lt_card
  rw [Finset.ssubset_iff_of_subset
    (Finset.monotone_filter_right _ fun _ _ hlt => Nat.lt_of_succ_lt hlt)]
  exact ⟨_, Finset.mem_filter.mpr ⟨hlock, Nat.lt_succ_self _⟩, by simp⟩

/-- What `loadConfig` does in the log directory, and the number `mExpNo`; `none` where a
`createDir` ends the process. -/
def loadConfig (application_name : String) (d : LogDirectory) : Option (ℕ × LogDirectory) := do
  let d ← ensureDir logBasePath d
  let d ← ensureDir appPath d
  let (mExpNo, d) ← search application_name 0 d
  pure (mExpNo, d.createFile mExpNo application_name)

/-! ## The lock files are numbered -/

/-- Every module has the lock files with the numbers up to `count`. -/
structure LogDirectory.Numbered (count : Module → ℕ) (d : LogDirectory) : Prop where
  parent : ∀ path ∈ d.dirs, d.HasParent path
  dir : ∀ lock ∈ d.locks, expPath lock.1 ∈ d.dirs
  locked : ∀ m n, (n, m.configName) ∈ d.locks ↔ 1 ≤ n ∧ n ≤ count m

/-- One more lock file of a module. -/
def oneMore (count : Module → ℕ) (m : Module) : Module → ℕ := Function.update count m (count m + 1)

namespace LogDirectory

variable {d d' : LogDirectory} {path : LogPath} {count : Module → ℕ} {m : Module}

theorem numbered_empty : empty.Numbered fun _ => 0 where
  parent path hpath := absurd hpath (Finset.notMem_empty path)
  dir lock hlock := absurd hlock (Finset.notMem_empty lock)
  locked m n := by
    constructor
    · intro hlock
      exact absurd hlock (Finset.notMem_empty _)
    · omega

theorem hasParent_logBasePath : d.HasParent logBasePath := by
  intro p hp
  cases hp

theorem hasParent_appPath : d.HasParent appPath ↔ logBasePath ∈ d.dirs := by
  simp [HasParent, LogPath.parent]

theorem hasParent_expPath {expNo : ℕ} : d.HasParent (expPath expNo) ↔ appPath ∈ d.dirs := by
  simp [HasParent, LogPath.parent]

theorem createDir_eq_some :
    d.createDir path = some d' ↔
      path ∉ d.dirs ∧ d.HasParent path ∧ d' = { d with dirs := insert path d.dirs } := by
  unfold createDir
  split_ifs with h
  · simp [h, eq_comm]
  · simp only [false_iff]
    exact fun ⟨hnew, hparent, _⟩ => h ⟨hnew, hparent⟩

theorem createDir_eq_none (hparent : d.HasParent path) :
    d.createDir path = none ↔ path ∈ d.dirs := by
  unfold createDir
  split_ifs with h
  · simp [h.1]
  · simpa [hparent] using h

theorem Numbered.createDir (h : d.Numbered count) (hnew : d.createDir path = some d') :
    d'.Numbered count := by
  obtain ⟨-, hparent, rfl⟩ := createDir_eq_some.mp hnew
  constructor
  · intro path' hpath' p hp
    rcases Finset.mem_insert.mp hpath' with rfl | hold
    · exact Finset.mem_insert_of_mem (hparent p hp)
    · exact Finset.mem_insert_of_mem (h.parent path' hold p hp)
  · exact fun lock hlock => Finset.mem_insert_of_mem (h.dir lock hlock)
  · exact h.locked

theorem Numbered.createFile (h : d.Numbered count) (hdir : expPath (count m + 1) ∈ d.dirs) :
    (d.createFile (count m + 1) m.configName).Numbered (oneMore count m) := by
  rw [LogDirectory.createFile, if_pos hdir]
  constructor
  · exact h.parent
  · intro lock hlock
    rcases Finset.mem_insert.mp hlock with rfl | hold
    · exact hdir
    · exact h.dir lock hold
  · intro m' n
    rw [Finset.mem_insert, Prod.mk.injEq, configName_inj, h.locked, oneMore]
    by_cases hm : m' = m
    · subst hm
      rw [Function.update_self]
      simp only [and_true]
      omega
    · rw [Function.update_of_ne hm]
      simp [hm]

end LogDirectory

section

variable {d : LogDirectory} {count : Module → ℕ}

/-- From a number that the module has used, the loop finds the next one it has not. -/
theorem search_spec (m : Module) {tmpExpNo : ℕ} (h : d.Numbered count) (happ : appPath ∈ d.dirs)
    (hle : tmpExpNo ≤ count m) :
    ∃ d', search m.configName tmpExpNo d = some (count m + 1, d') ∧ d'.Numbered count ∧
      expPath (count m + 1) ∈ d'.dirs := by
  fun_induction search m.configName tmpExpNo d with
  | case1 tmpExpNo hdir hlock ih =>
      exact ih ((h.locked m _).mp hlock).2
  | case2 tmpExpNo hdir hlock =>
      rw [h.locked] at hlock
      obtain rfl : tmpExpNo = count m := by omega
      exact ⟨d, rfl, h, hdir⟩
  | case3 tmpExpNo hdir =>
      -- without a directory there is no lock file in it
      have hlock := mt (h.dir (tmpExpNo + 1, m.configName)) hdir
      rw [h.locked] at hlock
      obtain rfl : tmpExpNo = count m := by omega
      have hcreated := createDir_eq_some.mpr ⟨hdir, hasParent_expPath.mpr happ, rfl⟩
      rw [hcreated]
      exact ⟨_, rfl, h.createDir hcreated, Finset.mem_insert_self _ _⟩

/-- The test for one of the first two directories, and its creation. -/
theorem exists_ensureDir (path : LogPath) (h : d.Numbered count) (hparent : d.HasParent path) :
    ∃ d', d.ensureDir path = some d' ∧ d'.Numbered count ∧ path ∈ d'.dirs := by
  by_cases hdir : path ∈ d.dirs
  · exact ⟨d, if_pos hdir, h, hdir⟩
  · have hcreated := createDir_eq_some.mpr ⟨hdir, hparent, rfl⟩
    exact ⟨_, (if_neg hdir).trans hcreated, h.createDir hcreated, Finset.mem_insert_self _ _⟩

/-- A start hands out the number after those of the module's lock files. -/
theorem loadConfig_spec (m : Module) (h : d.Numbered count) :
    ∃ d', loadConfig m.configName d = some (count m + 1, d') ∧ d'.Numbered (oneMore count m) := by
  obtain ⟨d₁, hbase, h₁, hbaseDir⟩ := exists_ensureDir logBasePath h hasParent_logBasePath
  obtain ⟨d₂, happ, h₂, happDir⟩ := exists_ensureDir appPath h₁ (hasParent_appPath.mpr hbaseDir)
  obtain ⟨d₃, hsearch, h₃, hdir⟩ := search_spec m h₂ happDir (Nat.zero_le _)
  refine ⟨d₃.createFile (count m + 1) m.configName, ?_, h₃.createFile hdir⟩
  unfold loadConfig
  rw [hbase]
  change ((d₁.ensureDir appPath).bind _) = _
  rw [happ]
  change ((search m.configName 0 d₂).bind _) = _
  rw [hsearch]
  rfl

end

/-! ## Starts one after another -/

/-- The log directory and the numbers handed out so far. -/
structure Session where
  directory : LogDirectory
  handedOut : List (Caller × ℕ)

namespace Session

def start : Session := ⟨.empty, []⟩

/-- A complete call of `loadConfig` by a program. -/
def step (p : Caller) (s : Session) : Option Session :=
  (loadConfig p.configName s.directory).map fun (mExpNo, directory) =>
    ⟨directory, s.handedOut ++ [(p, mExpNo)]⟩

end Session

/-- Each call has got the number that counts the calls with its `key`, and under no key has a
number been handed out twice. -/
structure Counts {K : Type} [DecidableEq K] (key : Caller → K) (calls : List Caller)
    (handedOut : List (Caller × ℕ)) : Prop where
  length_eq : handedOut.length = calls.length
  number : ∀ before p after, calls = before ++ p :: after →
    handedOut[before.length]? = some (p, (before.map key).count (key p) + 1)
  nodup : (handedOut.map fun (p, mExpNo) => (key p, mExpNo)).Nodup

/-- How often a module's name has been passed. -/
def callCount (calls : List Caller) (m : Module) : ℕ := (calls.map Caller.owner).count m

/-- What holds between the calls. -/
structure SessionInv (calls : List Caller) (s : Session) : Prop where
  numbered : s.directory.Numbered (callCount calls)
  counts : Counts Caller.owner calls s.handedOut
  used : ∀ p ∈ s.handedOut, p.2 ≤ callCount calls p.1.owner

/-- One more call counts for the module whose name it passes. -/
theorem callCount_append_singleton (calls : List Caller) (p : Caller) :
    callCount (calls ++ [p]) = oneMore (callCount calls) p.owner := by
  funext m
  rw [callCount, List.map_append, List.count_append, oneMore]
  by_cases hm : m = p.owner
  · subst hm
    simp [callCount]
  · rw [Function.update_of_ne hm, List.map_singleton, List.count_singleton,
      if_neg (by simpa using Ne.symm hm)]
    rfl

/-- A call that gets the next number of its key. -/
theorem Counts.append_singleton {K : Type} [DecidableEq K] {key : Caller → K}
    {calls : List Caller} {handedOut : List (Caller × ℕ)} (h : Counts key calls handedOut)
    (hused : ∀ p ∈ handedOut, p.2 ≤ (calls.map key).count (key p.1)) (p : Caller) :
    Counts key (calls ++ [p]) (handedOut ++ [(p, (calls.map key).count (key p) + 1)]) := by
  constructor
  · simp [h.length_eq]
  · intro before p' after heq
    -- the call is the last one, or it is one of those before
    rcases List.eq_nil_or_concat after with rfl | ⟨after', last, rfl⟩
    · obtain ⟨rfl, hlast⟩ := List.append_inj' heq rfl
      obtain rfl := List.singleton_injective hlast
      rw [← h.length_eq]
      simp
    · have heq' : calls ++ [p] = (before ++ p' :: after') ++ [last] := by simpa using heq
      obtain ⟨hcalls, -⟩ := List.append_inj' heq' rfl
      have hlt : before.length < handedOut.length := by
        rw [h.length_eq, hcalls]
        simp
      rw [List.getElem?_append_left hlt]
      exact h.number before p' after' hcalls
  · rw [List.map_append, List.map_singleton]
    refine List.nodup_append.mpr ⟨h.nodup, List.nodup_singleton _, ?_⟩
    rintro _ hold _ hnew rfl
    -- the new number is above all that were handed out under its key
    obtain ⟨⟨q, mExpNo⟩, hq, heq⟩ := List.mem_map.mp hold
    have hsame : (key q, mExpNo) = (key p, (calls.map key).count (key p) + 1) :=
      heq.trans (List.mem_singleton.mp hnew)
    have hle : mExpNo ≤ (calls.map key).count (key q) := hused _ hq
    rw [Prod.mk.injEq] at hsame
    rw [hsame.1, hsame.2] at hle
    exact Nat.not_succ_le_self _ hle

theorem step_sessionInv {calls : List Caller} {s : Session} (p : Caller)
    (hinv : SessionInv calls s) :
    ∃ s', s.step p = some s' ∧ SessionInv (calls ++ [p]) s' := by
  obtain ⟨d, hload, hnumbered⟩ := loadConfig_spec p.owner hinv.numbered
  refine ⟨⟨d, s.handedOut ++ [(p, callCount calls p.owner + 1)]⟩, ?_, ?_, ?_, ?_⟩
  · rw [Session.step, Caller.configName, hload]
    rfl
  · rw [callCount_append_singleton]
    exact hnumbered
  · exact hinv.counts.append_singleton hinv.used p
  · intro q hq
    rw [callCount_append_singleton, oneMore]
    rcases List.mem_append.mp hq with hold | hnew
    · by_cases hsame : q.1.owner = p.owner
      · rw [hsame, Function.update_self, ← hsame]
        exact (hinv.used q hold).trans (Nat.le_succ _)
      · rw [Function.update_of_ne hsame]
        exact hinv.used q hold
    · obtain rfl := List.mem_singleton.mp hnew
      rw [Function.update_self]

theorem exists_session (calls : List Caller) :
    ∃ s, PartialRun.run Session.step .start calls = some s ∧ SessionInv calls s := by
  have hstart : SessionInv [] .start := by
    refine ⟨numbered_empty, ⟨rfl, ?_, List.nodup_nil⟩, ?_⟩
    · intro before p after heq
      simp at heq
    · intro p hp
      cases hp
  exact PartialRun.exists_run hstart fun _ p _ _ _ _ hinv => step_sessionInv p hinv

/-- Counting by the name passed is counting by the module that it belongs to. -/
theorem Counts.configName {calls : List Caller} {handedOut : List (Caller × ℕ)}
    (h : Counts Caller.owner calls handedOut) : Counts Caller.configName calls handedOut := by
  have hinj : Function.Injective Module.configName := fun _ _ => configName_inj.mp
  have hname (before : List Caller) :
      before.map Caller.configName = (before.map Caller.owner).map Module.configName := by
    rw [List.map_map]
    rfl
  have hpairs : (handedOut.map fun (p, mExpNo) => (p.configName, mExpNo)) =
      (handedOut.map fun (p, mExpNo) => (p.owner, mExpNo)).map (Prod.map Module.configName id) := by
    rw [List.map_map]
    rfl
  constructor
  · exact h.length_eq
  · intro before p after heq
    rw [hname, Caller.configName, List.count_map_of_injective _ _ hinj]
    exact h.number before p after heq
  · rw [hpairs]
    exact h.nodup.map (hinj.prodMap Function.injective_id)

/-- **Experiment numbers.**  From an empty log directory, every sequence of calls of
`loadConfig` by any programs is completed, the `k`-th call with a name gets the number `k`,
and no number is handed out twice under one name. -/
theorem experimentNumbers (calls : List Caller) :
    ∃ s, PartialRun.run Session.step .start calls = some s ∧
      Counts Caller.configName calls s.handedOut := by
  obtain ⟨s, hrun, hinv⟩ := exists_session calls
  exact ⟨s, hrun, hinv.counts.configName⟩

/-- The first start of `DenmApp` after one of `DenService` gets the number 2. -/
theorem not_counts_denmApp :
    ¬ ∃ s, PartialRun.run Session.step .start [.module .denm, .denmApp] = some s ∧
      Counts id [.module .denm, .denmApp] s.handedOut := by
  rintro ⟨s, hrun, hcounts⟩
  obtain ⟨s', hrun', hinv⟩ := exists_session [.module .denm, .denmApp]
  obtain rfl : s' = s := Option.some.inj (hrun'.symm.trans hrun)
  have hown := hcounts.number [.module .denm] .denmApp [] rfl
  have hshared := hinv.counts.number [.module .denm] .denmApp [] rfl
  have hsame := hown.symm.trans hshared
  exact absurd hsame (by decide)

end OpenC2X.GlobalConfig
