import OpenC2X.Lib.Interleaving
import OpenC2X.Common.GlobalConfig

/-!
# Modules started at the same time

`loadConfig` tests for a directory and creates it in two steps.  A module that starts
while another one stands between them may find the directory missing as well, and the one
that comes second fails to create it and ends.

A module that does not end gets the number of its starts, however the modules are
interleaved.  So modules that have returned equally often get the same number if and only
if no directory is created while another module is about to create it.
-/

namespace OpenC2X.GlobalConfig

open Interleaving LogPath LogDirectory

/-! ## The steps of `loadConfig` -/

/-- Where a module stands. -/
inductive Phase
  /-- It has not been started yet. -/
  | idle
  | testing (path : LogPath)
  | creating (path : LogPath)
  /-- It tests for its lock file in an existing directory. -/
  | testingLock (expNo : ℕ)
  | locking (expNo : ℕ)
  | returned (mExpNo : ℕ)
  | exited

namespace Phase

def Stopped : Phase → Prop
  | idle | returned _ | exited => True
  | _ => False

def afterFound : LogPath → Phase
  | logBasePath => testing appPath
  | appPath => testing (expPath 1)
  | expPath tmpExpNo => testingLock tmpExpNo

def afterCreated : LogPath → Phase
  | logBasePath => testing appPath
  | appPath => testing (expPath 1)
  | expPath tmpExpNo => locking tmpExpNo

end Phase

structure Process where
  application_name : String
  phase : Phase

inductive StartEvent
  | start
  | dirExists (path : LogPath) (found : Bool)
  | lockExists (expNo : ℕ) (found : Bool)
  | createDir (path : LogPath)
  | createFile (expNo : ℕ)

/-- The file system steps of `loadConfig`. -/
inductive LoadConfigAct : Actions LogDirectory Process StartEvent
  | found {d : LogDirectory} {a : String} {path : LogPath} (h : path ∈ d.dirs) :
      LoadConfigAct d ⟨a, .testing path⟩ (.dirExists path true) d ⟨a, .afterFound path⟩
  | missing {d : LogDirectory} {a : String} {path : LogPath} (h : path ∉ d.dirs) :
      LoadConfigAct d ⟨a, .testing path⟩ (.dirExists path false) d ⟨a, .creating path⟩
  | created {d d' : LogDirectory} {a : String} {path : LogPath}
      (h : d.createDir path = some d') :
      LoadConfigAct d ⟨a, .creating path⟩ (.createDir path) d' ⟨a, .afterCreated path⟩
  | failed {d : LogDirectory} {a : String} {path : LogPath} (h : d.createDir path = none) :
      LoadConfigAct d ⟨a, .creating path⟩ (.createDir path) d ⟨a, .exited⟩
  | locked {d : LogDirectory} {a : String} {expNo : ℕ} (h : (expNo, a) ∈ d.locks) :
      LoadConfigAct d ⟨a, .testingLock expNo⟩ (.lockExists expNo true) d
        ⟨a, .testing (expPath (expNo + 1))⟩
  | unlocked {d : LogDirectory} {a : String} {expNo : ℕ} (h : (expNo, a) ∉ d.locks) :
      LoadConfigAct d ⟨a, .testingLock expNo⟩ (.lockExists expNo false) d ⟨a, .locking expNo⟩
  | createFile {d : LogDirectory} {a : String} {expNo : ℕ} :
      LoadConfigAct d ⟨a, .locking expNo⟩ (.createFile expNo) (d.createFile expNo a)
        ⟨a, .returned expNo⟩

/-- The same with starts: a module that has stopped is started again at any time. -/
inductive HistoryAct : Actions LogDirectory Process StartEvent
  | start {d : LogDirectory} {a : String} {phase : Phase} (h : phase.Stopped) :
      HistoryAct d ⟨a, phase⟩ .start d ⟨a, .testing logBasePath⟩
  | step {d d' : LogDirectory} {p p' : Process} {e : StartEvent} (h : LoadConfigAct d p e d' p') :
      HistoryAct d p e d' p'

/-- No module has ever been started. -/
def new : Config Module LogDirectory Process where
  shared := .empty
  locals m := ⟨m.configName, .idle⟩

/-- All modules are started at the same time. -/
def launched (c : Config Module LogDirectory Process) : Config Module LogDirectory Process where
  shared := c.shared
  locals m := ⟨m.configName, .testing logBasePath⟩

/-! ## A module that runs alone -/

section

variable {d d' : LogDirectory} {a : String}

theorem alone_ensureDir {path : LogPath} (h : d.ensureDir path = some d')
    (hnext : Phase.afterCreated path = .afterFound path) :
    Alone LoadConfigAct (d, ⟨a, .testing path⟩) (d', ⟨a, .afterFound path⟩) := by
  unfold ensureDir at h
  split_ifs at h with hdir
  · obtain rfl := Option.some.inj h
    exact .step (.found hdir)
  · have hcreated : LoadConfigAct d ⟨a, .creating path⟩ _ d' ⟨a, _⟩ := .created h
    rw [hnext] at hcreated
    exact (Alone.step (.missing hdir)).trans (.step hcreated)

theorem alone_search {tmpExpNo mExpNo : ℕ} (h : search a tmpExpNo d = some (mExpNo, d')) :
    Alone LoadConfigAct (d, ⟨a, .testing (expPath (tmpExpNo + 1))⟩) (d', ⟨a, .locking mExpNo⟩) := by
  fun_induction search a tmpExpNo d with
  | case1 tmpExpNo hdir hlock ih =>
      exact (Alone.step (.found hdir)).trans ((Alone.step (.locked hlock)).trans (ih h))
  | case2 tmpExpNo hdir hlock =>
      obtain ⟨rfl, rfl⟩ := Prod.mk.inj (Option.some.inj h)
      exact (Alone.step (.found hdir)).trans (.step (.unlocked hlock))
  | case3 tmpExpNo hdir =>
      obtain ⟨d'', hcreated, heq⟩ := Option.map_eq_some_iff.mp h
      obtain ⟨rfl, rfl⟩ := Prod.mk.inj heq
      exact (Alone.step (.missing hdir)).trans (.step (.created hcreated))

/-- The steps of a module that runs alone are those of `loadConfig`. -/
theorem alone_loadConfig {mExpNo : ℕ} (h : loadConfig a d = some (mExpNo, d')) :
    Alone LoadConfigAct (d, ⟨a, .testing logBasePath⟩) (d', ⟨a, .returned mExpNo⟩) := by
  obtain ⟨d₁, hbase, h⟩ := Option.bind_eq_some_iff.mp h
  obtain ⟨d₂, happ, h⟩ := Option.bind_eq_some_iff.mp h
  obtain ⟨⟨n, d₃⟩, hsearch, h⟩ := Option.bind_eq_some_iff.mp h
  obtain ⟨rfl, rfl⟩ := Prod.mk.inj (Option.some.inj h)
  have hdirs := (alone_ensureDir (a := a) hbase rfl).trans (alone_ensureDir happ rfl)
  exact (hdirs.trans (alone_search hsearch)).trans (.step .createFile)

end

/-! ## Where the modules stand -/

/-- A directory that a module which has returned `count` times tests for. -/
def Tested (count : ℕ) : LogPath → Prop
  | expPath expNo => 1 ≤ expNo ∧ expNo ≤ count + 1
  | _ => True

/-- A directory that it creates. -/
def Created (count : ℕ) : LogPath → Prop
  | expPath expNo => expNo = count + 1
  | _ => True

/-- What holds while the module stands at a phase. -/
def Phase.Valid (count : ℕ) (d : LogDirectory) : Phase → Prop
  | testing path => d.HasParent path ∧ Tested count path
  | creating path => d.HasParent path ∧ Created count path
  | testingLock expNo => expPath expNo ∈ d.dirs ∧ 1 ≤ expNo ∧ expNo ≤ count + 1
  | locking expNo => expPath expNo ∈ d.dirs ∧ expNo = count + 1
  | returned mExpNo => mExpNo = count
  | idle | exited => True

theorem Phase.Valid.mono {count : ℕ} {d d' : LogDirectory} {phase : Phase}
    (h : phase.Valid count d) (hdirs : d.dirs ⊆ d'.dirs) : phase.Valid count d' := by
  cases phase with
  | testing path | creating path => exact ⟨fun p hp => hdirs (h.1 p hp), h.2⟩
  | testingLock expNo | locking expNo => exact ⟨hdirs h.1, h.2⟩
  | returned mExpNo => exact h
  | idle | exited => trivial

/-- The lock files and all modules, after `count` returns of each. -/
structure StartInv (count : Module → ℕ) (c : Config Module LogDirectory Process) : Prop where
  name : ∀ m, (c.locals m).application_name = m.configName
  numbered : c.shared.Numbered count
  valid : ∀ m, (c.locals m).phase.Valid (count m) c.shared

/-- Counts the returns of a module. -/
def noteReturn (count : ℕ) : StartEvent → ℕ
  | .createFile _ => count + 1
  | _ => count

/-- How often each module has returned at the end of a run, if it was `count` before. -/
def returnsAfter (count : Module → ℕ) (tr : Trace Module StartEvent) (m : Module) : ℕ :=
  view noteReturn (count m) m tr

theorem returnsAfter_snoc (count : Module → ℕ) (tr : Trace Module StartEvent) (m : Module)
    (e : StartEvent) :
    returnsAfter count (tr ++ [(m, e)]) =
      Function.update (returnsAfter count tr) m (noteReturn (returnsAfter count tr m) e) := by
  funext u
  rw [returnsAfter, view_snoc]
  by_cases hu : m = u
  · subst hu
    rw [if_pos rfl, Function.update_self]
    rfl
  · rw [if_neg hu, Function.update_of_ne (Ne.symm hu)]
    rfl

section

variable {count : Module → ℕ} {d d' : LogDirectory} {p p' : Process} {e : StartEvent} {m : Module}

theorem act_dirs (ha : LoadConfigAct d p e d' p') : d.dirs ⊆ d'.dirs := by
  cases ha with
  | created hnew =>
      obtain ⟨-, -, rfl⟩ := createDir_eq_some.mp hnew
      exact Finset.subset_insert _ _
  | createFile =>
      unfold LogDirectory.createFile
      split_ifs <;> rfl
  | _ => rfl

/-- Only `createDir` makes a directory. -/
theorem eq_createDir_of_mem_dirs (ha : LoadConfigAct d p e d' p') {path : LogPath}
    (hnew : path ∈ d'.dirs) (hold : path ∉ d.dirs) : e = .createDir path := by
  cases ha with
  | created hcreated =>
      obtain ⟨-, -, rfl⟩ := createDir_eq_some.mp hcreated
      rcases Finset.mem_insert.mp hnew with rfl | hmem
      · rfl
      · exact absurd hmem hold
  | createFile =>
      unfold LogDirectory.createFile at hnew
      split_ifs at hnew
      · exact absurd hnew hold
      · exact absurd hnew hold
  | _ => exact absurd hnew hold

theorem valid_afterFound {path : LogPath} {count : ℕ} (hdir : path ∈ d.dirs)
    (htested : Tested count path) : (Phase.afterFound path).Valid count d := by
  cases path with
  | logBasePath => exact ⟨hasParent_appPath.mpr hdir, trivial⟩
  | appPath => exact ⟨hasParent_expPath.mpr hdir, le_rfl, Nat.le_add_left 1 _⟩
  | expPath expNo => exact ⟨hdir, htested⟩

theorem valid_afterCreated {path : LogPath} {count : ℕ} (hdir : path ∈ d.dirs)
    (hcreated : Created count path) : (Phase.afterCreated path).Valid count d := by
  cases path with
  | logBasePath => exact ⟨hasParent_appPath.mpr hdir, trivial⟩
  | appPath => exact ⟨hasParent_expPath.mpr hdir, le_rfl, Nat.le_add_left 1 _⟩
  | expPath expNo => exact ⟨hdir, hcreated⟩

/-- What a step does to the directory and to where the module stands. -/
structure StepSpec (count : Module → ℕ) (m : Module) (d : LogDirectory) (p : Process)
    (e : StartEvent) (d' : LogDirectory) (p' : Process) : Prop where
  name : p'.application_name = p.application_name
  numbered : d'.Numbered (Function.update count m (noteReturn (count m) e))
  valid : p'.phase.Valid (noteReturn (count m) e) d'

theorem act_spec (hname : p.application_name = m.configName) (hnumbered : d.Numbered count)
    (hvalid : p.phase.Valid (count m) d) (ha : LoadConfigAct d p e d' p') :
    StepSpec count m d p e d' p' := by
  have hkept : d.Numbered (Function.update count m (count m)) := by
    rwa [Function.update_eq_self]
  cases ha with
  | found hdir => exact ⟨rfl, hkept, valid_afterFound hdir hvalid.2⟩
  | @missing _ a path hdir =>
      refine ⟨rfl, hkept, hvalid.1, ?_⟩
      cases path with
      | logBasePath | appPath => trivial
      | expPath expNo =>
          -- without a directory there is no lock file in it
          have hlock := mt (hnumbered.dir (expNo, m.configName)) hdir
          obtain ⟨-, hone, hle⟩ := hvalid
          rw [hnumbered.locked] at hlock
          show expNo = count m + 1
          omega
  | @created _ _ a path hnew =>
      obtain ⟨-, -, rfl⟩ := createDir_eq_some.mp hnew
      have hdir : path ∈ insert path d.dirs := Finset.mem_insert_self _ _
      exact ⟨rfl, hkept.createDir hnew, valid_afterCreated hdir hvalid.2⟩
  | failed => exact ⟨rfl, hkept, trivial⟩
  | @locked _ a expNo hlock =>
      obtain ⟨hdir, hone, -⟩ := hvalid
      obtain rfl : a = m.configName := hname
      have hle := ((hnumbered.locked m expNo).mp hlock).2
      have happ := hasParent_expPath.mp (hnumbered.parent _ hdir)
      exact ⟨rfl, hkept, hasParent_expPath.mpr happ, Nat.le_add_left 1 _, Nat.succ_le_succ hle⟩
  | @unlocked _ a expNo hlock =>
      obtain ⟨hdir, hone, hle⟩ := hvalid
      obtain rfl : a = m.configName := hname
      rw [hnumbered.locked] at hlock
      refine ⟨rfl, hkept, hdir, ?_⟩
      show expNo = count m + 1
      omega
  | @createFile _ a expNo =>
      obtain ⟨hdir, rfl⟩ := hvalid
      obtain rfl : a = m.configName := hname
      exact ⟨rfl, hnumbered.createFile hdir, rfl⟩

end

theorem startInv_new : StartInv (fun _ => 0) new where
  name _ := rfl
  numbered := numbered_empty
  valid _ := trivial

theorem StartInv.launched {count : Module → ℕ} {c : Config Module LogDirectory Process}
    (h : StartInv count c) : StartInv count (launched c) where
  name _ := rfl
  numbered := h.numbered
  valid _ := ⟨hasParent_logBasePath, trivial⟩

theorem act_startInv {count : Module → ℕ} {c : Config Module LogDirectory Process} {m : Module}
    {e : StartEvent} {d : LogDirectory} {p : Process} (hinv : StartInv count c)
    (ha : LoadConfigAct c.shared (c.locals m) e d p) :
    StartInv (Function.update count m (noteReturn (count m) e))
      ⟨d, Function.update c.locals m p⟩ := by
  have hspec := act_spec (hinv.name m) hinv.numbered (hinv.valid m) ha
  refine ⟨?_, hspec.numbered, fun u => ?_⟩
  · exact (Function.forall_update_iff c.locals fun u p => p.application_name = u.configName).mpr
      ⟨hspec.name.trans (hinv.name m), fun u _ => hinv.name u⟩
  · show (Function.update c.locals m p u).phase.Valid _ d
    by_cases hu : u = m
    · subst hu
      rw [Function.update_self, Function.update_self]
      exact hspec.valid
    · rw [Function.update_of_ne hu, Function.update_of_ne hu]
      exact (hinv.valid u).mono (act_dirs ha)

/-- In all runs, with starts at any time, the lock files number the returns. -/
theorem startInv {count : Module → ℕ} {start c : Config Module LogDirectory Process}
    {tr : Trace Module StartEvent} (hstart : StartInv count start)
    (h : Run HistoryAct start tr c) : StartInv (returnsAfter count tr) c := by
  refine h.invariant (fun tr c => StartInv (returnsAfter count tr) c) hstart ?_
  intro tr c m e d p hinv ha
  rw [returnsAfter_snoc]
  generalize hp : c.locals m = p₀ at ha
  cases ha with
  | @start _ a phase hstopped =>
      have hcount : noteReturn (returnsAfter count tr m) .start = returnsAfter count tr m := rfl
      rw [hcount, Function.update_eq_self]
      have hname : a = m.configName := by rw [← hinv.name m, hp]
      refine ⟨?_, hinv.numbered, ?_⟩
      · exact (Function.forall_update_iff c.locals fun u p => p.application_name = u.configName).mpr
          ⟨hname, fun u _ => hinv.name u⟩
      · exact (Function.forall_update_iff c.locals fun u p => p.phase.Valid _ c.shared).mpr
          ⟨⟨hasParent_logBasePath, trivial⟩, fun u _ => hinv.valid u⟩
  | step ha => exact act_startInv hinv (hp ▸ ha)

/-! ## Every start comes to an end -/

/-- The steps that a module still has at most. -/
def Phase.remaining (count : ℕ) : Phase → ℕ
  | testing logBasePath => 2 * count + 7
  | creating logBasePath => 2 * count + 6
  | testing appPath => 2 * count + 5
  | creating appPath => 2 * count + 4
  | testing (expPath expNo) => 2 * (count + 1 - expNo) + 3
  | testingLock expNo => 2 * (count + 1 - expNo) + 2
  | creating (expPath _) => 2
  | locking _ => 1
  | idle | returned _ | exited => 0

theorem act_remaining {count : Module → ℕ} {d d' : LogDirectory} {p p' : Process} {e : StartEvent}
    {m : Module} (hname : p.application_name = m.configName) (hnumbered : d.Numbered count)
    (ha : LoadConfigAct d p e d' p') :
    p'.phase.remaining (noteReturn (count m) e) + 1 ≤ p.phase.remaining (count m) := by
  cases ha with
  | @found _ _ path _ | @missing _ _ path _ | @created _ _ _ path _ | @failed _ _ path _ =>
      cases path <;> simp [Phase.remaining, Phase.afterFound, Phase.afterCreated, noteReturn]
  | @locked _ a expNo hlock =>
      obtain rfl : a = m.configName := hname
      have hle := ((hnumbered.locked m expNo).mp hlock).2
      simp only [Phase.remaining, noteReturn]
      omega
  | unlocked => simp [Phase.remaining]
  | createFile => exact le_rfl

theorem length_add_remaining_le {count : Module → ℕ} {start c : Config Module LogDirectory Process}
    {tr : Trace Module StartEvent} (hstart : StartInv count start)
    (h : Run LoadConfigAct start tr c) :
    tr.length + ∑ m, (c.locals m).phase.remaining (returnsAfter count tr m) ≤
      ∑ m, (start.locals m).phase.remaining (count m) := by
  induction h with
  | nil => simp [returnsAfter]
  | @snoc tr c₀ c₁ e hrun hstep ih =>
      have hinv := startInv hstart (hrun.mono .step)
      cases hstep with
      | @move m e d p ha =>
          have hless := act_remaining (hinv.name m) hinv.numbered ha
          have hothers : ∀ u ∈ Finset.univ.erase m,
              (Function.update c₀.locals m p u).phase.remaining
                  (returnsAfter count (tr ++ [(m, e)]) u) =
                (c₀.locals u).phase.remaining (returnsAfter count tr u) := by
            intro u hu
            have hne := Finset.ne_of_mem_erase hu
            rw [returnsAfter_snoc, Function.update_of_ne hne, Function.update_of_ne hne]
          rw [← Finset.add_sum_erase _ _ (Finset.mem_univ m)] at ih ⊢
          rw [Finset.sum_congr rfl hothers, returnsAfter_snoc]
          dsimp only
          rw [Function.update_self, Function.update_self, List.length_append, List.length_singleton]
          omega

theorem exists_act {d : LogDirectory} {p : Process} (h : ¬p.phase.Stopped) :
    ∃ e d' p', LoadConfigAct d p e d' p' := by
  obtain ⟨a, phase⟩ := p
  cases phase with
  | testing path =>
      by_cases hdir : path ∈ d.dirs
      · exact ⟨_, _, _, .found hdir⟩
      · exact ⟨_, _, _, .missing hdir⟩
  | creating path =>
      cases hnew : d.createDir path with
      | some d' => exact ⟨_, _, _, .created hnew⟩
      | none => exact ⟨_, _, _, .failed hnew⟩
  | testingLock expNo =>
      by_cases hlock : (expNo, a) ∈ d.locks
      · exact ⟨_, _, _, .locked hlock⟩
      · exact ⟨_, _, _, .unlocked hlock⟩
  | locking expNo => exact ⟨_, _, _, .createFile⟩
  | idle | returned mExpNo | exited => exact absurd trivial h

/-! ## Directories that two modules create -/

/-- Whenever a module creates a directory, no other one is about to create it. -/
def CreatesAlone (start : Config Module LogDirectory Process) (tr : Trace Module StartEvent) :
    Prop :=
  ∀ before m path after c, tr = before ++ (m, .createDir path) :: after →
    Run LoadConfigAct start before c → ∀ u, u ≠ m → (c.locals u).phase ≠ .creating path

theorem CreatesAlone.of_append {start : Config Module LogDirectory Process}
    {tr tr' : Trace Module StartEvent} (h : CreatesAlone start (tr ++ tr')) :
    CreatesAlone start tr := by
  intro before m path after c heq
  exact h before m path (after ++ tr') c (by simp [heq])

/-- No module has ended, and those that create a directory will succeed. -/
structure NoneExits (c : Config Module LogDirectory Process) : Prop where
  started : ∀ m, (c.locals m).phase ≠ .idle
  running : ∀ m, (c.locals m).phase ≠ .exited
  missing : ∀ m path, (c.locals m).phase = .creating path → path ∉ c.shared.dirs

section

variable {count : Module → ℕ} {start c : Config Module LogDirectory Process}
  {tr : Trace Module StartEvent} {d : LogDirectory} {p : Process} {e : StartEvent} {m u : Module}
  {path : LogPath}

theorem noneExits_launched (c : Config Module LogDirectory Process) : NoneExits (launched c) where
  started m := by simp [launched]
  running m := by simp [launched]
  missing m path h := by simp [launched] at h

theorem act_noneExits (hinv : NoneExits c) (hvalid : (c.locals m).phase.Valid (count m) c.shared)
    (ha : LoadConfigAct c.shared (c.locals m) e d p)
    (halone : ∀ path, e = .createDir path → ∀ u, u ≠ m → (c.locals u).phase ≠ .creating path) :
    NoneExits ⟨d, Function.update c.locals m p⟩ := by
  have hmissing := hinv.missing m
  generalize c.locals m = p₀ at ha hvalid hmissing
  have hself : p.phase ≠ .idle ∧ p.phase ≠ .exited ∧ ∀ path, p.phase = .creating path →
      path ∉ d.dirs := by
    cases ha with
    | @found _ _ path _ | @created _ _ _ path _ =>
        cases path <;> simp [Phase.afterFound, Phase.afterCreated]
    | missing hdir => simp [hdir]
    | failed hfailed =>
        exact absurd ((createDir_eq_none hvalid.1).mp hfailed) (hmissing _ rfl)
    | locked | unlocked | createFile => simp
  have hothers : ∀ u path, u ≠ m → (c.locals u).phase = .creating path → path ∉ d.dirs := by
    intro u path hu hcreating hnew
    have hcreates := eq_createDir_of_mem_dirs ha hnew (hinv.missing u path hcreating)
    exact halone path hcreates u hu hcreating
  refine ⟨?_, ?_, ?_⟩
  · exact (Function.forall_update_iff c.locals fun _ p => p.phase ≠ .idle).mpr
      ⟨hself.1, fun u _ => hinv.started u⟩
  · exact (Function.forall_update_iff c.locals fun _ p => p.phase ≠ .exited).mpr
      ⟨hself.2.1, fun u _ => hinv.running u⟩
  · exact (Function.forall_update_iff c.locals fun _ p => ∀ path, p.phase = .creating path →
      path ∉ d.dirs).mpr ⟨hself.2.2, fun u hu path => hothers u path hu⟩

theorem noneExits (hstart : StartInv count start) (hnone : NoneExits start)
    (h : Run LoadConfigAct start tr c) (halone : CreatesAlone start tr) : NoneExits c := by
  induction h with
  | nil => exact hnone
  | @snoc before c₀ c₁ e hrun hstep ih =>
      have hinv := startInv hstart (hrun.mono .step)
      cases hstep with
      | @move m e d p ha =>
          refine act_noneExits (ih halone.of_append) (hinv.valid m) ha ?_
          rintro path rfl
          exact halone before m path [] c₀ rfl hrun

/-- A module that comes too late to create a directory. -/
def TooLate (u : Module) (path : LogPath) (c : Config Module LogDirectory Process) : Prop :=
  (c.locals u).phase = .exited ∨ (c.locals u).phase = .creating path ∧ path ∈ c.shared.dirs

theorem tooLate (hlate : TooLate u path start) (h : Run LoadConfigAct start tr c) :
    TooLate u path c := by
  refine h.invariant (fun _ c => TooLate u path c) hlate ?_
  intro tr c m e d p hinv ha
  unfold TooLate
  by_cases hu : u = m
  · subst hu
    dsimp only
    rw [Function.update_self]
    rcases hinv with hexited | ⟨hcreating, hdir⟩
    · generalize c.locals u = p₀ at ha hexited
      cases ha <;> cases hexited
    · generalize c.locals u = p₀ at ha hcreating
      cases ha with
      | created hnew =>
          cases hcreating
          exact absurd hdir (createDir_eq_some.mp hnew).1
      | failed => exact .inl rfl
      | _ => cases hcreating
  · dsimp only
    rw [Function.update_of_ne hu]
    exact hinv.imp_right (And.imp_right fun hdir => act_dirs ha hdir)

/-- Another module stands before the creation of a directory while one creates it. -/
theorem tooLate_of_createDir (hinv : StartInv count c)
    (ha : LoadConfigAct c.shared (c.locals m) (.createDir path) d p) (hu : u ≠ m)
    (hcreating : (c.locals u).phase = .creating path) :
    TooLate u path ⟨d, Function.update c.locals m p⟩ := by
  right
  dsimp only
  rw [Function.update_of_ne hu]
  refine ⟨hcreating, ?_⟩
  have hvalid := hinv.valid m
  generalize c.locals m = p₀ at ha hvalid
  cases ha with
  | created hnew =>
      obtain ⟨-, -, rfl⟩ := createDir_eq_some.mp hnew
      exact Finset.mem_insert_self _ _
  | failed hfailed => exact (createDir_eq_none hvalid.1).mp hfailed

end

/-! ## One number for all -/

/-- All modules have returned the same number. -/
def OneNumber (c : Config Module LogDirectory Process) : Prop :=
  ∃ mExpNo, ∀ m, (c.locals m).phase = .returned mExpNo

theorem TooLate.not_oneNumber {start c : Config Module LogDirectory Process}
    {tr : Trace Module StartEvent} {u : Module} {path : LogPath} (hlate : TooLate u path start)
    (h : Run LoadConfigAct start tr c) : ¬OneNumber c := by
  rintro ⟨mExpNo, hreturned⟩
  rcases tooLate hlate h with hexited | ⟨hcreating, -⟩
  · cases hexited.symm.trans (hreturned u)
  · cases hcreating.symm.trans (hreturned u)

theorem not_oneNumber_of_exited {start c : Config Module LogDirectory Process}
    {tr : Trace Module StartEvent} {u : Module} (hexited : (start.locals u).phase = .exited)
    (h : Run LoadConfigAct start tr c) : ¬OneNumber c := by
  have hlate : TooLate u logBasePath start := .inl hexited
  exact hlate.not_oneNumber h

/-- How often a module has returned since it was started. -/
def Phase.returns : Phase → ℕ
  | returned _ => 1
  | _ => 0

theorem act_returns {d d' : LogDirectory} {p p' : Process} {e : StartEvent} (count : ℕ)
    (ha : LoadConfigAct d p e d' p') :
    p.phase.returns = 0 ∧ noteReturn count e = count + p'.phase.returns := by
  cases ha with
  | @found _ _ path _ | @created _ _ _ path _ => cases path <;> exact ⟨rfl, rfl⟩
  | _ => exact ⟨rfl, rfl⟩

section

variable {c₀ c : Config Module LogDirectory Process} {earlier tr : Trace Module StartEvent}

/-- How often each module has returned in a run of starts. -/
def returns (tr : Trace Module StartEvent) : Module → ℕ := returnsAfter (fun _ => 0) tr

theorem returnsAfter_launched (count : Module → ℕ) (h : Run LoadConfigAct (launched c₀) tr c)
    (m : Module) : returnsAfter count tr m = count m + (c.locals m).phase.returns := by
  refine h.invariant
    (fun tr c => ∀ m, returnsAfter count tr m = count m + (c.locals m).phase.returns)
    (fun _ => rfl) ?_ m
  intro tr c m e d p hinv ha
  rw [returnsAfter_snoc]
  intro u
  dsimp only
  by_cases hu : u = m
  · subst hu
    obtain ⟨hzero, hreturn⟩ := act_returns (returnsAfter count tr u) ha
    rw [Function.update_self, Function.update_self, hreturn, hinv, hzero, Nat.add_zero]
  · rw [Function.update_of_ne hu, Function.update_of_ne hu, hinv]

/-- A module that returns gets the number of its starts that have returned. -/
theorem returned_eq (hearlier : Run HistoryAct new earlier c₀)
    (hrun : Run LoadConfigAct (launched c₀) tr c) {m : Module} {mExpNo : ℕ}
    (hreturned : (c.locals m).phase = .returned mExpNo) : mExpNo = returns earlier m + 1 := by
  have hstart := (startInv startInv_new hearlier).launched
  have hvalid := (startInv hstart (hrun.mono .step)).valid m
  rw [hreturned, returnsAfter_launched _ hrun, hreturned] at hvalid
  exact hvalid

theorem LoadConfigAct.unique {d d₁ d₂ : LogDirectory} {p p₁ p₂ : Process} {e : StartEvent}
    (h₁ : LoadConfigAct d p e d₁ p₁) (h₂ : LoadConfigAct d p e d₂ p₂) : d₁ = d₂ ∧ p₁ = p₂ := by
  cases h₁ with
  | created hnew =>
      cases h₂ with
      | created hnew' =>
          obtain rfl := Option.some.inj (hnew.symm.trans hnew')
          exact ⟨rfl, rfl⟩
      | failed hfailed => cases hnew.symm.trans hfailed
  | failed hfailed =>
      cases h₂ with
      | created hnew => cases hfailed.symm.trans hnew
      | failed => exact ⟨rfl, rfl⟩
  | _ =>
      cases h₂
      exact ⟨rfl, rfl⟩

theorem createsAlone_of_oneNumber (hearlier : Run HistoryAct new earlier c₀)
    (hrun : Run LoadConfigAct (launched c₀) tr c) (hone : OneNumber c) :
    CreatesAlone (launched c₀) tr := by
  intro before m path after c₁ heq hbefore u hu hcreating
  have hstart := (startInv startInv_new hearlier).launched
  obtain ⟨c₁', d, p, hbefore', ha, hafter⟩ := (heq ▸ hrun).split_event
  obtain rfl := hbefore.unique hbefore' fun _ _ _ _ _ _ _ => LoadConfigAct.unique
  have hlate := tooLate_of_createDir (startInv hstart (hbefore.mono .step)) ha hu hcreating
  exact hlate.not_oneNumber hafter hone

theorem oneNumber_of_createsAlone (hearlier : Run HistoryAct new earlier c₀)
    (hrun : Run LoadConfigAct (launched c₀) tr c) (hstopped : ∀ m, (c.locals m).phase.Stopped)
    (hequal : ∀ m m', returns earlier m = returns earlier m')
    (halone : CreatesAlone (launched c₀) tr) : OneNumber c := by
  have hstart := (startInv startInv_new hearlier).launched
  have hnone := noneExits hstart (noneExits_launched c₀) hrun halone
  refine ⟨returns earlier .cam + 1, fun m => ?_⟩
  have hstarted := hnone.started m
  have hrunning := hnone.running m
  have hstop := hstopped m
  cases hphase : (c.locals m).phase with
  | returned mExpNo => rw [returned_eq hearlier hrun hphase, hequal m .cam]
  | idle => exact absurd hphase hstarted
  | exited => exact absurd hphase hrunning
  | _ =>
      rw [hphase] at hstop
      exact hstop.elim

/-- What becomes of a simultaneous start: it comes to an end, and then all modules have one
number if and only if they have returned equally often before and no directory was created
while another module was about to create it. -/
structure StartOutcome (earlier : Trace Module StartEvent)
    (start : Config Module LogDirectory Process) (tr : Trace Module StartEvent)
    (c : Config Module LogDirectory Process) : Prop where
  bounded : tr.length ≤ ∑ m, (2 * returns earlier m + 7)
  continues : ∀ m, ¬(c.locals m).phase.Stopped → ∃ e c', Step LoadConfigAct c (m, e) c'
  oneNumber_iff : (∀ m, (c.locals m).phase.Stopped) →
    (OneNumber c ↔ (∀ m m', returns earlier m = returns earlier m') ∧ CreatesAlone start tr)

/-- **One experiment number.**  After any earlier starts, interleaved in any way, every
interleaving of one simultaneous start of all modules has this outcome. -/
theorem startOutcome (hearlier : Run HistoryAct new earlier c₀)
    (hrun : Run LoadConfigAct (launched c₀) tr c) :
    StartOutcome earlier (launched c₀) tr c := by
  have hstart := (startInv startInv_new hearlier).launched
  constructor
  · exact (Nat.le_add_right _ _).trans (length_add_remaining_le hstart hrun)
  · intro m hrunning
    obtain ⟨e, d, p, ha⟩ := exists_act hrunning
    exact ⟨e, _, .move ha⟩
  · intro hstopped
    constructor
    · intro hone
      refine ⟨fun m m' => ?_, createsAlone_of_oneNumber hearlier hrun hone⟩
      obtain ⟨mExpNo, hreturned⟩ := hone
      have hm := returned_eq hearlier hrun (hreturned m)
      have hm' := returned_eq hearlier hrun (hreturned m')
      omega
    · rintro ⟨hequal, halone⟩
      exact oneNumber_of_createsAlone hearlier hrun hstopped hequal halone

end

/-! ## Starts one after another -/

/-- The modules of a list are started one after another, the others not at all. -/
theorem exists_sequential {c₀ : Config Module LogDirectory Process} {count : Module → ℕ}
    (hinv : StartInv count (launched c₀)) (ms : List Module) (hnodup : ms.Nodup) :
    ∃ tr c, Run LoadConfigAct (launched c₀) tr c ∧
      (∀ m ∈ ms, (c.locals m).phase = .returned (count m + 1)) ∧
      ∀ m ∉ ms, c.locals m = (launched c₀).locals m := by
  induction ms using List.reverseRecOn with
  | nil => exact ⟨[], _, .nil, fun _ hm => absurd hm List.not_mem_nil, fun _ _ => rfl⟩
  | append_singleton ms m ih =>
      obtain ⟨tr, c, hrun, hreturned, hothers⟩ := ih (List.nodup_append.mp hnodup).1
      have hm : m ∉ ms := by
        intro hmem
        exact List.disjoint_of_nodup_append hnodup hmem (List.mem_singleton_self m)
      have hcount : returnsAfter count tr m = count m := by
        rw [returnsAfter_launched _ hrun, hothers m hm]
        rfl
      obtain ⟨d, hload, -⟩ := loadConfig_spec m (startInv hinv (hrun.mono .step)).numbered
      rw [hcount] at hload
      have halone := alone_loadConfig hload
      have hlocal : c.locals m = ⟨m.configName, .testing logBasePath⟩ := hothers m hm
      rw [← hlocal] at halone
      obtain ⟨tr', -, hrun'⟩ := Run.of_alone halone
      refine ⟨tr ++ tr', _, hrun.append hrun', ?_, ?_⟩
      · refine (Function.forall_update_iff c.locals fun u p => u ∈ ms ++ [m] →
          p.phase = .returned (count u + 1)).mpr ⟨fun _ => rfl, fun u hu hmem => ?_⟩
        exact hreturned u ((List.mem_append.mp hmem).resolve_right (by simpa using hu))
      · refine (Function.forall_update_iff c.locals fun u p => u ∉ ms ++ [m] →
          p = (launched c₀).locals u).mpr ⟨fun hmem => ?_, fun u hu hmem => ?_⟩
        · exact absurd (List.mem_append_right _ (List.mem_singleton_self m)) hmem
        · exact hothers u fun hold => hmem (List.mem_append_left _ hold)

/-- On an empty directory, the modules started one after another get the number 1. -/
theorem startOutcome_sequential :
    ∃ tr c, Run LoadConfigAct (launched new) tr c ∧ OneNumber c ∧
      CreatesAlone (launched new) tr := by
  obtain ⟨tr, c, hrun, hreturned, -⟩ := exists_sequential startInv_new.launched
    [.cam, .dcc, .denm, .gps, .obd2, .ldm, .httpServer] (by decide)
  have hall : ∀ m, (c.locals m).phase = .returned 1 := by
    intro m
    exact hreturned m (by cases m <;> decide)
  have hstopped : ∀ m, (c.locals m).phase.Stopped := by
    intro m
    rw [hall m]
    trivial
  have hearlier : Run HistoryAct new [] new := .nil
  have hiff := (startOutcome hearlier hrun).oneNumber_iff hstopped
  exact ⟨tr, c, hrun, ⟨1, hall⟩, (hiff.mp ⟨1, hall⟩).2⟩

/-! ## Two modules that create one directory -/

/-- `cam` and `dcc` both find the base directory missing. -/
def racingTrace : Trace Module StartEvent :=
  [(.cam, .dirExists logBasePath false),
   (.dcc, .dirExists logBasePath false),
   (.cam, .createDir logBasePath),
   (.dcc, .createDir logBasePath)]

/-- On an empty directory, `dcc` exits, and nothing the others do makes up for it. -/
theorem not_oneNumber_racingTrace :
    ∃ c, Run LoadConfigAct (launched new) racingTrace c ∧ (c.locals .dcc).phase = .exited ∧
      ∀ tr' c', Run LoadConfigAct c tr' c' → ¬OneNumber c' := by
  have hmissing : logBasePath ∉ LogDirectory.empty.dirs := Finset.notMem_empty _
  have hnew : createDir logBasePath .empty = some ⟨{logBasePath}, ∅⟩ := by decide
  have hexists : createDir logBasePath ⟨{logBasePath}, ∅⟩ = none := by decide
  have hstart : Run LoadConfigAct (launched new) [] (launched new) := .nil
  have hcam := hstart.move .cam rfl (.missing hmissing)
  have hdcc := hcam.move .dcc rfl (.missing hmissing)
  have hcreated := hdcc.move .cam rfl (.created hnew)
  have hfailed := hcreated.move .dcc rfl (.failed hexists)
  exact ⟨_, hfailed, rfl, fun _ _ => not_oneNumber_of_exited (u := .dcc) rfl⟩

end OpenC2X.GlobalConfig
