import OpenC2X.Lib.Merge
import OpenC2X.Scripts.LogFiles
import OpenC2X.Scripts.LogInterleaver

/-!
# The merged log

On files that consist of records the interleaver is a merge of queues.  A reader in front of
some records has the first of them ready (`readerOf`), `readNewLine` moves it to the next one
(`returns_readNewLine_records`), and a round of the loop takes the head of the queue with the
least date (`returns_writeFirst_queues`).  So what is written are the records that a merge of
the queues takes (`returns_loop_queues`), with each record of each file once, in their order.

The files are those that `recentLogs` selects (`log_interleaver_merges`), which are all of
them if there are not too many, so that the logs of some modules are merged
(`log_interleaver_logs`).
-/

namespace OpenC2X.Scripts

/-! ## Readers in front of records -/

/-- The reader that has the first of the records ready. -/
def readerOf : List LogRecord → LogfileReader
  | [] => ⟨[], none⟩
  | a :: as => ⟨as.flatMap LogRecord.text, some (a.date, a.text)⟩

theorem readerOf_logLine_eq_none {records : List LogRecord} :
    (readerOf records).logLine = none ↔ records = [] := by
  cases records with
  | nil => exact iff_of_true rfl rfl
  | cons a as => exact iff_of_false (Option.some_ne_none _) (List.cons_ne_nil a as)

/-- A call of `readNewLine` takes the next record. -/
theorem returns_readNewLine_records (records : List LogRecord)
    (logLine : Option (List Char × List Char)) :
    Program.Returns (readNewLine ⟨records.flatMap LogRecord.text, logLine⟩)
      (.ok (readerOf records)) := by
  cases records with
  | nil => exact readNewLine_nil logLine
  | cons a as =>
      have hreturns := readNewLine_record a.isRecord (as.flatMap LogRecord.text) logLine
      rwa [a.parseLog_text] at hreturns

namespace LogFile

def queue (file : LogFile) : List Char × List LogRecord := (file.name, file.records)

end LogFile

theorem universalNewlines_eq_self {text : List Char} (h : '\r' ∉ text) :
    universalNewlines text = text := by
  fun_induction universalNewlines text with
  | case1 => rfl
  | case2 text => exact absurd List.mem_cons_self h
  | case3 c text _ ih =>
      rw [List.mem_cons, not_or] at h
      rw [if_neg (Ne.symm h.1), ih h.2]

/-- The reader of a file is in front of its records. -/
theorem returns_logfileReader (file : LogFile) :
    Program.Returns (logfileReader file.content)
      (.ok (if file.records = [] then none else some (readerOf file.records))) := by
  rw [logfileReader]
  by_cases hempty : file.records = []
  · rw [if_pos (file.content_eq_nil_iff.mpr hempty), if_pos hempty]
    exact Program.returns_pure.mpr rfl
  · rw [if_neg (file.content_eq_nil_iff.not.mpr hempty), if_neg hempty,
      universalNewlines_eq_self file.return_notMem_content]
    exact (returns_readNewLine_records file.records none).bind_ok (Program.returns_pure.mpr rfl)

/-- The readers of the files that are not empty. -/
theorem returns_openReaders (files : List LogFile) :
    Program.Returns (openReaders (files.map fun file => .ok file.content))
      (.ok (((files.map LogFile.queue).filter fun q => q.2 ≠ []).map fun q =>
        readerOf q.2)) := by
  induction files with
  | nil => exact Program.returns_pure.mpr rfl
  | cons file files ih =>
      refine Program.Returns.ofExcept_bind rfl ?_
      refine (returns_logfileReader file).bind_ok ?_
      refine ih.bind_ok (Program.returns_pure.mpr ?_)
      rw [List.map_cons, List.filter_cons]
      by_cases hempty : file.records = []
      · simp [LogFile.queue, hempty]
      · simp [LogFile.queue, hempty]

/-! ## The loop as a merge -/

/-- The readers are sorted by the dates of the heads. -/
def IsBefore (q q' : List Char × List LogRecord) : Prop :=
  (readerOf q.2).peekDate.getD [] ≤ (readerOf q'.2).peekDate.getD []

instance : DecidableRel IsBefore := fun _ _ => inferInstanceAs (Decidable (_ ≤ _))

instance : Std.Total IsBefore := ⟨fun _ _ => le_total _ _⟩

instance : IsTrans (List Char × List LogRecord) IsBefore := ⟨fun _ _ _ h h' => le_trans h h'⟩

theorem sortByDate_queues {queues : List (List Char × List LogRecord)}
    (h : ∀ q ∈ queues, q.2 ≠ []) :
    sortByDate (queues.map fun q => readerOf q.2) =
      .ok ((queues.insertionSort IsBefore).map fun q => readerOf q.2) := by
  rw [sortByDate_eq]
  · congr 1
    symm
    apply List.map_insertionSort
    exact fun q _ q' _ => Iff.rfl
  · intro r hr
    obtain ⟨q, hq, rfl⟩ := List.mem_map.mp hr
    exact readerOf_logLine_eq_none.not.mpr (h q hq)

/-- A round takes the head of the first queue. -/
theorem returns_writeFirst_queues {queues rest : List (List Char × List LogRecord)}
    (h : ∀ q ∈ queues, q.2 ≠ []) {name : List Char} {a : LogRecord} {as : List LogRecord}
    (hsorted : queues.insertionSort IsBefore = (name, a :: as) :: rest) (outLog : List Char) :
    Program.Returns (writeFirst (queues.map fun q => readerOf q.2, outLog))
      (.ok (.inl ((unlessEmpty (name, as) ++ rest).map fun q => readerOf q.2,
        outLog ++ a.text))) := by
  have hsort := sortByDate_queues h
  rw [hsorted] at hsort
  have hround := returns_writeFirst hsort rfl (returns_readNewLine_records as _) outLog
  cases as with
  | nil => exact hround
  | cons b bs => exact hround

/-- What has to be taken. -/
def total (queues : List (List Char × List LogRecord)) : ℕ := (queues.map (·.2.length)).sum

/-- The loop writes what a merge takes. -/
theorem returns_loop_queues (queues : List (List Char × List LogRecord))
    (h : ∀ q ∈ queues, q.2 ≠ []) (outLog : List Char) :
    ∃ out, Merges LogRecord.date queues out ∧
      Program.Returns (Program.loop writeFirst (queues.map fun q => readerOf q.2, outLog))
        (.ok (outLog ++ out.flatMap fun p => p.2.text)) := by
  induction hk : total queues using Nat.strongRecOn generalizing queues outLog with
  | ind k ih =>
      have hperm := List.perm_insertionSort IsBefore queues
      have hpairwise := List.pairwise_insertionSort IsBefore queues
      cases hsorted : queues.insertionSort IsBefore with
      | nil =>
          rw [hsorted] at hperm
          obtain rfl := List.nil_perm.mp hperm
          refine ⟨[], .nil, ?_⟩
          rw [List.flatMap_nil, List.append_nil]
          exact (returns_writeFirst_nil outLog).loop_inr
      | cons q rest =>
          rw [hsorted] at hperm hpairwise
          obtain ⟨name, records⟩ := q
          have hne : ∀ q ∈ (name, records) :: rest, q.2 ≠ [] := fun q hq =>
            h q (hperm.mem_iff.mp hq)
          obtain ⟨hrecords, hrest⟩ := List.forall_mem_cons.mp hne
          obtain ⟨a, as, rfl⟩ := List.exists_cons_of_ne_nil hrecords
          have hnext : ∀ q ∈ unlessEmpty (name, as) ++ rest, q.2 ≠ [] := by
            intro q hq
            rcases List.mem_append.mp hq with hq | hq
            · obtain ⟨has, rfl⟩ := mem_unlessEmpty.mp hq
              exact has
            · exact hrest q hq
          have htotal : total (unlessEmpty (name, as) ++ rest) < k := by
            have hsum : total queues = as.length + 1 + total rest := by
              rw [total, ← (hperm.map _).sum_eq, List.map_cons, List.sum_cons]
              rfl
            rw [← hk, hsum, total, List.map_append, List.sum_append, unlessEmpty]
            split <;> simp [total]
          obtain ⟨out, hmerges, hreturns⟩ := ih _ htotal _ hnext (outLog ++ a.text) rfl
          refine ⟨(name, a) :: out, .cons hperm.symm ?_ hmerges, ?_⟩
          · intro q hq b hb
            have hbefore := (List.pairwise_cons.mp hpairwise).1 q hq
            obtain ⟨bs, hbs⟩ := List.head?_eq_some_iff.mp hb
            rwa [IsBefore, hbs] at hbefore
          · rw [(returns_writeFirst_queues h hsorted outLog).loop_inl, List.flatMap_cons,
              ← List.append_assoc]
            exact hreturns

/-! ## The output -/

/-- Records with the names of their files, merged from some files. -/
structure Interleaved (files : List LogFile) (out : List (List Char × LogRecord)) : Prop where
  /-- There is nothing else. -/
  name_mem : ∀ p ∈ out, p.1 ∈ files.map LogFile.name
  /-- The records of each file are there once, in their order. -/
  records : ∀ file ∈ files, (out.filter (·.1 = file.name)).map Prod.snd = file.records
  /-- The dates do not decrease if they do not in any file. -/
  dates : (∀ file ∈ files, file.records.Pairwise fun a b => a.date ≤ b.date) →
    out.Pairwise fun p p' => p.2.date ≤ p'.2.date

/-- The script writes the records of some of the files of a directory, merged. -/
def WritesMerge (files selected : List LogFile) : Prop :=
  ∃ name out,
    Program.Returns (log_interleaver (files.map LogFile.entry))
      (.ok (name, out.flatMap fun p => p.2.text)) ∧
    Interleaved selected out

theorem Interleaved.of_merges {files : List LogFile} {out : List (List Char × LogRecord)}
    (hnames : (files.map LogFile.name).Nodup)
    (h : Merges LogRecord.date ((files.map LogFile.queue).filter fun q => q.2 ≠ []) out) :
    Interleaved files out := by
  have hqueues : (files.map LogFile.queue).map Prod.fst = files.map LogFile.name := by
    rw [List.map_map]
    rfl
  refine ⟨?_, ?_, ?_⟩
  · intro p hp
    rw [← hqueues]
    exact ((List.filter_sublist.map _).subset) (h.fst_mem hp)
  · intro file hfile
    exact h.map_snd_filter_of_filter (hqueues ▸ hnames) (List.mem_map_of_mem hfile)
  · intro hdates
    refine h.pairwise_key ?_
    intro q hq
    obtain ⟨file, hfile, rfl⟩ := List.mem_map.mp (List.mem_of_mem_filter hq)
    exact hdates file hfile

/-- A file is found by its name. -/
theorem openFile_name {files : List LogFile} (hnames : (files.map LogFile.name).Nodup)
    {file : LogFile} (hfile : file ∈ files) :
    openFile (files.map LogFile.entry) (logfile file.name) = .ok file.content := by
  have hlookup : (files.map LogFile.entry).lookup file.name = some file.content := by
    induction files with
    | nil => exact absurd hfile List.not_mem_nil
    | cons first files ih =>
        obtain ⟨hfirst, hnames⟩ := List.nodup_cons.mp hnames
        rw [List.map_cons, LogFile.entry, List.lookup_cons]
        rcases List.mem_cons.mp hfile with rfl | hfile
        · rw [BEq.rfl]
        · have hne : file.name ≠ first.name := fun heq =>
            hfirst (heq ▸ List.mem_map_of_mem hfile)
          rw [beq_false_of_ne hne]
          exact ih hnames hfile
  rw [openFile, fname_logfile file.isLog_name, hlookup]

theorem outName_selected {selected : List LogFile} (hne : selected ≠ []) :
    ∃ name, outName (selected.map fun file => logfile file.name) = .ok name := by
  obtain ⟨file, files, rfl⟩ := List.exists_cons_of_ne_nil hne
  have hsecond : 2 < (logfile file.name).length := by
    have hparts := file.parts
    omega
  refine ⟨"log_All_".toList ++ (logfile file.name).get ⟨2, hsecond⟩ ++ ".interLog".toList, ?_⟩
  simp [outName, List.getElem?_eq_getElem hsecond]

/-- The script selects `interleave_last_x_files` of the files, or all of them. -/
theorem recentLogs_spec (files : List LogFile) :
    ∃ selected : List LogFile,
      recentLogs (files.map LogFile.name) = .ok (selected.map fun file => logfile file.name) ∧
      selected.Subperm files ∧ selected.length = min interleave_last_x_files files.length := by
  have hperm := List.perm_insertionSort (fun a b : LogFile => b.key ≤ a.key) files
  refine ⟨_, recentLogs_eq (fun file _ => file.isLog_name)
    (fun file _ => file.getTimePlusDate_name), ?_, ?_⟩
  · exact (List.take_sublist _ _).subperm.trans hperm.subperm
  · rw [List.length_take, hperm.length_eq]

/-- The readers of the selected files are opened and merged. -/
theorem writesMerge_of_recentLogs {files selected : List LogFile}
    (hnames : (files.map LogFile.name).Nodup)
    (hrecent : recentLogs (files.map LogFile.name) =
      .ok (selected.map fun file => logfile file.name))
    (hselected : selected.Subperm files) (hne : selected ≠ []) : WritesMerge files selected := by
  have hselectedNames : (selected.map LogFile.name).Nodup := by
    obtain ⟨files', hsame, hsublist⟩ := hselected
    exact (hsame.map LogFile.name).nodup_iff.mp (hnames.sublist (hsublist.map LogFile.name))
  have hdirectory : recentLogs ((files.map LogFile.entry).map Prod.fst) =
      .ok (selected.map fun file => logfile file.name) := by
    rw [List.map_map]
    exact hrecent
  have hopen : (selected.map fun file => logfile file.name).map
      (openFile (files.map LogFile.entry)) = selected.map fun file => .ok file.content := by
    rw [List.map_map]
    exact List.map_congr_left fun file hfile => openFile_name hnames (hselected.subset hfile)
  have hreaders := returns_openReaders selected
  rw [← hopen] at hreaders
  obtain ⟨name, hname⟩ := outName_selected hne
  obtain ⟨out, hmerges, hmerge⟩ := returns_loop_queues
    ((selected.map LogFile.queue).filter fun q => q.2 ≠ [])
    (fun q hq => of_decide_eq_true (List.mem_filter.mp hq).2) []
  refine ⟨name, out, ?_, .of_merges hselectedNames hmerges⟩
  refine Program.Returns.ofExcept_bind hdirectory ?_
  refine hreaders.bind_ok ?_
  refine Program.Returns.ofExcept_bind hname ?_
  exact Program.Returns.bind_ok hmerge (Program.returns_pure.mpr rfl)

theorem Interleaved.of_perm {files files' : List LogFile} {out : List (List Char × LogRecord)}
    (hperm : files.Perm files') (h : Interleaved files out) : Interleaved files' out where
  name_mem p hp := (hperm.map LogFile.name).mem_iff.mp (h.name_mem p hp)
  records file hfile := h.records file (hperm.mem_iff.mpr hfile)
  dates hdates := h.dates fun file hfile => hdates file (hperm.mem_iff.mp hfile)

/-- If there are not too many files, none is left out. -/
theorem writesMerge_of_length_le {files : List LogFile} (hne : files ≠ [])
    (hnames : (files.map LogFile.name).Nodup) (hlength : files.length ≤ interleave_last_x_files) :
    WritesMerge files files := by
  obtain ⟨selected, hrecent, hselected, hcount⟩ := recentLogs_spec files
  rw [min_eq_right hlength] at hcount
  have hselectedNe : selected ≠ [] := by
    rw [← List.length_pos_iff, hcount]
    exact List.length_pos_iff.mpr hne
  obtain ⟨name, out, hreturns, hinterleaved⟩ :=
    writesMerge_of_recentLogs hnames hrecent hselected hselectedNe
  exact ⟨name, out, hreturns, hinterleaved.of_perm (hselected.perm_of_length_le hcount.ge)⟩

/-- A module that writes a log. -/
structure Run where
  logName : LogName
  oneWord : ∀ c ∈ logName.moduleName, isspace c = false
  messages : List Message

namespace Run

def file (r : Run) : LogFile := r.logName.logFile (r.messages.map (ofMessage r.oneWord))

def logger (r : Run) : LoggingUtility :=
  logAll (LoggingUtility.new r.logName.moduleName [] r.logName.expNo r.logName.timeinfo) r.messages

end Run

/-- The logs of some modules are merged: the messages of each module are in the output, in
their order. -/
theorem log_interleaver_logs {runs : List Run} (hne : runs ≠ [])
    (hnames : (runs.map fun r => r.logName.text).Nodup)
    (hlength : runs.length ≤ interleave_last_x_files) :
    ∃ name out,
      Program.Returns
        (log_interleaver (runs.map fun r => (r.logger.logsPath, r.logger.log)))
        (.ok (name, out.flatMap fun p => p.2.text)) ∧
      Interleaved (runs.map Run.file) out := by
  have hdirectory : runs.map (fun r => (r.logger.logsPath, r.logger.log)) =
      (runs.map Run.file).map LogFile.entry := by
    rw [List.map_map]
    exact List.map_congr_left fun r _ => (entry_logAll r.logName r.oneWord r.messages).symm
  rw [hdirectory]
  refine writesMerge_of_length_le (mt List.map_eq_nil_iff.mp hne) ?_ ?_
  · rw [List.map_map]
    exact hnames
  · rwa [List.length_map]

def sentCam : Message where
  timeinfo := Utils.utc 36000
  msec := 0
  level := .info
  message := "Send new CAM to DCC and LDM\n".toList
  noTerminator := by decide
  noReturn := by decide

def emptyLine : Message where
  timeinfo := Utils.utc 36000
  msec := 1
  level := .info
  message := []
  noTerminator := by decide
  noReturn := by decide

/-- CaService logs two messages and Dcc one. -/
def twoRuns : List Run :=
  [⟨restarted.get ⟨0, by decide⟩, isspace_of_all (by decide), [sentCam, sentCam]⟩,
    ⟨restarted.get ⟨2, by decide⟩, isspace_of_all (by decide), [emptyLine]⟩]

theorem log_interleaver_logs_two : ∃ name out,
    Program.Returns
      (log_interleaver (twoRuns.map fun r => (r.logger.logsPath, r.logger.log)))
      (.ok (name, out.flatMap fun p => p.2.text)) ∧
    Interleaved (twoRuns.map Run.file) out :=
  log_interleaver_logs (List.cons_ne_nil _ _) (by decide +kernel) (by decide)

/-- From a directory of log files the script selects some, at most `interleave_last_x_files`,
and writes their records. -/
theorem log_interleaver_merges (files : List LogFile) (hne : files ≠ [])
    (hnames : (files.map LogFile.name).Nodup) :
    ∃ selected : List LogFile,
      recentLogs (files.map LogFile.name) = .ok (selected.map fun file => logfile file.name) ∧
      selected.Subperm files ∧ selected.length = min interleave_last_x_files files.length ∧
      WritesMerge files selected := by
  obtain ⟨selected, hrecent, hselected, hlength⟩ := recentLogs_spec files
  refine ⟨selected, hrecent, hselected, hlength, ?_⟩
  refine writesMerge_of_recentLogs hnames hrecent hselected ?_
  rw [← List.length_pos_iff, hlength]
  exact lt_min (by decide) (List.length_pos_iff.mpr hne)

def started : LogRecord where
  text := "Dcc, 10:00:00,000 \t INFO \t started \t\t\n".toList
  isRecord := ⟨by decide, by decide⟩
  words := by decide
  noReturn := by decide

def restart : LogRecord where
  text := "CaService, 09:30:00,000 \t INFO \t again \t\t\n".toList
  isRecord := ⟨by decide, by decide⟩
  words := by decide
  noReturn := by decide

/-- A log with one record, an empty one, and one with two records. -/
def threeLogs : List LogFile :=
  List.zipWith LogName.logFile restarted [[restart], [], [started, started]]

theorem log_interleaver_merges_three :
    ∃ selected : List LogFile,
      recentLogs (threeLogs.map LogFile.name) =
        .ok (selected.map fun file => logfile file.name) ∧
      selected.Subperm threeLogs ∧ selected.length = min interleave_last_x_files 3 ∧
      WritesMerge threeLogs selected :=
  log_interleaver_merges threeLogs (List.cons_ne_nil _ _) (by decide +kernel)

/-- Six logs with one record each. -/
def sixLogs : List LogFile :=
  List.zipWith LogName.logFile restarted ([restart] :: List.replicate 5 [started])

/-- Of six logs one is not in the output. -/
theorem not_writesMerge : ¬WritesMerge sixLogs sixLogs := by
  rintro ⟨name, out, hreturns, hinterleaved⟩
  have hrun : Program.Returns (log_interleaver (sixLogs.map LogFile.entry))
      (.ok ("log_All_Obd2Service.interLog".toList,
        (List.replicate 5 started.text).flatten)) := ⟨10, by decide +kernel⟩
  obtain ⟨-, htext⟩ := Prod.mk.inj (Except.ok.inj (hreturns.unique hrun))
  have hrecords := hinterleaved.records _ (List.mem_cons_self : _ ∈ sixLogs)
  have hsublist : [restart].Sublist (out.map Prod.snd) := by
    rw [← show _ = [restart] from hrecords]
    exact List.filter_sublist.map Prod.snd
  obtain ⟨p, hp, hrestart⟩ := List.mem_map.mp (hsublist.subset List.mem_cons_self)
  -- the missing record has a letter that the others do not have
  have hletter : 'g' ∈ out.flatMap fun p => p.2.text :=
    List.mem_flatMap.mpr ⟨p, hp, by rw [hrestart]; decide⟩
  rw [htext] at hletter
  exact absurd hletter (by decide)

end OpenC2X.Scripts
