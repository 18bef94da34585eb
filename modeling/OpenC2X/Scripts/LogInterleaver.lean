import OpenC2X.Scripts.RecentLogs

/-!
# The log interleaver

`log_interleaver.py` opens a reader for each of the recent logs, sorts the readers by the
dates of their next records, writes the record of the first one and starts again, until no
reader is left.  A reader is dropped at the end of its file, so those that are sorted always
have a record (`IsOpen`).

A round of the loop shortens what is not read or drops a reader, so the loop terminates if
the calls on the files do (`terminates_merge`).  They need not (`allTerminate_iff`): a file
that stops in the middle of a record is never finished.
-/

namespace OpenC2X.Scripts

/-! ## The script -/

namespace LogfileReader

def peekDate (r : LogfileReader) : Option (List Char) := r.logLine.map Prod.fst

/-- The text of the record, and the reader with the next one. -/
def popLog (r : LogfileReader) : Program PyError (Option (List Char) × LogfileReader) := do
  let log := r.logLine.map Prod.snd
  let r ← readNewLine r
  return (log, r)

end LogfileReader

/-- `logReaders.sort(key=logfileReader.peekDate)`: no string is compared with `None`. -/
def sortByDate (logReaders : List LogfileReader) : Except PyError (List LogfileReader) :=
  if 2 ≤ logReaders.length ∧ ∃ r ∈ logReaders, r.peekDate = none then .error .TypeError
  else .ok (logReaders.insertionSort fun a b => a.peekDate.getD [] ≤ b.peekDate.getD [])

/-- One round of the loop. -/
def writeFirst : List LogfileReader × List Char →
    Program PyError ((List LogfileReader × List Char) ⊕ List Char)
  | (logReaders, outLog) => do
      match ← Program.ofExcept (sortByDate logReaders) with
      | [] => return .inr outLog
      | first :: rest =>
          match ← first.popLog with
          | (none, _) => Program.raise .TypeError
          | (some log, first) =>
              let logReaders := if first.peekDate = none then rest else first :: rest
              return .inl (logReaders, outLog ++ log)

def merge (logReaders : List LogfileReader) : Program PyError (List Char) :=
  Program.loop writeFirst (logReaders, [])

/-- A file is read, unless it is missing. -/
def openReaders : List (Except PyError (List Char)) → Program PyError (List LogfileReader)
  | [] => return []
  | file :: files => do
      let content ← Program.ofExcept file
      let lr ← logfileReader content
      let logReaders ← openReaders files
      return lr.toList ++ logReaders

/-- Opens the readers of some files and merges them. -/
def interleave (contents : List (List Char)) : Program PyError (List Char) := do
  let logReaders ← openReaders (contents.map .ok)
  merge logReaders

def openFile (directory : List (List Char × List Char)) (logfile : List (List Char)) :
    Except PyError (List Char) :=
  match directory.lookup (fname logfile) with
  | some content => .ok content
  | none => .error .FileNotFoundError

/-- `"log_All_"+recentLogs[0][2]+".interLog"` -/
def outName (recentLogs : List (List (List Char))) : Except PyError (List Char) :=
  match recentLogs[0]? with
  | some logfile =>
      match logfile[2]? with
      | some second => .ok ("log_All_".toList ++ second ++ ".interLog".toList)
      | none => .error .IndexError
  | none => .error .IndexError

/-- The name of the output and what it contains, for a directory of names and contents. -/
def log_interleaver (directory : List (List Char × List Char)) :
    Program PyError (List Char × List Char) := do
  let recentLogs ← Program.ofExcept (recentLogs (directory.map Prod.fst))
  let logReaders ← openReaders (recentLogs.map (openFile directory))
  let name ← Program.ofExcept (outName recentLogs)
  let outLog ← merge logReaders
  return (name, outLog)

/-- Other files do not matter. -/
theorem log_interleaver_filter (directory : List (List Char × List Char)) :
    log_interleaver (directory.filter fun file => isLog file.1) = log_interleaver directory := by
  have hopen : openFile (directory.filter fun file => isLog file.1) = openFile directory := by
    funext logfile
    have hlookup : (directory.filter fun file => isLog file.1).lookup (fname logfile) =
        directory.lookup (fname logfile) := by
      induction directory with
      | nil => rfl
      | cons file directory ih =>
          rw [List.filter_cons, List.lookup_cons]
          by_cases hname : fname logfile = file.1
          · rw [if_pos (hname ▸ isLog_append _), List.lookup_cons, hname]
            simp
          · rw [beq_false_of_ne hname]
            split
            · rw [List.lookup_cons, beq_false_of_ne hname]
              exact ih
            · exact ih
    rw [openFile, hlookup, openFile]
  have hnames : (directory.filter fun file => isLog file.1).map Prod.fst =
      (directory.map Prod.fst).filter isLog := by
    rw [List.filter_map]
    rfl
  rw [log_interleaver, hopen, hnames, recentLogs_filter, log_interleaver]

/-! ## Open readers -/

/-- A reader with a record, and a file on which all calls terminate. -/
structure IsOpen (r : LogfileReader) : Prop where
  logLine : r.logLine ≠ none
  calls : CallsTerminate r

/-- At the end of a file nothing is left; otherwise a call takes a record. -/
theorem readNewLine_cases {r next : LogfileReader}
    (h : Program.Returns (readNewLine r) (.ok next)) :
    (r.f = [] ∧ next.logLine = none) ∨ (next.logLine ≠ none ∧ next.f.length < r.f.length) := by
  obtain ⟨f, logLine⟩ := r
  rcases records_cases f with ⟨-, -, hnone⟩ | ⟨record, rest, rfl, hrecord, -, -⟩
  · by_cases hf : f = []
    · subst hf
      obtain rfl := Except.ok.inj (h.unique (readNewLine_nil logLine))
      exact .inl ⟨rfl, rfl⟩
    · exact absurd ⟨_, h⟩ (not_terminates_readNewLine hnone hf logLine)
  · have hreturns := readNewLine_record hrecord rest logLine
    cases hlog : parseLog record with
    | error e =>
        rw [hlog] at hreturns
        exact nomatch h.unique hreturns
    | ok log =>
        rw [hlog] at hreturns
        obtain rfl := Except.ok.inj (h.unique hreturns)
        have hpos := List.length_pos_iff.mpr hrecord.ne_nil
        refine .inr ⟨Option.some_ne_none log, ?_⟩
        show rest.length < (record ++ rest).length
        rw [List.length_append]
        omega

/-- Open readers are sorted, and nothing else happens to them. -/
theorem sortByDate_eq {logReaders : List LogfileReader}
    (h : ∀ r ∈ logReaders, r.logLine ≠ none) :
    sortByDate logReaders =
      .ok (logReaders.insertionSort fun a b => a.peekDate.getD [] ≤ b.peekDate.getD []) := by
  rw [sortByDate, if_neg]
  rintro ⟨-, r, hr, hnone⟩
  exact h r hr (Option.map_eq_none_iff.mp hnone)

section

variable {logReaders rest : List LogfileReader} {first : LogfileReader}

/-- The end of the loop. -/
theorem returns_writeFirst_nil (outLog : List Char) :
    Program.Returns (writeFirst ([], outLog)) (.ok (.inr outLog)) :=
  Program.Returns.ofExcept_bind (a := []) rfl (Program.returns_pure.mpr rfl)

/-- A round writes the record of the first reader. -/
theorem returns_writeFirst (hsort : sortByDate logReaders = .ok (first :: rest))
    {date log : List Char} (hlog : first.logLine = some (date, log)) {next : LogfileReader}
    (hread : Program.Returns (readNewLine first) (.ok next)) (outLog : List Char) :
    Program.Returns (writeFirst (logReaders, outLog))
      (.ok (.inl (if next.logLine = none then rest else next :: rest, outLog ++ log))) := by
  have hpop : Program.Returns first.popLog (.ok (some log, next)) := by
    refine hread.bind_ok (Program.returns_pure.mpr ?_)
    rw [hlog]
    rfl
  refine Program.Returns.ofExcept_bind hsort ?_
  refine hpop.bind_ok (Program.returns_pure.mpr ?_)
  simp only [LogfileReader.peekDate, Option.map_eq_none_iff]

/-- An exception of the first reader ends the script. -/
theorem returns_writeFirst_error (hsort : sortByDate logReaders = .ok (first :: rest))
    {e : PyError} (hread : Program.Returns (readNewLine first) (.error e)) (outLog : List Char) :
    Program.Returns (writeFirst (logReaders, outLog)) (.error e) := by
  refine Program.Returns.ofExcept_bind hsort ?_
  exact Program.Returns.bind_error hread.bind_error

end

/-! ## The end of the merge -/

/-- What is not written yet, and the readers. -/
def remaining (logReaders : List LogfileReader) : ℕ :=
  (logReaders.map fun r => r.f.length + 1).sum

/-- A round on open readers leaves open readers and less to do. -/
theorem writeFirst_round {logReaders : List LogfileReader} (h : ∀ r ∈ logReaders, IsOpen r)
    (outLog : List Char) :
    ∃ outcome, Program.Returns (writeFirst (logReaders, outLog)) outcome ∧
      ∀ s', outcome = .ok (.inl s') →
        (∀ r ∈ s'.1, IsOpen r) ∧ remaining s'.1 < remaining logReaders := by
  have hsort := sortByDate_eq fun r hr => (h r hr).logLine
  have hperm := List.perm_insertionSort
    (fun a b : LogfileReader => a.peekDate.getD [] ≤ b.peekDate.getD []) logReaders
  cases hsorted : logReaders.insertionSort
      (fun a b : LogfileReader => a.peekDate.getD [] ≤ b.peekDate.getD []) with
  | nil =>
      rw [hsorted] at hperm
      obtain rfl := List.nil_perm.mp hperm
      refine ⟨_, returns_writeFirst_nil outLog, ?_⟩
      exact fun s' hs' => nomatch hs'
  | cons first rest =>
      rw [hsorted] at hperm hsort
      have hopen : ∀ r ∈ first :: rest, IsOpen r := fun r hr => h r (hperm.mem_iff.mp hr)
      obtain ⟨⟨hlogLine, hcalls⟩, hrest⟩ := List.forall_mem_cons.mp hopen
      obtain ⟨⟨date, log⟩, hlog⟩ := Option.ne_none_iff_exists'.mp hlogLine
      have hremaining : remaining logReaders = first.f.length + 1 + remaining rest := by
        rw [remaining, ← (hperm.map _).sum_eq, List.map_cons, List.sum_cons]
        rfl
      obtain ⟨outcome, hread⟩ := hcalls first .start
      cases outcome with
      | error e =>
          refine ⟨_, returns_writeFirst_error hsort hread outLog, ?_⟩
          exact fun s' hs' => nomatch hs'
      | ok next =>
          refine ⟨_, returns_writeFirst hsort hlog hread outLog, ?_⟩
          rintro s' hs'
          obtain rfl := Sum.inl.inj (Except.ok.inj hs')
          rw [hremaining]
          split
          · refine ⟨hrest, ?_⟩
            show remaining rest < _
            omega
          · next hnext =>
              have hshorter := ((readNewLine_cases hread).resolve_left fun hend =>
                hnext hend.2).2
              refine ⟨List.forall_mem_cons.mpr ⟨?_, hrest⟩, ?_⟩
              · exact ⟨hnext, (callsTerminate_of_next hread).mp hcalls⟩
              · show next.f.length + 1 + remaining rest < _
                omega

theorem terminates_merge {logReaders : List LogfileReader} (h : ∀ r ∈ logReaders, IsOpen r) :
    Program.Terminates (merge logReaders) := by
  refine Program.terminates_loop (fun s => ∀ r ∈ s.1, IsOpen r) (fun s => remaining s.1) ?_ h
  rintro ⟨logReaders, outLog⟩ hopen
  exact writeFirst_round hopen outLog

/-! ## Opening the readers -/

theorem universalNewlines_ne_nil {text : List Char} (h : text ≠ []) :
    universalNewlines text ≠ [] := by
  fun_cases universalNewlines text with
  | case1 => exact absurd rfl h
  | case2 => exact List.cons_ne_nil _ _
  | case3 => exact List.cons_ne_nil _ _

/-- The reader of a file is open. -/
theorem logfileReader_spec {content : List Char} (h : Ends (universalNewlines content)) :
    Program.Terminates (logfileReader content) ∧
      ∀ lr, Program.Returns (logfileReader content) (.ok lr) → ∀ r ∈ lr, IsOpen r := by
  have hcalls := (callsTerminate_iff _ none).mpr h
  rw [logfileReader]
  split
  · refine ⟨Program.terminates_pure _, ?_⟩
    intro lr hlr r hr
    rw [Except.ok.inj (Program.returns_pure.mp hlr)] at hr
    exact absurd hr (Option.not_mem_none r)
  · next hne =>
      refine ⟨Program.terminates_bind (hcalls _ .start) fun _ _ => Program.terminates_pure _, ?_⟩
      intro lr hlr r hr
      obtain ⟨next, hread, hpure⟩ := hlr.exists_of_bind
      rw [Except.ok.inj (Program.returns_pure.mp hpure)] at hr
      obtain rfl := Option.some.inj hr
      refine ⟨?_, (callsTerminate_of_next hread).mp hcalls⟩
      exact ((readNewLine_cases hread).resolve_left fun hend =>
        universalNewlines_ne_nil hne hend.1).1

/-- The readers of the files are open. -/
theorem openReaders_spec {files : List (Except PyError (List Char))}
    (h : ∀ content, .ok content ∈ files → Ends (universalNewlines content)) :
    Program.Terminates (openReaders files) ∧
      ∀ logReaders, Program.Returns (openReaders files) (.ok logReaders) →
        ∀ r ∈ logReaders, IsOpen r := by
  induction files with
  | nil =>
      refine ⟨Program.terminates_pure _, ?_⟩
      intro logReaders hreaders r hr
      rw [Except.ok.inj (Program.returns_pure.mp hreaders)] at hr
      exact absurd hr List.not_mem_nil
  | cons file files ih =>
      obtain ⟨hterminates, hopen⟩ := ih fun content hin => h content (List.mem_cons_of_mem _ hin)
      have hfirst : ∀ content, Program.Returns (Program.ofExcept file) (.ok content) →
          Ends (universalNewlines content) := fun content hcontent =>
        h content ((Program.returns_ofExcept.mp hcontent) ▸ List.mem_cons_self)
      constructor
      · refine Program.terminates_bind (Program.terminates_ofExcept file) ?_
        intro content hcontent
        refine Program.terminates_bind (logfileReader_spec (hfirst content hcontent)).1 ?_
        intro lr _
        exact Program.terminates_bind hterminates fun _ _ => Program.terminates_pure _
      · intro logReaders hreaders
        obtain ⟨content, hcontent, hreaders⟩ := hreaders.exists_of_bind
        obtain ⟨lr, hlr, hreaders⟩ := hreaders.exists_of_bind
        obtain ⟨others, hothers, hpure⟩ := hreaders.exists_of_bind
        rw [Except.ok.inj (Program.returns_pure.mp hpure)]
        intro r hr
        rcases List.mem_append.mp hr with hr | hr
        · exact (logfileReader_spec (hfirst content hcontent)).2 lr hlr r (Option.mem_toList.mp hr)
        · exact hopen others hothers r hr

/-! ## Termination -/

theorem mem_of_openFile {directory : List (List Char × List Char)} {logfile : List (List Char)}
    {content : List Char} (h : openFile directory logfile = .ok content) :
    (fname logfile, content) ∈ directory := by
  rw [openFile] at h
  split at h
  · next hlookup =>
      obtain rfl := Except.ok.inj h
      obtain ⟨before, behind, rfl, -⟩ := List.lookup_eq_some_iff.mp hlookup
      exact List.mem_append_right before List.mem_cons_self
  · exact nomatch h

/-- The script ends on a directory whose files have no tail that is reached. -/
theorem terminates_log_interleaver {directory : List (List Char × List Char)}
    (h : ∀ file ∈ directory, Ends (universalNewlines file.2)) :
    Program.Terminates (log_interleaver directory) := by
  have hends : ∀ recent : List (List (List Char)), ∀ content,
      .ok content ∈ recent.map (openFile directory) → Ends (universalNewlines content) := by
    intro recent content hin
    obtain ⟨logfile, -, hfile⟩ := List.mem_map.mp hin
    exact h _ (mem_of_openFile hfile)
  refine Program.terminates_bind (Program.terminates_ofExcept _) ?_
  intro recent _
  obtain ⟨hterminates, hopen⟩ := openReaders_spec (hends recent)
  refine Program.terminates_bind hterminates ?_
  intro logReaders hreaders
  refine Program.terminates_bind (Program.terminates_ofExcept _) ?_
  intro name _
  exact Program.terminates_bind (terminates_merge (hopen logReaders hreaders)) fun _ _ =>
    Program.terminates_pure _

/-- Every call of `readNewLine` on a file terminates, and so does the merge of the files. -/
def AllTerminate (contents : List (List Char)) : Prop :=
  (∀ content ∈ contents, CallsTerminate ⟨universalNewlines content, none⟩) ∧
    Program.Terminates (interleave contents)

/-- The reader ends on a file, and the merge of such files ends, if and only if no file has
a tail that is reached. -/
theorem allTerminate_iff (contents : List (List Char)) :
    AllTerminate contents ↔ ∀ content ∈ contents, Ends (universalNewlines content) := by
  constructor
  · exact fun h content hin => (callsTerminate_iff _ none).mp (h.1 content hin)
  · intro h
    have hends : ∀ content, (.ok content : Except PyError (List Char)) ∈ contents.map .ok →
        Ends (universalNewlines content) := by
      intro content hin
      obtain ⟨content', hin', heq⟩ := List.mem_map.mp hin
      obtain rfl := Except.ok.inj heq
      exact h content' hin'
    obtain ⟨hterminates, hopen⟩ := openReaders_spec hends
    refine ⟨fun content hin => (callsTerminate_iff _ none).mpr (h content hin), ?_⟩
    exact Program.terminates_bind hterminates fun logReaders hreaders =>
      terminates_merge (hopen logReaders hreaders)

/-- A module was killed when it had written its name. -/
theorem not_allTerminate : ¬AllTerminate ["CaService, ".toList] := by
  intro h
  have hcalls := h.1 _ List.mem_cons_self
  rw [callsTerminate_iff] at hcalls
  exact absurd hcalls (by decide)

end OpenC2X.Scripts
