import OpenC2X.Lib.Lines
import OpenC2X.Lib.Program
import Mathlib.Data.List.Infix

/-!
# Reading logs

`log_interleaver.py` reads a log file record by record: a `logfileReader` has the next record
ready, and `readNewLine` reads lines until the text that it has gathered ends with two tabs
and a newline.  `records` cuts a text in this way, into records and a tail without a
terminator.

`readNewLine` returns at the end of the file if nothing has been gathered.  At a tail it goes
on to read nothing for ever (`not_terminates_readNewLine`).  So every call on a file
terminates if the file has no tail, or if an earlier record has no date, which ends the
script (`callsTerminate_iff`).
-/

namespace OpenC2X.Scripts

/-! ## Python -/

inductive PyError
  | IndexError
  | TypeError
  | FileNotFoundError
  deriving DecidableEq

def isspace (c : Char) : Bool :=
  ('\t' ≤ c && c ≤ '\r') || ('\x1c' ≤ c && c ≤ ' ') || c = '\x85' || c = '\xa0' ||
    c = '\u1680' || ('\u2000' ≤ c && c ≤ '\u200a') || c = '\u2028' || c = '\u2029' ||
    c = '\u202f' || c = '\u205f' || c = '\u3000'

/-- `text.split(None, maxsplit)` -/
def split : ℕ → List Char → List (List Char)
  | 0, text =>
      let rest := text.dropWhile isspace
      if rest = [] then [] else [rest]
  | maxsplit + 1, text =>
      let rest := text.dropWhile isspace
      if rest = [] then []
      else rest.takeWhile (!isspace ·) :: split maxsplit (rest.dropWhile (!isspace ·))

/-- `line[-3:]` -/
def lastThree (line : List Char) : List Char := line.drop (line.length - 3)

/-- What a file opened in text mode contains. -/
def universalNewlines : List Char → List Char
  | [] => []
  | '\r' :: '\n' :: text => '\n' :: universalNewlines text
  | c :: text => (if c = '\r' then '\n' else c) :: universalNewlines text

/-! ## The reader -/

def terminator : List Char := ['\t', '\t', '\n']

/-- A reader with a file. -/
structure LogfileReader where
  /-- What has not been read of the file. -/
  f : List Char
  /-- The date and the text of the next record; `[None, None]` at the end. -/
  logLine : Option (List Char × List Char)
  deriving DecidableEq

/-- The date is the second word. -/
def parseLog (log : List Char) : Except PyError (List Char × List Char) :=
  match (split 2 log)[1]? with
  | some date => .ok (date, log)
  | none => .error .IndexError

/-- One round of the loop, with the text gathered so far and the rest of the file. -/
def readLine : List Char × List Char →
    Program PyError ((List Char × List Char) ⊕ LogfileReader)
  | (line, f) =>
      if lastThree line = terminator then do
        let logLine ← Program.ofExcept (parseLog line)
        return .inr ⟨f, some logLine⟩
      else
        let line := line ++ (readline f).1
        if line = [] then return .inr ⟨(readline f).2, none⟩ -- EOF
        else return .inl (line, (readline f).2)

def readNewLine (r : LogfileReader) : Program PyError LogfileReader :=
  Program.loop readLine ([], r.f)

/-- `__init__`: an empty file is not opened. -/
def logfileReader (content : List Char) : Program PyError (Option LogfileReader) :=
  if content = [] then return none
  else do
    let r ← readNewLine ⟨universalNewlines content, none⟩
    return some r

/-! ## Records -/

/-- A text that ends with a terminator and has no other one. -/
structure IsRecord (r : List Char) : Prop where
  ends : terminator <:+ r
  only : ¬terminator <:+: r.dropLast

/-- Cuts a text behind each terminator.  `line` is what comes before the text. -/
def cut : List Char → List Char → List (List Char) × List Char
  | line, [] => ([], line)
  | line, c :: text =>
      if terminator <:+ line ++ [c] then ((line ++ [c]) :: (cut [] text).1, (cut [] text).2)
      else cut (line ++ [c]) text

/-- The records of a text, and the tail behind them. -/
def records (text : List Char) : List (List Char) × List Char := cut [] text

theorem lastThree_eq_terminator {line : List Char} :
    lastThree line = terminator ↔ terminator <:+ line := by
  constructor
  · intro h
    rw [← h]
    exact List.drop_suffix _ _
  · rintro ⟨u, rfl⟩
    rw [lastThree, List.length_append, show terminator.length = 3 from rfl, Nat.add_sub_cancel]
    exact List.drop_left

theorem IsRecord.ne_nil {r : List Char} (h : IsRecord r) : r ≠ [] := by
  rintro rfl
  exact absurd (List.suffix_nil.mp h.ends) (by decide)

/-- What stands in front of the end of a record has no terminator. -/
theorem IsRecord.not_infix {r line u : List Char} (h : IsRecord r) (hr : r = line ++ u)
    (hu : u ≠ []) : ¬terminator <:+: line := by
  intro hline
  apply h.only
  rw [hr, List.dropLast_append_of_ne_nil hu]
  exact hline.trans (List.prefix_append _ _).isInfix

/-- What the first cut leaves. -/
theorem cut_spec (line text : List Char) (hline : ¬terminator <:+: line) :
    ((cut line text).1 = [] ∧ (cut line text).2 = line ++ text ∧
      ¬terminator <:+: line ++ text) ∨
    ∃ u rest, text = u ++ rest ∧ IsRecord (line ++ u) ∧ u ≠ [] ∧
      (cut line text).1 = (line ++ u) :: (records rest).1 ∧
      (cut line text).2 = (records rest).2 := by
  induction text generalizing line with
  | nil =>
      rw [List.append_nil]
      exact .inl ⟨rfl, rfl, hline⟩
  | cons c text ih =>
      by_cases hend : terminator <:+ line ++ [c]
      · refine .inr ⟨[c], text, rfl, ⟨hend, ?_⟩, List.cons_ne_nil _ _, ?_, ?_⟩
        · rwa [List.dropLast_concat]
        · rw [cut, if_pos hend]
          rfl
        · rw [cut, if_pos hend]
          rfl
      · have hnext : ¬terminator <:+: line ++ [c] := by
          rw [List.infix_concat_iff, not_or]
          exact ⟨hend, hline⟩
        have happend : ∀ v, line ++ [c] ++ v = line ++ c :: v := fun v => by
          rw [List.append_assoc, List.singleton_append]
        rw [cut, if_neg hend, ← happend text]
        rcases ih _ hnext with htail | ⟨u, rest, rfl, hrecord, -, hcut⟩
        · exact .inl htail
        · refine .inr ⟨c :: u, rest, rfl, ?_, List.cons_ne_nil _ _, ?_⟩
          · rwa [← happend u]
          · rwa [← happend u]

/-- A text without a record is its tail; otherwise it starts with its first record. -/
theorem records_cases (text : List Char) :
    ((records text).1 = [] ∧ (records text).2 = text ∧ ¬terminator <:+: text) ∨
    ∃ r rest, text = r ++ rest ∧ IsRecord r ∧ (records text).1 = r :: (records rest).1 ∧
      (records text).2 = (records rest).2 := by
  rcases cut_spec [] text (by decide) with ⟨hrecords, htail, hnone⟩ |
    ⟨r, rest, htext, hrecord, -, hrecords, htail⟩
  · exact .inl ⟨hrecords, htail, hnone⟩
  · exact .inr ⟨r, rest, htext, hrecord, hrecords, htail⟩

/-! ## What the reader returns -/

theorem readNewLine_nil (logLine : Option (List Char × List Char)) :
    Program.Returns (readNewLine ⟨[], logLine⟩) (.ok ⟨[], none⟩) :=
  Program.Returns.loop_inr (Program.returns_pure.mpr rfl)

/-- A round that reads a line. -/
theorem returns_readLine {line : List Char} (f : List Char) (hgo : ¬terminator <:+ line)
    (hne : line ++ (readline f).1 ≠ []) :
    Program.Returns (readLine (line, f)) (.ok (.inl (line ++ (readline f).1, (readline f).2))) := by
  rw [readLine, if_neg (lastThree_eq_terminator.not.mpr hgo)]
  simp only [if_neg hne]
  exact Program.returns_pure.mpr rfl

theorem IsRecord.getLast?_eq {r : List Char} (h : IsRecord r) : r.getLast? = some '\n' := by
  obtain ⟨v, hv⟩ := h.ends
  rw [← hv, List.getLast?_append_of_ne_nil v (show terminator ≠ [] by decide)]
  rfl

/-- Behind a part of a record the reader gathers the rest of it. -/
theorem returns_loop_record {r : List Char} (h : IsRecord r) (rest : List Char) {line u : List Char}
    (hr : r = line ++ u) {outcome : Except PyError LogfileReader}
    (hend : Program.Returns (Program.loop readLine (r, rest)) outcome) :
    Program.Returns (Program.loop readLine (line, u ++ rest)) outcome := by
  induction hk : u.length using Nat.strongRecOn generalizing line u with
  | ind k ih =>
      by_cases hu : u = []
      · rw [hu, List.nil_append]
        rwa [hr, hu, List.append_nil] at hend
      -- the rest of the record ends with a newline, so it is read up to its first one
      have hlast := h.getLast?_eq
      rw [hr, List.getLast?_append_of_ne_nil _ hu] at hlast
      obtain ⟨first, others, rfl, hfirst⟩ :=
        List.eq_append_cons_of_mem (List.mem_of_getLast? hlast)
      have hread : readline (first ++ '\n' :: others ++ rest) =
          (first ++ ['\n'], others ++ rest) := by
        rw [List.append_assoc, List.cons_append, readline_append_newline hfirst]
      have hround := returns_readLine (first ++ '\n' :: others ++ rest)
        (fun hsuffix => h.not_infix hr hu hsuffix.isInfix) (by rw [hread]; simp)
      rw [hread] at hround
      rw [hround.loop_inl]
      refine ih others.length ?_ ?_ rfl
      · rw [← hk, List.length_append, List.length_cons]
        omega
      · rw [hr]
        simp

/-- A record is returned if it has a date, and an exception is raised if not. -/
theorem readNewLine_record {r : List Char} (h : IsRecord r) (rest : List Char)
    (logLine : Option (List Char × List Char)) :
    Program.Returns (readNewLine ⟨r ++ rest, logLine⟩)
      ((parseLog r).map fun log => ⟨rest, some log⟩) := by
  refine returns_loop_record h rest rfl ?_
  have hround : ∀ outcome, parseLog r = outcome →
      Program.Returns (readLine (r, rest)) (outcome.map fun log => .inr ⟨rest, some log⟩) := by
    intro outcome houtcome
    rw [readLine, if_pos (lastThree_eq_terminator.mpr h.ends)]
    cases outcome with
    | ok log =>
        exact Program.Returns.ofExcept_bind houtcome (Program.returns_pure.mpr rfl)
    | error e => exact (Program.returns_ofExcept.mpr houtcome.symm).bind_error
  cases hlog : parseLog r with
  | ok log => exact (hround _ hlog).loop_inr
  | error e => exact (hround _ hlog).loop_error

/-- At a tail the reader reads nothing for ever. -/
theorem not_terminates_readNewLine {tail : List Char} (h : ¬terminator <:+: tail)
    (hne : tail ≠ []) (logLine : Option (List Char × List Char)) :
    ¬Program.Terminates (readNewLine ⟨tail, logLine⟩) := by
  refine Program.not_terminates_loop (fun s => s.1 ++ s.2 = tail) ?_ (List.nil_append _)
  rintro ⟨line, f⟩ htail
  have hline : ¬terminator <:+ line := fun hsuffix =>
    h (hsuffix.isInfix.trans (htail ▸ (List.prefix_append line f).isInfix))
  have happend : line ++ (readline f).1 ++ (readline f).2 = tail := by
    rw [List.append_assoc, readline_append, htail]
  refine ⟨_, returns_readLine f hline ?_, happend⟩
  -- nothing has been gathered only if there is nothing to read
  intro hnil
  rw [hnil, List.nil_append] at happend
  obtain ⟨-, hread⟩ := List.append_eq_nil_iff.mp hnil
  cases f with
  | nil => exact hne happend.symm
  | cons c f =>
      rw [readline] at hread
      split at hread <;> exact List.cons_ne_nil _ _ hread

/-! ## The calls on a file -/

/-- The readers that the calls of `readNewLine` leave. -/
inductive Called (start : LogfileReader) : LogfileReader → Prop
  | start : Called start start
  | call {r r' : LogfileReader} :
      Called start r → Program.Returns (readNewLine r) (.ok r') → Called start r'

/-- Every call of `readNewLine` terminates. -/
def CallsTerminate (start : LogfileReader) : Prop :=
  ∀ r, Called start r → Program.Terminates (readNewLine r)

/-- The text has no tail, or a record without a date in front of it. -/
def Ends (text : List Char) : Prop :=
  (records text).2 = [] ∨ ∃ r ∈ (records text).1, (split 2 r).length < 2

instance (text : List Char) : Decidable (Ends text) := inferInstanceAs (Decidable (_ ∨ _))

theorem Called.trans {start r r' : LogfileReader} (h : Called start r) (h' : Called r r') :
    Called start r' := by
  induction h' with
  | start => exact h
  | call _ hreturns ih => exact ih.call hreturns

/-- The calls behind the first one. -/
theorem Called.cases_next {start next r : LogfileReader}
    (hnext : Program.Returns (readNewLine start) (.ok next)) (h : Called start r) :
    r = start ∨ Called next r := by
  induction h with
  | start => exact .inl rfl
  | call _ hreturns ih =>
      rcases ih with rfl | hcalled
      · obtain rfl := Except.ok.inj (hreturns.unique hnext)
        exact .inr .start
      · exact .inr (hcalled.call hreturns)

/-- An exception is the end of the calls. -/
theorem Called.eq_start {start r : LogfileReader} {e : PyError}
    (herror : Program.Returns (readNewLine start) (.error e)) (h : Called start r) : r = start := by
  induction h with
  | start => rfl
  | call _ hreturns ih =>
      rw [ih] at hreturns
      exact nomatch hreturns.unique herror

theorem callsTerminate_of_next {start next : LogfileReader}
    (hnext : Program.Returns (readNewLine start) (.ok next)) :
    CallsTerminate start ↔ CallsTerminate next := by
  constructor
  · exact fun h r hr => h r ((Called.start.call hnext).trans hr)
  · intro h r hr
    rcases hr.cases_next hnext with rfl | hr
    · exact ⟨_, hnext⟩
    · exact h r hr

theorem parseLog_eq_error {r : List Char} (h : (split 2 r).length < 2) :
    parseLog r = .error .IndexError := by
  rw [parseLog, List.getElem?_eq_none (by omega)]

theorem parseLog_eq_ok {r : List Char} (h : ¬(split 2 r).length < 2) :
    ∃ date, parseLog r = .ok (date, r) := by
  rw [parseLog, List.getElem?_eq_getElem (by omega)]
  exact ⟨_, rfl⟩

/-- Every call on a text terminates if it has no tail that is reached, and only then. -/
theorem callsTerminate_iff (text : List Char) (logLine : Option (List Char × List Char)) :
    CallsTerminate ⟨text, logLine⟩ ↔ Ends text := by
  induction hk : text.length using Nat.strongRecOn generalizing text logLine with
  | ind k ih =>
      rw [Ends]
      rcases records_cases text with ⟨hrecords, htail, hnone⟩ |
        ⟨r, rest, rfl, hrecord, hrecords, htail⟩
      · rw [hrecords, htail]
        by_cases htext : text = []
        · refine iff_of_true ?_ (.inl htext)
          rw [htext]
          -- at the end of the file the reader stays there
          have hend : ∀ r, Called ⟨[], logLine⟩ r → r.f = [] := by
            intro r hr
            induction hr with
            | start => rfl
            | @call r r' _ hreturns hf =>
                obtain ⟨f, log⟩ := r
                obtain rfl : f = [] := hf
                rw [← Except.ok.inj ((readNewLine_nil log).unique hreturns)]
          intro r hr
          obtain ⟨f, log⟩ := r
          obtain rfl : f = [] := hend _ hr
          exact ⟨_, readNewLine_nil log⟩
        · refine iff_of_false ?_ (by simp [htext])
          exact fun h => not_terminates_readNewLine hnone htext logLine (h _ .start)
      · rw [hrecords, htail]
        have hreturns := readNewLine_record hrecord rest logLine
        by_cases hwords : (split 2 r).length < 2
        · refine iff_of_true ?_ (.inr ⟨r, List.mem_cons_self, hwords⟩)
          rw [parseLog_eq_error hwords] at hreturns
          intro r' hr'
          rw [hr'.eq_start hreturns]
          exact ⟨_, hreturns⟩
        · obtain ⟨date, hlog⟩ := parseLog_eq_ok hwords
          rw [hlog] at hreturns
          have hlt : rest.length < k := by
            rw [← hk, List.length_append]
            have hpos := List.length_pos_iff.mpr hrecord.ne_nil
            omega
          rw [callsTerminate_of_next hreturns, ih rest.length hlt rest _ rfl, Ends]
          simp only [List.mem_cons, exists_eq_or_imp, or_iff_right hwords]

end OpenC2X.Scripts
