import OpenC2X.Scripts.RecentLogs

/-!
# Log files

What the interleaver needs of a log file: a name with the module and the date at their
places, and records with a date.

The files of LoggingUtility are such files.  Every message is a record (`ofMessage`), with
the time of the message as its date (`date_ofMessage`), so what a module writes is a sequence
of records (`log_logAll`) in a file that the interleaver can read (`entry_logAll`).
-/

namespace OpenC2X.Scripts

open Decimal LoggingUtility

/-! ## Records -/

/-- A record with a date. -/
structure LogRecord where
  text : List Char
  isRecord : IsRecord text
  words : 2 ≤ (split 2 text).length
  noReturn : '\r' ∉ text

namespace LogRecord

/-- The second word. -/
def date (a : LogRecord) : List Char := (split 2 a.text).get ⟨1, a.words⟩

theorem parseLog_text (a : LogRecord) : parseLog a.text = .ok (a.date, a.text) := by
  rw [parseLog, List.getElem?_eq_getElem a.words]
  rfl

end LogRecord

/-- A log file, with the parts that its name must have. -/
structure LogFile where
  name : List Char
  records : List LogRecord
  isLog_name : isLog name = true
  parts : 4 ≤ (logfile name).length

namespace LogFile

def content (file : LogFile) : List Char := file.records.flatMap LogRecord.text

def entry (file : LogFile) : List Char × List Char := (file.name, file.content)

/-- By this the names are sorted. -/
def key (file : LogFile) : List Char :=
  (logfile file.name).get ⟨2, by have := file.parts; omega⟩ ++
    (logfile file.name).get ⟨3, by have := file.parts; omega⟩

theorem getTimePlusDate_name (file : LogFile) :
    getTimePlusDate (logfile file.name) = .ok file.key := by
  have hparts := file.parts
  rw [getTimePlusDate, List.getElem?_eq_getElem (by omega), List.getElem?_eq_getElem (by omega)]
  rfl

theorem return_notMem_content (file : LogFile) : '\r' ∉ file.content := by
  intro h
  obtain ⟨a, -, ha⟩ := List.mem_flatMap.mp h
  exact a.noReturn ha

theorem content_eq_nil_iff (file : LogFile) : file.content = [] ↔ file.records = [] := by
  rw [content, List.flatMap_eq_nil_iff]
  constructor
  · intro h
    rw [List.eq_nil_iff_forall_not_mem]
    exact fun a ha => a.isRecord.ne_nil (h a ha)
  · intro h a ha
    rw [h] at ha
    exact absurd ha List.not_mem_nil

end LogFile

/-! ## The files of LoggingUtility -/

def LogName.logFile (a : LogName) (records : List LogRecord) : LogFile where
  name := a.text
  records := records
  isLog_name := a.isLog_text
  parts := by
    rw [a.logfile_text]
    exact Nat.le_succ 4

/-- A message, which may have several lines. -/
structure Message where
  timeinfo : Utils.tm
  msec : Fin 1000
  level : Level
  message : List Char
  noTerminator : ¬terminator <:+: message
  noReturn : '\r' ∉ message

/-- The line of a message. -/
def Message.line (moduleName : List Char) (m : Message) : List Char :=
  logLine moduleName m.timeinfo m.msec m.level m.message

/-- What a module writes to its log. -/
def logAll (s : LoggingUtility) (messages : List Message) : LoggingUtility :=
  messages.foldl (fun s m => s.logMessage m.timeinfo m.msec m.level m.message) s

theorem isspace_of_isDigit {c : Char} (hc : c.isDigit = true) : isspace c = false := by
  simp only [Char.isDigit, Bool.and_eq_true, decide_eq_true_eq, ge_iff_le,
    UInt32.le_iff_toNat_le] at hc
  have hvals : 48 ≤ c.toNat ∧ c.toNat ≤ 57 := hc
  rw [Bool.eq_false_iff]
  intro hspace
  simp [isspace, Char.le_def, Char.ext_iff, UInt32.le_iff_toNat_le, ← UInt32.toNat_inj] at hspace
  omega

theorem split_blank {c : Char} (hc : isspace c = true) (maxsplit : ℕ) (rest : List Char) :
    split maxsplit (c :: rest) = split maxsplit rest := by
  cases maxsplit with
  | zero => rw [split, split, List.dropWhile_cons_of_pos hc]
  | succ maxsplit => rw [split, split, List.dropWhile_cons_of_pos hc]

/-- A word and the blank behind it are split off. -/
theorem split_word {word : List Char} (hne : word ≠ []) (hword : ∀ c ∈ word, isspace c = false)
    {c : Char} (hc : isspace c = true) (maxsplit : ℕ) (rest : List Char) :
    split (maxsplit + 1) (word ++ c :: rest) = word :: split maxsplit rest := by
  have hpos : ∀ d ∈ word, (!isspace d) = true := fun d hd => by rw [hword d hd]; rfl
  have hdrop : (word ++ c :: rest).dropWhile isspace = word ++ c :: rest := by
    obtain ⟨d, others, rfl⟩ := List.exists_cons_of_ne_nil hne
    rw [List.cons_append, List.dropWhile_cons_of_neg]
    rw [hword d List.mem_cons_self]
    exact Bool.false_ne_true
  rw [split, hdrop, if_neg (List.append_ne_nil_of_left_ne_nil hne _),
    List.takeWhile_append_of_pos hpos, List.dropWhile_append_of_pos hpos,
    List.takeWhile_cons_of_neg (by simp [hc]), List.dropWhile_cons_of_neg (by simp [hc]),
    List.append_nil, split_blank hc]

theorem datetime_ne_nil (timeinfo : Utils.tm) (msec : Fin 1000) : datetime timeinfo msec ≠ [] :=
  List.append_ne_nil_of_right_ne_nil _ (List.cons_ne_nil _ _)

theorem isspace_datetime (timeinfo : Utils.tm) (msec : Fin 1000) :
    ∀ c ∈ datetime timeinfo msec, isspace c = false := by
  intro c hc
  simp only [datetime, List.mem_append, List.mem_cons] at hc
  rcases hc with hc | rfl | hc | rfl | hc | rfl | hc
  · exact isspace_of_isDigit (isDigit_of_mem_padded hc)
  · rfl
  · exact isspace_of_isDigit (isDigit_of_mem_padded hc)
  · rfl
  · exact isspace_of_isDigit (isDigit_of_mem_padded hc)
  · rfl
  · exact isspace_of_isDigit (isDigit_of_mem_padded hc)

theorem isspace_of_all {word : List Char} (h : (word.all fun c => !isspace c) = true) :
    ∀ c ∈ word, isspace c = false := by
  simpa using List.all_eq_true.mp h

theorem isspace_levelName (level : Level) : ∀ c ∈ level.name, isspace c = false :=
  isspace_of_all (by cases level <;> rfl)

theorem notMem_of_isspace {word : List Char} (hword : ∀ c ∈ word, isspace c = false) {c : Char}
    (hc : isspace c = true) : c ∉ word := fun hin =>
  Bool.false_ne_true ((hword c hin).symm.trans hc)

section

variable {moduleName : List Char} (hname : ∀ c ∈ moduleName, isspace c = false) (m : Message)

include hname

/-- The module and the time are the first two words of a line. -/
theorem split_line :
    ∃ rest, split 2 (m.line moduleName ++ ['\n']) =
      (moduleName ++ [',']) :: datetime m.timeinfo m.msec :: split 0 rest := by
  refine ⟨"\t ".toList ++ m.level.name ++ " \t ".toList ++ m.message ++ " \t\t\n".toList, ?_⟩
  have hline : m.line moduleName ++ ['\n'] = (moduleName ++ [',']) ++ ' ' ::
      (datetime m.timeinfo m.msec ++ ' ' :: ("\t ".toList ++ m.level.name ++ " \t ".toList ++
        m.message ++ " \t\t\n".toList)) := by
    simp [Message.line, logLine]
  have hfirst : ∀ c ∈ moduleName ++ [','], isspace c = false := by
    intro c hc
    rcases List.mem_append.mp hc with hc | hc
    · exact hname c hc
    · rw [List.mem_singleton.mp hc]
      rfl
  rw [hline, split_word (by simp) hfirst rfl,
    split_word (datetime_ne_nil _ _) (isspace_datetime _ _) rfl]

/-- In front of the message there is no white space but blanks and tabs. -/
theorem exists_line_eq : ∃ front : List Char,
    m.line moduleName = front ++ ' ' :: (m.message ++ ' ' :: ['\t', '\t']) ∧
      ∀ c, isspace c = true → c ≠ ' ' → c ≠ '\t' → c ∉ front := by
  refine ⟨moduleName ++ ", ".toList ++ datetime m.timeinfo m.msec ++ " \t ".toList ++
    m.level.name ++ " \t".toList, ?_, ?_⟩
  · simp [Message.line, logLine]
  · intro c hc hblank htab
    have hmodule : c ∉ moduleName := notMem_of_isspace hname hc
    have hdatetime : c ∉ datetime m.timeinfo m.msec :=
      notMem_of_isspace (isspace_datetime _ _) hc
    have hcomma : c ≠ ',' := by
      rintro rfl
      exact absurd hc (by decide)
    have hlevel : c ∉ m.level.name := notMem_of_isspace (isspace_levelName _) hc
    simp [hmodule, hdatetime, hlevel, hblank, htab, hcomma]

theorem return_notMem_line : '\r' ∉ m.line moduleName := by
  obtain ⟨front, hline, hfront⟩ := exists_line_eq hname m
  have hreturn := hfront '\r' rfl (by decide) (by decide)
  simp [hline, hreturn, m.noReturn]

/-- A message is a record. -/
theorem isRecord_line : IsRecord (m.line moduleName ++ ['\n']) := by
  obtain ⟨front, hline, hfront⟩ := exists_line_eq hname m
  refine ⟨⟨front ++ ' ' :: (m.message ++ [' ']), ?_⟩, ?_⟩
  · simp [hline, terminator]
  · rw [List.dropLast_concat, hline]
    have hblank : ' ' ∉ terminator := by decide
    intro hinfix
    rcases infix_of_infix_append_cons hblank hinfix with hinfront | hinfix
    · exact hfront '\n' rfl (by decide) (by decide) (hinfront.subset (by decide))
    · rcases infix_of_infix_append_cons hblank hinfix with hinmessage | hend
      · exact m.noTerminator hinmessage
      · exact absurd hend (by decide)

end

/-- The record of a message. -/
def ofMessage {moduleName : List Char} (hname : ∀ c ∈ moduleName, isspace c = false)
    (m : Message) : LogRecord where
  text := m.line moduleName ++ ['\n']
  isRecord := isRecord_line hname m
  words := by
    obtain ⟨rest, hsplit⟩ := split_line hname m
    rw [hsplit]
    exact Nat.le_add_left 2 _
  noReturn := by
    rw [List.mem_append, not_or]
    exact ⟨return_notMem_line hname m, by decide⟩

/-- The date of a record is the time of the message. -/
theorem date_ofMessage {moduleName : List Char} (hname : ∀ c ∈ moduleName, isspace c = false)
    (m : Message) : (ofMessage hname m).date = datetime m.timeinfo m.msec := by
  obtain ⟨rest, hsplit⟩ := split_line hname m
  have hget : (split 2 (ofMessage hname m).text)[1]? = some (datetime m.timeinfo m.msec) := by
    rw [show (ofMessage hname m).text = m.line moduleName ++ ['\n'] from rfl, hsplit]
    rfl
  exact (List.getElem?_eq_some_iff.mp hget).2

/-- What a module writes to its log are records. -/
theorem log_logAll (s : LoggingUtility) (hname : ∀ c ∈ s.mModuleName, isspace c = false)
    (messages : List Message) :
    (logAll s messages).log = s.log ++ (messages.map (ofMessage hname)).flatMap LogRecord.text := by
  induction messages generalizing s with
  | nil => exact (List.append_nil _).symm
  | cons m messages ih =>
      have hrest := ih (s.logMessage m.timeinfo m.msec m.level m.message) hname
      rw [List.map_cons, List.flatMap_cons, ← List.append_assoc]
      exact hrest

theorem logsPath_logAll (s : LoggingUtility) (messages : List Message) :
    (logAll s messages).logsPath = s.logsPath := by
  induction messages generalizing s with
  | nil => rfl
  | cons m messages ih => exact ih (s.logMessage m.timeinfo m.msec m.level m.message)

/-- A module writes a log file that the interleaver can read. -/
theorem entry_logAll (a : LogName) (hname : ∀ c ∈ a.moduleName, isspace c = false)
    (messages : List Message) :
    (a.logFile (messages.map (ofMessage hname))).entry =
      ((logAll (new a.moduleName [] a.expNo a.timeinfo) messages).logsPath,
        (logAll (new a.moduleName [] a.expNo a.timeinfo) messages).log) := by
  rw [logsPath_logAll, log_logAll _ hname]
  rfl

end OpenC2X.Scripts
