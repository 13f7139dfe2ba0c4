import BuildLog.Proofs.CommandLine.Tokenize
import BuildLog.Proofs.Result
import BuildLog.Proofs.Scan.Lines
import BuildLog.Proofs.Scan.Messages

/-! The statistics over all the calls of a scanner. Each line is counted once by its outcome, and
each counter but the one of the blank lines has its message. -/

namespace BuildLog

def LineOutcome.isMalformed : LineOutcome → Bool
  | .malformed _ => true
  | _ => false

namespace Statistics

/-- The counters in words that start again from zero at `size`. -/
def wrap (size : Nat) (t : Statistics) : Statistics :=
  ⟨t.read % size, t.blank % size, t.malformed % size, t.filtered % size, t.unrecognized % size,
    t.detected % size⟩

/-- Counts a line. -/
def count (size : Nat) (t : Statistics) (line : ScannedLine) : Statistics :=
  (t + ofOutcome line.outcome).wrap size

/-- The counters that there are messages for, with the words that these messages start with. -/
def told : List (String × (Statistics → Nat)) :=
  [("skipped: ", malformed), ("filtered: ", filtered), ("not recognized", unrecognized),
    ("detected: ", detected)]

variable {size : Nat} {s t : Statistics}

theorem add_def (s t : Statistics) : s + t =
    ⟨s.read + t.read, s.blank + t.blank, s.malformed + t.malformed, s.filtered + t.filtered,
      s.unrecognized + t.unrecognized, s.detected + t.detected⟩ :=
  rfl

theorem wrap_wrap_add (s t : Statistics) : (s.wrap size + t).wrap size = (s + t).wrap size := by
  simp only [wrap, add_def, Nat.mod_add_mod]

theorem add_assoc (r s t : Statistics) : r + s + t = r + (s + t) := by
  simp only [add_def, Nat.add_assoc]

theorem zero_add (t : Statistics) : {} + t = t := by
  simp only [add_def, Nat.zero_add]

theorem wrap_zero : wrap size {} = {} := by
  simp only [wrap, Nat.zero_mod]

/-- Counting lines one after the other adds up their statistics. -/
theorem foldl_count (size : Nat) (lines : List ScannedLine) (t : Statistics) :
    lines.foldl (count size) (t.wrap size) = (t + ofLines lines).wrap size := by
  induction lines generalizing t with
  | nil => rfl
  | cons line lines ih =>
    rw [List.foldl_cons, count, wrap_wrap_add, ih, add_assoc]
    rfl

theorem ofLines_cons (line : ScannedLine) (lines : List ScannedLine) :
    ofLines (line :: lines) = ofOutcome line.outcome + ofLines lines :=
  rfl

theorem ofLines_append (lines lines' : List ScannedLine) :
    ofLines (lines ++ lines') = ofLines lines + ofLines lines' := by
  induction lines with
  | nil => exact (zero_add _).symm
  | cons line lines ih =>
    rw [List.cons_append, ofLines_cons, ofLines_cons, ih, add_assoc]

theorem read_ofLines (lines : List ScannedLine) : (ofLines lines).read =
    (ofLines lines).blank + (ofLines lines).malformed + (ofLines lines).filtered +
      (ofLines lines).unrecognized + (ofLines lines).detected := by
  induction lines with
  | nil => rfl
  | cons line lines ih =>
    rw [ofLines_cons, add_def]
    cases line.outcome <;> simp only [ofOutcome] <;> omega

theorem length_filterMap_record? (lines : List ScannedLine) :
    (lines.filterMap ScannedLine.record?).length = (ofLines lines).detected := by
  induction lines with
  | nil => rfl
  | cons line lines ih =>
    rw [ofLines_cons, add_def, List.filterMap_cons, ScannedLine.record?]
    cases line.outcome <;> simp only [ofOutcome, List.length_cons, ih] <;> omega

theorem malformed_ofLines (lines : List ScannedLine) :
    (ofLines lines).malformed = lines.countP (·.outcome.isMalformed) := by
  induction lines with
  | nil => rfl
  | cons line lines ih =>
    rw [ofLines_cons, add_def, List.countP_cons, ← ih]
    refine (Nat.add_comm _ _).trans ?_
    cases line.outcome <;> rfl

/-- A counter that can be added up and cut to a word by itself. -/
structure IsCounter (f : Statistics → Nat) : Prop where
  zero : f {} = 0
  add : ∀ s t, f (s + t) = f s + f t
  wrap : ∀ size t, f (t.wrap size) = f t % size

section

variable {p : String × (Statistics → Nat)}

theorem eq_of_mem_told (h : p ∈ told) :
    p = ("skipped: ", malformed) ∨ p = ("filtered: ", filtered) ∨
      p = ("not recognized", unrecognized) ∨ p = ("detected: ", detected) := by
  simpa [told] using h

theorem isCounter_of_mem_told (h : p ∈ told) : IsCounter p.2 := by
  rcases eq_of_mem_told h with rfl | rfl | rfl | rfl <;>
    exact ⟨rfl, fun _ _ => rfl, fun _ _ => rfl⟩

/-- The messages of a line tell of the counter that counts it, and of no other. -/
theorem countP_messages_of_line (h : p ∈ told) (line : ScannedLine) :
    line.messages.countP (·.tells p.1) = p.2 (ofOutcome line.outcome) := by
  have hutf8 : (notUtf8Message line.number).tells p.1 = false := by
    rw [notUtf8Message_eq, tells_aboutLine]
    rcases eq_of_mem_told h with rfl | rfl | rfl | rfl <;> decide +kernel
  have hflag : (if line.isUtf8 then [] else [notUtf8Message line.number]).countP
      (·.tells p.1) = 0 := by
    split
    · rfl
    · rw [List.countP_singleton, hutf8]
      rfl
  rw [ScannedLine.messages_eq, List.countP_append, hflag, Nat.zero_add,
    ScannedLine.outcomeMessage?_eq]
  rcases eq_of_mem_told h with rfl | rfl | rfl | rfl <;> cases line.outcome <;>
    simp [LineOutcome.remark?, tells_aboutLine, ofOutcome, List.isPrefixOf]

theorem countP_messages (h : p ∈ told) (lines : List ScannedLine) :
    (lines.flatMap ScannedLine.messages).countP (·.tells p.1) = p.2 (ofLines lines) := by
  induction lines with
  | nil => exact (isCounter_of_mem_told h).zero.symm
  | cons line lines ih =>
    rw [List.flatMap_cons, List.countP_append, ih, countP_messages_of_line h, ofLines_cons,
      (isCounter_of_mem_told h).add]

end

end Statistics

theorem Scan.length_records {scan : Scan} {records : List Record} (h : scan.records = .ok records) :
    records.length = scan.statistics.detected := by
  rw [Scan.records] at h
  split at h
  · cases h
  · obtain rfl := Except.ok.inj h
    exact Statistics.length_filterMap_record? scan.lines

/-- Whether no command can be found in a line although it is not blank. -/
def CommandLine.isMalformed (style : PathStyle) (line : String) : Bool :=
  match tokenize style line with
  | .error (.unterminatedQuote _) => true
  | .error .emptyCommand => true
  | .error .empty => false
  | .ok _ => false

/-- A call of a scanner: with command lines, or with a log that may fail to be read to its end. -/
inductive ScanCall where
  | commandLines (lines : List String)
  | log (source : LogSource)
  deriving DecidableEq, Repr

/-- The texts of the lines that a call comes to. -/
def ScanCall.texts : ScanCall → List String
  | .commandLines lines => lines
  | .log source => source.lines.map Scanner.lineText

namespace Scanner

variable {s : Scanner} {line : String}

def run (s : Scanner) : ScanCall → Scan
  | .commandLines lines => s.scanLines lines
  | .log source => s.scanLog source

/-- The statistics after some calls, counted line by line. -/
def statistics (s : Scanner) (size : Nat) (calls : List ScanCall) : Statistics :=
  (calls.flatMap fun call => (s.run call).lines).foldl (.count size) {}

theorem all_isBlank_iff (style : PathStyle) :
    line.toList.all isBlank = true ↔ CommandLine.tokenize style line = .error .empty := by
  rw [CommandLine.tokenize_eq_empty_iff, trimStart_eq_nil_iff, List.all_eq_true]

theorem outcome_of_empty (h : CommandLine.tokenize s.detector.style line = .error .empty) :
    s.outcome line = .blank :=
  if_pos ((all_isBlank_iff _).mpr h)

theorem outcome_of_error {reason : MalformedLine}
    (h : CommandLine.tokenize s.detector.style line = .error reason) (hne : reason ≠ .empty) :
    s.outcome line = .malformed (.malformedLine reason) := by
  have hblank : ¬ line.toList.all isBlank = true := by
    rw [all_isBlank_iff s.detector.style, h]
    exact fun he => hne (Except.error.inj he)
  rw [outcome, if_neg hblank, Detector.detect, h]

theorem outcome_of_ok {c : CommandLine} (h : CommandLine.tokenize s.detector.style line = .ok c) :
    s.outcome line = (s.detector.detectCommandLine c).elim .unrecognized fun d =>
      if s.filter.accepts d.commandLine.command then .detected d else .filtered d := by
  have hblank : ¬ line.toList.all isBlank = true := by
    rw [all_isBlank_iff s.detector.style, h]
    exact fun he => nomatch he
  have hdetect : s.detector.detect line = .ok (s.detector.detectCommandLine c) := by
    rw [Detector.detect, h]
  rw [outcome, if_neg hblank, hdetect]
  cases s.detector.detectCommandLine c <;> rfl

/-- A line is malformed exactly if the tokenizer refuses it although it is not blank. -/
theorem isMalformed_outcome (s : Scanner) (line : String) :
    (s.outcome line).isMalformed = CommandLine.isMalformed s.detector.style line := by
  rw [CommandLine.isMalformed]
  cases ht : CommandLine.tokenize s.detector.style line with
  | ok c =>
    rw [outcome_of_ok ht]
    cases s.detector.detectCommandLine c with
    | none => rfl
    | some d =>
      rw [Option.elim_some]
      split <;> rfl
  | error reason =>
    cases reason with
    | empty =>
      rw [outcome_of_empty ht]
      rfl
    | unterminatedQuote quote =>
      rw [outcome_of_error ht (by simp)]
      rfl
    | emptyCommand =>
      rw [outcome_of_error ht (by simp)]
      rfl

theorem map_outcome_run (s : Scanner) (call : ScanCall) :
    (s.run call).lines.map (·.outcome) = call.texts.map s.outcome := by
  cases call with
  | commandLines lines =>
    rw [run, scanLines, List.map_map, ScanCall.texts]
    calc (lines.zipIdx.map fun p => s.outcome p.1) = (lines.zipIdx.map Prod.fst).map s.outcome := by
          rw [List.map_map]; rfl
      _ = lines.map s.outcome := by rw [List.zipIdx_map_fst]
  | log source =>
    rw [run, scanLog, List.map_map, ScanCall.texts, List.map_map]
    calc (source.lines.zipIdx.map fun p => s.outcome (lineText p.1)) =
          (source.lines.zipIdx.map Prod.fst).map (s.outcome ∘ lineText) := by
          rw [List.map_map]; rfl
      _ = source.lines.map (s.outcome ∘ lineText) := by rw [List.zipIdx_map_fst]

theorem map_isMalformed_run (s : Scanner) (call : ScanCall) :
    (s.run call).lines.map (·.outcome.isMalformed) =
      call.texts.map (CommandLine.isMalformed s.detector.style) := by
  calc (s.run call).lines.map (·.outcome.isMalformed) =
        ((s.run call).lines.map (·.outcome)).map LineOutcome.isMalformed := by
        rw [List.map_map]; rfl
    _ = call.texts.map fun text => (s.outcome text).isMalformed := by
        rw [map_outcome_run, List.map_map]; rfl
    _ = _ := by simp only [isMalformed_outcome]

theorem malformed_run (s : Scanner) (call : ScanCall) :
    (s.run call).statistics.malformed =
      call.texts.countP (CommandLine.isMalformed s.detector.style) := by
  calc (s.run call).statistics.malformed =
        ((s.run call).lines.map (·.outcome.isMalformed)).countP id := by
        rw [Scan.statistics, Statistics.malformed_ofLines, List.countP_map]; rfl
    _ = _ := by rw [map_isMalformed_run, List.countP_map]; rfl

theorem statistics_eq (s : Scanner) (size : Nat) (calls : List ScanCall) :
    s.statistics size calls =
      (Statistics.ofLines (calls.flatMap fun call => (s.run call).lines)).wrap size := by
  have h := Statistics.foldl_count size (calls.flatMap fun call => (s.run call).lines) {}
  rwa [Statistics.wrap_zero, Statistics.zero_add] at h

theorem statistics_append (s : Scanner) (size : Nat) (calls : List ScanCall) (call : ScanCall) :
    s.statistics size (calls ++ [call]) =
      (s.statistics size calls + (s.run call).statistics).wrap size := by
  rw [statistics, List.flatMap_append, List.foldl_append, List.flatMap_singleton, ← statistics,
    statistics_eq, Statistics.foldl_count, Statistics.wrap_wrap_add]
  rfl

theorem read_statistics (s : Scanner) (size : Nat) (calls : List ScanCall) :
    (s.statistics size calls).read = ((s.statistics size calls).blank +
      (s.statistics size calls).malformed + (s.statistics size calls).filtered +
      (s.statistics size calls).unrecognized + (s.statistics size calls).detected) % size := by
  rw [statistics_eq]
  simp only [Statistics.wrap, Statistics.read_ofLines]
  simp [Nat.add_mod]

/-- After any calls each line that was read is counted by exactly one of the other counters. What a
call adds to a counter is the number of its messages and, for the detected commands, the number of
its records; it adds a malformed line for each line that the tokenizer refuses and that is not
blank. The lines of a log are those that its bytes are cut into behind each newline. -/
theorem statistics_partition (s : Scanner) (size : Nat) (calls : List ScanCall) :
    let before := s.statistics size calls
    before.read = (before.blank + before.malformed + before.filtered + before.unrecognized +
      before.detected) % size ∧
    ∀ call : ScanCall,
      let after := s.statistics size (calls ++ [call])
      let scan := s.run call
      after = (before + scan.statistics).wrap size ∧
      (∀ records, scan.records = .ok records →
        after.detected = (before.detected + records.length) % size) ∧
      (∀ told ∈ Statistics.told, told.2 after =
        (told.2 before + scan.messages.countP (·.tells told.1)) % size) ∧
      scan.lines.map (·.outcome.isMalformed) =
        call.texts.map (CommandLine.isMalformed s.detector.style) ∧
      after.malformed = (before.malformed +
        call.texts.countP (CommandLine.isMalformed s.detector.style)) % size ∧
      ∀ source, call = .log source → ∀ lines, source.CutInto lines ↔ lines = source.lines := by
  refine ⟨s.read_statistics size calls, fun call => ?_⟩
  have hafter := s.statistics_append size calls call
  refine ⟨hafter, fun records hrecords => ?_, fun told h => ?_, s.map_isMalformed_run call, ?_,
    fun _ _ _ => LogSource.cutInto_iff⟩
  · rw [hafter, Scan.length_records hrecords]
    rfl
  · have hcounter := Statistics.isCounter_of_mem_told h
    rw [hafter, hcounter.wrap, hcounter.add, Scan.messages, Statistics.countP_messages h]
    rfl
  · rw [hafter, ← s.malformed_run call]
    rfl

theorem statistics_partition_gcc : ∃ s records, new {} {} = .ok s ∧
    (s.run (.commandLines ["gcc -c a.c", "'", " ", "cl"])).records = .ok records ∧
    records.length = 2 ∧
    (s.statistics UInt64.size [.log { bytes := [0x67], failure := some "gone" },
      .commandLines ["gcc -c a.c", "'", " ", "cl"]]).detected =
        ((s.statistics UInt64.size [.log { bytes := [0x67], failure := some "gone" }]).detected +
          records.length) % UInt64.size := by
  have hrun : ((new {} {}).toOption.bind fun s =>
      (s.run (.commandLines ["gcc -c a.c", "'", " ", "cl"])).records.toOption.map List.length) =
        some 2 := by decide +kernel
  obtain ⟨s, hs, h⟩ := Option.bind_eq_some_iff.mp hrun
  obtain ⟨records, hrecords, hlength⟩ := Option.map_eq_some_iff.mp h
  have hrecords := ok_of_toOption hrecords
  exact ⟨s, records, ok_of_toOption hs, hrecords, hlength,
    ((s.statistics_partition UInt64.size
      [.log { bytes := [0x67], failure := some "gone" }]).2 _).2.1 records hrecords⟩

end Scanner

end BuildLog
