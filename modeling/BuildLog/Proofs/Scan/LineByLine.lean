import BuildLog.Proofs.CommandFilter
import BuildLog.Proofs.Detection.Expressions
import BuildLog.Proofs.Scan.Statistics
import Mathlib.Data.List.Induction

/-! Scanning line by line. What becomes of a line is what is detected of it by itself, whatever the
other lines are and whatever the scanner was called with before. -/

namespace BuildLog

/-- What becomes of a line of which something is detected by itself, or an error. -/
def LineOutcome.ofDetect (patterns : CommandPatterns) :
    Except DetectionError (Option Detection) → LineOutcome
  | .error (.malformedLine .empty) => .blank
  | .error reason => .malformed reason
  | .ok none => .unrecognized
  | .ok (some d) => if patterns.Accepts d.commandLine.command then .detected d else .filtered d

/-- The record says of a command what its detection says. -/
structure Record.Reports (r : Record) (det : Detection) : Prop where
  command : r.command = det.commandLine.command
  arguments : r.arguments = det.commandLine.arguments
  driver : r.driver = det.driver.name
  language : r.language = det.driver.language
  argumentSyntax : r.argumentSyntax = det.driver.argumentSyntax
  method : r.method = det.method
  target : r.target = det.target
  version : r.version = det.version
  languageIds : r.languageIds = ["c", "cpp", "cu"].map fun key => (key, det.driver.languageId key)

theorem Record.eq_ofDetection_iff {r : Record} {n : Nat} {det : Detection} :
    r = .ofDetection n det ↔ r.line = n ∧ r.Reports det := by
  constructor
  · intro h
    subst h
    exact ⟨rfl, rfl, rfl, rfl, rfl, rfl, rfl, rfl, rfl, rfl⟩
  · intro h
    obtain ⟨hline, h⟩ := h
    obtain ⟨line, command, arguments, driver, language, argumentSyntax, method, target, version,
      languageIds⟩ := r
    cases h
    simp_all [ofDetection, Driver.languageKeys]

/-- A scanner in use, with what it has counted so far. -/
structure Session where
  scanner : Scanner
  statistics : Statistics := {}

namespace Session

def call (size : Nat) (x : Session) (c : ScanCall) : Session × Scan :=
  let scan := x.scanner.run c
  (⟨x.scanner, (x.statistics + scan.statistics).wrap size⟩, scan)

def after (size : Nat) (x : Session) (calls : List ScanCall) : Session :=
  calls.foldl (fun x c => (x.call size c).1) x

theorem scanner_after (size : Nat) (x : Session) (calls : List ScanCall) :
    (x.after size calls).scanner = x.scanner := by
  induction calls generalizing x with
  | nil => rfl
  | cons c calls ih => exact ih _

theorem after_concat (size : Nat) (x : Session) (calls : List ScanCall) (c : ScanCall) :
    x.after size (calls ++ [c]) = ((x.after size calls).call size c).1 := by
  rw [after, List.foldl_append]
  rfl

theorem statistics_after (size : Nat) (s : Scanner) (calls : List ScanCall) :
    (after size { scanner := s } calls).statistics = s.statistics size calls := by
  induction calls using List.reverseRecOn with
  | nil => rfl
  | append_singleton calls c ih =>
    rw [after_concat, call, ih, scanner_after, Scanner.statistics_append]

end Session

theorem pairwise_zipIdx {α : Type} (l : List α) : l.zipIdx.Pairwise fun p q => p.2 < q.2 := by
  rw [← List.pairwise_map (f := Prod.snd) (R := fun i j => i < j), List.zipIdx_map_snd]
  exact List.pairwise_lt_range'

theorem ScannedLine.line_of_record? {line : ScannedLine} {r : Record} (h : line.record? = some r) :
    r.line = line.number := by
  rw [record?] at h
  split at h
  · rw [← Option.some.inj h, Record.ofDetection]
  · cases h

/-- The records of a scan are in the order of its lines. -/
theorem pairwise_records {lines : List ScannedLine}
    (h : lines.Pairwise fun line line' => line.number < line'.number) :
    (lines.filterMap ScannedLine.record?).Pairwise fun r r' => r.line < r'.line := by
  refine List.Pairwise.filterMap _ (fun line line' hlt r hr r' hr' => ?_) h
  rw [ScannedLine.line_of_record? hr, ScannedLine.line_of_record? hr']
  exact hlt

namespace Scanner

variable {settings : DetectionSettings} {patterns : CommandPatterns} {s : Scanner}
  {version : Option String} {style : PathStyle}

/-- What becomes of a line depends on the line and on what is detected of it only. -/
theorem outcome_eq_ofDetect (hfilter : CommandFilter.compile patterns = .ok s.filter)
    (line : String) : s.outcome line = .ofDetect patterns (s.detector.detect line) := by
  cases ht : CommandLine.tokenize s.detector.style line with
  | error reason =>
    rw [Detector.detect_of_tokenize_error ht]
    cases reason with
    | empty => exact outcome_of_empty ht
    | unterminatedQuote quote => exact outcome_of_error ht (by simp)
    | emptyCommand => exact outcome_of_error ht (by simp)
  | ok c =>
    rw [Detector.detect_of_tokenize_ok ht, outcome_of_ok ht]
    cases s.detector.detectCommandLine c with
    | none => rfl
    | some det =>
      rw [Option.elim_some, LineOutcome.ofDetect]
      simp only [CommandFilter.accepts_iff hfilter]

theorem scanLines_eq (hfilter : CommandFilter.compile patterns = .ok s.filter)
    (lines : List String) : s.scanLines lines = { lines := lines.zipIdx.map fun p =>
      { number := p.2 + 1, outcome := .ofDetect patterns (s.detector.detect p.1) } } := by
  rw [scanLines]
  refine congrArg (Scan.mk · none) (List.map_congr_left fun p _ => ?_)
  simp only [outcome_eq_ofDetect hfilter]

/-- A line has a record if something is detected of it that is not filtered out. -/
theorem record?_ofDetect_eq_some_iff {found : Except DetectionError (Option Detection)} {n : Nat}
    {r : Record} :
    ScannedLine.record? { number := n, outcome := .ofDetect patterns found } = some r ↔
      ∃ det, found = .ok (some det) ∧ patterns.Accepts det.commandLine.command ∧
        r = .ofDetection n det := by
  rw [ScannedLine.record?]
  cases found with
  | error e => rcases e with (_ | _ | _) | _ | _ <;> simp [LineOutcome.ofDetect]
  | ok found =>
    cases found with
    | none => simp [LineOutcome.ofDetect]
    | some det =>
      rw [LineOutcome.ofDetect]
      by_cases h : patterns.Accepts det.commandLine.command
      · simp [h, eq_comm]
      · simp [h]

/-- Whatever a scanner was called with before, each line becomes what is detected of it by itself.
There is a record for each line with a detection whose command the patterns accept, in the order of
the lines, and it says what the detection says. -/
theorem scanLines_line_by_line (h : new { versionSuffix := version, style } patterns = .ok s)
    (size : Nat) (calls : List ScanCall) (lines : List String) :
    let scan := ((Session.after size { scanner := s } calls).call size (.commandLines lines)).2
    scan.lines = lines.zipIdx.map (fun p =>
      { number := p.2 + 1
        outcome := .ofDetect patterns (determineDriver p.1 version style) }) ∧
    ∃ records, scan.records = .ok records ∧ records.Pairwise (fun r r' => r.line < r'.line) ∧
      ∀ r, r ∈ records ↔ ∃ i line det, lines[i]? = some line ∧
        determineDriver line version style = .ok (some det) ∧
        patterns.Accepts det.commandLine.command ∧ r.line = i + 1 ∧ r.Reports det := by
  obtain ⟨hdetector, hfilter⟩ := new_eq_ok_iff.mp h
  have halone : ∀ line, determineDriver line version style = s.detector.detect line := by
    intro line
    rw [determineDriver, hdetector]
    rfl
  simp only [halone, Session.call, Session.scanner_after, run, scanLines_eq hfilter]
  refine ⟨trivial, _, rfl, pairwise_records ?_, fun r => ?_⟩
  · exact List.pairwise_map.mpr ((pairwise_zipIdx lines).imp fun hlt => Nat.succ_lt_succ hlt)
  · rw [List.filterMap_map, List.mem_filterMap]
    constructor
    · intro hr
      obtain ⟨⟨line, i⟩, hmem, hr⟩ := hr
      obtain ⟨det, hdet, haccepts, hr⟩ := record?_ofDetect_eq_some_iff.mp hr
      obtain ⟨hline, hreports⟩ := Record.eq_ofDetection_iff.mp hr
      exact ⟨i, line, det, List.mem_zipIdx_iff_getElem?.mp hmem, hdet, haccepts, hline, hreports⟩
    · intro hr
      obtain ⟨i, line, det, hmem, hdet, haccepts, hline, hreports⟩ := hr
      exact ⟨(line, i), List.mem_zipIdx_iff_getElem?.mpr hmem, record?_ofDetect_eq_some_iff.mpr
        ⟨det, hdet, haccepts, Record.eq_ofDetection_iff.mpr ⟨hline, hreports⟩⟩⟩

theorem scanLines_line_by_line_opt : ∃ s records,
    new { versionSuffix := none, style := .posix } { excluded := ["^/opt/"] } = .ok s ∧
    ((Session.after UInt64.size { scanner := s } [.commandLines ["'"]]).call UInt64.size
      (.commandLines ["", "gcc -c a.c", "/opt/cl"])).2.records = .ok records ∧
    ∃ r det, records = [r] ∧ r.line = 2 ∧
      determineDriver "gcc -c a.c" none .posix = .ok (some det) ∧ r.Reports det := by
  have hscan : (CommandFilter.compile { excluded := ["^/opt/"] }).toOption.bind (fun f =>
      ((Scanner.mk ⟨.posix, Detector.candidatesOf {} none none, []⟩ f).scanLines
        ["", "gcc -c a.c", "/opt/cl"]).records.toOption.map (·.map Record.line)) = some [2] := by
    decide +kernel
  obtain ⟨f, hf, hscan⟩ := Option.bind_eq_some_iff.mp hscan
  obtain ⟨records, hrecords, hlines⟩ := Option.map_eq_some_iff.mp hscan
  have hnew : new { versionSuffix := none, style := .posix } { excluded := ["^/opt/"] } =
      .ok ⟨⟨.posix, Detector.candidatesOf {} none none, []⟩, f⟩ :=
    new_eq_ok_iff.mpr ⟨Detector.new_default, ok_of_toOption hf⟩
  obtain ⟨_, records', hrecords', _, hmem⟩ := scanLines_line_by_line hnew UInt64.size
    [.commandLines ["'"]] ["", "gcc -c a.c", "/opt/cl"]
  obtain rfl : records = records' := by
    have hsame := hrecords'
    rw [Session.call, Session.scanner_after] at hsame
    exact Except.ok.inj ((ok_of_toOption hrecords).symm.trans hsame)
  obtain ⟨r, rfl, hr⟩ := List.map_eq_singleton_iff.mp hlines
  obtain ⟨i, line, det, hline, hdet, _, hi, hreports⟩ := (hmem r).mp (List.mem_singleton_self r)
  obtain rfl : i = 1 := by omega
  obtain rfl : "gcc -c a.c" = line := Option.some.inj hline
  exact ⟨_, _, hnew, hrecords', r, det, rfl, hr, hdet, hreports⟩

end Scanner

end BuildLog
