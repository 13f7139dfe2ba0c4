import BuildLog.CommandFilter
import BuildLog.LogMessage
import BuildLog.Record
import BuildLog.Text.Utf8

/-! Running the detection over the lines of a build log. Most lines of a log are of no interest, so
no line stops a scan: each has an outcome, and the records, the messages and the statistics of a
scan are all read off the outcomes of its lines. -/

namespace BuildLog

/-- What becomes of a line. -/
inductive LineOutcome where
  | blank
  | malformed (reason : DetectionError)
  | filtered (d : Detection)
  | unrecognized
  | detected (d : Detection)
  deriving DecidableEq, Repr

/-- A line of a log with its number, counted from one. -/
structure ScannedLine where
  number : Nat
  isUtf8 : Bool := true
  outcome : LineOutcome
  deriving DecidableEq, Repr

namespace ScannedLine

def record? (line : ScannedLine) : Option Record :=
  match line.outcome with
  | .detected d => some (.ofDetection line.number d)
  | _ => none

/-- The message about the outcome. There is none about a blank line. -/
def outcomeMessage? (line : ScannedLine) : Option LogMessage :=
  let about (what : String) := "Line " ++ toString line.number ++ " " ++ what
  match line.outcome with
  | .blank => none
  | .malformed reason => some ⟨.debug, about ("skipped: " ++ reason.message)⟩
  | .filtered d => some ⟨.debug, about ("filtered: " ++ d.commandLine.command)⟩
  | .unrecognized => some ⟨.trace, about "not recognized"⟩
  | .detected d => some ⟨.debug, about ("detected: " ++ d.text)⟩

/-- The messages about a line. That its bytes are not text is said first. -/
def messages (line : ScannedLine) : List LogMessage :=
  (if line.isUtf8 then []
    else [⟨.debug, "Line " ++ toString line.number ++ " is not valid UTF-8"⟩]) ++
  line.outcomeMessage?.toList

end ScannedLine

structure Statistics where
  read : Nat := 0
  blank : Nat := 0
  malformed : Nat := 0
  filtered : Nat := 0
  unrecognized : Nat := 0
  detected : Nat := 0
  deriving DecidableEq, Repr

namespace Statistics

instance : Add Statistics where
  add s t :=
    ⟨s.read + t.read, s.blank + t.blank, s.malformed + t.malformed, s.filtered + t.filtered,
      s.unrecognized + t.unrecognized, s.detected + t.detected⟩

def ofOutcome : LineOutcome → Statistics
  | .blank => { read := 1, blank := 1 }
  | .malformed _ => { read := 1, malformed := 1 }
  | .filtered _ => { read := 1, filtered := 1 }
  | .unrecognized => { read := 1, unrecognized := 1 }
  | .detected _ => { read := 1, detected := 1 }

def ofLines (lines : List ScannedLine) : Statistics :=
  lines.foldr (fun line s => ofOutcome line.outcome + s) {}

def text (s : Statistics) : String :=
  "Scan statistics:\n" ++
  "  lines read: " ++ toString s.read ++ "\n" ++
  "  blank lines: " ++ toString s.blank ++ "\n" ++
  "  malformed lines: " ++ toString s.malformed ++ "\n" ++
  "  filtered commands: " ++ toString s.filtered ++ "\n" ++
  "  unrecognized commands: " ++ toString s.unrecognized ++ "\n" ++
  "  detected commands: " ++ toString s.detected

end Statistics

inductive ScanError where
  | detector (reason : DetectionError)
  | commandPattern (reason : CommandPatternError)
  | read (reason : String)
  deriving DecidableEq, Repr

namespace ScanError

/-- What went wrong, up to the explanation of what is wrong with a pattern. -/
def context : ScanError → String
  | .detector reason => "Failed to create detector: " ++ reason.context
  | .commandPattern reason => reason.context
  | .read reason => "Failed to read build log: " ++ reason

def message (e : ScanError) : String :=
  match e with
  | .detector reason => "Failed to create detector: " ++ reason.message
  | .commandPattern reason => reason.context ++ reason.reason.message
  | .read _ => e.context

def causes : ScanError → List String
  | .detector reason => reason.message :: reason.causes
  | .commandPattern reason => [reason.reason.message]
  | .read _ => []

end ScanError

/-- A detector together with the filter on what it recognizes. -/
structure Scanner where
  detector : Detector
  filter : CommandFilter

/-- A log as it is read: its bytes, and the reason if reading fails behind them. -/
structure LogSource where
  bytes : List UInt8
  failure : Option String := none
  deriving DecidableEq, Repr

/-- The lines that were scanned, and the reason if the log could not be read to its end. -/
structure Scan where
  lines : List ScannedLine
  failure : Option String := none
  deriving DecidableEq, Repr

namespace Scan

/-- A log that cannot be read to its end has no records. -/
def records (s : Scan) : Except ScanError (List Record) :=
  match s.failure with
  | some reason => .error (.read reason)
  | none => .ok (s.lines.filterMap ScannedLine.record?)

def messages (s : Scan) : List LogMessage :=
  s.lines.flatMap ScannedLine.messages

def statistics (s : Scan) : Statistics :=
  .ofLines s.lines

end Scan

namespace LogSource

/-- The bytes of each line with its newline. A newline ends a line, so there is no line behind the
last newline unless there are bytes. -/
def splitLines (bytes : List UInt8) : List (List UInt8) :=
  bytes.foldr (fun b lines =>
    match lines with
    | [] => [[b]]
    | line :: rest => if b = 0x0A then [b] :: line :: rest else (b :: line) :: rest) []

/-- The lines that are read completely. Where reading fails the newline of the last line was still
to come. -/
def lines (source : LogSource) : List (List UInt8) :=
  match source.failure with
  | none => splitLines source.bytes
  | some _ => (splitLines source.bytes).filter fun line => line.getLast? = some 0x0A

end LogSource

namespace Scanner

def new (settings : DetectionSettings) (patterns : CommandPatterns) :
    Except ScanError Scanner := do
  let detector ← (Detector.new settings).mapError .detector
  let filter ← (CommandFilter.compile patterns).mapError .commandPattern
  return ⟨detector, filter⟩

theorem new_eq_ok_iff {settings : DetectionSettings} {patterns : CommandPatterns} {s : Scanner} :
    new settings patterns = .ok s ↔
      Detector.new settings = .ok s.detector ∧ CommandFilter.compile patterns = .ok s.filter := by
  obtain ⟨detector, filter⟩ := s
  cases hdetector : Detector.new settings with
  | error e =>
    have hnew : new settings patterns = .error (.detector e) := by
      rw [new, hdetector]
      rfl
    simp [hnew]
  | ok d =>
    cases hfilter : CommandFilter.compile patterns with
    | error e =>
      have hnew : new settings patterns = .error (.commandPattern e) := by
        rw [new, hdetector, hfilter]
        rfl
      simp [hnew]
    | ok f =>
      have hnew : new settings patterns = .ok ⟨d, f⟩ := by
        rw [new, hdetector, hfilter]
        rfl
      simp [hnew]

def outcome (s : Scanner) (line : String) : LineOutcome :=
  if line.toList.all isBlank then .blank
  else
    match s.detector.detect line with
    | .error reason => .malformed reason
    | .ok none => .unrecognized
    | .ok (some d) => if s.filter.accepts d.commandLine.command then .detected d else .filtered d

def scanLines (s : Scanner) (lines : List String) : Scan where
  lines := lines.zipIdx.map fun (line, index) => { number := index + 1, outcome := s.outcome line }

/-- The text of a line without the newlines and carriage returns at its end. -/
def lineText (bytes : List UInt8) : String :=
  String.ofList
    ((Utf8.lossy bytes).reverse.dropWhile fun c => c == '\n' || c == '\r').reverse

/-- Scans a log. Bytes that are not UTF-8 do not stop the scan. -/
def scanLog (s : Scanner) (source : LogSource) : Scan where
  lines := source.lines.zipIdx.map fun (bytes, index) =>
    { number := index + 1
      isUtf8 := Utf8.isValid bytes
      outcome := s.outcome (lineText bytes) }
  failure := source.failure

end Scanner

end BuildLog
