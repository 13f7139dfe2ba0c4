import BuildLog.CacheEntry
import BuildLog.Record
import BuildLog.Text.Utf8

/-! The output for a list of records, in one of three formats. Each format is a list of entries, and
each entry is written as a line. -/

namespace BuildLog

inductive ReportFormat where
  | text
  | json
  | cmake
  deriving DecidableEq, Repr

namespace ReportFormat

instance : Inhabited ReportFormat := ⟨.text⟩

def all : List ReportFormat := [.text, .json, .cmake]

def name : ReportFormat → String
  | .text => "text"
  | .json => "json"
  | .cmake => "cmake"

def ofName? (s : String) : Option ReportFormat :=
  all.find? fun f => f.name == s

end ReportFormat

inductive ReportError where
  | unknownFormat (name : String)
  | write (reason : String)
  | serialize (reason : String)
  deriving DecidableEq, Repr

def ReportError.message : ReportError → String
  | .unknownFormat name => "Unknown output format: " ++ name
  | .write reason => "Failed to write output: " ++ reason
  | .serialize reason => "Failed to serialize record: " ++ reason

namespace Report

/-- The cache entry that names the compiler of a language. -/
def compilerVariable : Language → String
  | .c => "CMAKE_C_COMPILER"
  | .cxx => "CMAKE_CXX_COMPILER"
  | .cuda => "CMAKE_CUDA_COMPILER"

/-- The first record of each language that is not in `seen`, in the order of the records. -/
def firstPerLanguage (seen : List Language) : List Record → List (Language × Record)
  | [] => []
  | r :: rs =>
    match r.language with
    | none => firstPerLanguage seen rs
    | some language =>
      if language ∈ seen then firstPerLanguage seen rs
      else (language, r) :: firstPerLanguage (language :: seen) rs

/-- The definition that makes the command of a record the compiler of a language. -/
def definition (language : Language) (r : Record) : String :=
  CacheType.filePath.define (compilerVariable language) r.command

def entries : ReportFormat → List Record → List String
  | .text, records => records.map Record.text
  | .json, records => records.map Record.json
  | .cmake, records => (firstPerLanguage [] records).map fun p => definition p.1 p.2

/-- The report as it is written to a sink that takes all of it. -/
def text (format : ReportFormat) (records : List Record) : String :=
  String.join ((entries format records).map fun entry => entry ++ "\n")

/-- Where a report is written to. A sink may take only some bytes and may fail at the end; it gives
the reasons. -/
structure Sink where
  limit : Option (Nat × String) := none
  flushFailure : Option String := none
  deriving DecidableEq, Repr

/-- What became of a report: the bytes that the sink took, and the number of entries or the error. -/
structure Outcome where
  accepted : List UInt8
  result : Except ReportError Nat

/-- An entry is lost in the serializer if it is an object, and its newline never is. -/
def entryFailure : ReportFormat → String → ReportError
  | .json, reason => .serialize reason
  | _, reason => .write reason

/-- Writes entries to a sink that takes `room` more bytes: what it takes, and the error. -/
def writeLimited (format : ReportFormat) (reason : String) :
    Nat → List String → List UInt8 × Option ReportError
  | _, [] => ([], none)
  | room, entry :: rest =>
    let bytes := Utf8.encode entry.toList
    if room < bytes.length then (bytes.take room, some (entryFailure format reason))
    else if room = bytes.length then (bytes, some (.write reason))
    else
      let (accepted, error) := writeLimited format reason (room - (bytes.length + 1)) rest
      (bytes ++ 0x0A :: accepted, error)

def write (sink : Sink) (format : ReportFormat) (records : List Record) : Outcome :=
  let entries := entries format records
  let (accepted, error) :=
    match sink.limit with
    | some (room, reason) => writeLimited format reason room entries
    | none => (Utf8.encode (text format records).toList, none)
  match error, sink.flushFailure with
  | some e, _ => ⟨accepted, .error e⟩
  | none, some reason => ⟨accepted, .error (.write reason)⟩
  | none, none => ⟨accepted, .ok entries.length⟩

end Report

end BuildLog
