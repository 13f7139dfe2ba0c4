import BuildLog.Proofs.Scan.Lines
import BuildLog.Proofs.Text.Replacement
import BuildLog.Report

/-! The bytes of a report: its entries, each with a newline behind it. -/

namespace BuildLog.Report

/-- The bytes of entries that are written one to a line. -/
def lines (entries : List String) : List UInt8 :=
  entries.flatMap fun entry => Utf8.encode entry.toList ++ [0x0A]

theorem lines_cons (entry : String) (entries : List String) :
    lines (entry :: entries) = Utf8.encode entry.toList ++ 0x0A :: lines entries := by
  simp [lines]

theorem lines_append (front behind : List String) :
    lines (front ++ behind) = lines front ++ lines behind :=
  List.flatMap_append

theorem encode_text (format : ReportFormat) (records : List Record) :
    Utf8.encode (text format records).toList = lines (entries format records) := by
  have hentry : ∀ entry : String, (entry ++ "\n").toList.flatMap String.utf8EncodeChar =
      Utf8.encode entry.toList ++ [0x0A] := by
    intro entry
    rw [String.toList_append, List.flatMap_append]
    rfl
  simp only [text, String.toList_join, List.flatMap_map, Utf8.encode, List.flatMap_assoc, hentry]
  rfl

/-- A sink that takes all that is written to it gets the entries line by line. -/
theorem write_eq (format : ReportFormat) (records : List Record) : write {} format records =
    ⟨lines (entries format records), .ok (entries format records).length⟩ :=
  congrArg (Outcome.mk · _) (encode_text format records)

/-- Entries without a newline are the lines of their report. -/
theorem splitLines_lines {entries : List String}
    (h : ∀ entry ∈ entries, 0x0A ∉ Utf8.encode entry.toList) :
    LogSource.splitLines (lines entries) =
      entries.map fun entry => Utf8.encode entry.toList ++ [0x0A] := by
  have hsplit := LogSource.splitLines_flatMap (List.forall_mem_map.mpr h) []
  rwa [List.append_nil, List.flatMap_map, show LogSource.splitLines [] = [] from rfl,
    List.append_nil, List.map_map] at hsplit

end BuildLog.Report
