import BuildLog.Proofs.Scan.Lines
import BuildLog.Proofs.Scan.Messages
import BuildLog.Proofs.Text.Replacement

/-! Scanning the bytes of a log and scanning the text that they are decoded to. A newline is never
part of another character, so it does not matter whether a log is decoded as a whole or line by
line. -/

namespace BuildLog

namespace LogSource

/-- The log with what is not UTF-8 replaced. -/
def decoded (source : LogSource) : LogSource :=
  { source with bytes := Utf8.encode (Utf8.lossy source.bytes) }

theorem encode_lossy_ne_nil {line : List UInt8} (h : line ≠ []) :
    Utf8.encode (Utf8.lossy line) ≠ [] := by
  rw [Ne, ← Utf8.lossy_eq_nil_iff, Utf8.lossy_encode, Utf8.lossy_eq_nil_iff]
  exact h

theorem newline_notMem_encode_lossy {line : List UInt8} (h : 0x0A ∉ line) :
    0x0A ∉ Utf8.encode (Utf8.lossy line) := by
  rw [Utf8.newline_mem_encode_iff, Utf8.newline_mem_lossy_iff]
  exact h

theorem encode_lossy_append_newline (line rest : List UInt8) :
    Utf8.encode (Utf8.lossy (line ++ 0x0A :: rest)) =
      Utf8.encode (Utf8.lossy line) ++ 0x0A :: Utf8.encode (Utf8.lossy rest) := by
  rw [Utf8.lossy_append_newline, Utf8.encode_append]
  rfl

/-- Decoding a log decodes each of its lines. -/
theorem lines_decoded (source : LogSource) :
    source.decoded.lines = source.lines.map fun line => Utf8.encode (Utf8.lossy line) := by
  obtain ⟨bytes, failure⟩ := source
  induction bytes using line_induction with
  | nil =>
    show lines ⟨[], failure⟩ = _
    rw [lines_nil]
    rfl
  | last line hne hline =>
    show lines ⟨Utf8.encode (Utf8.lossy line), failure⟩ = _
    rw [lines_last _ (encode_lossy_ne_nil hne) (newline_notMem_encode_lossy hline),
      lines_last _ hne hline]
    split <;> rfl
  | cons line rest hline ih =>
    show lines ⟨Utf8.encode (Utf8.lossy (line ++ 0x0A :: rest)), failure⟩ = _
    have hrest : lines ⟨Utf8.encode (Utf8.lossy rest), failure⟩ =
      (lines ⟨rest, failure⟩).map fun line => Utf8.encode (Utf8.lossy line) := ih
    rw [encode_lossy_append_newline, lines_append_newline _ (newline_notMem_encode_lossy hline),
      lines_append_newline _ hline, hrest, List.map_cons, encode_lossy_append_newline]
    rfl

end LogSource

/-- What becomes of a line, apart from how its bytes were read. -/
def ScannedLine.result (line : ScannedLine) : Nat × LineOutcome :=
  (line.number, line.outcome)

namespace Scan

variable {s t : Scan}

theorem records_congr (h : s.lines.map ScannedLine.result = t.lines.map ScannedLine.result)
    (hfailure : s.failure = t.failure) : s.records = t.records := by
  let record? (r : Nat × LineOutcome) : Option Record :=
    ScannedLine.record? { number := r.1, outcome := r.2 }
  have hrecord : ∀ lines : List ScannedLine, lines.filterMap ScannedLine.record? =
      (lines.map ScannedLine.result).filterMap record? :=
    fun lines => by rw [List.filterMap_map]; rfl
  rw [records, records, hfailure, hrecord, hrecord, h]

theorem statistics_congr (h : s.lines.map ScannedLine.result = t.lines.map ScannedLine.result) :
    s.statistics = t.statistics := by
  have hcount : ∀ lines : List ScannedLine, Statistics.ofLines lines =
      (lines.map ScannedLine.result).foldr (fun r st => .ofOutcome r.2 + st) {} :=
    fun lines => by rw [List.foldr_map]; rfl
  rw [statistics, statistics, hcount, hcount, h]

theorem notUtf8Message_mem_messages_iff {n : Nat} :
    notUtf8Message n ∈ s.messages ↔ ∃ line ∈ s.lines, line.number = n ∧ line.isUtf8 = false := by
  rw [messages, List.mem_flatMap]
  simp only [ScannedLine.notUtf8Message_mem_messages_iff]

end Scan

namespace Scanner

theorem lineText_encode_lossy (line : List UInt8) :
    lineText (Utf8.encode (Utf8.lossy line)) = lineText line := by
  rw [lineText, lineText, Utf8.lossy_encode]

theorem map_result_scanLog (s : Scanner) (source : LogSource) :
    (s.scanLog source).lines.map ScannedLine.result =
      (source.lines.map lineText).zipIdx.map fun p => (p.2 + 1, s.outcome p.1) := by
  rw [List.zipIdx_map, List.map_map, scanLog, List.map_map]
  rfl

theorem map_result_scanLog_decoded (s : Scanner) (source : LogSource) :
    (s.scanLog source.decoded).lines.map ScannedLine.result =
      (s.scanLog source).lines.map ScannedLine.result := by
  have htexts : source.decoded.lines.map lineText = source.lines.map lineText := by
    rw [LogSource.lines_decoded, List.map_map]
    exact List.map_congr_left fun line _ => lineText_encode_lossy line
  rw [map_result_scanLog, map_result_scanLog, htexts]

theorem exists_mem_scanLog_iff {s : Scanner} {source : LogSource} {n : Nat} :
    (∃ line ∈ (s.scanLog source).lines, line.number = n ∧ line.isUtf8 = false) ↔
      ∃ i line, source.lines[i]? = some line ∧ n = i + 1 ∧ Utf8.isValid line = false := by
  rw [scanLog]
  constructor
  · intro h
    obtain ⟨line, hline, rfl, hvalid⟩ := h
    obtain ⟨⟨bytes, i⟩, hp, rfl⟩ := List.mem_map.mp hline
    exact ⟨i, bytes, List.mem_zipIdx_iff_getElem?.mp hp, rfl, hvalid⟩
  · intro h
    obtain ⟨i, bytes, hp, rfl, hvalid⟩ := h
    exact ⟨_, List.mem_map.mpr ⟨(bytes, i), List.mem_zipIdx_iff_getElem?.mpr hp, rfl⟩, rfl, hvalid⟩

/-- A scan finds the same in a log and in what the log is decoded to as a whole, and it says of
exactly those lines that they are not UTF-8 that are not the encoding of any text. The lines are
those that the bytes are cut into behind each newline. -/
theorem scanLog_decoded (s : Scanner) (source : LogSource) :
    (s.scanLog source.decoded).records = (s.scanLog source).records ∧
    (s.scanLog source.decoded).statistics = (s.scanLog source).statistics ∧
    (∀ n, notUtf8Message n ∈ (s.scanLog source).messages ↔
      ∃ i line, source.lines[i]? = some line ∧ n = i + 1 ∧ ¬ ∃ cs, Utf8.encode cs = line) ∧
    ∀ lines, source.CutInto lines ↔ lines = source.lines := by
  have hresult := s.map_result_scanLog_decoded source
  refine ⟨Scan.records_congr hresult rfl, Scan.statistics_congr hresult, fun n => ?_,
    fun _ => LogSource.cutInto_iff⟩
  rw [Scan.notUtf8Message_mem_messages_iff, exists_mem_scanLog_iff]
  simp only [← Utf8.isValid_iff, Bool.not_eq_true]

end Scanner

end BuildLog
