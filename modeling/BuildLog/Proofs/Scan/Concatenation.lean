import BuildLog.Proofs.Detection.Expressions
import BuildLog.Proofs.Scan.Lines
import BuildLog.Proofs.Scan.Statistics

/-! Logs one behind the other. Nothing is carried from one line of a log to the next, so behind a
newline a scan goes on as a new one does, with the numbers counted on. -/

namespace BuildLog

namespace LogSource

variable {a : List UInt8}

/-- The bytes are whole lines, each with its newline. -/
def WholeLines (bytes : List UInt8) : Prop :=
  ∀ b ∈ bytes.getLast?, b = 0x0A

theorem wholeLines_iff : WholeLines a ↔ a = [] ∨ a.getLast? = some 0x0A := by
  cases h : a.getLast? with
  | none => simp [WholeLines, List.getLast?_eq_none_iff.mp h]
  | some b =>
    have hne : a ≠ [] := by
      intro hnil
      rw [hnil] at h
      cases h
    simp [WholeLines, h, hne]

theorem WholeLines.newline_mem (h : WholeLines a) (hne : a ≠ []) : 0x0A ∈ a := by
  have hlast := h (a.getLast hne) (List.getLast?_eq_some_getLast hne)
  exact hlast ▸ List.getLast_mem hne

theorem WholeLines.tail {line rest : List UInt8} (h : WholeLines (line ++ 0x0A :: rest)) :
    WholeLines rest := by
  intro b hb
  have hrest : rest.getLast? = some b := hb
  exact h b (by simp [List.getLast?_append, List.getLast?_cons, hrest])

/-- Behind whole lines the lines of a log are the same as in a log of their own. -/
theorem lines_append (failure : Option String) (h : WholeLines a) (b : List UInt8) :
    lines ⟨a ++ b, failure⟩ = lines ⟨a, none⟩ ++ lines ⟨b, failure⟩ := by
  induction a using line_induction with
  | nil =>
    rw [lines_nil]
    rfl
  | last line hne hline => exact absurd (h.newline_mem hne) hline
  | cons line rest hline ih =>
    rw [List.append_assoc, List.cons_append, lines_append_newline _ hline,
      lines_append_newline _ hline, ih h.tail, List.cons_append]

theorem length_lines (h : WholeLines a) : (lines ⟨a, none⟩).length = a.count 0x0A := by
  induction a using line_induction with
  | nil => rfl
  | last line hne hline => exact absurd (h.newline_mem hne) hline
  | cons line rest hline ih =>
    rw [lines_append_newline _ hline, List.length_cons, ih h.tail, List.count_append,
      List.count_eq_zero_of_not_mem hline, List.count_cons_self, Nat.zero_add]

end LogSource

/-- The same message, about the line so many lines further on. -/
def LogMessage.renumber (k : Nat) (m : LogMessage) : LogMessage :=
  ⟨m.level, aboutLine (m.lineNumber + k) (String.ofList m.remark)⟩

/-- The same record, of the line so many lines further on. -/
def Record.renumber (k : Nat) (r : Record) : Record :=
  { r with line := r.line + k }

theorem renumber_aboutLine (k : Nat) (level : LogLevel) (n : Nat) (what : String) :
    LogMessage.renumber k ⟨level, aboutLine n what⟩ = ⟨level, aboutLine (n + k) what⟩ := by
  rw [LogMessage.renumber, lineNumber_aboutLine, remark_aboutLine, String.ofList_toList]

namespace ScannedLine

def renumber (k : Nat) (line : ScannedLine) : ScannedLine :=
  { line with number := line.number + k }

theorem record?_renumber (k : Nat) (line : ScannedLine) :
    (line.renumber k).record? = line.record?.map (.renumber k) := by
  rw [record?, record?, renumber]
  cases line.outcome <;> rfl

theorem messages_renumber (k : Nat) (line : ScannedLine) :
    (line.renumber k).messages = line.messages.map (.renumber k) := by
  have hoption : (line.renumber k).outcomeMessage? =
      line.outcomeMessage?.map (.renumber k) := by
    rw [outcomeMessage?_eq, outcomeMessage?_eq, Option.map_map, renumber]
    refine congrArg (Option.map · _) (funext fun r => ?_)
    exact (renumber_aboutLine k r.1 line.number r.2).symm
  have hutf8 : notUtf8Message (line.renumber k).number =
      (notUtf8Message line.number).renumber k := by
    rw [notUtf8Message_eq, notUtf8Message_eq, renumber_aboutLine, renumber]
  rw [messages_eq, messages_eq, hoption, hutf8, List.map_append, Option.toList_map, renumber]
  cases line.isUtf8 <;> rfl

end ScannedLine

theorem Statistics.ofLines_renumber (k : Nat) (lines : List ScannedLine) :
    ofLines (lines.map (.renumber k)) = ofLines lines := by
  rw [ofLines, List.foldr_map]
  rfl

namespace Scanner

variable {a : List UInt8}

theorem lines_scanLog_append (s : Scanner) (failure : Option String)
    (h : LogSource.WholeLines a) (b : List UInt8) :
    (s.scanLog ⟨a ++ b, failure⟩).lines = (s.scanLog ⟨a, none⟩).lines ++
      (s.scanLog ⟨b, failure⟩).lines.map (.renumber (a.count 0x0A)) := by
  have hshift := List.map_snd_add_zipIdx_eq_zipIdx (l := LogSource.lines ⟨b, failure⟩)
    (n := a.count 0x0A) (k := 0)
  rw [scanLog, scanLog, scanLog, LogSource.lines_append failure h, List.zipIdx_append,
    List.map_append, LogSource.length_lines h, Nat.zero_add, ← Nat.add_zero (a.count 0x0A),
    ← hshift, List.map_map, List.map_map]
  refine congrArg (_ ++ ·) (List.map_congr_left fun p _ => ?_)
  simp only [Function.comp_apply, Prod.map, ScannedLine.renumber, id_eq, Nat.add_zero]
  rw [Nat.add_right_comm]

theorem records_scanLog (s : Scanner) (bytes : List UInt8) : (s.scanLog { bytes }).records =
    .ok ((s.scanLog { bytes }).lines.filterMap ScannedLine.record?) :=
  rfl

/-- Behind whole lines a scan goes on as a scan of its own: its records and messages follow with the
numbers counted on, and what it counts is added up. -/
theorem scanLog_append (s : Scanner) {a : List UInt8} (h : a = [] ∨ a.getLast? = some 0x0A)
    (b : List UInt8) :
    (∃ front behind, (s.scanLog { bytes := a }).records = .ok front ∧
      (s.scanLog { bytes := b }).records = .ok behind ∧
      (s.scanLog { bytes := a ++ b }).records =
        .ok (front ++ behind.map (.renumber (a.count 0x0A)))) ∧
    (s.scanLog { bytes := a ++ b }).messages = (s.scanLog { bytes := a }).messages ++
      (s.scanLog { bytes := b }).messages.map (.renumber (a.count 0x0A)) ∧
    (s.scanLog { bytes := a ++ b }).statistics =
      (s.scanLog { bytes := a }).statistics + (s.scanLog { bytes := b }).statistics ∧
    ∀ size calls, s.statistics size (calls ++ [.log { bytes := a ++ b }]) =
      s.statistics size (calls ++ [.log { bytes := a }, .log { bytes := b }]) := by
  have hlines := s.lines_scanLog_append none (LogSource.wholeLines_iff.mpr h) b
  have hstatistics : (s.scanLog { bytes := a ++ b }).statistics =
      (s.scanLog { bytes := a }).statistics + (s.scanLog { bytes := b }).statistics := by
    rw [Scan.statistics, hlines, Statistics.ofLines_append, Statistics.ofLines_renumber]
    rfl
  refine ⟨⟨_, _, s.records_scanLog a, s.records_scanLog b, ?_⟩, ?_, hstatistics,
    fun size calls => ?_⟩
  · rw [records_scanLog, hlines, List.filterMap_append, List.filterMap_map, List.map_filterMap]
    simp only [Function.comp_def, ScannedLine.record?_renumber]
  · rw [Scan.messages, hlines, List.flatMap_append, List.flatMap_map, Scan.messages, Scan.messages,
      List.map_flatMap]
    simp only [ScannedLine.messages_renumber]
  · have hsplit : calls ++ [ScanCall.log { bytes := a }, .log { bytes := b }] =
        (calls ++ [.log { bytes := a }]) ++ [.log { bytes := b }] := by simp
    rw [hsplit, statistics_append, statistics_append, statistics_append,
      Statistics.wrap_wrap_add, Statistics.add_assoc]
    exact congrArg (fun t => Statistics.wrap size (_ + t)) hstatistics

theorem scanLog_append_gcc : ∃ s front behind, new {} {} = .ok s ∧
    (s.scanLog { bytes := Utf8.encode "gcc -c a.c\n\n".toList }).records = .ok front ∧
    (s.scanLog { bytes := Utf8.encode "cl".toList }).records = .ok behind ∧
    behind.map (·.line) = [1] ∧
    (s.scanLog { bytes := Utf8.encode "gcc -c a.c\n\n".toList ++ Utf8.encode "cl".toList }).records =
      .ok (front ++ behind.map (.renumber 2)) := by
  let s : Scanner := ⟨⟨.posix, Detector.candidatesOf {} none none, []⟩, ⟨[], []⟩⟩
  have hnew : new {} {} = .ok s := new_eq_ok_iff.mpr ⟨Detector.new_default, rfl⟩
  have hrecords : (s.scanLog { bytes := Utf8.encode "cl".toList }).records.toOption.map
      (·.map Record.line) = some [1] := by decide +kernel
  obtain ⟨records, hcl, hline⟩ := Option.map_eq_some_iff.mp hrecords
  obtain ⟨⟨front, behind, hfront, hbehind, hboth⟩, _⟩ :=
    s.scanLog_append (a := Utf8.encode "gcc -c a.c\n\n".toList) (by decide +kernel)
      (Utf8.encode "cl".toList)
  obtain rfl : records = behind := Except.ok.inj ((ok_of_toOption hcl).symm.trans hbehind)
  exact ⟨s, front, records, hnew, hfront, hbehind, hline, hboth⟩

end Scanner

end BuildLog
