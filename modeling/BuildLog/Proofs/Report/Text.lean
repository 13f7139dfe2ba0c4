import BuildLog.Proofs.CommandLine.Writable
import BuildLog.Proofs.Detection.Suffix
import BuildLog.Proofs.Report.Lines
import BuildLog.Proofs.Scan.LineByLine
import BuildLog.Proofs.Text.Digits

/-! A report as text. Nothing is escaped in it: its lines can be told apart since no command of a
log holds a newline, and its fields since no name has a tab and the command comes last. -/

namespace BuildLog

/-- A text cut at its first `n` separators. -/
def splitFirst (sep : Char) : Nat → List Char → List (List Char)
  | 0, cs => [cs]
  | n + 1, cs =>
    match cs.dropWhile (· != sep) with
    | [] => [cs]
    | _ :: rest => cs.takeWhile (· != sep) :: splitFirst sep n rest

theorem splitFirst_append {sep : Char} {field : List Char} (h : sep ∉ field) (n : Nat)
    (rest : List Char) :
    splitFirst sep (n + 1) (field ++ sep :: rest) = field :: splitFirst sep n rest := by
  have hfield : ∀ c ∈ field, (c != sep) = true :=
    fun c hc => bne_iff_ne.mpr (ne_of_mem_of_not_mem hc h)
  rw [splitFirst, List.dropWhile_append_of_pos hfield, List.takeWhile_append_of_pos hfield]
  simp

namespace Record

/-- The line number, the driver, the method and the command as they are written. -/
def textFields (r : Record) : List (List Char) :=
  [Nat.toDigits 10 r.line, r.driver.toList, r.method.key.toList, r.command.toList]

/-- The name of the driver is one field and the text is one line. -/
structure Framed (r : Record) : Prop where
  driver_tab : '\t' ∉ r.driver.toList
  driver_newline : '\n' ∉ r.driver.toList
  command_newline : '\n' ∉ r.command.toList

variable {r : Record}

theorem toList_text (r : Record) : r.text.toList = Nat.toDigits 10 r.line ++ '\t' ::
    (r.driver.toList ++ '\t' :: (r.method.key.toList ++ '\t' :: r.command.toList)) := by
  simp [text]

theorem Framed.splitFirst_text (h : r.Framed) : splitFirst '\t' 3 r.text.toList = r.textFields := by
  have hmethod : '\t' ∉ r.method.key.toList := by cases r.method <;> decide
  rw [toList_text, splitFirst_append (notMem_toDigits rfl r.line), splitFirst_append h.driver_tab,
    splitFirst_append hmethod]
  rfl

theorem Framed.newline_notMem_text (h : r.Framed) : '\n' ∉ r.text.toList := by
  have hmethod : '\n' ∉ r.method.key.toList := by cases r.method <;> decide
  rw [toList_text]
  simp [notMem_toDigits, h.driver_newline, hmethod, h.command_newline]

end Record

namespace Report

/-- The fields of a line of a report as text. What does not end in a newline is no such line. -/
def row? (line : List UInt8) : Option (List (List Char)) :=
  if line.getLast? = some 0x0A then (Utf8.decode? line.dropLast).map (splitFirst '\t' 3) else none

/-- The fields of each line of a report as text. -/
def rows? (bytes : List UInt8) : Option (List (List (List Char))) :=
  (LogSource.splitLines bytes).mapM row?

variable {r : Record} {records : List Record}

theorem newline_notMem_encode_text (h : r.Framed) : 0x0A ∉ Utf8.encode r.text.toList := by
  rw [Utf8.newline_mem_encode_iff]
  exact h.newline_notMem_text

theorem row?_text (h : r.Framed) :
    row? (Utf8.encode r.text.toList ++ [0x0A]) = some r.textFields := by
  rw [row?, if_pos List.getLast?_concat, List.dropLast_concat, Utf8.decode?_encode, Option.map_some,
    h.splitFirst_text]

/-- A report as text gives back the fields of its records. -/
theorem rows?_write (h : ∀ r ∈ records, r.Framed) :
    rows? (write {} .text records).accepted = some (records.map Record.textFields) := by
  have hlines : ∀ entry ∈ entries .text records, 0x0A ∉ Utf8.encode entry.toList :=
    List.forall_mem_map.mpr fun r hr => newline_notMem_encode_text (h r hr)
  rw [rows?, write_eq, splitLines_lines hlines, entries, List.map_map]
  exact mapM_map_of_read_mem fun r hr => row?_text (h r hr)

end Report

theorem Driver.separators_notMem_name : ∀ driver ∈ all,
    '\t' ∉ driver.name.toList ∧ '\n' ∉ driver.name.toList := by
  decide

theorem Detector.commandLine_of_detectCommandLine {d : Detector} {line : CommandLine}
    {det : Detection} (h : d.detectCommandLine line = some det) : det.commandLine = line := by
  rcases (detectCommandLine_eq_some_iff rfl).mp h with ⟨_, _, _, rfl⟩ | ⟨_, _, _, _, rfl⟩ <;> rfl

namespace Scanner

variable {settings : DetectionSettings} {patterns : CommandPatterns} {s : Scanner}

/-- The text of a line of a log holds no newline, with or without one at the end of the line. -/
theorem newline_notMem_lineText {bytes line : List UInt8} (h : line ∈ LogSource.splitLines bytes) :
    '\n' ∉ (lineText line).toList := by
  obtain ⟨body, hbody, hline⟩ := LogSource.exists_body_of_mem_splitLines h
  rw [← Utf8.newline_mem_lossy_iff] at hbody
  intro hmem
  rw [lineText, String.toList_ofList, List.mem_reverse] at hmem
  rcases hline with rfl | rfl
  · exact hbody (List.mem_reverse.mp ((List.dropWhile_sublist _).subset hmem))
  · rw [Utf8.lossy_append_newline, List.reverse_append] at hmem
    exact hbody (List.mem_reverse.mp ((List.dropWhile_sublist _).subset hmem))

/-- What is detected of a line is reported under the name of a driver, and with a command that the
line holds character by character. -/
theorem origin_of_detect {d : Detector} {line : String} {det : Detection}
    (hnew : Detector.new settings = .ok d) (h : d.detect line = .ok (some det)) :
    det.driver ∈ Driver.all ∧ det.commandLine.command.toList.Sublist line.toList := by
  cases ht : CommandLine.tokenize d.style line with
  | error reason =>
    rw [Detector.detect_of_tokenize_error ht] at h
    cases h
  | ok c =>
    rw [Detector.detect_of_tokenize_ok ht] at h
    have hdet := Except.ok.inj h
    obtain ⟨_, _, _, _, hdriver, _⟩ := Detector.exists_cut_of_detectCommandLine hnew rfl hdet
    refine ⟨hdriver, ?_⟩
    rw [Detector.commandLine_of_detectCommandLine hdet]
    exact CommandLine.command_sublist_of_tokenize ht

/-- The record of what is detected of a single line is framed. -/
theorem framed_of_detect {d : Detector} {line : String} {det : Detection}
    (hnew : Detector.new settings = .ok d) (hline : '\n' ∉ line.toList)
    (h : d.detect line = .ok (some det)) (n : Nat) : (Record.ofDetection n det).Framed := by
  obtain ⟨hdriver, hcommand⟩ := origin_of_detect hnew h
  obtain ⟨htab, hnewline⟩ := Driver.separators_notMem_name _ hdriver
  exact ⟨htab, hnewline, fun hmem => hline (hcommand.subset hmem)⟩

theorem framed_of_mem_records (h : new settings patterns = .ok s) {bytes : List UInt8}
    {records : List Record} (hrecords : (s.scanLog { bytes }).records = .ok records) :
    ∀ r ∈ records, r.Framed := by
  obtain ⟨hdetector, hfilter⟩ := new_eq_ok_iff.mp h
  obtain rfl := Except.ok.inj hrecords
  intro r hr
  obtain ⟨scanned, hscanned, hr⟩ := List.mem_filterMap.mp hr
  obtain ⟨⟨line, i⟩, hline, rfl⟩ := List.mem_map.mp hscanned
  replace hr : ScannedLine.record? { number := i + 1, outcome := s.outcome (lineText line) } =
    some r := hr
  rw [outcome_eq_ofDetect hfilter] at hr
  obtain ⟨det, hdet, _, rfl⟩ := record?_ofDetect_eq_some_iff.mp hr
  have hmem : line ∈ LogSource.splitLines bytes := List.fst_mem_of_mem_zipIdx hline
  exact framed_of_detect hdetector (newline_notMem_lineText hmem) hdet _

/-- What is found in a log is reported as text with a line for each record, whatever the bytes of
the log are. A line holds no newline but the one at its end, and cut at its first three tabs it
gives back the line number, the driver, the method and the command. -/
theorem scanLog_text (h : new settings patterns = .ok s) (bytes : List UInt8) :
    ∃ records, (s.scanLog { bytes }).records = .ok records ∧
      (∃ lines : List String,
        Report.write {} .text records =
          ⟨lines.flatMap fun line => Utf8.encode line.toList ++ [0x0A], .ok records.length⟩ ∧
        lines.length = records.length ∧ (∀ line ∈ lines, 0x0A ∉ Utf8.encode line.toList) ∧
        lines.map (fun line => splitFirst '\t' 3 line.toList) = records.map Record.textFields) ∧
      Report.rows? (Report.write {} .text records).accepted =
        some (records.map Record.textFields) := by
  obtain ⟨records, hrecords⟩ : ∃ records, (s.scanLog { bytes }).records = .ok records := ⟨_, rfl⟩
  have hframed := framed_of_mem_records h hrecords
  have hwrite : Report.write {} .text records =
      ⟨Report.lines (records.map Record.text), .ok records.length⟩ := by
    rw [Report.write_eq]
    exact congrArg (Report.Outcome.mk _) (congrArg Except.ok (List.length_map _))
  refine ⟨records, hrecords, ⟨records.map Record.text, hwrite, List.length_map _, ?_, ?_⟩,
    Report.rows?_write hframed⟩
  · exact List.forall_mem_map.mpr fun r hr => Report.newline_notMem_encode_text (hframed r hr)
  · rw [List.map_map]
    refine List.map_congr_left fun r hr => ?_
    rw [Function.comp_apply, (hframed r hr).splitFirst_text]

/-- The tab in the first command and the byte that is not UTF-8 in the second one do no harm. -/
theorem scanLog_text_tab :
    let bytes := Utf8.encode "'/a\tb/gcc' -c a.c\r\n".toList ++
      0xFF :: Utf8.encode "/cc -c b.c".toList
    let rows := [["1".toList, "gcc".toList, "basename_exact".toList, "/a\tb/gcc".toList],
      ["2".toList, "cc".toList, "basename_exact".toList, "\uFFFD/cc".toList]]
    ∃ s records, new {} {} = .ok s ∧ (s.scanLog { bytes }).records = .ok records ∧
      records.map Record.textFields = rows ∧
      Report.rows? (Report.write {} .text records).accepted = some rows := by
  intro bytes rows
  let s : Scanner := ⟨⟨.posix, Detector.candidatesOf {} none none, []⟩, ⟨[], []⟩⟩
  have hnew : new {} {} = .ok s := new_eq_ok_iff.mpr ⟨Detector.new_default, rfl⟩
  have hfields : (s.scanLog { bytes }).records.toOption.map (·.map Record.textFields) =
      some rows := by decide +kernel
  obtain ⟨records, hrecords, _, hrows⟩ := scanLog_text hnew bytes
  rw [hrecords] at hfields
  have hrecord : records.map Record.textFields = rows := Option.some.inj hfields
  rw [hrecord] at hrows
  exact ⟨s, records, hnew, hrecords, hrecord, hrows⟩

end Scanner

end BuildLog
