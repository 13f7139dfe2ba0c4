import BuildLog.Proofs.Scan.LineByLine

/-! One scan with different filters. A filter is asked about a command only after it has been
recognized, so all that it does is to move commands from the detected ones to the filtered ones. -/

namespace BuildLog

/-- The outcome with some patterns, told from the outcome with none. -/
def LineOutcome.under (patterns : CommandPatterns) : LineOutcome → LineOutcome
  | .detected d => if patterns.Accepts d.commandLine.command then .detected d else .filtered d
  | outcome => outcome

def ScannedLine.under (patterns : CommandPatterns) (line : ScannedLine) : ScannedLine :=
  { line with outcome := line.outcome.under patterns }

def Scan.under (patterns : CommandPatterns) (scan : Scan) : Scan :=
  { scan with lines := scan.lines.map (.under patterns) }

/-- The counts differ at most in how many of the recognized commands were filtered. -/
structure Statistics.SameButFilter (t u : Statistics) : Prop where
  read : t.read = u.read
  blank : t.blank = u.blank
  malformed : t.malformed = u.malformed
  unrecognized : t.unrecognized = u.unrecognized
  recognized : t.filtered + t.detected = u.filtered + u.detected

/-- The records are some of the records of the other scan, in their order. -/
def Scan.RecordsWithin (scan other : Scan) : Prop :=
  ∀ records, other.records = .ok records →
    ∃ fewer, scan.records = .ok fewer ∧ fewer.Sublist records

namespace Statistics

variable {t t' u u' v : Statistics}

theorem SameButFilter.symm (h : t.SameButFilter u) : u.SameButFilter t :=
  ⟨h.read.symm, h.blank.symm, h.malformed.symm, h.unrecognized.symm, h.recognized.symm⟩

theorem SameButFilter.trans (h : t.SameButFilter u) (h' : u.SameButFilter v) : t.SameButFilter v :=
  ⟨h.read.trans h'.read, h.blank.trans h'.blank, h.malformed.trans h'.malformed,
    h.unrecognized.trans h'.unrecognized, h.recognized.trans h'.recognized⟩

theorem SameButFilter.add (h : t.SameButFilter u) (h' : t'.SameButFilter u') :
    (t + t').SameButFilter (u + u') where
  read := congrArg₂ (· + ·) h.read h'.read
  blank := congrArg₂ (· + ·) h.blank h'.blank
  malformed := congrArg₂ (· + ·) h.malformed h'.malformed
  unrecognized := congrArg₂ (· + ·) h.unrecognized h'.unrecognized
  recognized := by
    have hrecognized := h.recognized
    have hrecognized' := h'.recognized
    simp only [add_def]
    omega

theorem sameButFilter_under (patterns : CommandPatterns) (outcome : LineOutcome) :
    (ofOutcome (outcome.under patterns)).SameButFilter (ofOutcome outcome) := by
  cases outcome with
  | detected d =>
    rw [LineOutcome.under]
    split <;> exact ⟨rfl, rfl, rfl, rfl, rfl⟩
  | blank => exact ⟨rfl, rfl, rfl, rfl, rfl⟩
  | malformed reason => exact ⟨rfl, rfl, rfl, rfl, rfl⟩
  | filtered d => exact ⟨rfl, rfl, rfl, rfl, rfl⟩
  | unrecognized => exact ⟨rfl, rfl, rfl, rfl, rfl⟩

end Statistics

theorem LineOutcome.ofDetect_under (patterns : CommandPatterns)
    (found : Except DetectionError (Option Detection)) :
    ofDetect patterns found = (ofDetect {} found).under patterns := by
  cases found with
  | error e => rcases e with (_ | _ | _) | _ | _ <;> rfl
  | ok found =>
    cases found with
    | none => rfl
    | some d =>
      rw [ofDetect, ofDetect, if_pos (CommandPatterns.accepts_all _)]
      rfl

theorem ScannedLine.record?_under (patterns : CommandPatterns) (line : ScannedLine) :
    (line.under patterns).record? =
      line.record?.filter fun r => patterns.Accepts r.command := by
  obtain ⟨number, isUtf8, outcome⟩ := line
  cases outcome with
  | detected d =>
    have hcommand : (Record.ofDetection number d).command = d.commandLine.command := rfl
    have hrecord : record? ⟨number, isUtf8, .detected d⟩ = some (.ofDetection number d) := rfl
    rw [under, LineOutcome.under, hrecord, Option.filter_some]
    by_cases h : patterns.Accepts d.commandLine.command <;> simp [h, hcommand, record?]
  | blank => rfl
  | malformed reason => rfl
  | filtered d => rfl
  | unrecognized => rfl

namespace Scan

variable {patterns others : CommandPatterns}

theorem statistics_under (patterns : CommandPatterns) (scan : Scan) :
    (scan.under patterns).statistics.SameButFilter scan.statistics := by
  rw [statistics, statistics, under]
  induction scan.lines with
  | nil => exact ⟨rfl, rfl, rfl, rfl, rfl⟩
  | cons line lines ih => exact (Statistics.sameButFilter_under patterns line.outcome).add ih

theorem records_under (patterns : CommandPatterns) (scan : Scan) : (scan.under patterns).records =
    scan.records.map (List.filter fun r => patterns.Accepts r.command) := by
  rw [records, records, under]
  cases scan.failure with
  | some reason => rfl
  | none =>
    refine congrArg Except.ok ?_
    rw [List.filterMap_map, List.filter_filterMap]
    exact List.filterMap_congr fun line _ => line.record?_under patterns

theorem recordsWithin_under
    (h : ∀ command, patterns.Accepts command → others.Accepts command) (scan : Scan) :
    (scan.under patterns).RecordsWithin (scan.under others) := by
  intro kept hkept
  rw [records_under] at hkept
  rw [records_under]
  cases hall : scan.records with
  | error e =>
    rw [hall] at hkept
    cases hkept
  | ok all =>
    rw [hall] at hkept
    obtain rfl := Except.ok.inj hkept
    refine ⟨_, rfl, List.monotone_filter_right all fun r hr => ?_⟩
    exact decide_eq_true (h r.command (of_decide_eq_true hr))

end Scan

namespace Scanner

variable {settings : DetectionSettings} {patterns others : CommandPatterns} {s t all : Scanner}

theorem exists_unfiltered (h : new settings patterns = .ok s) :
    ∃ all, new settings {} = .ok all :=
  ⟨⟨s.detector, ⟨[], []⟩⟩, new_eq_ok_iff.mpr ⟨(new_eq_ok_iff.mp h).1, rfl⟩⟩

theorem outcome_under (hall : new settings {} = .ok all) (h : new settings patterns = .ok s)
    (line : String) : s.outcome line = (all.outcome line).under patterns := by
  obtain ⟨hdetector, hfilter⟩ := new_eq_ok_iff.mp h
  obtain ⟨hdetector', hfilter'⟩ := new_eq_ok_iff.mp hall
  have hsame : all.detector = s.detector := Except.ok.inj (hdetector'.symm.trans hdetector)
  rw [outcome_eq_ofDetect hfilter, outcome_eq_ofDetect hfilter', hsame, ← LineOutcome.ofDetect_under]

/-- What a scan comes to with some patterns can be told from the scan without any. -/
theorem run_under (hall : new settings {} = .ok all) (h : new settings patterns = .ok s)
    (call : ScanCall) : s.run call = (all.run call).under patterns := by
  cases call with
  | commandLines lines =>
    rw [run, run, scanLines, scanLines, Scan.under, List.map_map]
    refine congrArg (Scan.mk · none) (List.map_congr_left fun p _ => ?_)
    simp only [outcome_under hall h]
    rfl
  | log source =>
    rw [run, run, scanLog, scanLog, Scan.under, List.map_map]
    refine congrArg (Scan.mk · source.failure) (List.map_congr_left fun p _ => ?_)
    simp only [outcome_under hall h]
    rfl

/-- Patterns that accept the same commands make no difference to a scan. -/
theorem run_congr (h : new settings patterns = .ok s) (ht : new settings others = .ok t)
    (haccepts : ∀ command, patterns.Accepts command ↔ others.Accepts command) (call : ScanCall) :
    t.run call = s.run call := by
  obtain ⟨all, hall⟩ := exists_unfiltered h
  have hunder : LineOutcome.under others = LineOutcome.under patterns := by
    funext outcome
    cases outcome with
    | detected d => simp only [LineOutcome.under, haccepts]
    | _ => rfl
  have hlines : ScannedLine.under others = ScannedLine.under patterns := by
    funext line
    rw [ScannedLine.under, ScannedLine.under, hunder]
  rw [run_under hall h, run_under hall ht, Scan.under, Scan.under, hlines]

/-- Scans of the same lines with different patterns differ in nothing but which of the recognized
commands are filtered. The records are those of the scan without patterns whose commands are
accepted. So to exclude more never adds a record, to include more never takes one away unless
nothing was said to be included before, and then never adds one; neither the order of the patterns
nor a repetition plays any role. -/
theorem filter_moves_detections (h : new settings patterns = .ok s)
    (ht : new settings others = .ok t) (call : ScanCall) :
    (s.run call).statistics.SameButFilter (t.run call).statistics ∧
    (∃ all, new settings {} = .ok all ∧ (s.run call).records =
      (all.run call).records.map (List.filter fun r => patterns.Accepts r.command)) ∧
    (others.included = patterns.included → patterns.excluded ⊆ others.excluded →
      (t.run call).RecordsWithin (s.run call)) ∧
    (others.excluded = patterns.excluded → patterns.included ≠ [] →
      patterns.included ⊆ others.included → (s.run call).RecordsWithin (t.run call)) ∧
    (others.excluded = patterns.excluded → patterns.included = [] →
      (t.run call).RecordsWithin (s.run call)) ∧
    ∀ same, patterns.Same same → ∃ u, new settings same = .ok u ∧ u.run call = s.run call := by
  obtain ⟨all, hall⟩ := exists_unfiltered h
  have hs := run_under hall h call
  have ht := run_under hall ht call
  refine ⟨?_, ⟨all, hall, ?_⟩, fun hincluded hexcluded => ?_, fun hexcluded hne hincluded => ?_,
    fun hexcluded hnil => ?_, fun same hsame => ?_⟩
  · rw [hs, ht]
    exact (Scan.statistics_under patterns _).trans (Scan.statistics_under others _).symm
  · rw [hs, Scan.records_under]
  · rw [hs, ht]
    refine Scan.recordsWithin_under (fun command haccepts => haccepts.mono hexcluded ?_) _
    by_cases hnil : patterns.included = []
    · exact .inl hnil
    · exact .inr ⟨hincluded ▸ hnil, hincluded ▸ List.Subset.refl _⟩
  · rw [hs, ht]
    exact Scan.recordsWithin_under (fun command haccepts =>
      haccepts.mono (hexcluded ▸ List.Subset.refl _) (.inr ⟨hne, hincluded⟩)) _
  · rw [hs, ht]
    exact Scan.recordsWithin_under (fun command haccepts =>
      haccepts.mono (hexcluded ▸ List.Subset.refl _) (.inl hnil)) _
  · obtain ⟨hdetector, hfilter⟩ := new_eq_ok_iff.mp h
    obtain ⟨filter, hcompile⟩ := CommandFilter.exists_compile_of_same hsame hfilter
    have hu : new settings same = .ok ⟨s.detector, filter⟩ :=
      new_eq_ok_iff.mpr ⟨hdetector, hcompile⟩
    exact ⟨_, hu, run_congr h hu (fun command => hsame.accepts_iff) call⟩

theorem filter_moves_detections_opt : ∃ s t records fewer, new {} {} = .ok s ∧
    new {} { excluded := ["^/opt/"] } = .ok t ∧
    (s.run (.commandLines ["gcc -c a.c", "/opt/cl"])).records = .ok records ∧
    (t.run (.commandLines ["gcc -c a.c", "/opt/cl"])).records = .ok fewer ∧
    records.map (·.line) = [1, 2] ∧ fewer.map (·.line) = [1] ∧ fewer.Sublist records ∧
    (s.run (.commandLines ["gcc -c a.c", "/opt/cl"])).statistics.SameButFilter
      (t.run (.commandLines ["gcc -c a.c", "/opt/cl"])).statistics := by
  let d : Detector := ⟨.posix, Detector.candidatesOf {} none none, []⟩
  have hs : new {} {} = .ok ⟨d, ⟨[], []⟩⟩ := new_eq_ok_iff.mpr ⟨Detector.new_default, rfl⟩
  have hrecords : ((Scanner.mk d ⟨[], []⟩).run
      (.commandLines ["gcc -c a.c", "/opt/cl"])).records.toOption.map (·.map Record.line) =
        some [1, 2] := by decide +kernel
  have hfewer : (CommandFilter.compile { excluded := ["^/opt/"] }).toOption.bind (fun f =>
      ((Scanner.mk d f).run (.commandLines ["gcc -c a.c", "/opt/cl"])).records.toOption.map
        (·.map Record.line)) = some [1] := by decide +kernel
  obtain ⟨f, hf, hfewer⟩ := Option.bind_eq_some_iff.mp hfewer
  obtain ⟨records, hrecords, hlines⟩ := Option.map_eq_some_iff.mp hrecords
  obtain ⟨fewer, hfewer, hline⟩ := Option.map_eq_some_iff.mp hfewer
  have ht : new {} { excluded := ["^/opt/"] } = .ok ⟨d, f⟩ :=
    new_eq_ok_iff.mpr ⟨Detector.new_default, ok_of_toOption hf⟩
  obtain ⟨hcounts, _, hwithin, _⟩ :=
    filter_moves_detections hs ht (.commandLines ["gcc -c a.c", "/opt/cl"])
  obtain ⟨fewer', hfewer', hsublist⟩ :=
    hwithin rfl (List.nil_subset _) records (ok_of_toOption hrecords)
  obtain rfl : fewer = fewer' := Except.ok.inj ((ok_of_toOption hfewer).symm.trans hfewer')
  exact ⟨_, _, records, fewer, hs, ht, ok_of_toOption hrecords, hfewer', hlines, hline, hsublist,
    hcounts⟩

end Scanner

end BuildLog
