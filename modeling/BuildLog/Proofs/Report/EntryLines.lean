import BuildLog.Proofs.Report.Compilers
import BuildLog.Proofs.Report.Json

/-! How many lines a report has. JSON escapes newlines, so there a line is an entry. The other
formats write a command as it is, and each newline in a command that is reported breaks its entry
once more. -/

namespace BuildLog

theorem Utf8.count_newline_encode (cs : List Char) : (encode cs).count 0x0A = cs.count '\n' := by
  induction cs with
  | nil => rfl
  | cons c cs ih =>
    have hcons : encode (c :: cs) = encode [c] ++ encode cs := by simp [encode]
    rw [hcons, List.count_append, ih]
    by_cases hc : c = '\n'
    · subst hc
      rw [List.count_cons_self]
      exact Nat.add_comm 1 _
    · have hmem : 0x0A ∉ encode [c] := by
        rw [newline_mem_encode_iff, List.mem_singleton]
        exact Ne.symm hc
      rw [List.count_eq_zero.mpr hmem, List.count_cons_of_ne hc, Nat.zero_add]

namespace LogSource

/-- Bytes that end in a newline are lines with a newline each. -/
theorem exists_bodies {bytes : List UInt8} (h : bytes = [] ∨ bytes.getLast? = some 0x0A) :
    ∃ bodies : List (List UInt8), bytes = bodies.flatMap (· ++ [0x0A]) ∧
      ∀ body ∈ bodies, 0x0A ∉ body := by
  induction bytes using line_induction with
  | nil => exact ⟨[], rfl, List.forall_mem_nil _⟩
  | last line hne hline =>
    rcases h with h | h
    · exact absurd h hne
    · exact absurd (List.mem_of_getLast? h) hline
  | cons line rest hline ih =>
    have hrest : rest = [] ∨ rest.getLast? = some 0x0A := by
      cases rest with
      | nil => exact .inl rfl
      | cons b rest =>
        refine .inr ?_
        rcases h with h | h
        · simp at h
        · rwa [List.getLast?_append, List.getLast?_cons_cons, Option.or_of_isSome (by simp)] at h
    obtain ⟨bodies, rfl, hbodies⟩ := ih hrest
    refine ⟨line :: bodies, ?_, List.forall_mem_cons.mpr ⟨hline, hbodies⟩⟩
    rw [List.flatMap_cons, List.append_assoc, List.singleton_append]

theorem count_newline_bodies {bodies : List (List UInt8)} (h : ∀ body ∈ bodies, 0x0A ∉ body) :
    (bodies.flatMap (· ++ [0x0A])).count 0x0A = bodies.length := by
  induction bodies with
  | nil => rfl
  | cons body bodies ih =>
    obtain ⟨hbody, hbodies⟩ := List.forall_mem_cons.mp h
    rw [List.flatMap_cons, List.count_append, List.count_append, List.count_eq_zero.mpr hbody,
      ih hbodies, List.length_cons]
    exact Nat.add_comm 1 _

theorem bodies_unique {bodies others : List (List UInt8)} (h : ∀ body ∈ bodies, 0x0A ∉ body)
    (hothers : ∀ body ∈ others, 0x0A ∉ body)
    (he : bodies.flatMap (· ++ [0x0A]) = others.flatMap (· ++ [0x0A])) : bodies = others := by
  have hsplit := splitLines_flatMap h []
  rw [he, splitLines_flatMap hothers] at hsplit
  exact (List.map_injective_iff.mpr (List.append_left_injective [0x0A])
    (List.append_cancel_right hsplit)).symm

end LogSource

namespace Report

/-- The records that the entries of a report are written for. -/
def reported : ReportFormat → List Record → List Record
  | .text, records => records
  | .json, records => records
  | .cmake, records => (firstPerLanguage [] records).map Prod.snd

/-- The newlines inside the entry of a record. -/
def breaks : ReportFormat → Record → Nat
  | .json, _ => 0
  | .text, r => r.command.toList.count '\n'
  | .cmake, r => r.command.toList.count '\n'

variable {format : ReportFormat} {records : List Record} {r : Record}

theorem length_entries (format : ReportFormat) (records : List Record) :
    (entries format records).length = (reported format records).length := by
  cases format <;> simp [entries, reported]

theorem count_newline_definition (language : Language) (r : Record) :
    (definition language r).toList.count '\n' = breaks .cmake r := by
  cases language <;> simp [definition, CacheType.define, compilerVariable, CacheType.tag, breaks]

theorem count_newline_text (h : '\n' ∉ r.driver.toList) :
    r.text.toList.count '\n' = breaks .text r := by
  have hline : (Nat.toDigits 10 r.line).count '\n' = 0 :=
    List.count_eq_zero.mpr (notMem_toDigits rfl r.line)
  have hmethod : r.method.key.toList.count '\n' = 0 := by cases r.method <;> decide
  rw [Record.toList_text]
  simp [hline, hmethod, List.count_eq_zero.mpr h, breaks]

theorem count_newline_json (r : Record) : r.json.toList.count '\n' = breaks .json r := by
  rw [List.count_eq_zero.mpr (Utf8.newline_mem_encode_iff.not.mp (newline_notMem_json r)), breaks]

theorem count_newline_lines (entries : List String) : (lines entries).count 0x0A =
    entries.length + (entries.map fun entry => entry.toList.count '\n').sum := by
  induction entries with
  | nil => rfl
  | cons entry entries ih =>
    rw [lines_cons, List.count_append, List.count_cons_self, ih, Utf8.count_newline_encode]
    simp only [List.length_cons, List.map_cons, List.sum_cons]
    omega

/-- If there are as many lines as entries, the lines are the entries. -/
theorem bodies_eq_entries {entries : List String} {bodies : List (List UInt8)}
    (hbodies : ∀ body ∈ bodies, 0x0A ∉ body)
    (h : lines entries = bodies.flatMap (· ++ [0x0A])) (hlength : bodies.length = entries.length) :
    bodies = entries.map fun entry => Utf8.encode entry.toList := by
  have hsum : (entries.map fun entry => entry.toList.count '\n').sum = 0 := by
    have hcount := count_newline_lines entries
    rw [h, LogSource.count_newline_bodies hbodies, hlength] at hcount
    omega
  have hentries : ∀ body ∈ entries.map fun entry => Utf8.encode entry.toList, 0x0A ∉ body := by
    refine List.forall_mem_map.mpr fun entry hentry => ?_
    rw [Utf8.newline_mem_encode_iff, ← List.count_eq_zero]
    exact List.sum_eq_zero_iff_forall_eq_nat.mp hsum _ (List.mem_map_of_mem hentry)
  refine LogSource.bodies_unique hbodies hentries (h.symm.trans ?_)
  rw [lines, List.flatMap_map]

/-- Only the command of a record can break its entry. -/
theorem count_newline_write (h : ∀ r ∈ records, '\n' ∉ r.driver.toList) :
    (write {} format records).accepted.count 0x0A =
      (reported format records).length + ((reported format records).map (breaks format)).sum := by
  have hbreaks : (entries format records).map (fun entry => entry.toList.count '\n') =
      (reported format records).map (breaks format) := by
    cases format with
    | text =>
      rw [entries, reported, List.map_map]
      refine List.map_congr_left fun r hr => ?_
      rw [Function.comp_apply, count_newline_text (h r hr)]
    | json =>
      rw [entries, reported, List.map_map]
      refine List.map_congr_left fun r _ => ?_
      rw [Function.comp_apply, count_newline_json]
    | cmake =>
      rw [entries, reported, List.map_map, List.map_map]
      refine List.map_congr_left fun p _ => ?_
      rw [Function.comp_apply, count_newline_definition, Function.comp_apply]
  rw [write_eq, count_newline_lines, length_entries, hbreaks]

theorem sum_breaks_eq_zero_iff : (records.map (breaks format)).sum = 0 ↔
    format = .json ∨ ∀ r ∈ records, '\n' ∉ r.command.toList := by
  rw [List.sum_eq_zero_iff_forall_eq_nat]
  cases format <;> simp [breaks, List.count_eq_zero]

theorem mem_of_mem_reported (h : r ∈ reported format records) : r ∈ records := by
  cases format with
  | text => exact h
  | json => exact h
  | cmake => exact (firstPerLanguage_sublist [] records).subset h

theorem newline_of_write (format : ReportFormat) (records : List Record) :
    (write {} format records).accepted = [] ∨
      (write {} format records).accepted.getLast? = some 0x0A := by
  rw [write_eq]
  rcases List.eq_nil_or_concat (entries format records) with he | ⟨front, entry, he⟩
  · exact .inl (congrArg lines he)
  · refine .inr ?_
    show (lines (entries format records)).getLast? = _
    rw [he, List.concat_eq_append, lines_append, lines_cons]
    simp [lines]

end Report

namespace Scanner

variable {settings : DetectionSettings} {patterns : CommandPatterns} {s : Scanner}

/-- The records of command lines are reported under the name of a driver, and each with a command
that one of the lines holds. -/
theorem origin_of_mem_records (h : new settings patterns = .ok s) {lines : List String}
    {records : List Record} (hrecords : (s.scanLines lines).records = .ok records) :
    ∀ r ∈ records, '\n' ∉ r.driver.toList ∧
      ∃ line ∈ lines, r.command.toList.Sublist line.toList := by
  obtain ⟨hdetector, hfilter⟩ := new_eq_ok_iff.mp h
  rw [scanLines_eq hfilter] at hrecords
  obtain rfl := Except.ok.inj hrecords
  intro r hr
  obtain ⟨scanned, hscanned, hr⟩ := List.mem_filterMap.mp hr
  obtain ⟨⟨line, i⟩, hline, rfl⟩ := List.mem_map.mp hscanned
  obtain ⟨det, hdet, _, rfl⟩ := record?_ofDetect_eq_some_iff.mp hr
  obtain ⟨hdriver, hcommand⟩ := origin_of_detect hdetector hdet
  exact ⟨(Driver.separators_notMem_name _ hdriver).2, line, List.fst_mem_of_mem_zipIdx hline,
    hcommand⟩

/-- A report of command lines has an entry for each record that it reports, and a line for each
entry and for each newline inside an entry. These are the newlines of the commands that are reported,
which only JSON escapes. So the lines are the entries exactly if there are none, and there are none
where the command lines hold none. -/
theorem scanLines_report (h : new settings patterns = .ok s) (lines : List String)
    (format : ReportFormat) :
    ∃ records, (s.scanLines lines).records = .ok records ∧
      let out := Report.write {} format records
      let reported := Report.reported format records
      out.result = .ok reported.length ∧
      ∃ bodies : List (List UInt8), out.accepted = bodies.flatMap (· ++ [0x0A]) ∧
        (∀ body ∈ bodies, 0x0A ∉ body) ∧
        bodies.length = reported.length + (reported.map (Report.breaks format)).sum ∧
        (bodies.length = reported.length ↔
          format = .json ∨ ∀ r ∈ reported, '\n' ∉ r.command.toList) ∧
        (bodies.length = reported.length →
          bodies = (Report.entries format records).map fun entry => Utf8.encode entry.toList) ∧
        ((∀ line ∈ lines, '\n' ∉ line.toList) → bodies.length = reported.length) := by
  obtain ⟨records, hrecords⟩ : ∃ records, (s.scanLines lines).records = .ok records := ⟨_, rfl⟩
  have horigin := origin_of_mem_records h hrecords
  obtain ⟨bodies, hbodies, hmem⟩ :=
    LogSource.exists_bodies (Report.newline_of_write format records)
  have hlength : bodies.length = (Report.reported format records).length +
      ((Report.reported format records).map (Report.breaks format)).sum := by
    rw [← LogSource.count_newline_bodies hmem, ← hbodies]
    exact Report.count_newline_write fun r hr => (horigin r hr).1
  have hiff : bodies.length = (Report.reported format records).length ↔
      format = .json ∨ ∀ r ∈ Report.reported format records, '\n' ∉ r.command.toList := by
    rw [hlength, Nat.add_eq_left, Report.sum_breaks_eq_zero_iff]
  refine ⟨records, hrecords, ?_, bodies, hbodies, hmem, hlength, hiff, fun he => ?_, fun hl => ?_⟩
  · rw [Report.write_eq, Report.length_entries]
  · rw [Report.write_eq] at hbodies
    exact Report.bodies_eq_entries hmem hbodies (he.trans (Report.length_entries _ _).symm)
  · refine hiff.mpr (.inr fun r hr hnewline => ?_)
    obtain ⟨_, line, hline, hcommand⟩ := horigin r (Report.mem_of_mem_reported hr)
    exact hl line hline (hcommand.subset hnewline)

def standard : Scanner :=
  ⟨⟨.posix, Detector.candidatesOf {} none none, []⟩, ⟨[], []⟩⟩

theorem new_standard : new {} {} = .ok standard :=
  new_eq_ok_iff.mpr ⟨Detector.new_default, rfl⟩

theorem scanLines_report_newline : ∃ s records,
    new {} {} = .ok s ∧ (s.scanLines ["'a\n/gcc' -c a.c", "cc"]).records = .ok records ∧
    (Report.write {} .text records).result = .ok 2 ∧
    ∃ bodies : List (List UInt8),
      (Report.write {} .text records).accepted = bodies.flatMap (· ++ [0x0A]) ∧
      bodies.length = 3 := by
  have hcommands : (standard.scanLines ["'a\n/gcc' -c a.c", "cc"]).records.toOption.map
      (·.map Record.command) = some ["a\n/gcc", "cc"] := by decide +kernel
  obtain ⟨records, hrecords, hresult, bodies, hbodies, _, hlength, _⟩ :=
    scanLines_report new_standard ["'a\n/gcc' -c a.c", "cc"] .text
  rw [hrecords] at hcommands
  have hcommand : records.map Record.command = ["a\n/gcc", "cc"] := Option.some.inj hcommands
  have hcount : records.length = 2 := by rw [← List.length_map (f := Record.command), hcommand]; rfl
  have hbreaks : (records.map (Report.breaks .text)).sum = 1 := by
    have hmap : records.map (Report.breaks .text) =
        (records.map Record.command).map (·.toList.count '\n') := by
      rw [List.map_map]
      rfl
    rw [hmap, hcommand]
    decide
  rw [Report.reported, hcount] at hresult hlength
  rw [hbreaks] at hlength
  exact ⟨standard, records, new_standard, hrecords, hresult, bodies, hbodies, hlength⟩

/-- The second line of the command reads as a definition of its own. -/
theorem newline_adds_definition : ∃ s records,
    new {} {} = .ok s ∧
    (s.scanLines ["'a\n-DCMAKE_CXX_COMPILER:FILEPATH=/gcc' -c a.c"]).records = .ok records ∧
    (Report.write {} .cmake records).result = .ok 1 ∧
    ¬ ∃ bodies : List (List UInt8),
      (Report.write {} .cmake records).accepted = bodies.flatMap (· ++ [0x0A]) ∧
      (∀ body ∈ bodies, 0x0A ∉ body) ∧ bodies.length = 1 := by
  have hout : (standard.scanLines ["'a\n-DCMAKE_CXX_COMPILER:FILEPATH=/gcc' -c a.c"]).records.toOption.map
      (fun records => ((Report.write {} .cmake records).result.toOption,
        (Report.write {} .cmake records).accepted.count 0x0A)) = some (some 1, 2) := by
    decide +kernel
  obtain ⟨records, hrecords, hpair⟩ := Option.map_eq_some_iff.mp hout
  obtain ⟨hresult, hcount⟩ := Prod.mk.inj hpair
  refine ⟨standard, records, new_standard, ok_of_toOption hrecords, ok_of_toOption hresult, ?_⟩
  rintro ⟨bodies, hbodies, hmem, hlength⟩
  rw [hbodies, LogSource.count_newline_bodies hmem, hlength] at hcount
  cases hcount

end Scanner

end BuildLog
