import BuildLog.Program
import BuildLog.Proofs.Detection.Passes

/-! What a run of the program comes to. It fails at one of its stages and has written nothing then,
or it writes the report of the whole input. -/

namespace BuildLog

/-- Settings where what is given as an argument replaces what is configured, and all else is as
configured. -/
structure Arguments.Replaces (a : Arguments) (configured settings : DetectionSettings) : Prop where
  version_given : ∀ v, a.versionSuffix = some v → settings.versionSuffix = some v
  version_kept : a.versionSuffix = none → settings.versionSuffix = configured.versionSuffix
  style_given : ∀ s, a.style = some s → settings.style = s
  style_kept : a.style = none → settings.style = configured.style
  segments_kept : settings.tripletSegments = configured.tripletSegments

theorem Arguments.replaces_settings (a : Arguments) (configured : DetectionSettings) :
    a.Replaces configured (a.settings configured) where
  version_given v h := by simp [settings, h]
  version_kept h := by simp [settings, h]
  style_given s h := by simp [settings, h]
  style_kept h := by simp [settings, h]
  segments_kept := rfl

theorem Arguments.Replaces.eq_settings {a : Arguments} {configured settings : DetectionSettings}
    (h : a.Replaces configured settings) : settings = a.settings configured := by
  have hversion : settings.versionSuffix = (a.settings configured).versionSuffix := by
    cases hv : a.versionSuffix with
    | none => simp [Arguments.settings, hv, h.version_kept hv]
    | some v => simp [Arguments.settings, hv, h.version_given v hv]
  have hstyle : settings.style = (a.settings configured).style := by
    cases hs : a.style with
    | none => simp [Arguments.settings, hs, h.style_kept hs]
    | some s => simp [Arguments.settings, hs, h.style_given s hs]
  have hsegments : settings.tripletSegments = (a.settings configured).tripletSegments :=
    h.segments_kept
  cases settings
  simp_all

namespace Program

/-- What the configuration is loaded as, where the working directory is known. -/
def Loaded (env : Environment) (a : Arguments) (result : Except ConfigurationError Configuration) :
    Prop :=
  ∃ directory, env.workingDirectory = .path directory ∧
    (Configuration.load env.lookup directory env.configHome a.config).result = result

/-- The configuration cannot be loaded. The working directory is asked for first, whether a file is
given or not. -/
inductive LoadFails (env : Environment) (a : Arguments) : Prop where
  | workingDirectory {reason : String} (h : env.workingDirectory = .unknown reason)
  | configuration {e : ConfigurationError} (h : Loaded env a (.error e))

/-- The input cannot be opened, or not be read to its end. -/
inductive InputFails (env : Environment) : Input → Prop where
  | file {path : String} (h : ∀ bytes, env.lookup path ≠ .file bytes) : InputFails env (.file path)
  | standardInput {reason : String} (h : env.standardInput.failure = some reason) :
    InputFails env .standardInput

inductive Scanned (env : Environment) (s : Scanner) : Input → Scan → Prop where
  | lines (lines : List String) : Scanned env s (.lines lines) (s.scanLines lines)
  | file {path : String} {bytes : List UInt8} (h : env.lookup path = .file bytes) :
    Scanned env s (.file path) (s.scanLog { bytes })
  | standardInput : Scanned env s .standardInput (s.scanLog env.standardInput)

/-- One of the stages in front of the report fails. -/
inductive Fails (env : Environment) (a : Arguments) : Prop where
  | loading (hload : LoadFails env a)
  | scanner {c : Configuration} {settings : DetectionSettings} {e : ScanError}
    (hload : Loaded env a (.ok c)) (hsettings : a.Replaces c.detection settings)
    (hnew : Scanner.new settings c.commands = .error e)
  | input (hinput : InputFails env a.input)

/-- The records of the input are written in the format that was asked for. -/
inductive Reports (env : Environment) (a : Arguments) : List UInt8 → Prop where
  | intro {c : Configuration} {settings : DetectionSettings} {s : Scanner} {scan : Scan}
    {records : List Record} {output : List UInt8} {n : Nat}
    (hload : Loaded env a (.ok c)) (hsettings : a.Replaces c.detection settings)
    (hnew : Scanner.new settings c.commands = .ok s) (hscan : Scanned env s a.input scan)
    (hrecords : scan.records = .ok records)
    (hwrite : Report.write {} a.format records = ⟨output, .ok n⟩) : Reports env a output

variable {env : Environment} {a : Arguments} {s : Scanner} {c : Configuration} {input : Input}
  {read : Scan} {output : List UInt8}

theorem isSome_failure_of_inputFails (hinput : InputFails env input)
    (h : scan env s input = .ok read) : read.failure.isSome = true := by
  cases hinput with
  | file hfile =>
    simp only [scan] at h
    split at h
    · cases h
    · cases h
    · cases h
      rfl
    · rename_i bytes hlookup
      exact absurd hlookup (hfile bytes)
  | standardInput hfailure =>
    cases h
    simp [Scanner.scanLog, hfailure]

theorem Scanned.scan_eq (h : Scanned env s input read) : scan env s input = .ok read := by
  cases h with
  | lines lines => rfl
  | file hlookup => simp [scan, hlookup]
  | standardInput => rfl

theorem exists_scanned (s : Scanner) (hinput : ¬ InputFails env input) :
    ∃ read, Scanned env s input read ∧ read.failure = none := by
  cases input with
  | lines lines => exact ⟨_, .lines lines, rfl⟩
  | file path =>
    cases hlookup : env.lookup path with
    | file bytes => exact ⟨_, .file hlookup, rfl⟩
    | unreadable reason => exact absurd (.file (by simp [hlookup])) hinput
    | locked reason => exact absurd (.file (by simp [hlookup])) hinput
    | missing reason => exact absurd (.file (by simp [hlookup])) hinput
  | standardInput =>
    cases hfailure : env.standardInput.failure with
    | none => exact ⟨_, .standardInput, hfailure⟩
    | some reason => exact absurd (.standardInput hfailure) hinput

/-- An input that fails has no records, however many of its lines were read. -/
theorem exists_records_error (hinput : InputFails env a.input) :
    ∃ e, (records env a s).2 = .error e := by
  cases hscan : scan env s a.input with
  | error e => exact ⟨e, by simp [records, hscan]⟩
  | ok read =>
    obtain ⟨reason, hreason⟩ :=
      Option.isSome_iff_exists.mp (isSome_failure_of_inputFails hinput hscan)
    exact ⟨.scan (.read reason), by simp [records, hscan, Scan.records, hreason]⟩

theorem records_eq_ok {rs : List Record} (hscan : Scanned env s a.input read)
    (h : read.records = .ok rs) : (records env a s).2 = .ok rs := by
  simp [records, hscan.scan_eq, h]

theorem Loaded.configuration_eq {result : Except ConfigurationError Configuration}
    (h : Loaded env a result) : (configuration env a).2 = result.mapError .configuration := by
  obtain ⟨directory, hdirectory, hresult⟩ := h
  simp only [configuration, hdirectory, hresult]

theorem LoadFails.exists_configuration_error (h : LoadFails env a) :
    ∃ e, (Program.configuration env a).2 = .error e := by
  cases h with
  | workingDirectory hdirectory =>
    simp only [Program.configuration, hdirectory]
    exact ⟨_, rfl⟩
  | configuration hload => exact ⟨_, hload.configuration_eq⟩

theorem loadFails_or_loaded (env : Environment) (a : Arguments) :
    LoadFails env a ∨ ∃ c, Loaded env a (.ok c) := by
  cases hdirectory : env.workingDirectory with
  | unknown reason => exact .inl (.workingDirectory hdirectory)
  | path directory =>
    cases hload : (Configuration.load env.lookup directory env.configHome a.config).result with
    | error e => exact .inl (.configuration ⟨directory, hdirectory, hload⟩)
    | ok c => exact .inr ⟨c, directory, hdirectory, hload⟩

theorem scanner_eq_error {e : ScanError}
    (h : Scanner.new (a.settings c.detection) c.commands = .error e) :
    scanner a c = .error (.scan e) :=
  congrArg (Except.mapError ProgramError.scan) h

theorem scanner_eq_ok (h : Scanner.new (a.settings c.detection) c.commands = .ok s) :
    scanner a c = .ok s :=
  congrArg (Except.mapError ProgramError.scan) h

/-- The stages of a run, whatever is said on the way. -/
theorem exists_runArguments (env : Environment) (a : Arguments) : ∃ messages,
    runArguments env a =
      match (configuration env a).2 with
      | .error e => fail messages e
      | .ok c =>
        match scanner a c with
        | .error e => fail messages e
        | .ok s =>
          match (records env a s).2 with
          | .error e => fail messages e
          | .ok rs => report env a messages rs := by
  simp only [runArguments]
  cases (configuration env a).2 with
  | error e => exact ⟨_, rfl⟩
  | ok c =>
    simp only
    cases scanner a c with
    | error e => exact ⟨_, rfl⟩
    | ok s =>
      simp only
      cases (records env a s).2 with
      | error e => exact ⟨_, rfl⟩
      | ok rs => exact ⟨_, rfl⟩

theorem report_eq (hsink : env.sink = {}) (messages : List LogMessage) {rs : List Record} {n : Nat}
    (h : Report.write {} a.format rs = ⟨output, .ok n⟩) :
    ∃ messages', report env a messages rs = { exitCode := 0, output, messages := messages' } := by
  simp only [report, hsink, h]
  exact ⟨_, rfl⟩

theorem exists_write (format : ReportFormat) (rs : List Record) :
    ∃ output n, Report.write {} format rs = ⟨output, .ok n⟩ :=
  ⟨_, _, rfl⟩

theorem runArguments_of_fails (h : Fails env a) :
    ∃ messages e, runArguments env a = fail messages e := by
  obtain ⟨messages, hrun⟩ := exists_runArguments env a
  cases h with
  | loading hload =>
    obtain ⟨e, he⟩ := hload.exists_configuration_error
    simp only [he] at hrun
    exact ⟨messages, e, hrun⟩
  | scanner hload hsettings hnew =>
    rw [hsettings.eq_settings] at hnew
    simp only [hload.configuration_eq, Except.mapError, scanner_eq_error hnew] at hrun
    exact ⟨messages, _, hrun⟩
  | input hinput =>
    cases hconfiguration : (configuration env a).2 with
    | error e =>
      simp only [hconfiguration] at hrun
      exact ⟨messages, e, hrun⟩
    | ok c =>
      cases hscanner : scanner a c with
      | error e =>
        simp only [hconfiguration, hscanner] at hrun
        exact ⟨messages, e, hrun⟩
      | ok s =>
        obtain ⟨e, he⟩ := exists_records_error (s := s) hinput
        simp only [hconfiguration, hscanner, he] at hrun
        exact ⟨messages, e, hrun⟩

theorem runArguments_of_reports (hsink : env.sink = {}) (h : Reports env a output) :
    ∃ messages, runArguments env a = { exitCode := 0, output, messages } := by
  obtain ⟨hload, hsettings, hnew, hscan, hrecords, hwrite⟩ := h
  obtain ⟨messages, hrun⟩ := exists_runArguments env a
  rw [hsettings.eq_settings] at hnew
  simp only [hload.configuration_eq, Except.mapError, scanner_eq_ok hnew,
    records_eq_ok hscan hrecords] at hrun
  rw [hrun]
  exact report_eq hsink messages hwrite

theorem fails_or_reports (env : Environment) (a : Arguments) :
    Fails env a ∨ ∃ output, Reports env a output := by
  by_cases hinput : InputFails env a.input
  · exact .inl (.input hinput)
  · rcases loadFails_or_loaded env a with hload | ⟨c, hload⟩
    · exact .inl (.loading hload)
    · have hsettings := a.replaces_settings c.detection
      cases hnew : Scanner.new (a.settings c.detection) c.commands with
      | error e => exact .inl (.scanner hload hsettings hnew)
      | ok s =>
        obtain ⟨read, hscan, hfailure⟩ := exists_scanned s hinput
        have hrecords : read.records = .ok (read.lines.filterMap ScannedLine.record?) := by
          simp [Scan.records, hfailure]
        obtain ⟨output, n, hwrite⟩ := exists_write a.format (read.lines.filterMap ScannedLine.record?)
        exact .inr ⟨output, .intro hload hsettings hnew hscan hrecords hwrite⟩

theorem not_fails_of_reports (hsink : env.sink = {}) (h : Reports env a output) : ¬ Fails env a := by
  intro hfails
  obtain ⟨messages, hreport⟩ := runArguments_of_reports hsink h
  obtain ⟨messages', e, hfail⟩ := runArguments_of_fails hfails
  have hcode : (fail messages' e).exitCode = 0 := by rw [← hfail, hreport]
  cases hcode

/-- Without a working directory nothing else is done: neither is a file that is given loaded nor the
input looked at. -/
theorem runArguments_of_unknown {reason : String} (h : env.workingDirectory = .unknown reason)
    (a : Arguments) :
    runArguments env a =
      fail [⟨.info, name ++ " v" ++ version⟩, ⟨.info, a.text⟩] (.workingDirectory reason) := by
  simp only [runArguments, configuration, h, List.append_nil]

/-- The output is all or nothing, where the standard output takes all that is written to it. Where
the working directory is unknown the run fails of that, whatever else would have failed. -/
theorem run_all_or_nothing (hsink : env.sink = {}) (args : List String) :
    ((run env args).exitCode = 1 → (run env args).output = []) ∧
    ((run env args).exitCode = 1 ↔ ∃ a, Arguments.read args = .ok a ∧ Fails env a) ∧
    ((run env args).exitCode = 0 ↔
      Arguments.read args = .error .help ∨ Arguments.read args = .error .version ∨
      ∃ a, Arguments.read args = .ok a ∧ Reports env a (run env args).output) ∧
    (∀ a, Arguments.read args = .ok a → ∀ output, Reports env a output →
      (run env args).output = output) ∧
    ∀ a, Arguments.read args = .ok a → ∀ reason, env.workingDirectory = .unknown reason →
      (run env args).error = some (.workingDirectory reason) := by
  cases hread : Arguments.read args with
  | error stop =>
    have hrun : run env args =
        { exitCode := stop.exitCode, output := Utf8.encode (usageText stop).toList } := by
      simp [run, hread]
    rw [hrun]
    cases stop <;> simp [UsageStop.exitCode]
  | ok a =>
    have hrun : run env args = runArguments env a := by simp [run, hread]
    rw [hrun]
    rcases fails_or_reports env a with hfails | ⟨output, hreports⟩
    · obtain ⟨messages, e, hfail⟩ := runArguments_of_fails hfails
      have hnot : ∀ output, ¬ Reports env a output := fun output h =>
        not_fails_of_reports hsink h hfails
      have hfirst : ∀ reason, env.workingDirectory = .unknown reason →
          (runArguments env a).error = some (.workingDirectory reason) := by
        intro reason hreason
        rw [runArguments_of_unknown hreason, fail]
      rw [hfail] at hfirst ⊢
      simpa [fail, hfails, hnot] using hfirst
    · obtain ⟨messages, hreport⟩ := runArguments_of_reports hsink hreports
      have hnot := not_fails_of_reports hsink hreports
      have hsame : ∀ output', Reports env a output' → output = output' := by
        intro output' h
        obtain ⟨messages', hreport'⟩ := runArguments_of_reports hsink h
        exact congrArg Outcome.output (hreport.symm.trans hreport')
      have hknown : ∀ reason, env.workingDirectory ≠ .unknown reason := fun reason h =>
        hnot (.loading (.workingDirectory h))
      rw [hreport]
      simpa [hnot, hreports] using ⟨hsame, hknown⟩

theorem run_all_or_nothing_missing :
    let env : Environment :=
      { workingDirectory := "/build", configHome := none, lookup := fun _ => .notFound
        standardInput := { bytes := [] } }
    let lost : Environment :=
      { env with workingDirectory := .unknown "No such file or directory (os error 2)" }
    (run env ["-i", "build.log"]).exitCode = 1 ∧ (run env ["-i", "build.log"]).output = [] ∧
    (run env ["--", ""]).exitCode = 0 ∧ (run env ["--", ""]).output = [] ∧
    (run lost ["--", ""]).exitCode = 1 ∧ (run lost ["--", ""]).output = [] := by
  intro env lost
  have hsink : env.sink = {} := rfl
  have hread : (Arguments.read ["-i", "build.log"]).toOption =
      some { input := .file "build.log" } := by decide +kernel
  have hinput : InputFails env (.file "build.log") := .file fun bytes h => nomatch h
  obtain ⟨hnothing, hfails, _⟩ := run_all_or_nothing hsink ["-i", "build.log"]
  have hcode := hfails.mpr ⟨_, ok_of_toOption hread, .input hinput⟩
  have hread' : (Arguments.read ["--", ""]).toOption = some { input := .lines [""] } := by
    decide +kernel
  obtain ⟨d, hd⟩ := Detector.exists_new_default
  have hnew : Scanner.new {} {} = .ok ⟨d, ⟨[], []⟩⟩ := by
    rw [Scanner.new, hd]
    rfl
  have hreports : Reports env { input := .lines [""] } [] :=
    .intro (c := .standard) ⟨_, rfl, rfl⟩ (Arguments.replaces_settings _ _) hnew (.lines _) rfl rfl
  obtain ⟨_, _, hreported, houtput, _⟩ := run_all_or_nothing hsink ["--", ""]
  have hblank := houtput _ (ok_of_toOption hread') _ hreports
  have hreported' := hreported.mpr (.inr (.inr ⟨_, ok_of_toOption hread', hblank.symm ▸ hreports⟩))
  have hlost : lost.sink = {} := rfl
  obtain ⟨hnothing', hfails', _⟩ := run_all_or_nothing hlost ["--", ""]
  have hcode' := hfails'.mpr ⟨_, ok_of_toOption hread', .loading (.workingDirectory rfl)⟩
  exact ⟨hcode, hnothing hcode, hreported', hblank, hcode', hnothing' hcode'⟩

end Program

end BuildLog
