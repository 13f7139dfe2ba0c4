import BuildLog.Proofs.BasenamePattern.Ending
import BuildLog.Proofs.Detection.Expressions

/-! What a detection reports behind the name of the driver. A version is never empty, since a
basename without one is matched in the first pass already. The extension is reported unless the
version took it. -/

namespace BuildLog.Detector

open BasenamePattern

variable {settings : DetectionSettings} {version : Option String} {e : Option Regex.Expr}
  {d : Detector} {c : Candidate} {driver : Driver} {s : List Char} {m : Match}

theorem exists_cut (hext : ∀ e', e = some e' → extensionGroup ∉ e'.groupNames)
    (h : (candidateOf settings version e driver).pattern.find? s = some m) :
    ∃ b : Basename, b.text = s ∧
      b.Fits settings.style settings.tripletSegments driver.name.toList e ∧
      versionOf m s = e.map (fun _ => String.ofList b.version) ∧
      ((m.group? extensionGroup).isSome = true ↔ b.extension ≠ []) := by
  obtain ⟨b, rfl, hfits, _, _, hversion, hextension, _⟩ := captures_of_find? rfl hext h
  refine ⟨b, rfl, hfits, ?_, ?_⟩
  · cases e with
    | none => simp [versionOf, Match.groupText?, hversion]
    | some e => exact versionOf_eq hversion
  · rw [hextension, Basename.extensionSpan]
    by_cases hnil : b.extension = [] <;> simp [hnil]

/-- A detection says how the basename is cut behind the name, whichever pass it comes from. -/
theorem exists_cut_of_detectCommandLine {line : CommandLine} {det : Detection}
    (hnew : new settings = .ok d) (hs : settings.style.lastComponent line.command.toList = s)
    (h : d.detectCommandLine line = some det) :
    ∃ (e : Option Regex.Expr) (b : Basename), b.text = s ∧
      b.Fits settings.style settings.tripletSegments det.driver.name.toList e ∧
      det.driver ∈ Driver.all ∧ det.version = e.map (fun _ => String.ofList b.version) ∧
      (det.hasExtension = true ↔ b.extension ≠ []) ∧
      (e = none ∨ firstMatch d.plain s = none) := by
  have hs' : d.style.lastComponent line.command.toList = s := by
    rw [(passes_of_new hnew).1, hs]
  rcases (detectCommandLine_eq_some_iff hs').mp h with
    ⟨_, m, hm, rfl⟩ | ⟨hmiss, _, m, hm, rfl⟩
  · obtain ⟨c, hc, rfl, hfind⟩ := exists_of_firstMatch hm
    obtain ⟨driver, hd, rfl⟩ := exists_driver_of_plain hnew hc
    obtain ⟨b, hb, hfits, hversion, hext⟩ := exists_cut (by simp) hfind
    exact ⟨none, b, hb, hfits, hd, hversion, hext, .inl rfl⟩
  · obtain ⟨c, hc, rfl, hfind⟩ := exists_of_firstMatch hm
    obtain ⟨driver, hd, _, e, hnames, rfl⟩ := exists_driver_of_versioned hnew hc
    obtain ⟨b, hb, hfits, hversion, hext⟩ := exists_cut (by simpa using hnames) hfind
    exact ⟨some e, b, hb, hfits, hd, hversion, hext, .inr hmiss⟩

theorem exists_plain_of_empty_version (hnew : new settings = .ok d) (hc : c ∈ d.versioned)
    (hm : c.pattern.find? s = some m) (hempty : versionOf m s = some "") :
    ∃ c' ∈ d.plain, c'.driver = c.driver ∧ (c'.pattern.find? s).isSome = true := by
  obtain ⟨driver, hd, _, e, hnames, rfl⟩ := exists_driver_of_versioned hnew hc
  obtain ⟨b, hb, hfits, hversion, _⟩ := exists_cut (by simpa using hnames) hm
  rw [hversion] at hempty
  have hnil : b.version = [] := by simpa using hempty
  have hmem : candidateOf settings none none driver ∈ d.plain := by
    rw [(expressions_of_new hnew).1]
    exact List.mem_map_of_mem hd
  have hmatch := (isSome_find?_iff (p := (candidateOf settings none none driver).pattern) rfl s).mpr
    ⟨b, hb, hfits.without_version hnil⟩
  exact ⟨_, hmem, rfl, hmatch⟩

/-- Whatever the version pattern, no version is empty: a basename that a versioned pattern matches
with nothing for the version is matched by the plain pattern of the same driver. -/
theorem version_never_empty (hnew : new settings = .ok d) :
    (∀ line det, d.detectCommandLine line = some det → det.version ≠ some "") ∧
    ∀ c ∈ d.versioned, ∀ s m, c.pattern.find? s = some m → versionOf m s = some "" →
      ∃ c' ∈ d.plain, c'.driver = c.driver ∧ (c'.pattern.find? s).isSome = true := by
  refine ⟨fun line det h hempty => ?_, fun c hc s m hm hempty =>
    exists_plain_of_empty_version hnew hc hm hempty⟩
  obtain ⟨e, b, hb, hfits, hd, hversion, _, hpass⟩ := exists_cut_of_detectCommandLine hnew rfl h
  rw [hversion] at hempty
  obtain ⟨e, rfl, hnil⟩ := Option.map_eq_some_iff.mp hempty
  have hmiss := hpass.resolve_left (by simp)
  rw [(expressions_of_new hnew).1, firstMatch_candidatesOf_eq_none_iff] at hmiss
  exact hmiss _ hd ⟨b, hb, hfits.without_version (by simpa using hnil)⟩

theorem version_never_empty_gcc : ∃ d det, new (anyVersion 4) = .ok d ∧
    d.detectCommandLine ⟨"gcc-9", "-c a.c"⟩ = some det ∧ det.version.isSome = true ∧
    det.version ≠ some "" := by
  obtain ⟨d, det, hnew, hdet, hversion⟩ := exists_detection_anyVersion (.inr rfl) ⟨"gcc-9", "-c a.c"⟩
    (·.version.isSome) (by decide +kernel)
  exact ⟨d, det, hnew, hdet, hversion, (version_never_empty hnew).1 _ _ hdet⟩

/-- The basename ends as an executable does if and only if the detection has an extension or its
version ends so. Hence the extension is reported wrongly only where the version took it. -/
theorem endsInExe_iff_hasExtension_or_version {line : CommandLine} {det : Detection}
    (hnew : new settings = .ok d) (h : d.detectCommandLine line = some det) :
    (EndsInExe settings.style (settings.style.lastComponent line.command.toList) ↔
      det.hasExtension = true ∨
        ∃ v, det.version = some v ∧ EndsInExe settings.style v.toList) ∧
    ((det.hasExtension = true ↔
        EndsInExe settings.style (settings.style.lastComponent line.command.toList)) ↔
      ∀ v, det.version = some v → EndsInExe settings.style v.toList →
        det.hasExtension = true) := by
  obtain ⟨e, b, hb, hfits, hd, hversion, hext, _⟩ := exists_cut_of_detectCommandLine hnew rfl h
  have hends : EndsInExe settings.style (settings.style.lastComponent line.command.toList) ↔
      det.hasExtension = true ∨
        ∃ v, det.version = some v ∧ EndsInExe settings.style v.toList := by
    rw [← hb, hfits.endsInExe_iff hd, hext, hversion]
    cases e with
    | none =>
      have hnil : b.version = [] := hfits.version
      simp [hnil, not_endsInExe_nil]
    | some e => simp
  refine ⟨hends, ?_⟩
  rw [hends]
  constructor
  · intro htrue v hv hve
    exact htrue.mpr (.inr ⟨v, hv, hve⟩)
  · intro hall
    refine ⟨.inl, fun hor => ?_⟩
    rcases hor with hext | ⟨v, hv, hve⟩
    · exact hext
    · exact hall v hv hve

theorem endsInExe_iff_hasExtension_or_version_gcc : ∃ d det, new (anyVersion 4) = .ok d ∧
    d.detectCommandLine ⟨"/usr/bin/arm-gcc.exe", "-c a.c"⟩ = some det ∧
    (EndsInExe .posix (PathStyle.posix.lastComponent "/usr/bin/arm-gcc.exe".toList) ↔
      det.hasExtension = true ∨ ∃ v, det.version = some v ∧ EndsInExe .posix v.toList) ∧
    det.hasExtension = true := by
  obtain ⟨d, det, hnew, hdet, hext⟩ := exists_detection_anyVersion (.inr rfl)
    ⟨"/usr/bin/arm-gcc.exe", "-c a.c"⟩ (·.hasExtension) (by decide +kernel)
  exact ⟨d, det, hnew, hdet, (endsInExe_iff_hasExtension_or_version hnew hdet).1, hext⟩

/-- A version pattern that takes any text takes the extension too. -/
theorem extension_taken_by_version : ∃ det,
    determineDriver "gcc-9.exe -c a.c" (some ".*") .posix = .ok (some det) ∧
    det.commandLine.command = "gcc-9.exe" ∧
    ¬ (det.hasExtension = true ↔
      EndsInExe .posix (PathStyle.posix.lastComponent "gcc-9.exe".toList)) := by
  have hline : CommandLine.tokenize .posix "gcc-9.exe -c a.c" = .ok ⟨"gcc-9.exe", "-c a.c"⟩ := by
    rfl
  obtain ⟨d, det, hnew, hdet, hchecks⟩ := exists_detection_anyVersion (.inr rfl) ⟨"gcc-9.exe", "-c a.c"⟩
    (fun det => det.commandLine.command = "gcc-9.exe" ∧ det.hasExtension = false)
    (by decide +kernel)
  obtain ⟨hcommand, hfalse⟩ := of_decide_eq_true hchecks
  have hstyle : d.style = .posix := (passes_of_new hnew).1
  rw [← hstyle] at hline
  have hdetermine : determineDriver "gcc-9.exe -c a.c" (some ".*") .posix =
      new (anyVersion 4) >>= fun d => d.detect "gcc-9.exe -c a.c" := rfl
  have hends : EndsInExe .posix (PathStyle.posix.lastComponent "gcc-9.exe".toList) := by decide
  refine ⟨det, ?_, hcommand, fun htrue => ?_⟩
  · rw [hdetermine, hnew]
    exact (detect_of_tokenize_ok hline).trans (congrArg Except.ok hdet)
  · rw [htrue.mpr hends] at hfalse
    cases hfalse

end BuildLog.Detector
