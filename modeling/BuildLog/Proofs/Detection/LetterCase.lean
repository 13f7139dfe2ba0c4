import BuildLog.Proofs.BasenamePattern.LetterCase
import BuildLog.Proofs.Detection.Expressions
import BuildLog.Proofs.Detection.Order

/-! Letter case in a detection without a version pattern. It plays no role on Windows, where every
driver is found that is found on a style that keeps the cases apart. -/

namespace BuildLog

/-- The outcomes of two commands are the same, but for the case of ASCII letters in their targets. -/
structure Detection.SameOutcome (det det' : Detection) : Prop where
  driver : det.driver = det'.driver
  method : det.method = det'.method
  target : Option.Rel (fun s t => SameLetters s.toList t.toList) det.target det'.target
  version : det.version = det'.version
  hasExtension : det.hasExtension = det'.hasExtension

namespace Detector

open BasenamePattern

variable {settings : DetectionSettings} {n : Nat} {driver : Driver} {d w p : Detector}
  {line line' : CommandLine} {det : Detection} {b b' : Basename}

/-- What a basename of the driver is detected as, without a version pattern. -/
def plainDetection (line : CommandLine) (driver : Driver) (b : Basename) : Detection where
  driver := driver
  commandLine := line
  method := if b.target = [] then .basenameExact else .targetTripletPrefixed
  target := targetText b
  version := none
  hasExtension := decide (b.extension ≠ [])

theorem detectCommandLine_of_fits (hnew : new settings = .ok d) (hd : driver ∈ Driver.all)
    (hb : b.text = settings.style.lastComponent line.command.toList)
    (hfits : b.Fits settings.style settings.tripletSegments driver.name.toList none) :
    d.detectCommandLine line = some (plainDetection line driver b) := by
  obtain ⟨m, hfirst, htarget, hext, hversion⟩ := exists_plain_match hnew hd hfits
  obtain ⟨k, _, hk⟩ := hfits.target
  have hstyle : d.style = settings.style := (passes_of_new hnew).1
  have hbasename : d.style.lastComponent line.command.toList = b.text := by rw [hstyle, hb]
  rw [detectCommandLine_of_plain hbasename hfirst, detection_eq hk htarget hext, hversion,
    plainMethod_eq htarget]
  rfl

/-- Without a version pattern what is detected are the basenames of the drivers. -/
theorem exists_fits_of_detectCommandLine (hnew : new settings = .ok d)
    (hversion : settings.versionSuffix = none) (h : d.detectCommandLine line = some det) :
    ∃ driver ∈ Driver.all, ∃ b : Basename,
      b.text = settings.style.lastComponent line.command.toList ∧
      b.Fits settings.style settings.tripletSegments driver.name.toList none ∧
      det = plainDetection line driver b := by
  obtain ⟨hstyle, _, hversioned, _⟩ := passes_of_new hnew
  obtain ⟨_, m, hfirst, _⟩ := exists_plain_of_detectCommandLine rfl (hversioned hversion) h
  obtain ⟨c, hc, rfl, hm⟩ := exists_of_firstMatch hfirst
  obtain ⟨hd, hcompiled⟩ := (built_of_new hnew).plain c hc
  have hmatch := Option.isSome_iff_exists.mpr ⟨m, hm⟩
  obtain ⟨b, hb, hfits⟩ := (isSome_find?_iff (expr_of_plain hcompiled) _).mp hmatch
  rw [hstyle] at hb
  have hdetect := detectCommandLine_of_fits hnew hd hb hfits
  exact ⟨c.driver, hd, b, hb, hfits, Option.some.inj (h.symm.trans hdetect)⟩

theorem sameOutcome_of_sameParts (line line' : CommandLine) (driver : Driver)
    (h : b.SameParts b') :
    (plainDetection line driver b).SameOutcome (plainDetection line' driver b') := by
  have htarget := h.target.eq_nil_iff
  have hext := h.extension.eq_nil_iff
  refine ⟨rfl, by simp only [plainDetection, htarget], ?_, rfl,
    by simp only [plainDetection, ne_eq, hext]⟩
  by_cases hnil : b'.target = []
  · simp only [plainDetection, targetText, htarget, hnil, if_true]
    exact .none
  · simp only [plainDetection, targetText, htarget, hnil, if_false]
    exact .some (by simpa only [String.toList_ofList] using h.target.dropLast)

theorem exists_sameOutcome (hw : new { style := .windows, tripletSegments := n } = .ok w)
    (h : SameLetters line.command.toList line'.command.toList)
    (hdet : w.detectCommandLine line = some det) :
    ∃ det', w.detectCommandLine line' = some det' ∧ det.SameOutcome det' := by
  obtain ⟨driver, hd, b, hb, hfits, rfl⟩ := exists_fits_of_detectCommandLine hw rfl hdet
  have hlast := PathStyle.windows.sameLetters_lastComponent h
  obtain ⟨b', hb', hparts⟩ := Basename.exists_sameParts (hb ▸ hlast)
  exact ⟨_, detectCommandLine_of_fits hw hd hb' (hfits.congr hparts),
    sameOutcome_of_sameParts line line' driver hparts⟩

/-- On Windows the case of the ASCII letters of a command does not matter, and whatever is detected
where case matters is detected there too, if there is no backslash in the command. -/
theorem windows_disregards_case (hw : new { style := .windows, tripletSegments := n } = .ok w) :
    (∀ line line' : CommandLine, SameLetters line.command.toList line'.command.toList →
      Option.Rel Detection.SameOutcome (w.detectCommandLine line) (w.detectCommandLine line')) ∧
    ∀ p, new { style := .posix, tripletSegments := n } = .ok p →
      ∀ (line : CommandLine) (det : Detection), '\\' ∉ line.command.toList →
        p.detectCommandLine line = some det → w.detectCommandLine line = some det := by
  refine ⟨fun line line' h => ?_, fun p hp line det hplain hdet => ?_⟩
  · cases hdet : w.detectCommandLine line with
    | some det =>
      obtain ⟨det', hdet', hsame⟩ := exists_sameOutcome hw h hdet
      rw [hdet']
      exact .some hsame
    | none =>
      cases hdet' : w.detectCommandLine line' with
      | none => exact .none
      | some det' =>
        obtain ⟨_, hdetected, _⟩ := exists_sameOutcome hw h.symm hdet'
        rw [hdet] at hdetected
        cases hdetected
  · obtain ⟨driver, hd, b, hb, hfits, rfl⟩ := exists_fits_of_detectCommandLine hp rfl hdet
    have hb' : b.text = PathStyle.windows.lastComponent line.command.toList := by
      rw [hb, PathStyle.lastComponent_windows hplain]
    exact detectCommandLine_of_fits hw hd hb' hfits.windows

theorem windows_disregards_case_gpp : ∃ w p det det', new { style := .windows } = .ok w ∧
    new {} = .ok p ∧ p.detectCommandLine ⟨"/opt/arm-g++.exe", "-c a.cpp"⟩ = some det ∧
    w.detectCommandLine ⟨"/opt/arm-g++.exe", "-c a.cpp"⟩ = some det ∧
    w.detectCommandLine ⟨"/OPT/ARM-G++.EXE", "-c a.cpp"⟩ = some det' ∧ det.SameOutcome det' := by
  obtain ⟨w, hw⟩ : ∃ w, new { style := .windows, tripletSegments := 4 } = .ok w :=
    exists_new_style .windows
  have hdetect : ((Detector.mk .posix (candidatesOf {} none none) []).detectCommandLine
      ⟨"/opt/arm-g++.exe", "-c a.cpp"⟩).isSome = true := by decide +kernel
  obtain ⟨det, hdet⟩ := Option.isSome_iff_exists.mp hdetect
  obtain ⟨hcase, hstyle⟩ := windows_disregards_case hw
  have hwindows := hstyle _ new_default _ _ (by decide) hdet
  have hsame := hcase ⟨"/opt/arm-g++.exe", "-c a.cpp"⟩ ⟨"/OPT/ARM-G++.EXE", "-c a.cpp"⟩
    (by unfold SameLetters; decide)
  rw [hwindows] at hsame
  cases hother : w.detectCommandLine ⟨"/OPT/ARM-G++.EXE", "-c a.cpp"⟩ with
  | none =>
    rw [hother] at hsame
    cases hsame
  | some det' =>
    rw [hother] at hsame
    cases hsame with
    | some hsame => exact ⟨w, _, det, det', hw, new_default, hdet, hwindows, hother, hsame⟩

end Detector

end BuildLog
