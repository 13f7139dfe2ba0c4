import BuildLog.Proofs.BasenamePattern.Size
import BuildLog.Proofs.BasenamePattern.VersionGroup
import BuildLog.Proofs.Detection.Accounting

/-! The two passes of a detection. The first one does not know of the version pattern, so a pattern
can only add to what is detected without one. -/

namespace BuildLog.Detector

open BasenamePattern

variable {settings : DetectionSettings} {d : Detector} {line : CommandLine} {c : Candidate}
  {s : List Char} {m : Match} {driver : Driver} {version : Option String} {cs : List Candidate}

/-- The candidates of the first pass are compiled without the version pattern, those of the second
one with it. -/
theorem passes_of_new (h : new settings = .ok d) :
    d.style = settings.style ∧ candidates settings none = .ok d.plain ∧
      (settings.versionSuffix = none → d.versioned = []) ∧
      ∀ pattern, settings.versionSuffix = some pattern → (∃ v, Pattern.compile pattern = .ok v) ∧
        candidates settings (some pattern) = .ok d.versioned := by
  rw [new] at h
  obtain ⟨plain, hplain, h⟩ := exists_of_bind_eq_ok h
  split at h
  · rename_i hs
    cases h
    simp [hplain, hs]
  · rename_i pattern hs
    split at h
    · cases h
    · rename_i v hv
      obtain ⟨versioned, hversioned, h⟩ := exists_of_bind_eq_ok h
      cases h
      simp [hplain, hs, hv, hversioned]

theorem exists_candidate (h : candidates settings version = .ok cs) (hd : driver ∈ Driver.all) :
    ∃ c ∈ cs, c.driver = driver ∧ Compiled settings version c := by
  obtain ⟨c, hc, hcompiled⟩ := exists_mem_of_mapM_eq_ok h hd
  have hdriver : c.driver = driver := by
    split at hcompiled
    · cases hcompiled
      rfl
    · split at hcompiled <;> cases hcompiled
  exact ⟨c, hc, hdriver, compiled_of_candidates h hc⟩

theorem candidates_without (settings : DetectionSettings) (version : Option String) :
    candidates { settings with versionSuffix := none } version = candidates settings version := rfl

theorem exists_candidates_iff : (∃ cs, candidates settings version = .ok cs) ↔
    ∀ driver ∈ Driver.all,
      ∃ p, compile settings.style settings.tripletSegments driver.name version = .ok p := by
  constructor
  · intro h driver hd
    obtain ⟨cs, h⟩ := h
    obtain ⟨c, _, rfl, hcompiled⟩ := exists_candidate h hd
    exact ⟨c.pattern, hcompiled.2⟩
  · intro h
    refine exists_mapM_eq_ok fun driver hd => ?_
    obtain ⟨p, hp⟩ := h driver hd
    exact ⟨⟨driver, p⟩, by simp only [hp]⟩

theorem exists_candidates {e : Option Regex.Expr}
    (he : version.mapM (versionExpr? settings.style) = some e)
    (hread : ∀ driver ∈ Driver.all, (Regex.Ast.read? (source settings.style settings.tripletSegments
      driver.name version).toList).isSome = true)
    (hsize : ∀ driver ∈ Driver.all,
      (expr settings.style settings.tripletSegments driver.name.toList e).isTooBig = false) :
    ∃ cs, candidates settings version = .ok cs :=
  exists_candidates_iff.mpr fun driver hd =>
    exists_compile he (hread driver hd) (hsize driver hd)

theorem exists_new_iff : (∃ d, new settings = .ok d) ↔
    (∃ plain, candidates settings none = .ok plain) ∧
    ∀ pattern, settings.versionSuffix = some pattern → (∃ v, Pattern.compile pattern = .ok v) ∧
      ∃ versioned, candidates settings (some pattern) = .ok versioned := by
  constructor
  · intro h
    obtain ⟨d, hnew⟩ := h
    obtain ⟨_, hplain, _, hversioned⟩ := passes_of_new hnew
    refine ⟨⟨_, hplain⟩, fun pattern hs => ?_⟩
    obtain ⟨hcompile, hcandidates⟩ := hversioned pattern hs
    exact ⟨hcompile, ⟨_, hcandidates⟩⟩
  · intro h
    obtain ⟨⟨plain, hplain⟩, hversioned⟩ := h
    cases hs : settings.versionSuffix with
    | none =>
      refine ⟨⟨settings.style, plain, []⟩, ?_⟩
      simp only [new, hplain, hs]
      rfl
    | some pattern =>
      obtain ⟨⟨v, hv⟩, versioned, hcandidates⟩ := hversioned pattern hs
      refine ⟨⟨settings.style, plain, versioned⟩, ?_⟩
      simp only [new, hplain, hs, hv, hcandidates]
      rfl

/-- A detector that can be built without a version pattern can be built with one that compiles, by
itself and in the patterns of the basenames. -/
theorem exists_new_with {without : Detector} {pattern : String} {v : Pattern}
    (hwithout : new { settings with versionSuffix := none } = .ok without)
    (hs : settings.versionSuffix = some pattern) (hv : Pattern.compile pattern = .ok v)
    (hversioned : ∃ versioned, candidates settings (some pattern) = .ok versioned) :
    ∃ d, new settings = .ok d := by
  obtain ⟨_, hplain, _⟩ := passes_of_new hwithout
  rw [candidates_without] at hplain
  refine exists_new_iff.mpr ⟨⟨_, hplain⟩, fun pattern' hs' => ?_⟩
  obtain rfl : pattern = pattern' := Option.some.inj (hs.symm.trans hs')
  exact ⟨⟨v, hv⟩, hversioned⟩

theorem exists_candidates_plain (hn : settings.tripletSegments ≤ 8) :
    ∃ cs, candidates settings none = .ok cs :=
  exists_candidates (e := none) rfl
    (fun driver _ => isSome_read?_plain settings.style (Nat.lt_of_le_of_lt hn (by decide)) driver.name)
    fun _ hd => isTooBig_plain settings.style hn hd

theorem exists_new_style (style : PathStyle) : ∃ d, new { style } = .ok d :=
  exists_new_iff.mpr ⟨exists_candidates_plain (show 4 ≤ 8 by decide), fun _ hs => nomatch hs⟩

theorem exists_new_default : ∃ d, new {} = .ok d :=
  exists_new_style .posix

theorem detectCommandLine_of_plain
    (hs : d.style.lastComponent line.command.toList = s)
    (h : firstMatch d.plain s = some (driver, m)) :
    d.detectCommandLine line = some (detection line s (plainMethod m) driver m) := by
  subst hs
  simp only [detectCommandLine, h]

theorem detectCommandLine_of_plain_eq_none (hs : d.style.lastComponent line.command.toList = s)
    (h : firstMatch d.plain s = none) :
    d.detectCommandLine line = (firstMatch d.versioned s).map fun found =>
      detection line s .basenameWithVersion found.1 found.2 := by
  subst hs
  simp only [detectCommandLine, h]

/-- A detection comes from the first pass, or from the second one where the first finds nothing. -/
theorem detectCommandLine_eq_some_iff {det : Detection}
    (hs : d.style.lastComponent line.command.toList = s) :
    d.detectCommandLine line = some det ↔
      (∃ driver m, firstMatch d.plain s = some (driver, m) ∧
        det = detection line s (plainMethod m) driver m) ∨
      firstMatch d.plain s = none ∧ ∃ driver m, firstMatch d.versioned s = some (driver, m) ∧
        det = detection line s .basenameWithVersion driver m := by
  cases hfirst : firstMatch d.plain s with
  | none =>
    rw [detectCommandLine_of_plain_eq_none hs hfirst]
    constructor
    · intro h
      obtain ⟨⟨driver, m⟩, hm, rfl⟩ := Option.map_eq_some_iff.mp h
      exact .inr ⟨rfl, driver, m, hm, rfl⟩
    · rintro (⟨_, _, h, _⟩ | ⟨_, driver, m, hm, rfl⟩)
      · cases h
      · rw [hm, Option.map_some]
  | some found =>
    rw [detectCommandLine_of_plain hs hfirst]
    constructor
    · intro h
      exact .inl ⟨found.1, found.2, rfl, (Option.some.inj h).symm⟩
    · rintro (⟨driver, m, h, rfl⟩ | ⟨h, _⟩)
      · cases h
        rfl
      · cases h

theorem versionOf_of_plain (hc : Compiled settings none c) (hm : c.pattern.find? s = some m) :
    versionOf m s = none := by
  have hexpr := expr_of_plain hc.2
  obtain ⟨b, _, _, _, _, hversion, _⟩ := captures_of_find? hexpr (fun _ he => nomatch he) hm
  simp [versionOf, Match.groupText?, hversion]

theorem isSome_versionOf_of_versioned {pattern : String} {v : Pattern}
    (hv : Pattern.compile pattern = .ok v) (hc : Compiled settings (some pattern) c)
    (hm : c.pattern.find? s = some m) : (versionOf m s).isSome = true := by
  obtain ⟨_, e, _, _, hexpr, _, hnot, hext, _⟩ := expr_of_versioned hv hc.2
  obtain ⟨b, _, _, _, _, hversion, _⟩ := captures_of_find? hexpr (hnot _ hext) hm
  simp [versionOf, Match.groupText?, hversion]

theorem exists_plain_of_detectCommandLine {det : Detection}
    (hs : d.style.lastComponent line.command.toList = s) (hversioned : d.versioned = [])
    (h : d.detectCommandLine line = some det) :
    ∃ driver m, firstMatch d.plain s = some (driver, m) ∧
      det = detection line s (plainMethod m) driver m := by
  rcases (detectCommandLine_eq_some_iff hs).mp h with hplain | ⟨_, _, _, hm, _⟩
  · exact hplain
  · rw [hversioned] at hm
    cases hm

theorem plain_eq_none_of_detectCommandLine (hs : d.style.lastComponent line.command.toList = s)
    (h : d.detectCommandLine line = none) : firstMatch d.plain s = none := by
  cases hfirst : firstMatch d.plain s with
  | none => rfl
  | some found =>
    rw [detectCommandLine_of_plain hs hfirst] at h
    cases h

theorem versioned_of_detectCommandLine {det : Detection} (hnew : new settings = .ok d)
    (hs : d.style.lastComponent line.command.toList = s) (hplain : firstMatch d.plain s = none)
    (h : d.detectCommandLine line = some det) :
    det.method = .basenameWithVersion ∧ det.version.isSome = true := by
  rcases (detectCommandLine_eq_some_iff hs).mp h with ⟨_, _, hm, _⟩ | ⟨_, driver, m, hm, rfl⟩
  · rw [hplain] at hm
    cases hm
  · obtain ⟨c, hc, rfl, hfind⟩ := exists_of_firstMatch hm
    obtain ⟨pattern, v, _, hv, hcompiled⟩ := (built_of_new hnew).versioned c hc
    exact ⟨rfl, isSome_versionOf_of_versioned hv hcompiled hfind⟩

theorem detect_of_tokenize_error {text : String} {reason : MalformedLine}
    (h : CommandLine.tokenize d.style text = .error reason) :
    d.detect text = .error (.malformedLine reason) := by
  simp [detect, h]

theorem detect_of_tokenize_ok {text : String} (h : CommandLine.tokenize d.style text = .ok line) :
    d.detect text = .ok (d.detectCommandLine line) := by
  simp [detect, h]

/-- A version pattern only adds detections: what fails or is detected without it does so with it,
and what it adds has a version. -/
theorem detect_of_versionSuffix {without : Detector}
    (hwithout : new { settings with versionSuffix := none } = .ok without)
    (hnew : new settings = .ok d) (line : String) :
    (∀ reason, without.detect line = .error reason → d.detect line = .error reason) ∧
    (∀ det, without.detect line = .ok (some det) →
      d.detect line = .ok (some det) ∧ det.version = none) ∧
    (without.detect line = .ok none → ∃ found, d.detect line = .ok found ∧
      ∀ det, found = some det →
        det.method = .basenameWithVersion ∧ det.version.isSome = true) := by
  obtain ⟨hstyle, hplain, hversioned, _⟩ := passes_of_new hwithout
  obtain ⟨hstyle', hplain', _⟩ := passes_of_new hnew
  have hsame : without.style = d.style := hstyle.trans hstyle'.symm
  have hpass : without.plain = d.plain := Except.ok.inj (hplain.symm.trans hplain')
  have hbuilt := built_of_new hwithout
  cases ht : CommandLine.tokenize d.style line with
  | error reason =>
    have ht' : CommandLine.tokenize without.style line = .error reason := by rw [hsame, ht]
    rw [detect_of_tokenize_error ht, detect_of_tokenize_error ht']
    simp
  | ok line' =>
    have ht' : CommandLine.tokenize without.style line = .ok line' := by rw [hsame, ht]
    rw [detect_of_tokenize_ok ht, detect_of_tokenize_ok ht']
    have hbasename : without.style.lastComponent line'.command.toList =
        d.style.lastComponent line'.command.toList := by rw [hsame]
    refine ⟨by simp, fun det h => ?_, fun h => ⟨_, rfl, fun det hdet => ?_⟩⟩
    · obtain ⟨driver, m, hfirst, rfl⟩ :=
        exists_plain_of_detectCommandLine hbasename (hversioned rfl) (Except.ok.inj h)
      obtain ⟨c, hc, rfl, hfind⟩ := exists_of_firstMatch hfirst
      have hversion := versionOf_of_plain (hbuilt.plain c hc) hfind
      rw [hpass] at hfirst
      rw [detectCommandLine_of_plain rfl hfirst]
      exact ⟨rfl, hversion⟩
    · have hnone := plain_eq_none_of_detectCommandLine hbasename (Except.ok.inj h)
      rw [hpass] at hnone
      exact versioned_of_detectCommandLine hnew rfl hnone hdet

theorem detect_of_versionSuffix_gcc : ∃ without d,
    new { tripletSegments := 0 } = .ok without ∧
    new { versionSuffix := some ".*", tripletSegments := 0 } = .ok d ∧
    ∃ det, without.detect "gcc -c a.c" = .ok (some det) ∧ d.detect "gcc -c a.c" = .ok (some det) ∧
      det.driver = Driver.gnuC "gcc" ∧ det.version = none := by
  have hdetect : (new { tripletSegments := 0 }).toOption.bind (fun d =>
      ((d.detect "gcc -c a.c").toOption.bind id).map (·.driver)) = some (Driver.gnuC "gcc") := by
    decide +kernel
  have hread : ∀ driver ∈ Driver.all,
      (Regex.Ast.read? (source .posix 0 driver.name ".*").toList).isSome = true := by
    simp only [toList_source, toList_ending_some]
    decide +kernel
  have hversion : (versionExpr? .posix ".*").any (fun e => ∀ driver ∈ Driver.all,
      (expr .posix 0 driver.name.toList (some e)).isTooBig = false) = true := by
    decide +kernel
  have hcompile : (Pattern.compile ".*").toOption.isSome = true := by decide +kernel
  obtain ⟨without, hwithout, hdet⟩ := Option.bind_eq_some_iff.mp hdetect
  obtain ⟨det, hdet, hdriver⟩ := Option.map_eq_some_iff.mp hdet
  obtain ⟨_, hfound, rfl⟩ := Option.bind_eq_some_iff.mp hdet
  obtain ⟨v, hv⟩ := Option.isSome_iff_exists.mp hcompile
  obtain ⟨e, he, hsize⟩ := (Option.any_eq_true _ _).mp hversion
  have hnew : ∃ d, new { versionSuffix := some ".*", tripletSegments := 0 } = .ok d :=
    exists_new_with (ok_of_toOption hwithout) rfl (ok_of_toOption hv)
      (exists_candidates (congrArg (Option.map some) he) hread (of_decide_eq_true hsize))
  obtain ⟨d, hd⟩ := hnew
  have hadds := @detect_of_versionSuffix ⟨some ".*", .posix, 0⟩ d without
    (ok_of_toOption hwithout) hd "gcc -c a.c"
  obtain ⟨hsame, hnone⟩ := hadds.2.1 det (ok_of_toOption hfound)
  exact ⟨without, d, ok_of_toOption hwithout, hd, det, ok_of_toOption hfound, hsame, hdriver, hnone⟩

end BuildLog.Detector
