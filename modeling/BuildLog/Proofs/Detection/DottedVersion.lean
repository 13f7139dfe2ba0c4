import BuildLog.Proofs.BasenamePattern.DottedVersion
import BuildLog.Proofs.Detection.Candidates

/-! Detection with the documented version pattern. A basename that is put together from a target, the
name of a driver, a version and an extension is taken apart into these again, and no other driver
claims it. -/

namespace BuildLog.Detector

open BasenamePattern

variable {settings : DetectionSettings} {style : PathStyle} {n : Nat} {driver : Driver}
  {p v : Pattern} {s : List Char} {d : Detector} {c : Candidate} {b : Basename}

theorem Compiled.expr_dotted (hv : Pattern.compile documentedVersion = .ok v)
    (h : Compiled settings (some documentedVersion) c) :
    c.pattern.expr = expr settings.style settings.tripletSegments c.driver.name.toList
      (some (dottedExpr settings.style)) := by
  obtain ⟨_, e, _, he, hexpr, _⟩ := expr_of_versioned hv h.2
  rw [versionExpr?_documentedVersion] at he
  rw [hexpr, ← Option.some.inj he]

/-- A basename with a version is matched by no plain pattern, not even by that of its driver. -/
theorem plain_eq_none_of_dotted (hb : b.NumericOf settings.style driver)
    (hd : driver ∈ Driver.all) (hversion : b.version ≠ []) (h : Compiled settings none c) :
    c.pattern.find? b.text = none := by
  cases hfind : c.pattern.find? b.text with
  | none => rfl
  | some m =>
    have hmatch : (c.pattern.find? b.text).isSome = true := by simp [hfind]
    obtain ⟨b', hb', hfits⟩ := (isSome_find?_iff (expr_of_plain h.2) b.text).mp hmatch
    have hsame := (Basename.NumericOf.unique hfits.numericOf_of_plain hb h.1 hd hb').1
    have hnil : b'.version = [] := hfits.version
    exact absurd (hsame ▸ hnil) hversion

/-- Of the patterns with the documented version only that of its driver matches a basename, and it
takes it apart in no other way. -/
theorem eq_of_fits_dotted (hb : b.NumericOf settings.style driver) (hd : driver ∈ Driver.all)
    (h : Compiled settings (some documentedVersion) c) {b' : Basename} (hb' : b'.text = b.text)
    (hfits : b'.Fits settings.style settings.tripletSegments c.driver.name.toList
      (some (dottedExpr settings.style))) : b' = b ∧ c.driver = driver :=
  Basename.NumericOf.unique hfits.numericOf_of_dotted hb h.1 hd hb'

theorem driver_of_dotted_match (hv : Pattern.compile documentedVersion = .ok v)
    (hb : b.NumericOf settings.style driver) (hd : driver ∈ Driver.all)
    (h : Compiled settings (some documentedVersion) c)
    (hmatch : (c.pattern.find? b.text).isSome = true) : c.driver = driver := by
  obtain ⟨b', hb', hfits⟩ := (isSome_find?_iff (h.expr_dotted hv) b.text).mp hmatch
  exact (eq_of_fits_dotted hb hd h hb' hfits).2

theorem exclusive_dotted (hv : Pattern.compile documentedVersion = .ok v)
    (hb : b.NumericOf settings.style driver) (hd : driver ∈ Driver.all) {cs : List Candidate}
    (h : ∀ c ∈ cs, Compiled settings (some documentedVersion) c) : Exclusive cs b.text := by
  intro c hc c' hc' hm hm'
  have hdriver := driver_of_dotted_match hv hb hd (h c hc) hm
  have hdriver' := driver_of_dotted_match hv hb hd (h c' hc') hm'
  exact (h c hc).eq_of_driver (h c' hc') (hdriver.trans hdriver'.symm)

theorem exists_dotted_match (hv : Pattern.compile documentedVersion = .ok v)
    (h : Compiled settings (some documentedVersion) c)
    (hfits : b.Fits settings.style settings.tripletSegments c.driver.name.toList
      (some (dottedExpr settings.style))) :
    ∃ m, c.pattern.find? b.text = some m ∧ m.group? targetGroup = b.targetSpan ∧
      m.group? extensionGroup = b.extensionSpan ∧
      versionOf m b.text = some (String.ofList b.version) := by
  have hnames : ∀ name e, some (dottedExpr settings.style) = some e → name ∉ e.groupNames := by
    intro name e he
    rw [← Option.some.inj he, groupNames_dottedExpr]
    simp
  obtain ⟨m, hm, htarget, hext, hversion⟩ :=
    exists_find? (h.expr_dotted hv) hnames hfits fun b' hb' hfits' =>
      (eq_of_fits_dotted hfits.numericOf_of_dotted h.1 h hb' hfits').1
  exact ⟨m, hm, htarget, hext, versionOf_eq hversion⟩

theorem exists_new_documentedVersion : ∃ d v,
    new { versionSuffix := some documentedVersion } = .ok d ∧
      Pattern.compile documentedVersion = .ok v := by
  have hread : ∀ driver ∈ Driver.all,
      (Regex.Ast.read? (source .posix 4 driver.name documentedVersion).toList).isSome = true := by
    simp only [toList_source, toList_ending_some]
    decide +kernel
  have hsize : (dottedExpr .posix).isTooBig = false ∧ ∀ driver ∈ Driver.all,
      (expr .posix 4 driver.name.toList (some (dottedExpr .posix))).isTooBig = false := by
    decide +kernel
  have hcompile : ∃ v, Pattern.compile documentedVersion = .ok v := by
    simp [Pattern.compile, read?_documentedVersion, expr?_dottedTree, hsize.1]
  obtain ⟨v, hv⟩ := hcompile
  obtain ⟨_, hwithout⟩ := exists_new_default
  have hexpr := congrArg (Option.map some) (versionExpr?_documentedVersion .posix)
  have hnew : ∃ d, new { versionSuffix := some documentedVersion } = .ok d :=
    exists_new_with hwithout rfl hv (exists_candidates hexpr hread hsize.2)
  obtain ⟨d, hd⟩ := hnew
  exact ⟨d, v, hd, hv⟩

/-- A basename that is put together from a target, the name of a driver, a text that the documented
version pattern matches as a whole, and an extension is taken apart into these again. No pattern of
another driver matches it. -/
theorem detects_documentedVersion {line : CommandLine}
    (hnew : new { versionSuffix := some documentedVersion, style, tripletSegments := n } = .ok d)
    (hd : driver ∈ Driver.all) (hv : Pattern.compile documentedVersion = .ok v)
    (htarget : ∃ k ≤ n, IsTriplet style k b.target)
    (hname : SameText style b.name driver.name.toList)
    (hversion : v.expr.Spans b.version.toArray 0 b.version.length)
    (hext : b.extension = [] ∨ SameText style b.extension exe)
    (hline : style.lastComponent line.command.toList = b.text) :
    d.detectCommandLine line = some
      { driver, commandLine := line, method := .basenameWithVersion, target := targetText b
        version := some (String.ofList b.version)
        hasExtension := decide (b.extension ≠ []) } ∧
    ∀ other ∈ Driver.all, other ≠ driver → ∃ plain versioned,
      BasenamePattern.compile style n other.name none = .ok plain ∧
      BasenamePattern.compile style n other.name (some documentedVersion) = .ok versioned ∧
      plain.find? b.text = none ∧ versioned.find? b.text = none := by
  have hdotted := (spans_documentedVersion_iff hv).mp hversion
  have hfits : b.Fits style n driver.name.toList (some (dottedExpr style)) :=
    ⟨htarget, hname, Basename.versionFits_dotted.mpr hdotted, hext⟩
  have hb := hfits.numericOf_of_dotted
  have hbuilt := built_of_new hnew
  obtain ⟨hstyle, hplain, _, hpattern⟩ := passes_of_new hnew
  obtain ⟨_, hversioned⟩ := hpattern documentedVersion rfl
  constructor
  · obtain ⟨c, hc, rfl, hcompiled⟩ := exists_candidate hversioned hd
    obtain ⟨m, hm, hmtarget, hmext, hmversion⟩ := exists_dotted_match hv hcompiled hfits
    have hexclusive := exclusive_dotted hv hb hd fun c hc => compiled_of_candidates hversioned hc
    have hnone := firstMatch_eq_none fun c hc =>
      plain_eq_none_of_dotted hb hd hdotted.ne_nil (hbuilt.plain c hc)
    have hfirst := (firstMatch_eq_some_iff hexclusive).mpr ⟨c, hc, rfl, hm⟩
    have hbasename : d.style.lastComponent line.command.toList = b.text := by
      rw [hstyle]
      exact hline
    obtain ⟨k, _, hk⟩ := htarget
    rw [detectCommandLine_of_plain_eq_none hbasename hnone, hfirst, Option.map_some,
      detection_eq hk hmtarget hmext, hmversion]
  · intro other hother hne
    obtain ⟨c, _, rfl, hcompiled⟩ := exists_candidate hplain hother
    obtain ⟨c', _, hc', hcompiled'⟩ := exists_candidate hversioned hother
    refine ⟨c.pattern, c'.pattern, hcompiled.2, hc' ▸ hcompiled'.2,
      plain_eq_none_of_dotted hb hd hdotted.ne_nil hcompiled, ?_⟩
    cases hfind : c'.pattern.find? b.text with
    | none => rfl
    | some m =>
      have hdriver := driver_of_dotted_match hv hb hd hcompiled' (by simp [hfind])
      exact absurd (hc'.symm.trans hdriver) hne

theorem detects_documentedVersion_gpp : ∃ d v,
    new { versionSuffix := some documentedVersion } = .ok d ∧
    Pattern.compile documentedVersion = .ok v ∧
    v.expr.Spans "-9.2".toList.toArray 0 4 ∧
    d.detectCommandLine ⟨"/usr/bin/arm-eabi-g++-9.2.exe", "-c a.cpp"⟩ = some
      { driver := .gnuCxx "g++", commandLine := ⟨"/usr/bin/arm-eabi-g++-9.2.exe", "-c a.cpp"⟩
        method := .basenameWithVersion, target := some "arm-eabi", version := some "-9.2"
        hasExtension := true } := by
  obtain ⟨d, v, hnew, hv⟩ := exists_new_documentedVersion
  have hnine : Regex.digitChars.contains '9' = true := by decide +kernel
  have htwo : Regex.digitChars.contains '2' = true := by decide +kernel
  have hmore : Regex.Repeated (fun w => ∃ u, IsNumber u ∧ w = '.' :: u) 1 ".2".toList :=
    ⟨".2".toList, [], ⟨['2'], ⟨by simp, by simpa using htwo⟩, rfl⟩, rfl, rfl⟩
  have hdotted : IsDottedVersion "-9.2".toList :=
    ⟨['-'], ['9'], ".2".toList, .inr rfl, ⟨by simp, by simpa using hnine⟩, ⟨1, hmore⟩, rfl⟩
  have hspans := (spans_documentedVersion_iff hv).mpr hdotted
  let b : Basename := ⟨"arm-eabi-".toList, "g++".toList, "-9.2".toList, ".exe".toList⟩
  have harm : IsSegment .posix "arm-".toList :=
    ⟨"arm".toList, by decide, List.all_eq_true.mp (by decide), by decide⟩
  have heabi : IsSegment .posix "eabi-".toList :=
    ⟨"eabi".toList, by decide, List.all_eq_true.mp (by decide), by decide⟩
  have htriplet : IsTriplet .posix 2 b.target :=
    ⟨"arm-".toList, "eabi-".toList, harm, ⟨"eabi-".toList, [], heabi, rfl, rfl⟩, by decide⟩
  have hd : Driver.gnuCxx "g++" ∈ Driver.all := by decide
  refine ⟨d, v, hnew, hv, hspans, ?_⟩
  exact (detects_documentedVersion (b := b) hnew hd hv ⟨2, by decide, htriplet⟩ rfl hspans
    (.inr rfl) (by decide)).1

end BuildLog.Detector
