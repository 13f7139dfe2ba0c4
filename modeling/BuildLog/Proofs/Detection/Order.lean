import BuildLog.Proofs.Detection.Candidates

/-! The order of the drivers. It plays no role in the first pass, since no basename is matched by
the plain patterns of two drivers. -/

namespace BuildLog.Detector

open BasenamePattern

variable {settings : DetectionSettings} {style : PathStyle} {n : Nat} {driver driver' : Driver}
  {p p' : Pattern} {s : List Char} {d : Detector} {table : List Driver}

def candidate (settings : DetectionSettings) (version : Option String) (driver : Driver) :
    Except DetectionError Candidate :=
  match BasenamePattern.compile settings.style settings.tripletSegments driver.name version with
  | .ok pattern => .ok ⟨driver, pattern⟩
  | .error reason =>
    match version with
    | some pattern => .error (.versionPattern pattern reason)
    | none => .error (.basenamePattern driver.name reason)

theorem candidates_eq (settings : DetectionSettings) (version : Option String) :
    candidates settings version = Driver.all.mapM (candidate settings version) := rfl

/-- A detector without a version pattern that tries the drivers of a table in their order. -/
def ofTable (table : List Driver) (settings : DetectionSettings) : Except DetectionError Detector := do
  let plain ← table.mapM (candidate settings none)
  return ⟨settings.style, plain, []⟩

theorem new_eq_ofTable (h : settings.versionSuffix = none) :
    new settings = ofTable Driver.all settings := by
  rw [new, ofTable, candidates_eq, h]

theorem driver_unique (hd : driver ∈ Driver.all) (hd' : driver' ∈ Driver.all)
    (hp : BasenamePattern.compile style n driver.name none = .ok p)
    (hp' : BasenamePattern.compile style n driver'.name none = .ok p')
    (h : (p.find? s).isSome = true) (h' : (p'.find? s).isSome = true) : driver = driver' := by
  obtain ⟨b, hb, hfits⟩ := (isSome_find?_iff (expr_of_plain hp) s).mp h
  obtain ⟨b', hb', hfits'⟩ := (isSome_find?_iff (expr_of_plain hp') s).mp h'
  have hunique := Basename.NumericOf.unique hfits.numericOf_of_plain hfits'.numericOf_of_plain
    hd hd' (hb.trans hb'.symm)
  exact hunique.2

theorem exclusive_plain {cs : List Candidate} (h : ∀ c ∈ cs, Compiled settings none c)
    (s : List Char) : Exclusive cs s := by
  intro c hc c' hc' hm hm'
  have hcompiled := h c hc
  have hcompiled' := h c' hc'
  exact hcompiled.eq_of_driver hcompiled'
    (driver_unique hcompiled.1 hcompiled'.1 hcompiled.2 hcompiled'.2 hm hm')

theorem exists_ofTable (hnew : new settings = .ok d) (hversion : settings.versionSuffix = none)
    (hp : Driver.all.Perm table) : ∃ plain, ofTable table settings = .ok { d with plain } ∧
      d.plain.Perm plain := by
  rw [new_eq_ofTable hversion, ofTable] at hnew
  obtain ⟨plain, hplain, hd⟩ := exists_of_bind_eq_ok hnew
  cases hd
  obtain ⟨plain', htable, hperm⟩ := exists_perm_of_mapM_eq_ok hp hplain
  refine ⟨plain', ?_, hperm⟩
  rw [ofTable, htable]
  rfl

theorem detectCommandLine_perm (hnew : new settings = .ok d) {plain : List Candidate}
    (hp : d.plain.Perm plain) (line : CommandLine) :
    { d with plain }.detectCommandLine line = d.detectCommandLine line := by
  have hexclusive := exclusive_plain (built_of_new hnew).plain
  simp only [detectCommandLine]
  rw [firstMatch_perm (hexclusive _) hp]

theorem exists_plain_match (hnew : new settings = .ok d) (hd : driver ∈ Driver.all) {b : Basename}
    (hfits : b.Fits settings.style settings.tripletSegments driver.name.toList none) :
    ∃ m, firstMatch d.plain b.text = some (driver, m) ∧ m.group? targetGroup = b.targetSpan ∧
      m.group? extensionGroup = b.extensionSpan ∧ versionOf m b.text = none := by
  obtain ⟨_, hplain, _⟩ := passes_of_new hnew
  obtain ⟨c, hc, rfl, hcompiled⟩ := exists_candidate hplain hd
  obtain ⟨m, hm, htarget, hext, _⟩ :=
    exists_find? (expr_of_plain hcompiled.2) (fun _ _ he => nomatch he) hfits fun b' hb' hfits' =>
      Basename.eq_of_text_eq hfits' hfits hb'
  have hexclusive := exclusive_plain (built_of_new hnew).plain b.text
  exact ⟨m, (firstMatch_eq_some_iff hexclusive).mpr ⟨c, hc, rfl, hm⟩, htarget, hext,
    versionOf_of_plain hcompiled hm⟩

/-- No basename is matched by the plain patterns of two drivers. So without a version pattern the
order in which the drivers are tried plays no role, and each basename of a driver is detected as
that driver and matched by no other. -/
theorem plain_pass_order_free (hnew : new { style, tripletSegments := n } = .ok d) :
    (∀ driver ∈ Driver.all, ∀ driver' ∈ Driver.all, ∀ p p',
      BasenamePattern.compile style n driver.name none = .ok p →
      BasenamePattern.compile style n driver'.name none = .ok p' →
      ∀ s, (p.find? s).isSome = true → (p'.find? s).isSome = true → driver = driver') ∧
    (∀ table, Driver.all.Perm table →
      ∃ d', ofTable table { style, tripletSegments := n } = .ok d' ∧
        ∀ line, d'.detectCommandLine line = d.detectCommandLine line) ∧
    ∀ driver ∈ Driver.all, ∀ b : Basename, b.Fits style n driver.name.toList none →
      ∀ line, style.lastComponent line.command.toList = b.text →
        d.detectCommandLine line = some
          { driver, commandLine := line
            method := if b.target = [] then .basenameExact else .targetTripletPrefixed
            target := targetText b, version := none
            hasExtension := decide (b.extension ≠ []) } ∧
        ∀ c ∈ d.plain, c.driver ≠ driver → c.pattern.find? b.text = none := by
  refine ⟨fun driver hd driver' hd' p p' hp hp' s h h' => driver_unique hd hd' hp hp' h h',
    fun table hp => ?_, fun driver hd b hfits line hline => ?_⟩
  · obtain ⟨plain, htable, hperm⟩ := exists_ofTable hnew rfl hp
    exact ⟨_, htable, detectCommandLine_perm hnew hperm⟩
  · have hbuilt := built_of_new hnew
    obtain ⟨m, hfirst, htarget, hext, hversion⟩ := exists_plain_match hnew hd hfits
    obtain ⟨k, _, hk⟩ := hfits.target
    have hbasename : d.style.lastComponent line.command.toList = b.text := by
      rw [hbuilt.style]
      exact hline
    constructor
    · rw [detectCommandLine_of_plain hbasename hfirst, detection_eq hk htarget hext, hversion,
        plainMethod_eq htarget]
    · intro c hc hne
      exact (exclusive_plain hbuilt.plain b.text).find?_eq_none hfirst hc hne

theorem plain_pass_order_free_gpp : ∃ d d', new {} = .ok d ∧
    ofTable Driver.all.reverse {} = .ok d' ∧
    d'.detectCommandLine ⟨"/usr/bin/arm-g++.exe", "-c a.cpp"⟩ = some
      { driver := .gnuCxx "g++", commandLine := ⟨"/usr/bin/arm-g++.exe", "-c a.cpp"⟩
        method := .targetTripletPrefixed, target := some "arm", version := none
        hasExtension := true } := by
  obtain ⟨d, hnew⟩ : ∃ d, new { style := .posix, tripletSegments := 4 } = .ok d :=
    exists_new_default
  let b : Basename := ⟨"arm-".toList, "g++".toList, [], ".exe".toList⟩
  have hsegment : IsSegment .posix b.target :=
    ⟨"arm".toList, by decide, List.all_eq_true.mp (by decide), by decide⟩
  have hfits : b.Fits .posix 4 (Driver.gnuCxx "g++").name.toList none :=
    ⟨⟨1, by decide, b.target, [], hsegment, rfl, by decide⟩, rfl, rfl, .inr rfl⟩
  obtain ⟨_, hperm, hdetect⟩ := plain_pass_order_free hnew
  obtain ⟨d', htable, hsame⟩ := hperm _ (List.reverse_perm _).symm
  refine ⟨d, d', hnew, htable, ?_⟩
  rw [hsame]
  exact (hdetect _ (by decide) b hfits _ (by decide)).1

end BuildLog.Detector
