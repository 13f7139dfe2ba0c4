import BuildLog.Detection
import BuildLog.Proofs.BasenamePattern.Acceptance

/-! What a detection says about the basename of its command. Every candidate of a detector was
compiled for its driver, so the parts that a detection reports make up the basename again. -/

namespace BuildLog

namespace Detector

open BasenamePattern

/-- A candidate is a known driver with the pattern of its name. -/
def Compiled (settings : DetectionSettings) (version : Option String) (c : Candidate) : Prop :=
  c.driver ∈ Driver.all ∧
    BasenamePattern.compile settings.style settings.tripletSegments c.driver.name version =
      .ok c.pattern

variable {settings : DetectionSettings} {version : Option String} {d : Detector}

theorem compiled_of_candidates {cs : List Candidate} (h : candidates settings version = .ok cs)
    {c : Candidate} (hc : c ∈ cs) : Compiled settings version c := by
  obtain ⟨driver, hd, h⟩ := mem_of_mapM_eq_ok h hc
  split at h
  · rename_i pattern hp
    cases h
    exact ⟨hd, hp⟩
  · split at h <;> cases h

structure Built (settings : DetectionSettings) (d : Detector) : Prop where
  style : d.style = settings.style
  plain : ∀ c ∈ d.plain, Compiled settings none c
  versioned : ∀ c ∈ d.versioned, ∃ pattern v, settings.versionSuffix = some pattern ∧
    Pattern.compile pattern = .ok v ∧ Compiled settings (some pattern) c

theorem built_of_new (h : new settings = .ok d) : Built settings d := by
  rw [new] at h
  obtain ⟨plain, hp, h⟩ := exists_of_bind_eq_ok h
  have hplain : ∀ c ∈ plain, Compiled settings none c := fun c hc => compiled_of_candidates hp hc
  split at h
  · cases h
    exact ⟨rfl, hplain, fun c hc => nomatch hc⟩
  · rename_i pattern hs
    split at h
    · cases h
    · rename_i v hv
      obtain ⟨versioned, hc, h⟩ := exists_of_bind_eq_ok h
      cases h
      exact ⟨rfl, hplain, fun c hm => ⟨pattern, v, hs, hv, compiled_of_candidates hc hm⟩⟩

theorem exists_of_firstMatch {cs : List Candidate} {basename : List Char} {driver : Driver}
    {m : Match} (h : firstMatch cs basename = some (driver, m)) :
    ∃ c ∈ cs, c.driver = driver ∧ c.pattern.find? basename = some m := by
  obtain ⟨c, hc, h⟩ := List.exists_of_findSome?_eq_some h
  obtain ⟨m', hm, h⟩ := Option.map_eq_some_iff.mp h
  cases h
  exact ⟨c, hc, rfl, hm⟩

/-- A detection gives an account of every character of a basename. -/
structure Accounts (settings : DetectionSettings) (det : Detection) (b : Basename) : Prop where
  target : b.target = det.target.elim [] fun t => t.toList ++ ['-']
  name : SameText settings.style b.name det.driver.name.toList
  version : b.version = det.version.elim [] String.toList
  extension : if det.hasExtension then SameText settings.style b.extension exe
    else b.extension = []
  segments : ∀ t, det.target = some t → ∃ us : List (List Char),
    1 ≤ us.length ∧ us.length ≤ settings.tripletSegments ∧ (∀ u ∈ us, u ≠ [] ∧ '-' ∉ u) ∧
      t.toList = ['-'].intercalate us
  versioned : det.version.isSome = true ↔ det.method = .basenameWithVersion
  prefixed : det.method ≠ .basenameWithVersion →
    (det.method = .targetTripletPrefixed ↔ det.target.isSome = true)

section

variable {b : Basename} {m : Match} {style : PathStyle} {k : Nat}

/-- Taking the hyphens from the end of a target takes one. -/
theorem targetOf_eq (hspan : m.group? targetGroup = b.targetSpan)
    (hk : IsTriplet style k b.target) (hk0 : k ≠ 0) :
    ∃ t, targetOf m b.text = some t ∧ b.target = t.toList ++ ['-'] := by
  obtain ⟨u, c, hc, hu⟩ := hk.exists_append_hyphen hk0
  have hne : b.target ≠ [] := fun h => hk0 (hk.eq_nil_iff.mp h)
  have htext : m.groupText? b.text targetGroup = some b.target := by
    rw [Match.groupText?, hspan, Basename.targetSpan, if_neg hne]
    simp [Basename.text]
  refine ⟨String.ofList (u ++ [c]), ?_, by simp [hu]⟩
  rw [targetOf, htext, hu]
  simp [hc]

theorem targetOf_eq_none (hspan : m.group? targetGroup = b.targetSpan) (h : b.target = []) :
    targetOf m b.text = none := by
  rw [targetOf, Match.groupText?, hspan, Basename.targetSpan, if_pos h]
  rfl

theorem versionOf_eq (hspan : m.group? versionGroup = some (b.nameEnd, b.versionEnd)) :
    versionOf m b.text = some (String.ofList b.version) := by
  have htext : m.groupText? b.text versionGroup = some b.version := by
    rw [Match.groupText?, hspan]
    simp [Basename.text, Basename.versionEnd, Basename.nameEnd, ← List.drop_drop]
  rw [versionOf, htext]
  rfl

/-- The target is the triplet without the hyphen at its end. -/
theorem target_of_triplet {n : Nat} (hspan : m.group? targetGroup = b.targetSpan)
    (hk : IsTriplet style k b.target) (hkn : k ≤ n) :
    b.target = (targetOf m b.text).elim [] (fun t => t.toList ++ ['-']) ∧
      ∀ t, targetOf m b.text = some t → ∃ us : List (List Char), 1 ≤ us.length ∧
        us.length ≤ n ∧ (∀ u ∈ us, u ≠ [] ∧ '-' ∉ u) ∧ t.toList = ['-'].intercalate us := by
  by_cases hk0 : k = 0
  · have hnil := hk.eq_nil_iff.mpr hk0
    rw [targetOf_eq_none hspan hnil]
    exact ⟨hnil, fun t ht => nomatch ht⟩
  · obtain ⟨t, ht, hcut⟩ := targetOf_eq hspan hk hk0
    rw [ht]
    refine ⟨hcut, fun t' ht' => ?_⟩
    obtain rfl := Option.some.inj ht'
    obtain ⟨us, hl, hus, hw⟩ := hk.exists_segments hk0
    rw [hcut] at hw
    exact ⟨us, by omega, by omega, hus, List.append_cancel_right hw⟩

theorem version_of_fits {e : Option Regex.Expr} (hfits : b.VersionFits e)
    (hspan : m.group? versionGroup = e.map fun _ => (b.nameEnd, b.versionEnd)) :
    (versionOf m b.text).isSome = e.isSome ∧
      b.version = (versionOf m b.text).elim [] String.toList := by
  cases e with
  | none =>
    have hnone : versionOf m b.text = none := by
      rw [versionOf, Match.groupText?, hspan]
      rfl
    rw [hnone]
    exact ⟨rfl, hfits⟩
  | some e =>
    rw [versionOf_eq hspan]
    exact ⟨rfl, (String.toList_ofList).symm⟩

/-- The parts that a detection takes from a match make up the basename again. -/
theorem accounts_of_fits {line : CommandLine} {method : MatchMethod} {driver : Driver}
    {e : Option Regex.Expr}
    (hfits : b.Fits settings.style settings.tripletSegments driver.name.toList e)
    (htarget : m.group? targetGroup = b.targetSpan)
    (hversion : m.group? versionGroup = e.map fun _ => (b.nameEnd, b.versionEnd))
    (hext : m.group? extensionGroup = b.extensionSpan)
    (hmethod : e.isSome = true ↔ method = .basenameWithVersion)
    (hplain : method ≠ .basenameWithVersion → method = plainMethod m) :
    Accounts settings (detection line b.text method driver m) b := by
  obtain ⟨k, hkn, hk⟩ := hfits.target
  obtain ⟨hcut, hsegments⟩ := target_of_triplet htarget hk hkn
  obtain ⟨hsome, htext⟩ := version_of_fits hfits.version hversion
  refine ⟨hcut, hfits.name, htext, ?_, hsegments, ?_, fun hne => ?_⟩
  · show if (m.group? extensionGroup).isSome = true then _ else _
    rw [hext, Basename.extensionSpan]
    by_cases h : b.extension = []
    · simp [h]
    · simpa [h] using hfits.extension
  · show (versionOf m b.text).isSome = true ↔ _
    rw [hsome]
    exact hmethod
  · show method = .targetTripletPrefixed ↔ (targetOf m b.text).isSome = true
    have hpresent : (targetOf m b.text).isSome = (m.group? targetGroup).isSome := by
      simp [targetOf, Match.groupText?]
    rw [hpresent, hplain hne, plainMethod]
    by_cases h : (m.group? targetGroup).isSome = true
    · simp [h]
    · simp [h]

end

/-- Every detection accounts for the whole basename of its command: the target and a hyphen, the
name of the driver, the version and the extension, with nothing lost in between. -/
theorem detectCommandLine_accounts {line : CommandLine} {det : Detection}
    (hnew : new settings = .ok d)
    (htarget : settings.tripletSegments = 0 → ∀ pattern a, settings.versionSuffix = some pattern →
      Regex.Ast.read? pattern.toList = some a → targetGroup ∉ a.groupNames)
    (h : d.detectCommandLine line = some det) :
    ∃ b : Basename, b.text = settings.style.lastComponent line.command.toList ∧
      Accounts settings det b := by
  have hbuilt := built_of_new hnew
  rw [detectCommandLine, hbuilt.style] at h
  simp only at h
  split at h
  · rename_i driver m hm
    obtain rfl := Option.some.inj h
    obtain ⟨c, hc, rfl, hfind⟩ := exists_of_firstMatch hm
    have hexpr := expr_of_plain (hbuilt.plain c hc).2
    obtain ⟨b, hb, hfits, _, _, hversion, hext, hspan, _⟩ :=
      captures_of_find? hexpr (fun _ he => nomatch he) hfind
    refine ⟨b, hb, ?_⟩
    rw [← hb]
    refine accounts_of_fits hfits (hspan fun _ he => nomatch he) hversion hext ?_ fun _ => rfl
    have hplain : plainMethod m ≠ .basenameWithVersion := by
      rw [plainMethod]
      split <;> decide
    exact ⟨(fun he => nomatch he), fun he => absurd he hplain⟩
  · obtain ⟨⟨driver, m⟩, hm, rfl⟩ := Option.map_eq_some_iff.mp h
    obtain ⟨c, hc, rfl, hfind⟩ := exists_of_firstMatch hm
    obtain ⟨pattern, v, hsuffix, hv, hcompiled⟩ := hbuilt.versioned c hc
    obtain ⟨a, e, ha, _, hexpr, _, hnot, hextnot, htargetnot⟩ := expr_of_versioned hv hcompiled.2
    have htargetnot : targetGroup ∉ a.groupNames := by
      by_cases hn : settings.tripletSegments = 0
      · exact htarget hn pattern a hsuffix ha
      · exact htargetnot hn
    obtain ⟨b, hb, hfits, _, _, hversion, hext, hspan, _⟩ :=
      captures_of_find? hexpr (hnot _ hextnot) hfind
    refine ⟨b, hb, ?_⟩
    rw [← hb]
    exact accounts_of_fits hfits (hspan (hnot _ htargetnot)) hversion hext
      ⟨fun _ => rfl, fun _ => rfl⟩ fun hne => absurd rfl hne

theorem detectCommandLine_accounts_gcc2 :
    ∃ d det, new { versionSuffix := some "1|2", tripletSegments := 0 } = .ok d ∧
      d.detectCommandLine ⟨"/usr/bin/gcc2.exe", "-c a.c"⟩ = some det ∧ det.version = some "2" ∧
      ∃ b : Basename, b.text = PathStyle.posix.lastComponent "/usr/bin/gcc2.exe".toList ∧
        Accounts { versionSuffix := some "1|2", tripletSegments := 0 } det b := by
  have hdetect : (new { versionSuffix := some "1|2", tripletSegments := 0 }).toOption.bind
      (fun d => (d.detectCommandLine ⟨"/usr/bin/gcc2.exe", "-c a.c"⟩).bind (·.version)) =
        some "2" := by decide +kernel
  have hread : (Regex.Ast.read? "1|2".toList).all (targetGroup ∉ ·.groupNames) = true := by
    decide +kernel
  obtain ⟨d, hd, h⟩ := Option.bind_eq_some_iff.mp hdetect
  obtain ⟨det, hdet, hversion⟩ := Option.bind_eq_some_iff.mp h
  have hnames : ∀ pattern a, some "1|2" = some pattern →
      Regex.Ast.read? pattern.toList = some a → targetGroup ∉ a.groupNames := by
    intro pattern a hp ha
    obtain rfl := Option.some.inj hp
    rw [ha] at hread
    simpa using hread
  exact ⟨d, det, ok_of_toOption hd, hdet, hversion,
    detectCommandLine_accounts (ok_of_toOption hd) (fun _ => hnames) hdet⟩

end Detector

end BuildLog
