import BuildLog.Proofs.Detection.Expressions
import BuildLog.Proofs.Regex.GroupSpans
import Mathlib.Data.List.DropRight

/-! Detections where no segments are accepted in front of the name. The name then stands at the front
of the basename, and only a group of the version pattern that takes the name of the target can be
reported as one. -/

namespace BuildLog.Detector

open BasenamePattern Regex

variable {settings : DetectionSettings} {d : Detector} {line : CommandLine} {det : Detection}
  {style : PathStyle} {name s : List Char} {version : Option Expr} {b : Basename} {m : Match}

theorem target_eq_nil_of_no_segments (h : b.Fits style 0 name version) : b.target = [] := by
  obtain ⟨k, hk, htriplet⟩ := h.target
  exact htriplet.eq_nil_iff.mpr (Nat.le_zero.mp hk)

theorem take_drop_infix {α : Type} (s : List α) {i j start stop : Nat} (hi : i ≤ start)
    (hle : start ≤ stop) (hj : stop ≤ j) :
    (s.drop start).take (stop - start) <:+: (s.drop i).take (j - i) := by
  have hdrop : (s.drop i).drop (start - i) = s.drop start := by
    rw [List.drop_drop, Nat.add_sub_cancel' hi]
  have htake : ((s.drop i).take (j - i)).drop (start - i) = (s.drop start).take (j - start) := by
    rw [List.drop_take, hdrop, show j - i - (start - i) = j - start by omega]
  have hprefix : (s.drop start).take (stop - start) <+: (s.drop start).take (j - start) :=
    List.take_prefix_take_left (by omega)
  rw [← htake] at hprefix
  exact hprefix.isInfix.trans (List.drop_suffix _ _).isInfix

theorem version_eq_take (b : Basename) :
    (b.text.drop b.nameEnd).take (b.versionEnd - b.nameEnd) = b.version := by
  simp [Basename.text, Basename.versionEnd, Basename.nameEnd, ← List.drop_drop]

/-- Without a target of its own, a match reports as its target what the version pattern calls so. -/
theorem targetOf_within_version {e : Expr} {inner : List GroupSpan} {t : String}
    (hnil : b.target = [])
    (hinner : e.Reaches b.text.toArray b.nameEnd ⟨b.versionEnd, inner⟩)
    (ht : targetOf (b.toMatch (⟨versionGroup, b.nameEnd, b.versionEnd⟩ :: inner)) b.text = some t) :
    targetGroup ∈ e.groupNames ∧ t.toList <:+: b.version := by
  obtain ⟨cs, hcs, rfl⟩ := Option.map_eq_some_iff.mp ht
  obtain ⟨span, hspan, rfl⟩ := Option.map_eq_some_iff.mp hcs
  obtain ⟨g, hg, rfl⟩ := Option.map_eq_some_iff.mp hspan
  have hname : g.name = targetGroup := by simpa using List.find?_some hg
  have hmem : g ∈ inner := by
    have hall := List.mem_of_find?_eq_some hg
    have hext : targetGroup ≠ extensionGroup := by decide
    have hversion : targetGroup ≠ versionGroup := by decide
    simp only [Basename.toMatch, Basename.targetSpans, Basename.extensionSpans, hnil, if_pos,
      List.append_nil, List.mem_append, List.mem_cons] at hall
    rcases hall with hall | rfl | hall
    · split at hall
      · cases hall
      · obtain rfl := List.mem_singleton.mp hall
        exact absurd hname.symm hext
    · exact absurd hname.symm hversion
    · exact hall
  have hle : b.nameEnd ≤ b.text.toArray.size := by
    rw [List.size_toArray, b.length_text, Basename.versionEnd]
    omega
  obtain ⟨hstart, hstop, hend⟩ := e.inner b.text.toArray b.nameEnd hle _ hinner g hmem
  refine ⟨hname ▸ Expr.name_mem_groupNames hinner g hmem, ?_⟩
  have hinfix := take_drop_infix b.text hstart hstop hend
  rw [version_eq_take] at hinfix
  rw [String.toList_ofList]
  exact (List.rdropWhile_prefix _ _).isInfix.trans hinfix

/-- Where no segments are accepted nothing stands in front of the name, and a target is reported only
if the version pattern itself names a group so. It is a part of the version then. -/
theorem target_of_no_segments (hnew : new settings = .ok d) (hn : settings.tripletSegments = 0)
    (h : d.detectCommandLine line = some det) :
    (∃ front rest, settings.style.lastComponent line.command.toList = front ++ rest ∧
      SameText settings.style front det.driver.name.toList) ∧
    ∀ t, det.target = some t → ∃ pattern a v, settings.versionSuffix = some pattern ∧
      Ast.read? pattern.toList = some a ∧ targetGroup ∈ a.groupNames ∧
      det.method = .basenameWithVersion ∧ det.version = some v ∧ t.toList <:+: v.toList := by
  have hbuilt := built_of_new hnew
  have hs : d.style.lastComponent line.command.toList =
      settings.style.lastComponent line.command.toList := by rw [hbuilt.style]
  rcases (detectCommandLine_eq_some_iff hs).mp h with ⟨_, m, hm, rfl⟩ | ⟨_, _, m, hm, rfl⟩
  · obtain ⟨c, hc, rfl, hfind⟩ := exists_of_firstMatch hm
    have hexpr := expr_of_plain (hbuilt.plain c hc).2
    obtain ⟨b, hb, hfits, _, _, _, _, hspan, _⟩ :=
      captures_of_find? hexpr (fun _ he => by cases he) hfind
    rw [hn] at hfits
    have hnil := target_eq_nil_of_no_segments hfits
    have hnone := targetOf_eq_none (hspan fun _ he => by cases he) hnil
    refine ⟨⟨b.name, b.version ++ b.extension, ?_, hfits.name⟩, fun t ht => ?_⟩
    · rw [← hb, Basename.text, hnil, List.nil_append]
    · rw [hb] at hnone
      cases hnone.symm.trans ht
  · obtain ⟨c, hc, rfl, hfind⟩ := exists_of_firstMatch hm
    obtain ⟨pattern, v, hsuffix, hv, hcompiled⟩ := hbuilt.versioned c hc
    obtain ⟨a, e, ha, _, hexpr, _, hnames, _⟩ := expr_of_versioned hv hcompiled.2
    obtain ⟨b, groups, hb, hfits, hgroups, rfl, _⟩ := exists_of_find? hexpr hfind
    obtain ⟨inner, hinner, rfl⟩ := Basename.versionGroups_some.mp hgroups
    rw [hn] at hfits
    have hnil := target_eq_nil_of_no_segments hfits
    refine ⟨⟨b.name, b.version ++ b.extension, ?_, hfits.name⟩, fun t ht => ?_⟩
    · rw [← hb, Basename.text, hnil, List.nil_append]
    · rw [← hb] at ht ⊢
      obtain ⟨hmem, hinfix⟩ := targetOf_within_version hnil hinner ht
      have hin : targetGroup ∈ a.groupNames := by
        by_contra hnot
        exact hnames _ hnot e rfl hmem
      refine ⟨pattern, a, String.ofList b.version, hsuffix, ha, hin, rfl,
        versionOf_eq (Basename.group?_version _ _ inner), ?_⟩
      rw [String.toList_ofList]
      exact hinfix

/-- No segments in front of the name, and a version pattern that calls the version a target. -/
def versionAsTarget : DetectionSettings :=
  { versionSuffix := some "(?P<target>-9)", tripletSegments := 0 }

theorem exists_detection_versionAsTarget : ∃ d det, new versionAsTarget = .ok d ∧
    d.detectCommandLine ⟨"gcc-9", "-c a.c"⟩ = some det ∧ det.target = some "-9" := by
  have hread : ∀ driver ∈ Driver.all, (Ast.read? (source .posix 0 driver.name
      "(?P<target>-9)").toList).isSome = true := by
    simp only [toList_source, toList_ending_some]
    decide +kernel
  have hnew : ∃ d, new versionAsTarget = .ok d :=
    exists_new_of_readable exists_new_no_segments rfl (by decide +kernel) hread (by decide +kernel)
  obtain ⟨d, det, hd, hdet, htarget⟩ := exists_detection_of_new hnew rfl ⟨"gcc-9", "-c a.c"⟩
    (·.target = some "-9") (by decide +kernel)
  exact ⟨d, det, hd, hdet, of_decide_eq_true htarget⟩

theorem target_of_no_segments_gcc : ∃ d det, new versionAsTarget = .ok d ∧
    d.detectCommandLine ⟨"gcc-9", "-c a.c"⟩ = some det ∧ det.target = some "-9" ∧
    ∃ a v, Ast.read? "(?P<target>-9)".toList = some a ∧ targetGroup ∈ a.groupNames ∧
      det.version = some v ∧ "-9".toList <:+: v.toList := by
  obtain ⟨d, det, hnew, hdet, htarget⟩ := exists_detection_versionAsTarget
  obtain ⟨pattern, a, v, hsuffix, ha, hmem, _, hversion, hinfix⟩ :=
    (target_of_no_segments hnew rfl hdet).2 "-9" htarget
  obtain rfl : "(?P<target>-9)" = pattern := Option.some.inj hsuffix
  exact ⟨d, det, hnew, hdet, htarget, a, v, ha, hmem, hversion, hinfix⟩

/-- The version of `gcc-9` is reported as a target although no segments are accepted. -/
theorem version_reported_as_target : ¬ ∀ settings d line det, new settings = .ok d →
    settings.tripletSegments = 0 → d.detectCommandLine line = some det → det.target = none := by
  intro h
  obtain ⟨d, det, hnew, hdet, htarget⟩ := exists_detection_versionAsTarget
  rw [h versionAsTarget d ⟨"gcc-9", "-c a.c"⟩ det hnew rfl hdet] at htarget
  cases htarget

end BuildLog.Detector
