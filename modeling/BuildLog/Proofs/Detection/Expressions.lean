import BuildLog.Proofs.Detection.Candidates

/-! The candidates of a detector by the expressions that their patterns stand for. They depend on
the version pattern only through its expression, and the drivers keep their order. -/

namespace BuildLog

namespace Detector

open BasenamePattern

/-- A driver with the expression of its basenames. -/
def candidateOf (settings : DetectionSettings) (version : Option String) (e : Option Regex.Expr)
    (driver : Driver) : Candidate :=
  ⟨driver, ⟨source settings.style settings.tripletSegments driver.name version,
    expr settings.style settings.tripletSegments driver.name.toList e⟩⟩

def candidatesOf (settings : DetectionSettings) (version : Option String)
    (e : Option Regex.Expr) : List Candidate :=
  Driver.all.map (candidateOf settings version e)

variable {settings : DetectionSettings} {version : Option String} {e : Option Regex.Expr}
  {d : Detector} {c : Candidate} {cs : List Candidate} {driver : Driver} {s : List Char} {m : Match}

theorem Compiled.eq_candidateOf (h : Compiled settings version c)
    (he : c.pattern.expr = expr settings.style settings.tripletSegments c.driver.name.toList e) :
    c = candidateOf settings version e c.driver := by
  obtain ⟨driver, text, body⟩ := c
  have htext : text = source settings.style settings.tripletSegments driver.name version :=
    Pattern.source_of_compile h.2
  have hbody : body = expr settings.style settings.tripletSegments driver.name.toList e := he
  rw [htext, hbody, candidateOf]

theorem map_driver_candidates (h : candidates settings version = .ok cs) :
    cs.map (·.driver) = Driver.all := by
  refine map_of_mapM_eq_ok h fun driver c hc => ?_
  split at hc
  · cases hc
    rfl
  · split at hc <;> cases hc

theorem candidates_eq_candidatesOf (h : candidates settings version = .ok cs)
    (he : ∀ c ∈ cs, c.pattern.expr =
      expr settings.style settings.tripletSegments c.driver.name.toList e) :
    cs = candidatesOf settings version e := by
  have hc : ∀ c ∈ cs, c = candidateOf settings version e c.driver := fun c hc =>
    (compiled_of_candidates h hc).eq_candidateOf (he c hc)
  rw [candidatesOf, ← map_driver_candidates h, List.map_map]
  exact (List.map_id cs).symm.trans (List.map_congr_left hc)

/-- Each pass of a detector tries the drivers in their order, the second one with the expression of
the version pattern. -/
theorem expressions_of_new (h : new settings = .ok d) :
    d.plain = candidatesOf settings none none ∧
      ∀ pattern, settings.versionSuffix = some pattern → ∃ e,
        versionExpr? settings.style pattern = some e ∧ extensionGroup ∉ e.groupNames ∧
          d.versioned = candidatesOf settings (some pattern) (some e) := by
  obtain ⟨_, hplain, _, hpattern⟩ := passes_of_new h
  refine ⟨candidates_eq_candidatesOf hplain fun c hc =>
    expr_of_plain (compiled_of_candidates hplain hc).2, fun pattern hs => ?_⟩
  obtain ⟨⟨v, hv⟩, hversioned⟩ := hpattern pattern hs
  have hexpr : ∀ c ∈ d.versioned, ∃ e, versionExpr? settings.style pattern = some e ∧
      extensionGroup ∉ e.groupNames ∧ c.pattern.expr =
        expr settings.style settings.tripletSegments c.driver.name.toList (some e) := by
    intro c hc
    obtain ⟨a, e, _, he, hexpr, _, hnames, hext, _⟩ :=
      expr_of_versioned hv (compiled_of_candidates hversioned hc).2
    exact ⟨e, he, hnames _ hext e rfl, hexpr⟩
  have hd : Driver.gnuCxx "clang++" ∈ Driver.all := by decide
  obtain ⟨c, hc, _⟩ := exists_candidate hversioned hd
  obtain ⟨e, he, hext, _⟩ := hexpr c hc
  refine ⟨e, he, hext, candidates_eq_candidatesOf hversioned fun c hc => ?_⟩
  obtain ⟨e', he', _, hexpr⟩ := hexpr c hc
  rw [hexpr, ← Option.some.inj (he.symm.trans he')]

theorem exists_driver_of_plain (hnew : new settings = .ok d) (hc : c ∈ d.plain) :
    ∃ driver ∈ Driver.all, c = candidateOf settings none none driver := by
  rw [(expressions_of_new hnew).1] at hc
  obtain ⟨driver, hd, rfl⟩ := List.mem_map.mp hc
  exact ⟨driver, hd, rfl⟩

theorem exists_driver_of_versioned (hnew : new settings = .ok d) (hc : c ∈ d.versioned) :
    ∃ driver ∈ Driver.all, ∃ version e, extensionGroup ∉ e.groupNames ∧
      c = candidateOf settings version (some e) driver := by
  cases hsuffix : settings.versionSuffix with
  | none =>
    have hnil : d.versioned = [] := (passes_of_new hnew).2.2.1 hsuffix
    rw [hnil] at hc
    cases hc
  | some pattern =>
    obtain ⟨e, _, hext, hversioned⟩ := (expressions_of_new hnew).2 pattern hsuffix
    rw [hversioned] at hc
    obtain ⟨driver, hd, rfl⟩ := List.mem_map.mp hc
    exact ⟨driver, hd, some pattern, e, hext, rfl⟩

theorem find?_candidateOf_eq_none_iff :
    (candidateOf settings version e driver).pattern.find? s = none ↔ ¬ ∃ b : Basename,
      b.text = s ∧ b.Fits settings.style settings.tripletSegments driver.name.toList e := by
  rw [← isSome_find?_iff (p := (candidateOf settings version e driver).pattern) rfl,
    Bool.not_eq_true, Option.isSome_eq_false_iff, Option.isNone_iff_eq_none]

theorem firstMatch_candidatesOf_eq_none_iff :
    firstMatch (candidatesOf settings version e) s = none ↔ ∀ driver ∈ Driver.all,
      ¬ ∃ b : Basename, b.text = s ∧
        b.Fits settings.style settings.tripletSegments driver.name.toList e := by
  rw [firstMatch_eq_none_iff, candidatesOf, List.forall_mem_map]
  exact forall₂_congr fun _ _ => find?_candidateOf_eq_none_iff

theorem exists_append_of_firstMatch
    (h : firstMatch (candidatesOf settings version e) s = some (driver, m)) :
    (candidateOf settings version e driver).pattern.find? s = some m ∧
      ∃ front behind, Driver.all = front ++ driver :: behind ∧
        ∀ other ∈ front, (candidateOf settings version e other).pattern.find? s = none := by
  obtain ⟨front, c, behind, hcs, hm, hfront⟩ := List.findSome?_eq_some_iff.mp h
  obtain ⟨m', hm', hfound⟩ := Option.map_eq_some_iff.mp hm
  obtain ⟨rfl, rfl⟩ := Prod.mk.inj hfound
  obtain ⟨front', rest, hall, rfl, hrest⟩ := List.map_eq_append_iff.mp hcs
  obtain ⟨driver, behind', rfl, rfl, _⟩ := List.map_eq_cons_iff.mp hrest
  refine ⟨hm', front', behind', hall, fun other hother => ?_⟩
  have hnone := hfront _ (List.mem_map_of_mem hother)
  exact Option.map_eq_none_iff.mp hnone

theorem eq_of_new {pattern : String} (h : new settings = .ok d)
    (hs : settings.versionSuffix = some pattern) :
    ∃ e, versionExpr? settings.style pattern = some e ∧
      d = ⟨settings.style, candidatesOf settings none none,
        candidatesOf settings (some pattern) (some e)⟩ := by
  obtain ⟨hplain, hpattern⟩ := expressions_of_new h
  obtain ⟨e, he, _, hversioned⟩ := hpattern pattern hs
  refine ⟨e, he, ?_⟩
  rw [← (passes_of_new h).1, ← hplain, ← hversioned]

theorem eq_of_new_plain (h : new settings = .ok d) (hs : settings.versionSuffix = none) :
    d = ⟨settings.style, candidatesOf settings none none, []⟩ := by
  obtain ⟨hstyle, _, hversioned, _⟩ := passes_of_new h
  rw [← hstyle, ← (expressions_of_new h).1, ← hversioned hs]

theorem new_default : new {} = .ok ⟨.posix, candidatesOf {} none none, []⟩ := by
  obtain ⟨d, hd⟩ := exists_new_default
  rw [hd, eq_of_new_plain hd rfl]

/-- A version pattern makes a detector if it is a pattern by itself and each of the patterns with it
can be read and is not too big. -/
theorem exists_new_of_readable {pattern : String}
    (hwithout : ∃ d, new { settings with versionSuffix := none } = .ok d)
    (hs : settings.versionSuffix = some pattern)
    (hcompile : (Pattern.compile pattern).toOption.isSome = true)
    (hread : ∀ driver ∈ Driver.all, (Regex.Ast.read? (source settings.style
      settings.tripletSegments driver.name pattern).toList).isSome = true)
    (hsize : (versionExpr? settings.style pattern).any (fun e => ∀ driver ∈ Driver.all,
      (expr settings.style settings.tripletSegments driver.name.toList (some e)).isTooBig = false) =
        true) :
    ∃ d, new settings = .ok d := by
  obtain ⟨_, hwithout⟩ := hwithout
  obtain ⟨v, hv⟩ := Option.isSome_iff_exists.mp hcompile
  obtain ⟨e, he, hsize⟩ := (Option.any_eq_true _ _).mp hsize
  have hcandidates : ∃ cs, candidates settings (some pattern) = .ok cs :=
    exists_candidates (congrArg (Option.map some) he) hread (of_decide_eq_true hsize)
  exact exists_new_with hwithout hs (ok_of_toOption hv) hcandidates

/-- What is detected with a version pattern can be told from the expressions alone. -/
theorem exists_detection_of_new {pattern : String} (hnew : ∃ d, new settings = .ok d)
    (hs : settings.versionSuffix = some pattern) (line : CommandLine) (f : Detection → Bool)
    (h : (versionExpr? settings.style pattern).all (fun e =>
      ((Detector.mk settings.style (candidatesOf settings none none)
        (candidatesOf settings (some pattern) (some e))).detectCommandLine line).any f) = true) :
    ∃ d det, new settings = .ok d ∧ d.detectCommandLine line = some det ∧ f det = true := by
  obtain ⟨d, hd⟩ := hnew
  obtain ⟨e, he, rfl⟩ := eq_of_new hd hs
  rw [he, Option.all_some] at h
  obtain ⟨det, hdet, hf⟩ := (Option.any_eq_true _ _).mp h
  exact ⟨_, det, hd, hdet, hf⟩

theorem exists_new_no_segments : ∃ d, new { tripletSegments := 0 } = .ok d := by
  have hsome : (new { tripletSegments := 0 }).toOption.isSome = true := by decide +kernel
  obtain ⟨d, hd⟩ := Option.isSome_iff_exists.mp hsome
  exact ⟨d, ok_of_toOption hd⟩

/-- The version pattern that takes any text that is left of a basename. -/
def anyVersion (n : Nat) : DetectionSettings :=
  { versionSuffix := some ".*", tripletSegments := n }

theorem exists_new_anyVersion {n : Nat} (hn : n = 0 ∨ n = 4) : ∃ d, new (anyVersion n) = .ok d := by
  have hwithout : ∃ d, new { tripletSegments := n } = .ok d := by
    rcases hn with rfl | rfl
    · exact exists_new_no_segments
    · exact exists_new_default
  refine exists_new_of_readable hwithout rfl (by decide +kernel) ?_ ?_
  · simp only [toList_source, toList_ending_some]
    rcases hn with rfl | rfl <;> decide +kernel
  · rcases hn with rfl | rfl <;> decide +kernel

theorem exists_detection_anyVersion {n : Nat} (hn : n = 0 ∨ n = 4) (line : CommandLine)
    (f : Detection → Bool) (h : (versionExpr? .posix ".*").all (fun e =>
      ((Detector.mk .posix (candidatesOf (anyVersion n) none none)
        (candidatesOf (anyVersion n) (some ".*") (some e))).detectCommandLine line).any f) = true) :
    ∃ d det, new (anyVersion n) = .ok d ∧ d.detectCommandLine line = some det ∧ f det = true :=
  exists_detection_of_new (exists_new_anyVersion hn) rfl line f h

end Detector

end BuildLog
