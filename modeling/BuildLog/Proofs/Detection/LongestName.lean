import BuildLog.Proofs.Detection.Expressions

/-! Names that go on where another name ends. They are tried first, so a version pattern that takes
any text cannot make the short name claim a basename of the long one. -/

namespace BuildLog

/-- The name of the driver goes on where the name of the shorter one ends. -/
def Driver.Extends (longer shorter : Driver) : Prop :=
  shorter.name.toList <+: longer.name.toList ∧ shorter.name ≠ longer.name

theorem Driver.names_pairwise :
    Driver.all.Pairwise fun d d' => ¬ d.name.toList <+: d'.name.toList := by
  decide

theorem Driver.Extends.mem_front {longer driver : Driver} {front behind : List Driver}
    (h : longer.Extends driver) (hl : longer ∈ Driver.all)
    (hall : Driver.all = front ++ driver :: behind) : longer ∈ front := by
  have hpairwise := Driver.names_pairwise
  rw [hall] at hl hpairwise
  obtain ⟨_, hrest, _⟩ := List.pairwise_append.mp hpairwise
  obtain ⟨hbehind, _⟩ := List.pairwise_cons.mp hrest
  rcases List.mem_append.mp hl with hl | hl
  · exact hl
  · rcases List.mem_cons.mp hl with rfl | hl
    · exact absurd rfl h.2
    · exact absurd h.1 (hbehind longer hl)

namespace BasenamePattern

variable {style : PathStyle} {e : Regex.Expr} {s : List Char} {driver driver' : Driver}

/-- The name of the driver starts the text, and a version and maybe the extension take what it
leaves. -/
def Starts (style : PathStyle) (e : Regex.Expr) (s : List Char) (driver : Driver) : Prop :=
  ∃ b : Basename, b.text = s ∧ b.Fits style 0 driver.name.toList (some e)

theorem Starts.exists_prefix (h : Starts style e s driver) :
    ∃ u, u <+: s ∧ SameText style u driver.name.toList := by
  obtain ⟨b, rfl, hfits⟩ := h
  obtain ⟨k, hk, htriplet⟩ := hfits.target
  have htarget : b.target = [] := htriplet.eq_nil_iff.mpr (Nat.le_zero.mp hk)
  refine ⟨b.name, ⟨b.version ++ b.extension, ?_⟩, hfits.name⟩
  rw [Basename.text, htarget, List.nil_append]

theorem Starts.name_prefix (h : Starts style e s driver) (h' : Starts style e s driver')
    (hd : driver ∈ Driver.all) (hd' : driver' ∈ Driver.all)
    (hle : driver.name.length ≤ driver'.name.length) :
    driver.name.toList <+: driver'.name.toList := by
  obtain ⟨u, hu, hsame⟩ := h.exists_prefix
  obtain ⟨u', hu', hsame'⟩ := h'.exists_prefix
  have hlen : u.length ≤ u'.length := by
    rw [hsame.length, hsame'.length, String.length_toList, String.length_toList]
    exact hle
  have hmap := (List.prefix_of_prefix_length_le hu hu' hlen).map (letter style)
  rw [hsame, hsame', map_letter_name hd, map_letter_name hd'] at hmap
  exact (List.prefix_map_iff_of_injective fun _ _ => char_eq_iff.mpr).mp hmap

/-- Of the drivers whose names start the text the one with the longest name. -/
structure Longest (style : PathStyle) (e : Regex.Expr) (s : List Char) (driver : Driver) :
    Prop where
  known : driver ∈ Driver.all
  starts : Starts style e s driver
  longest : ∀ other ∈ Driver.all, Starts style e s other → other.name.length ≤ driver.name.length

theorem Longest.unique (h : Longest style e s driver) (h' : Longest style e s driver') :
    driver = driver' := by
  have hle := h'.longest driver h.known h.starts
  have hge := h.longest driver' h'.known h'.starts
  have hpre := h.starts.name_prefix h'.starts h.known h'.known hle
  have hlen : driver.name.toList.length = driver'.name.toList.length := by
    rw [String.length_toList, String.length_toList]
    exact Nat.le_antisymm hle hge
  have hsame : SameText style driver.name.toList driver'.name.toList := by
    rw [hpre.eq_of_length hlen, SameText]
  exact driver_eq_of_sameText h.known h'.known hsame

end BasenamePattern

namespace Detector

open BasenamePattern

variable {settings : DetectionSettings} {version : Option String}
  {pattern : String} {e : Regex.Expr} {d : Detector} {line : CommandLine}
  {driver longer : Driver} {s : List Char} {m : Match}

theorem find?_eq_none_of_extends {e : Option Regex.Expr}
    (h : firstMatch (candidatesOf settings version e) s = some (driver, m))
    (hl : longer ∈ Driver.all) (hext : longer.Extends driver) :
    (candidateOf settings version e longer).pattern.find? s = none := by
  obtain ⟨_, front, behind, hall, hfront⟩ := exists_append_of_firstMatch h
  exact hfront longer (hext.mem_front hl hall)

theorem find?_candidateOf_ne_none_iff (hn : settings.tripletSegments = 0) :
    (candidateOf settings version (some e) driver).pattern.find? s ≠ none ↔
      Starts settings.style e s driver := by
  rw [Ne, find?_candidateOf_eq_none_iff, not_not, hn]
  rfl

theorem longest_of_firstMatch (hn : settings.tripletSegments = 0)
    (h : firstMatch (candidatesOf settings version (some e)) s = some (driver, m)) :
    Longest settings.style e s driver := by
  obtain ⟨hfind, front, behind, hall, _⟩ := exists_append_of_firstMatch h
  have hd : driver ∈ Driver.all := by simp [hall]
  have hmatch : (candidateOf settings version (some e) driver).pattern.find? s ≠ none := by
    simp [hfind]
  have hstarts := (find?_candidateOf_ne_none_iff hn).mp hmatch
  refine ⟨hd, hstarts, fun other hother hs => ?_⟩
  by_contra hlt
  have hpre := hstarts.name_prefix hs hd hother (by omega)
  have hne : driver.name ≠ other.name := fun he => hlt (he ▸ Nat.le_refl _)
  have hnone := find?_eq_none_of_extends h hother ⟨hpre, hne⟩
  exact (find?_candidateOf_ne_none_iff hn).mpr hs hnone

/-- Without a triplet the driver that is found is the one with the longest name. -/
theorem firstMatch_iff_longest (hn : settings.tripletSegments = 0) :
    (∃ m, firstMatch (candidatesOf settings version (some e)) s = some (driver, m)) ↔
      Longest settings.style e s driver := by
  constructor
  · rintro ⟨m, h⟩
    exact longest_of_firstMatch hn h
  · intro h
    have hsome : firstMatch (candidatesOf settings version (some e)) s ≠ none := by
      rw [Ne, firstMatch_candidatesOf_eq_none_iff, hn]
      exact fun hnone => hnone driver h.known h.starts
    obtain ⟨⟨found, m⟩, hfound⟩ := Option.ne_none_iff_exists'.mp hsome
    obtain rfl := h.unique (longest_of_firstMatch hn hfound)
    exact ⟨m, hfound⟩

theorem plainMethod_ne_version (m : Match) : plainMethod m ≠ .basenameWithVersion := by
  rw [plainMethod]
  split <;> simp

theorem exists_versioned_detection_iff (hs : d.style.lastComponent line.command.toList = s) :
    (∃ det, d.detectCommandLine line = some det ∧ det.method = .basenameWithVersion ∧
        det.driver = driver) ↔
      firstMatch d.plain s = none ∧ ∃ m, firstMatch d.versioned s = some (driver, m) := by
  constructor
  · rintro ⟨det, h, hmethod, rfl⟩
    rcases (detectCommandLine_eq_some_iff hs).mp h with ⟨_, m, _, rfl⟩ | ⟨hmiss, _, m, hm, rfl⟩
    · exact absurd hmethod (plainMethod_ne_version m)
    · exact ⟨hmiss, m, hm⟩
  · rintro ⟨hmiss, m, hm⟩
    exact ⟨_, (detectCommandLine_eq_some_iff hs).mpr (.inr ⟨hmiss, driver, m, hm, rfl⟩), rfl, rfl⟩

theorem compile_eq_candidateOf {e : Option Regex.Expr}
    (h : candidates settings version = .ok (candidatesOf settings version e))
    (hd : driver ∈ Driver.all) :
    BasenamePattern.compile settings.style settings.tripletSegments driver.name version =
      .ok (candidateOf settings version e driver).pattern :=
  (compiled_of_candidates h (List.mem_map_of_mem hd)).2

theorem not_matched_of_extends (hnew : new settings = .ok d)
    (hsuffix : settings.versionSuffix = some pattern) (hmiss : firstMatch d.plain s = none)
    (hm : firstMatch d.versioned s = some (driver, m)) (hl : longer ∈ Driver.all)
    (hext : longer.Extends driver) : ∃ plain versioned,
      BasenamePattern.compile settings.style settings.tripletSegments longer.name none =
        .ok plain ∧
      BasenamePattern.compile settings.style settings.tripletSegments longer.name (some pattern) =
        .ok versioned ∧ plain.find? s = none ∧ versioned.find? s = none := by
  obtain ⟨_, hcplain, _, hpattern⟩ := passes_of_new hnew
  obtain ⟨_, hcversioned⟩ := hpattern pattern hsuffix
  obtain ⟨hplain, hexpr⟩ := expressions_of_new hnew
  obtain ⟨e, _, _, hversioned⟩ := hexpr pattern hsuffix
  rw [hplain] at hcplain hmiss
  rw [hversioned] at hcversioned hm
  have hnone := firstMatch_candidatesOf_eq_none_iff.mp hmiss longer hl
  refine ⟨_, _, compile_eq_candidateOf hcplain hl, compile_eq_candidateOf hcversioned hl, ?_,
    find?_eq_none_of_extends hm hl hext⟩
  exact find?_candidateOf_eq_none_iff.mpr hnone

/-- What is detected in the second pass is no basename of a driver whose name goes on where the name
of the detected one ends. Without a triplet the detected driver is the one with the longest name. -/
theorem longer_name_is_tried_first (hnew : new settings = .ok d)
    (hsuffix : settings.versionSuffix = some pattern) :
    (∀ line det, d.detectCommandLine line = some det → det.method = .basenameWithVersion →
      ∀ longer ∈ Driver.all, longer.Extends det.driver → ∃ plain versioned,
        BasenamePattern.compile settings.style settings.tripletSegments longer.name none =
          .ok plain ∧
        BasenamePattern.compile settings.style settings.tripletSegments longer.name
          (some pattern) = .ok versioned ∧
        plain.find? (settings.style.lastComponent line.command.toList) = none ∧
        versioned.find? (settings.style.lastComponent line.command.toList) = none) ∧
    (settings.tripletSegments = 0 → ∃ e, versionExpr? settings.style pattern = some e ∧
      ∀ line driver, (∃ det, d.detectCommandLine line = some det ∧
          det.method = .basenameWithVersion ∧ det.driver = driver) ↔
        (∀ c ∈ d.plain,
          c.pattern.find? (settings.style.lastComponent line.command.toList) = none) ∧
        Longest settings.style e (settings.style.lastComponent line.command.toList) driver) := by
  obtain ⟨hstyle, _⟩ := passes_of_new hnew
  have hs : ∀ line : CommandLine, d.style.lastComponent line.command.toList =
      settings.style.lastComponent line.command.toList := fun _ => by rw [hstyle]
  constructor
  · intro line det h hmethod longer hl hext
    obtain ⟨hmiss, m, hm⟩ := (exists_versioned_detection_iff (hs line)).mp ⟨det, h, hmethod, rfl⟩
    exact not_matched_of_extends hnew hsuffix hmiss hm hl hext
  · intro hn
    obtain ⟨_, hexpr⟩ := expressions_of_new hnew
    obtain ⟨e, he, _, hversioned⟩ := hexpr pattern hsuffix
    refine ⟨e, he, fun line driver => ?_⟩
    rw [exists_versioned_detection_iff (hs line), firstMatch_eq_none_iff, hversioned,
      firstMatch_iff_longest hn]

theorem longer_name_is_tried_first_clang : ∃ d det, new (anyVersion 0) = .ok d ∧
    d.detectCommandLine ⟨"clang-9", "-c a.c"⟩ = some det ∧ det.driver = .gnuC "clang" ∧
    (∃ plain versioned, BasenamePattern.compile .posix 0 "clang++" none = .ok plain ∧
      BasenamePattern.compile .posix 0 "clang++" (some ".*") = .ok versioned ∧
      plain.find? "clang-9".toList = none ∧ versioned.find? "clang-9".toList = none) ∧
    ∃ e, versionExpr? .posix ".*" = some e ∧
      Longest .posix e "clang-9".toList (.gnuC "clang") := by
  obtain ⟨d, det, hnew, hdet, hchecks⟩ := exists_detection_anyVersion (.inl rfl)
    ⟨"clang-9", "-c a.c"⟩
    (fun det => det.driver = .gnuC "clang" ∧ det.method = .basenameWithVersion) (by decide +kernel)
  obtain ⟨hdriver, hmethod⟩ := of_decide_eq_true hchecks
  obtain ⟨hfirst, hlongest⟩ := longer_name_is_tried_first hnew rfl
  have hext : (Driver.gnuCxx "clang++").Extends det.driver := by
    rw [hdriver]
    exact ⟨by decide, by decide⟩
  obtain ⟨e, he, hiff⟩ := hlongest rfl
  have hclang := ((hiff _ _).mp ⟨det, hdet, hmethod, hdriver⟩).2
  exact ⟨d, det, hnew, hdet, hdriver,
    hfirst _ _ hdet hmethod (.gnuCxx "clang++") (by decide) hext, e, he, hclang⟩

end Detector

end BuildLog
