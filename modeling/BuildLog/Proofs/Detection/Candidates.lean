import BuildLog.Proofs.BasenamePattern.Exclusion
import BuildLog.Proofs.Detection.Passes

/-! The candidates among which a detector looks for the first that matches. Where no two of them
match, that is the one that matches, whatever their order. -/

namespace BuildLog

namespace Detector

open BasenamePattern

variable {settings : DetectionSettings} {version : Option String} {cs cs' : List Candidate}
  {c c' : Candidate} {s : List Char} {driver : Driver} {m : Match}

theorem Compiled.eq_of_driver (h : Compiled settings version c) (h' : Compiled settings version c')
    (hd : c.driver = c'.driver) : c = c' := by
  have hpattern := h.2
  rw [hd, h'.2] at hpattern
  cases c
  cases c'
  simp_all

/-- No two candidates of a list match a text. -/
def Exclusive (cs : List Candidate) (s : List Char) : Prop :=
  ∀ c ∈ cs, ∀ c' ∈ cs, (c.pattern.find? s).isSome = true → (c'.pattern.find? s).isSome = true →
    c = c'

theorem isSome_firstMatch (hc : c ∈ cs) (hm : (c.pattern.find? s).isSome = true) :
    (firstMatch cs s).isSome = true := by
  rw [firstMatch, List.findSome?_isSome_iff]
  exact ⟨c, hc, by simpa using hm⟩

theorem firstMatch_eq_some_iff (h : Exclusive cs s) : firstMatch cs s = some (driver, m) ↔
    ∃ c ∈ cs, c.driver = driver ∧ c.pattern.find? s = some m := by
  constructor
  · exact exists_of_firstMatch
  · intro hex
    obtain ⟨c, hc, rfl, hm⟩ := hex
    have hmatch : (c.pattern.find? s).isSome = true := by simp [hm]
    obtain ⟨⟨driver', m'⟩, hfirst⟩ := Option.isSome_iff_exists.mp (isSome_firstMatch hc hmatch)
    obtain ⟨c', hc', rfl, hm'⟩ := exists_of_firstMatch hfirst
    obtain rfl : c = c' := h c hc c' hc' hmatch (by simp [hm'])
    rw [hm] at hm'
    rw [hfirst, Option.some.inj hm']

theorem Exclusive.find?_eq_none (h : Exclusive cs s) (hfirst : firstMatch cs s = some (driver, m))
    (hc : c ∈ cs) (hne : c.driver ≠ driver) : c.pattern.find? s = none := by
  obtain ⟨c', hc', hdriver, hm⟩ := exists_of_firstMatch hfirst
  cases hfind : c.pattern.find? s with
  | none => rfl
  | some m' =>
    have hsame : c = c' := h c hc c' hc' (by simp [hfind]) (by simp [hm])
    exact absurd (hsame ▸ hdriver) hne

theorem firstMatch_perm (h : Exclusive cs s) (hp : cs.Perm cs') :
    firstMatch cs s = firstMatch cs' s := by
  have h' : Exclusive cs' s := fun c hc c' hc' =>
    h c (hp.mem_iff.mpr hc) c' (hp.mem_iff.mpr hc')
  apply Option.ext
  intro found
  obtain ⟨driver, m⟩ := found
  rw [firstMatch_eq_some_iff h, firstMatch_eq_some_iff h']
  simp only [hp.mem_iff]

theorem firstMatch_eq_none_iff :
    firstMatch cs s = none ↔ ∀ c ∈ cs, c.pattern.find? s = none := by
  rw [firstMatch, List.findSome?_eq_none_iff]
  simp

theorem firstMatch_eq_none (h : ∀ c ∈ cs, c.pattern.find? s = none) : firstMatch cs s = none :=
  firstMatch_eq_none_iff.mpr h

section

variable {b : Basename} {line : CommandLine} {method : MatchMethod}

/-- The target of a basename without the hyphen at its end. -/
def targetText (b : Basename) : Option String :=
  if b.target = [] then none else some (String.ofList b.target.dropLast)

theorem targetOf_eq_targetText {style : PathStyle} {k : Nat} (hk : IsTriplet style k b.target)
    (hspan : m.group? targetGroup = b.targetSpan) : targetOf m b.text = targetText b := by
  by_cases hnil : b.target = []
  · rw [targetOf_eq_none hspan hnil, targetText, if_pos hnil]
  · have hk0 : k ≠ 0 := fun h0 => hnil (hk.eq_nil_iff.mpr h0)
    obtain ⟨t, ht, hcut⟩ := targetOf_eq hspan hk hk0
    rw [ht, targetText, if_neg hnil, hcut, List.dropLast_concat, String.ofList_toList]

theorem detection_eq {style : PathStyle} {k : Nat} (hk : IsTriplet style k b.target)
    (htarget : m.group? targetGroup = b.targetSpan)
    (hext : m.group? extensionGroup = b.extensionSpan) :
    detection line b.text method driver m =
      { driver, commandLine := line, method, target := targetText b
        version := versionOf m b.text, hasExtension := decide (b.extension ≠ []) } := by
  have hsome : b.extensionSpan.isSome = decide (b.extension ≠ []) := by
    by_cases h : b.extension = []
    · simp [Basename.extensionSpan, h]
    · simp [Basename.extensionSpan, h]
  rw [detection, targetOf_eq_targetText hk htarget, hext, hsome]

theorem plainMethod_eq (htarget : m.group? targetGroup = b.targetSpan) :
    plainMethod m = if b.target = [] then .basenameExact else .targetTripletPrefixed := by
  by_cases h : b.target = []
  · simp [plainMethod, htarget, Basename.targetSpan, h]
  · simp [plainMethod, htarget, Basename.targetSpan, h]

end

end Detector

end BuildLog
