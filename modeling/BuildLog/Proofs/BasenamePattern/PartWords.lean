import BuildLog.Proofs.BasenamePattern.Shape

/-! The words that the parts of the pattern of a basename take. -/

namespace BuildLog.BasenamePattern

open Regex

variable {style : PathStyle} {n : Nat}

theorem char_eq_iff {c d : Char} : c = d ↔ c.toNat = d.toNat :=
  ⟨congrArg Char.toNat, fun h => Char.ext (UInt32.toNat_inj.mp h)⟩

theorem isAlphanum_iff (c : Char) : c.isAlphanum = true ↔ (65 ≤ c.toNat ∧ c.toNat ≤ 90) ∨
    (97 ≤ c.toNat ∧ c.toNat ≤ 122) ∨ (48 ≤ c.toNat ∧ c.toNat ≤ 57) := by
  have hrange (lo hi : Char) : (decide (c.val ≥ lo.val) && decide (c.val ≤ hi.val)) = true ↔
      lo.toNat ≤ c.toNat ∧ c.toNat ≤ hi.toNat := by
    rw [Bool.and_eq_true, decide_eq_true_eq, decide_eq_true_eq]
    exact and_congr UInt32.le_iff_toNat_le UInt32.le_iff_toNat_le
  have hupper : c.isUpper = true ↔ 65 ≤ c.toNat ∧ c.toNat ≤ 90 :=
    decide_eq_true_iff.trans (and_congr UInt32.le_iff_toNat_le UInt32.le_iff_toNat_le)
  have h := or_congr (or_congr hupper (hrange 'a' 'z')) (hrange '0' '9')
  rw [← Bool.or_eq_true, ← Bool.or_eq_true, or_assoc] at h
  exact h

theorem contains_segment (style : PathStyle) (c : Char) :
    ((flags style).close segmentSet).contains c = true ↔ isSegmentChar style c = true := by
  cases style with
  | posix =>
    have hset : (flags .posix).close segmentSet = segmentSet := rfl
    rw [hset]
    simp [isSegmentChar, CharSet.contains, CharSet.hasCode, segmentSet, CharSet.union,
      CharSet.ofRange, CharSet.single, CharRange.contains, isAlphanum_iff, char_eq_iff]
    omega
  | windows =>
    have hset : (flags .windows).close segmentSet = ⟨[⟨46, 46⟩, ⟨48, 57⟩, ⟨65, 90⟩, ⟨95, 95⟩,
      ⟨97, 122⟩, ⟨383, 383⟩, ⟨8490, 8490⟩]⟩ := by decide +kernel
    rw [hset]
    simp [isSegmentChar, CharSet.contains, CharSet.hasCode, CharRange.contains, isAlphanum_iff,
      char_eq_iff]
    omega

theorem contains_char (style : PathStyle) (c d : Char) :
    ((flags style).close (.single c)).contains d = true ↔ letter style d = letter style c := by
  cases style with
  | posix => exact (CharSet.contains_single c d).trans char_eq_iff
  | windows =>
    have hsingle : ∀ m, (CharSet.single c).hasCode m = true ↔ m = c.toNat := by
      intro m
      simp [CharSet.hasCode, CharSet.single, CharSet.ofRange, CharRange.contains]
      omega
    refine (CharSet.contains_caseClosure (.single c) d).trans ?_
    constructor
    · intro h
      obtain ⟨m, hm, he⟩ := h
      rw [(hsingle m).mp hm] at he
      exact he.symm
    · intro h
      exact ⟨c.toNat, (hsingle _).mpr rfl, h.symm⟩

/-- A segment takes what is the same as one of the characters written in it. -/
theorem isSegmentChar_iff (c : Char) : isSegmentChar style c = true ↔
    ∃ d, isSegmentChar .posix d = true ∧ letter style c = letter style d := by
  cases style with
  | posix =>
    constructor
    · intro h
      exact ⟨c, h, rfl⟩
    · intro h
      obtain ⟨d, hd, he⟩ := h
      rwa [char_eq_iff.mpr he]
  | windows =>
    have hset : (flags .windows).close segmentSet = segmentSet.caseClosure := rfl
    rw [← contains_segment, hset, CharSet.contains_caseClosure]
    constructor
    · intro h
      obtain ⟨m, hm, he⟩ := h
      have hlt : m < 0xD800 := by
        simp [CharSet.hasCode, segmentSet, CharSet.union, CharSet.ofRange, CharSet.single,
          CharRange.contains] at hm
        omega
      have hcode : (Char.ofNat m).toNat = m := by
        rw [Char.ofNat, dif_pos (.inl hlt)]
        rfl
      refine ⟨Char.ofNat m, (contains_segment .posix _).mp ?_, ?_⟩
      · exact (congrArg segmentSet.hasCode hcode).trans hm
      · exact (he.symm.trans (congrArg foldCase hcode.symm) :)
    · intro h
      obtain ⟨d, hd, he⟩ := h
      exact ⟨d.toNat, (contains_segment .posix d).mpr hd, he.symm⟩

theorem takes_char (style : PathStyle) (c : Char) :
    (charExpr style c).Takes fun w => SameText style w [c] := by
  refine (Expr.takes_set _).congr fun w => ?_
  constructor
  · intro h
    obtain ⟨d, hd, rfl⟩ := h
    exact congrArg (fun m => [m]) ((contains_char style c d).mp hd)
  · intro h
    obtain ⟨d, rfl⟩ := List.length_eq_one_iff.mp h.length
    exact ⟨d, (contains_char style c d).mpr (sameText_cons.mp h).1, rfl⟩

theorem takes_text (style : PathStyle) (t : List Char) :
    (Expr.chain (t.map (charExpr style))).Takes fun w => SameText style w t := by
  induction t with
  | nil => exact Expr.takes_empty.congr fun w => List.map_eq_nil_iff.symm
  | cons c t ih =>
    refine ((takes_char style c).chain_cons ih).congr fun w => ?_
    constructor
    · intro h
      obtain ⟨u, v, hu, hv, rfl⟩ := h
      obtain ⟨d, rfl⟩ := List.length_eq_one_iff.mp hu.length
      exact sameText_cons.mpr ⟨(sameText_cons.mp hu).1, hv⟩
    · intro h
      cases w with
      | nil => cases h
      | cons d v =>
        obtain ⟨hd, hv⟩ := sameText_cons.mp h
        exact ⟨[d], v, sameText_cons.mpr ⟨hd, rfl⟩, hv, rfl⟩

theorem takes_segment (style : PathStyle) : (segmentExpr style).Takes (IsSegment style) := by
  have hchars := Expr.takes_oneOrMore ((flags style).close segmentSet)
  refine (hchars.seq (takes_char style '-')).congr fun w => ?_
  simp only [contains_segment]
  constructor
  · intro h
    obtain ⟨u, v, ⟨hne, hu⟩, hv, rfl⟩ := h
    obtain ⟨d, rfl⟩ := List.length_eq_one_iff.mp hv.length
    obtain rfl := letter_hyphen (sameText_cons.mp hv).1
    exact ⟨u, hne, hu, rfl⟩
  · intro h
    obtain ⟨u, hne, hu, rfl⟩ := h
    exact ⟨u, ['-'], ⟨hne, hu⟩, rfl, rfl⟩

/-- A repeated segment takes the triplets of at most so many segments. -/
theorem takes_segments (style : PathStyle) (hn : n ≠ 0) :
    ((segmentExpr style).repeated 1 (some n) true).Takes fun w =>
      ∃ k ≤ n, k ≠ 0 ∧ IsTriplet style k w := by
  have hmax : (some n : Option Nat) ≠ some 0 := by simpa using hn
  have hrep := (takes_segment style).rep 1 (some n) true
  intro text i a
  rw [Expr.reaches_repeated (isEmptyOnly_segmentExpr style) hmax true]
  refine (hrep.congr fun w => ?_) text i a
  constructor
  · intro h
    obtain ⟨k, hk, hw⟩ := h
    have hle := hk n rfl
    exact ⟨1 + k, by omega, by omega, hw⟩
  · intro h
    obtain ⟨k, hk, hk0, hw⟩ := h
    refine ⟨k - 1, fun m hm => ?_, ?_⟩
    · obtain rfl := Option.some.inj hm
      omega
    · rw [show 1 + (k - 1) = k by omega]
      exact hw

/-- The target takes part in a match if it took a triplet, and then stands for it. -/
theorem reaches_target {text : List Char} {i : Nat} {a : Arrival} :
    (Expr.chain (targetExprs style n)).Reaches text.toArray i a ↔
      ∃ w, (∃ k ≤ n, IsTriplet style k w) ∧ w <+: text.drop i ∧
        a = ⟨i + w.length, if w = [] then [] else [⟨targetGroup, i, i + w.length⟩]⟩ := by
  by_cases hn : n = 0
  · subst hn
    constructor
    · intro h
      obtain rfl : a = ⟨i, []⟩ := h
      exact ⟨[], ⟨0, Nat.le_refl 0, rfl⟩, List.nil_prefix, rfl⟩
    · intro h
      obtain ⟨w, ⟨k, hk, hw⟩, _, rfl⟩ := h
      obtain rfl := hw.eq_nil_iff.mpr (Nat.le_zero.mp hk)
      rfl
  · have hne : ¬ ∃ k ≤ n, k ≠ 0 ∧ IsTriplet style k [] := by
      intro h
      obtain ⟨k, _, hk0, hk⟩ := h
      exact hk0 (hk.eq_nil_iff.mp rfl)
    rw [targetExprs, if_neg hn]
    refine ((takes_segments style hn).optional hne targetGroup text i a).trans ?_
    constructor
    · intro h
      obtain ⟨w, hw, h⟩ := h
      refine ⟨w, ?_, h⟩
      rcases hw with rfl | ⟨k, hk, _, hw⟩
      · exact ⟨0, Nat.zero_le n, rfl⟩
      · exact ⟨k, hk, hw⟩
    · intro h
      obtain ⟨w, ⟨k, hk, hw⟩, h⟩ := h
      refine ⟨w, ?_, h⟩
      by_cases hk0 : k = 0
      · exact .inl (hw.eq_nil_iff.mpr hk0)
      · exact .inr ⟨k, hk, hk0, hw⟩

theorem reaches_extension {text : List Char} {i : Nat} {a : Arrival} :
    (extensionExpr style).Reaches text.toArray i a ↔
      ∃ w, (w = [] ∨ SameText style w exe) ∧ w <+: text.drop i ∧
        a = ⟨i + w.length, if w = [] then [] else [⟨extensionGroup, i, i + w.length⟩]⟩ :=
  (takes_text style exe).optional (fun h => nomatch h) extensionGroup text i a

end BuildLog.BasenamePattern
