import BuildLog.Proofs.BasenamePattern.PartWords
import BuildLog.Proofs.Regex.Preference

/-! What the expression of a basename matches, and which match it prefers. -/

namespace BuildLog.BasenamePattern

open Regex

variable {style : PathStyle} {n : Nat} {name s : List Char} {version : Option Expr} {a : Arrival}

theorem exists_append_drop {i j : Nat} (hij : i ≤ j) (hj : j ≤ s.length) :
    ∃ v, s.drop i = v ++ s.drop j ∧ i + v.length = j := by
  have hdrop := List.drop_drop (i := j - i) (j := i) (l := s)
  rw [show i + (j - i) = j by omega] at hdrop
  refine ⟨(s.drop i).take (j - i), ?_, ?_⟩
  · rw [← hdrop, List.take_append_drop]
  · rw [List.length_take, List.length_drop]
    omega

theorem reaches_textEnd {i : Nat} :
    (Expr.look .textEnd).Reaches s.toArray i a ↔ s.length ≤ i ∧ a = ⟨i, []⟩ := by
  simp [Expr.Reaches, Look.holds]

/-- The extension and the anchor behind it take all that is left of a text. -/
theorem reaches_end {i : Nat} (hi : i ≤ s.length) :
    (Expr.chain [extensionExpr style, .look .textEnd]).Reaches s.toArray i a ↔
      (s.drop i = [] ∨ SameText style (s.drop i) exe) ∧
        a = ⟨s.length, if s.drop i = [] then [] else [⟨extensionGroup, i, s.length⟩]⟩ := by
  have hlen := List.length_drop (i := i) (l := s)
  constructor
  · intro h
    obtain ⟨b, c, hb, hc, rfl⟩ := h
    obtain ⟨w, hw, hp, rfl⟩ := reaches_extension.mp hb
    obtain ⟨hle, rfl⟩ := reaches_textEnd.mp hc
    have hwl : s.length ≤ i + w.length := hle
    obtain rfl : w = s.drop i := hp.eq_of_length_le (by omega)
    have hstop : i + (s.drop i).length = s.length := by omega
    refine ⟨hw, ?_⟩
    rw [hstop]
    rfl
  · intro h
    obtain ⟨hw, rfl⟩ := h
    have hstop : i + (s.drop i).length = s.length := by omega
    refine ⟨_, ⟨s.length, []⟩, reaches_extension.mpr ⟨_, hw, List.prefix_rfl, rfl⟩, ?_, ?_⟩
    · rw [hstop]
      exact reaches_textEnd.mpr ⟨Nat.le_refl _, rfl⟩
    · rw [hstop]
      rfl

/-- What follows the target goes to the end of the text. -/
theorem reaches_rest {i : Nat} (hi : i ≤ s.length) :
    (Expr.chain (restExprs style name version)).Reaches s.toArray i a ↔
      ∃ u v w groups, s.drop i = u ++ (v ++ w) ∧ SameText style u name ∧
        (Expr.chain (versionExprs version)).Reaches s.toArray (i + u.length)
          ⟨i + u.length + v.length, groups⟩ ∧
        (w = [] ∨ SameText style w exe) ∧
        a = ⟨s.length, (if w = [] then [] else
          [⟨extensionGroup, i + u.length + v.length, s.length⟩]) ++ groups⟩ := by
  rw [restExprs, Expr.reaches_chain_append]
  constructor
  · intro h
    obtain ⟨b, c, hb, hc, rfl⟩ := h
    obtain ⟨u, hu, hup, rfl⟩ := (takes_text style name s i b).mp hb
    obtain ⟨d, e, hd, he, rfl⟩ := Expr.reaches_chain_append.mp hc
    have hul := hup.length_le
    rw [List.length_drop] at hul
    have hin : i + u.length ≤ s.toArray.size := by
      rw [List.size_toArray]
      omega
    obtain ⟨hle, hds⟩ := Expr.forward s.toArray _ (i + u.length) hin d hd
    rw [List.size_toArray] at hds
    obtain ⟨hw, rfl⟩ := (reaches_end hds).mp he
    obtain ⟨r, hr⟩ := hup
    have hrest : r = s.drop (i + u.length) := by
      rw [← List.drop_drop, ← hr, List.drop_left]
    obtain ⟨v, hcut, hstop⟩ := exists_append_drop hle hds
    rw [← hrest] at hcut
    refine ⟨u, v, s.drop d.stop, d.groups, by rw [← hcut, hr], hu, ?_, hw, ?_⟩
    · rw [hstop]
      exact hd
    · rw [hstop]
      simp [Arrival.after]
  · intro h
    obtain ⟨u, v, w, groups, hs, hu, hv, hw, rfl⟩ := h
    have hlen := congrArg List.length hs
    simp only [List.length_drop, List.length_append] at hlen
    have hdrop : s.drop (i + u.length + v.length) = w := by
      rw [← List.drop_drop, ← List.drop_drop, hs, List.drop_left, List.drop_left]
    have htext := (takes_text style name s i _).mpr ⟨u, hu, ⟨_, hs.symm⟩, rfl⟩
    have hend : (Expr.chain [extensionExpr style, .look .textEnd]).Reaches s.toArray
        (i + u.length + v.length) ⟨s.length, if w = [] then [] else
          [⟨extensionGroup, i + u.length + v.length, s.length⟩]⟩ := by
      refine (reaches_end (by omega)).mpr ?_
      rw [hdrop]
      exact ⟨hw, rfl⟩
    refine ⟨_, _, htext, Expr.reaches_chain_append.mpr ⟨_, _, hv, hend, rfl⟩, ?_⟩
    simp [Arrival.after]

namespace Basename

variable {b : Basename} {groups : List GroupSpan}

def targetSpans (b : Basename) : List GroupSpan :=
  if b.target = [] then [] else [⟨targetGroup, 0, b.target.length⟩]

def extensionSpans (b : Basename) : List GroupSpan :=
  if b.extension = [] then [] else [⟨extensionGroup, b.versionEnd, b.text.length⟩]

/-- The groups with which the version matches at its place. -/
def VersionGroups (version : Option Expr) (b : Basename) (groups : List GroupSpan) : Prop :=
  (Expr.chain (versionExprs version)).Reaches b.text.toArray b.nameEnd ⟨b.versionEnd, groups⟩

theorem versionGroups_some {e : Expr} : b.VersionGroups (some e) groups ↔
    ∃ inner, e.Reaches b.text.toArray b.nameEnd ⟨b.versionEnd, inner⟩ ∧
      groups = ⟨versionGroup, b.nameEnd, b.versionEnd⟩ :: inner := by
  constructor
  · intro h
    obtain ⟨⟨stop, inner⟩, he, h⟩ := h
    cases h
    exact ⟨inner, he, rfl⟩
  · intro h
    obtain ⟨inner, he, rfl⟩ := h
    exact ⟨_, he, rfl⟩

theorem versionGroups_none : b.VersionGroups none groups ↔ b.version = [] ∧ groups = [] := by
  have hiff : b.VersionGroups none groups ↔
      (⟨b.versionEnd, groups⟩ : Arrival) = ⟨b.nameEnd, []⟩ := Iff.rfl
  rw [hiff, Arrival.mk.injEq, versionEnd]
  refine and_congr_left' ?_
  rw [← List.length_eq_zero_iff]
  omega

theorem versionFits_iff : b.VersionFits version ↔ ∃ groups, b.VersionGroups version groups := by
  cases version with
  | none =>
    simp only [versionGroups_none]
    exact ⟨fun h => ⟨[], h, rfl⟩, fun ⟨_, h, _⟩ => h⟩
  | some e =>
    simp only [versionGroups_some]
    exact ⟨fun ⟨inner, h⟩ => ⟨_, inner, h, rfl⟩, fun ⟨_, inner, h, _⟩ => ⟨inner, h⟩⟩

theorem length_text (b : Basename) : b.text.length = b.versionEnd + b.extension.length := by
  simp [text, versionEnd, nameEnd, Nat.add_assoc]

theorem Fits.reaches_target (hb : b.Fits style n name version) :
    (Expr.chain (targetExprs style n)).Reaches b.text.toArray 0
      ⟨b.target.length, b.targetSpans⟩ := by
  refine BasenamePattern.reaches_target.mpr ⟨b.target, hb.target, ⟨_, rfl⟩, ?_⟩
  rw [targetSpans, Nat.zero_add]

theorem reaches_rest (hname : SameText style b.name name)
    (hext : b.extension = [] ∨ SameText style b.extension exe)
    (hv : b.VersionGroups version groups) :
    (Expr.chain (restExprs style name version)).Reaches b.text.toArray b.target.length
      ⟨b.text.length, b.extensionSpans ++ groups⟩ := by
  have hlen := b.length_text
  have hi : b.target.length ≤ b.text.length := by
    rw [hlen, versionEnd, nameEnd]
    omega
  refine (BasenamePattern.reaches_rest hi).mpr ⟨b.name, b.version, b.extension, groups, ?_, hname,
    hv, hext, rfl⟩
  rw [text, List.drop_left]

end Basename

/-- A triplet and what follows it make up a basename. -/
theorem exists_of_reaches_rest {p : List Char} (hp : p <+: s) (hk : ∃ k ≤ n, IsTriplet style k p)
    (h : (Expr.chain (restExprs style name version)).Reaches s.toArray p.length a) :
    ∃ (b : Basename) (groups : List GroupSpan), b.text = s ∧ b.target = p ∧
      b.Fits style n name version ∧ b.VersionGroups version groups ∧
      a = ⟨s.length, b.extensionSpans ++ groups⟩ := by
  obtain ⟨u, v, w, groups, hs, hu, hv, hw, rfl⟩ := (reaches_rest hp.length_le).mp h
  have htext : (Basename.mk p u v w).text = s := by
    obtain ⟨r, hr⟩ := hp
    rw [← hr, List.drop_left] at hs
    rw [Basename.text, ← hr, hs]
  have hgroups : (Basename.mk p u v w).VersionGroups version groups := by
    rw [Basename.VersionGroups, htext]
    exact hv
  refine ⟨⟨p, u, v, w⟩, groups, htext, rfl, ⟨hk, hu, ?_, hw⟩, hgroups, ?_⟩
  · exact Basename.versionFits_iff.mpr ⟨groups, hgroups⟩
  · rw [Basename.extensionSpans, htext]
    rfl

/-- The text of a pattern for which `style`, `n`, `name` and `version` were given has a match if and
only if it is a basename that fits them. -/
theorem exists_reaches_iff :
    (∃ a, (Expr.chain (targetExprs style n ++ restExprs style name version)).Reaches
      s.toArray 0 a) ↔ ∃ b : Basename, b.text = s ∧ b.Fits style n name version := by
  constructor
  · intro h
    obtain ⟨a, h⟩ := h
    obtain ⟨b, c, hb, hc, rfl⟩ := Expr.reaches_chain_append.mp h
    obtain ⟨p, hk, hp, rfl⟩ := reaches_target.mp hb
    rw [Nat.zero_add] at hc
    obtain ⟨b, _, hs, _, hfits, _⟩ := exists_of_reaches_rest hp hk hc
    exact ⟨b, hs, hfits⟩
  · intro h
    obtain ⟨b, rfl, hfits⟩ := h
    obtain ⟨groups, hv⟩ := Basename.versionFits_iff.mp hfits.version
    exact ⟨_, Expr.reaches_chain_append.mpr
      ⟨_, _, hfits.reaches_target, Basename.reaches_rest hfits.name hfits.extension hv, rfl⟩⟩

end BuildLog.BasenamePattern
