import BuildLog.Proofs.BasenamePattern.PartWords

/-! Texts that differ in the case of ASCII letters only. Where Windows takes one of them apart into
the parts of a basename, it takes the other apart at the same places. The long s and the sign of
kelvin can stand for letters there too, but they have no other case here. -/

namespace BuildLog

/-- The texts differ in the case of ASCII letters only. -/
def SameLetters (s t : List Char) : Prop :=
  s.map Char.toLower = t.map Char.toLower

/-- A character is its own lower case, unless it is a capital letter of ASCII. -/
theorem toLower_cases (c : Char) : c.toLower = c ∨
    0x41 ≤ c.toNat ∧ c.toNat ≤ 0x5A ∧ c.toLower.toNat = c.toNat + 0x20 := by
  by_cases h : c.val ≥ 'A'.val ∧ c.val ≤ 'Z'.val
  · have hlo : 0x41 ≤ c.toNat := UInt32.le_iff_toNat_le.mp h.1
    have hhi : c.toNat ≤ 0x5A := UInt32.le_iff_toNat_le.mp h.2
    have hlower : c.toLower.toNat = (c.val + 0x20).toNat :=
      congrArg Char.toNat (dif_pos h)
    refine .inr ⟨hlo, hhi, ?_⟩
    rw [hlower, UInt32.toNat_add]
    exact Nat.mod_eq_of_lt (show c.toNat + 0x20 < 2 ^ 32 by omega)
  · exact .inl (dif_neg h)

namespace SameLetters

variable {s t u v : List Char}

theorem symm (h : SameLetters s t) : SameLetters t s :=
  Eq.symm h

theorem eq_nil_iff (h : SameLetters s t) : s = [] ↔ t = [] := by
  rw [← List.map_eq_nil_iff (f := Char.toLower), h, List.map_eq_nil_iff]

theorem dropLast (h : SameLetters s t) : SameLetters s.dropLast t.dropLast := by
  rw [SameLetters, List.map_dropLast, List.map_dropLast, h]

/-- Where one of the texts is cut, the other can be cut. -/
theorem exists_append (h : SameLetters (u ++ v) t) :
    ∃ u' v', t = u' ++ v' ∧ SameLetters u u' ∧ SameLetters v v' := by
  have hmap : t.map Char.toLower = u.map Char.toLower ++ v.map Char.toLower := by
    rw [← List.map_append]
    exact h.symm
  obtain ⟨u', v', ht, hu, hv⟩ := List.map_eq_append_iff.mp hmap
  exact ⟨u', v', ht, hu.symm, hv.symm⟩

end SameLetters

namespace PathStyle

variable {path path' : List Char}

theorem isSeparator_toLower (style : PathStyle) (c : Char) :
    style.isSeparator c.toLower = style.isSeparator c := by
  rcases toLower_cases c with hc | ⟨hlo, hhi, hlower⟩
  · rw [hc]
  · have hno : ∀ x : Char, x.toNat ≠ 0x2F → x.toNat ≠ 0x5C → style.isSeparator x = false := by
      intro x hslash hbackslash
      have hslash' : x ≠ '/' := ne_of_apply_ne Char.toNat hslash
      have hbackslash' : x ≠ '\\' := ne_of_apply_ne Char.toNat hbackslash
      cases style <;> simp [isSeparator, hslash', hbackslash']
    rw [hno c (by omega) (by omega), hno c.toLower (by omega) (by omega)]

theorem lastComponent_map_toLower (style : PathStyle) (path : List Char) :
    style.lastComponent (path.map Char.toLower) = (style.lastComponent path).map Char.toLower := by
  have hsame : (fun c => !style.isSeparator c) ∘ Char.toLower = fun c => !style.isSeparator c := by
    funext c
    rw [Function.comp_apply, isSeparator_toLower]
  rw [lastComponent, lastComponent, ← List.map_reverse, List.takeWhile_map, hsame,
    List.map_reverse]

theorem sameLetters_lastComponent (style : PathStyle) (h : SameLetters path path') :
    SameLetters (style.lastComponent path) (style.lastComponent path') := by
  rw [SameLetters, ← lastComponent_map_toLower, ← lastComponent_map_toLower, h]

/-- Without a backslash both styles separate a path in the same way. -/
theorem lastComponent_windows (h : '\\' ∉ path) :
    windows.lastComponent path = posix.lastComponent path := by
  have htake : ∀ cs : List Char, '\\' ∉ cs →
      cs.takeWhile (fun c => !windows.isSeparator c) =
        cs.takeWhile fun c => !posix.isSeparator c := by
    intro cs hcs
    induction cs with
    | nil => rfl
    | cons c cs ih =>
      rw [List.mem_cons, not_or] at hcs
      have hc : windows.isSeparator c = posix.isSeparator c := by
        simp [isSeparator, Ne.symm hcs.1]
      rw [List.takeWhile_cons, List.takeWhile_cons, hc, ih hcs.2]
  rw [lastComponent, lastComponent, htake _ fun hm => h (List.mem_reverse.mp hm)]

end PathStyle

namespace BasenamePattern

open Regex

variable {style : PathStyle} {n k : Nat} {s t w w' name : List Char} {c d : Char}

theorem foldCase_of_capital {n : Nat} (hlo : 0x41 ≤ n) (hhi : n ≤ 0x5A) :
    foldCase n = n + 0x20 := by
  have hrule : (⟨0x41, 0x5A, 1, 0x61⟩ : FoldRule) ∈ foldRules := by decide +kernel
  have hle : n - 0x41 ≤ (0x5A - 0x41) / 1 := by omega
  have hplace : n = 0x41 + 1 * (n - 0x41) := by omega
  have hfold : foldCase n = 0x61 + (n - 0x41) :=
    foldCase_of_mem hrule (FoldRule.mem_domain.mpr ⟨_, hle, hplace⟩)
  omega

/-- The case of an ASCII letter does not matter on Windows. -/
theorem letter_toLower (c : Char) : letter .windows c.toLower = letter .windows c := by
  rcases toLower_cases c with hc | ⟨hlo, hhi, hlower⟩
  · rw [hc]
  · have hfold : foldCase c.toLower.toNat = c.toLower.toNat :=
      foldCase_of_lt (by omega) (.inr (by omega))
    rw [letter, letter, hfold, hlower, foldCase_of_capital hlo hhi]

theorem SameText.of_sameLetters (h : SameLetters s t) : SameText .windows s t := by
  have hmap : ∀ u : List Char,
      u.map (letter .windows) = (u.map Char.toLower).map (letter .windows) := by
    intro u
    rw [List.map_map]
    exact List.map_congr_left fun c _ => (letter_toLower c).symm
  rw [SameText, hmap s, hmap t, h]

theorem sameText_windows (h : SameText .posix s t) : SameText .windows s t := by
  rw [sameText_posix.mp h, SameText]

theorem isSegmentChar_congr (h : letter style c = letter style d) :
    isSegmentChar style c = isSegmentChar style d := by
  rw [Bool.eq_iff_iff, isSegmentChar_iff, isSegmentChar_iff, h]

theorem IsSegment.congr (h : IsSegment style w) (hw : SameText style w w') :
    IsSegment style w' := by
  obtain ⟨u, hne, hu, rfl⟩ := h
  rw [SameText, List.map_append, List.map_singleton] at hw
  obtain ⟨u', v', rfl, hu', hv'⟩ := List.map_eq_append_iff.mp hw.symm
  obtain ⟨c, rfl, hc⟩ := List.map_eq_singleton_iff.mp hv'
  obtain rfl := letter_hyphen hc
  refine ⟨u', ?_, fun x hx => ?_, rfl⟩
  · rintro rfl
    exact hne (List.map_eq_nil_iff.mp hu'.symm)
  · have hmem : letter style x ∈ u.map (letter style) := hu' ▸ List.mem_map_of_mem hx
    obtain ⟨y, hy, hletter⟩ := List.mem_map.mp hmem
    rw [← isSegmentChar_congr hletter]
    exact hu y hy

theorem IsTriplet.congr (h : IsTriplet style k w) (hw : SameText style w w') :
    IsTriplet style k w' := by
  induction k generalizing w w' with
  | zero =>
    obtain rfl : w = [] := h
    exact List.map_eq_nil_iff.mp hw.symm
  | succ k ih =>
    obtain ⟨u, v, hu, hv, rfl⟩ := h
    rw [SameText, List.map_append] at hw
    obtain ⟨u', v', rfl, hu', hv'⟩ := List.map_eq_append_iff.mp hw.symm
    exact ⟨u', v', hu.congr hu'.symm, ih hv hv'.symm, rfl⟩

theorem isSegment_windows (h : IsSegment .posix w) : IsSegment .windows w := by
  obtain ⟨u, hne, hu, rfl⟩ := h
  exact ⟨u, hne, fun c hc => (isSegmentChar_iff c).mpr ⟨c, hu c hc, rfl⟩, rfl⟩

namespace Basename

variable {b b' : Basename}

/-- The same parts, but for the case of ASCII letters. -/
structure SameParts (b b' : Basename) : Prop where
  target : SameLetters b.target b'.target
  name : SameLetters b.name b'.name
  version : SameLetters b.version b'.version
  extension : SameLetters b.extension b'.extension

theorem exists_sameParts (h : SameLetters b.text s) :
    ∃ b' : Basename, b'.text = s ∧ b.SameParts b' := by
  obtain ⟨target, rest, rfl, htarget, hrest⟩ := h.exists_append
  obtain ⟨name, rest, rfl, hname, hrest⟩ := hrest.exists_append
  obtain ⟨version, extension, rfl, hversion, hextension⟩ := hrest.exists_append
  exact ⟨⟨target, name, version, extension⟩, rfl, htarget, hname, hversion, hextension⟩

theorem Fits.congr (h : b.Fits .windows n name none) (hb : b.SameParts b') :
    b'.Fits .windows n name none := by
  obtain ⟨k, hk, htriplet⟩ := h.target
  have hversion : b.version = [] := h.version
  have hname := SameText.of_sameLetters hb.name.symm
  refine ⟨⟨k, hk, htriplet.congr (.of_sameLetters hb.target)⟩, hname.trans h.name,
    hb.version.eq_nil_iff.mp hversion, ?_⟩
  rcases h.extension with hext | hext
  · exact .inl (hb.extension.eq_nil_iff.mp hext)
  · exact .inr ((SameText.of_sameLetters hb.extension.symm).trans hext)

theorem Fits.windows (h : b.Fits .posix n name none) : b.Fits .windows n name none := by
  obtain ⟨k, hk, htriplet⟩ := h.target
  exact ⟨⟨k, hk, htriplet.imp fun _ => isSegment_windows⟩, sameText_windows h.name, h.version,
    h.extension.imp_right sameText_windows⟩

end Basename

end BasenamePattern

end BuildLog
