import BuildLog.PathStyle
import BuildLog.Proofs.Regex.CaseFolding
import BuildLog.Proofs.Regex.Words

/-! The basenames that a driver can have, said without patterns: a target triplet, the name, a
version and the extension, one behind the other. -/

namespace BuildLog.BasenamePattern

open Regex

/-- The characters of a segment. Where case is disregarded the long s and the sign of kelvin are
among the letters. -/
def isSegmentChar (style : PathStyle) (c : Char) : Bool :=
  c.isAlphanum || c == '_' || c == '.' ||
    (style == .windows && (c == '\u017F' || c == '\u212A'))

/-- One or more such characters and a hyphen. -/
def IsSegment (style : PathStyle) (w : List Char) : Prop :=
  ∃ u, u ≠ [] ∧ (∀ c ∈ u, isSegmentChar style c = true) ∧ w = u ++ ['-']

/-- So many segments, one behind the other. -/
def IsTriplet (style : PathStyle) (k : Nat) (w : List Char) : Prop :=
  Repeated (IsSegment style) k w

/-- What two characters have in common that are the same in a basename: Windows disregards case. -/
def letter : PathStyle → Char → Nat
  | .posix, c => c.toNat
  | .windows, c => foldCase c.toNat

/-- Two texts that are the same character by character. -/
def SameText (style : PathStyle) (s t : List Char) : Prop :=
  s.map (letter style) = t.map (letter style)

def exe : List Char :=
  ['.', 'e', 'x', 'e']

/-- The parts of a basename. The hyphen behind the triplet belongs to the target. -/
structure Basename where
  target : List Char
  name : List Char
  version : List Char
  extension : List Char
  deriving DecidableEq, Repr

namespace Basename

def text (b : Basename) : List Char :=
  b.target ++ (b.name ++ (b.version ++ b.extension))

def nameEnd (b : Basename) : Nat :=
  b.target.length + b.name.length

def versionEnd (b : Basename) : Nat :=
  b.nameEnd + b.version.length

/-- A version pattern matches at its place in the whole text; without one there is no version. -/
def VersionFits (version : Option Expr) (b : Basename) : Prop :=
  match version with
  | none => b.version = []
  | some e => e.Spans b.text.toArray b.nameEnd b.versionEnd

/-- The basename is one of the driver with a name: behind at most `n` segments stands the name, then
the version and maybe the extension. -/
structure Fits (style : PathStyle) (n : Nat) (name : List Char) (version : Option Expr)
    (b : Basename) : Prop where
  target : ∃ k ≤ n, IsTriplet style k b.target
  name : SameText style b.name name
  version : b.VersionFits version
  extension : b.extension = [] ∨ SameText style b.extension exe

end Basename

variable {style : PathStyle} {s t w name : List Char} {k : Nat}

theorem sameText_posix : SameText .posix s t ↔ s = t := by
  have hinj : ∀ c d : Char, c.toNat = d.toNat → c = d := fun c d h =>
    Char.ext (UInt32.toNat_inj.mp h)
  exact List.map_inj_right hinj

theorem SameText.length (h : SameText style s t) : s.length = t.length := by
  simpa using congrArg List.length h

theorem sameText_cons {c d : Char} :
    SameText style (c :: s) (d :: t) ↔ letter style c = letter style d ∧ SameText style s t := by
  simp [SameText]

/-- A character that has no other case is the same as itself only. -/
theorem eq_of_letter_eq {c d : Char} (hcase : (CharSet.single c).caseClosure = .single c)
    (h : letter style d = letter style c) : d = c := by
  cases style with
  | posix => exact Char.ext (UInt32.toNat_inj.mp h)
  | windows =>
    have hmem := (CharSet.contains_caseClosure (.single c) d).mpr
      ⟨c.toNat, by simp [CharSet.hasCode, CharSet.single, CharSet.ofRange, CharRange.contains],
        h.symm⟩
    rw [hcase] at hmem
    exact (CharSet.contains_single c d).mp hmem

theorem letter_hyphen {c : Char} (h : letter style c = letter style '-') : c = '-' :=
  eq_of_letter_eq (by decide +kernel) h

theorem letter_dot {c : Char} (h : letter style c = letter style '.') : c = '.' :=
  eq_of_letter_eq (by decide +kernel) h

theorem isSegmentChar_hyphen (style : PathStyle) : isSegmentChar style '-' = false := by
  cases style <;> decide

theorem isSegmentChar_ne_hyphen {c : Char} (h : isSegmentChar style c = true) : c ≠ '-' := by
  intro h
  subst h
  rw [isSegmentChar_hyphen] at h
  cases h

theorem IsSegment.count_hyphen (h : IsSegment style w) : w.count '-' = 1 := by
  obtain ⟨u, _, hu, rfl⟩ := h
  have hn : '-' ∉ u := fun hm => isSegmentChar_ne_hyphen (hu '-' hm) rfl
  rw [List.count_append, List.count_eq_zero_of_not_mem hn]
  rfl

theorem IsTriplet.count_hyphen (h : IsTriplet style k w) : w.count '-' = k := by
  induction k generalizing w with
  | zero =>
    obtain rfl : w = [] := h
    rfl
  | succ k ih =>
    obtain ⟨u, v, hu, hv, rfl⟩ := h
    rw [List.count_append, hu.count_hyphen, ih hv, Nat.add_comm]

theorem IsTriplet.eq_nil_iff (h : IsTriplet style k w) : w = [] ↔ k = 0 := by
  constructor
  · intro h
    subst h
    exact h.count_hyphen.symm
  · intro h
    subst h
    exact h

theorem IsTriplet.le_of_prefix {v : List Char} {l : Nat} (h : IsTriplet style k w)
    (hv : IsTriplet style l v) (hp : v <+: w) : l ≤ k := by
  rw [← h.count_hyphen, ← hv.count_hyphen]
  exact hp.sublist.count_le '-'

theorem IsTriplet.exists_append_hyphen (h : IsTriplet style k w) (hk : k ≠ 0) :
    ∃ u c, c ≠ '-' ∧ w = u ++ [c, '-'] := by
  induction k generalizing w with
  | zero => exact absurd rfl hk
  | succ k ih =>
    obtain ⟨u, v, ⟨u', hne, hu, rfl⟩, hv, rfl⟩ := h
    by_cases h0 : k = 0
    · subst h0
      obtain rfl : v = [] := hv
      obtain ⟨x, c, rfl⟩ : ∃ x c, u' = x ++ [c] :=
        ⟨_, _, (List.dropLast_concat_getLast hne).symm⟩
      refine ⟨x, c, isSegmentChar_ne_hyphen (hu c (by simp)), by simp⟩
    · obtain ⟨v', c, hc, rfl⟩ := ih hv h0
      exact ⟨u' ++ ['-'] ++ v', c, hc, (List.append_assoc _ v' _).symm⟩

theorem IsTriplet.hyphen_mem_of_append {u : List Char} (h : IsTriplet style k (u ++ w))
    (hw : w ≠ []) : '-' ∈ w := by
  have hk : k ≠ 0 := by
    intro h0
    have hnil := h.eq_nil_iff.mpr h0
    exact hw (List.append_eq_nil_iff.mp hnil).2
  obtain ⟨v, c, _, hv⟩ := h.exists_append_hyphen hk
  have hlast : (u ++ w).getLast? = some '-' := by
    rw [hv]
    simp
  rw [List.getLast?_append, List.getLast?_eq_some_getLast hw, Option.some_or] at hlast
  exact Option.some.inj hlast ▸ List.getLast_mem hw

/-- A triplet is its segments with hyphens between them and one behind. -/
theorem IsTriplet.exists_segments (h : IsTriplet style k w) (hk : k ≠ 0) :
    ∃ us : List (List Char), us.length = k ∧ (∀ u ∈ us, u ≠ [] ∧ '-' ∉ u) ∧
      w = ['-'].intercalate us ++ ['-'] := by
  induction k generalizing w with
  | zero => exact absurd rfl hk
  | succ k ih =>
    obtain ⟨u, v, ⟨u', hne, hu, rfl⟩, hv, rfl⟩ := h
    have hu' : u' ≠ [] ∧ '-' ∉ u' := ⟨hne, fun hm => isSegmentChar_ne_hyphen (hu _ hm) rfl⟩
    by_cases h0 : k = 0
    · subst h0
      obtain rfl : v = [] := hv
      refine ⟨[u'], rfl, by simpa using hu', ?_⟩
      rw [List.intercalate_singleton, List.append_nil]
    · obtain ⟨us, hl, hall, rfl⟩ := ih hv h0
      have husne : us ≠ [] := by
        intro h
        subst h
        exact h0 hl.symm
      refine ⟨u' :: us, congrArg Nat.succ hl, List.forall_mem_cons.mpr ⟨hu', hall⟩, ?_⟩
      rw [List.intercalate_cons_of_ne_nil husne]
      simp only [List.append_assoc]

namespace Basename

variable {n : Nat} {a b : Basename}

theorem Fits.without_version {version : Option Expr} (h : b.Fits style n name version)
    (hv : b.version = []) : b.Fits style n name none :=
  ⟨h.target, h.name, hv, h.extension⟩

/-- A plain basename with an extension cannot be cut as one without. The name would be the same
read four characters further on, so the end of the longer triplet would be a part of the
extension. -/
theorem extension_ne_nil (ha : a.Fits style n name none) (hb : b.Fits style n name none)
    (h : a.text = b.text) (hne : a.extension ≠ []) : b.extension ≠ [] := by
  intro he
  have hav : a.version = [] := ha.version
  have hbv : b.version = [] := hb.version
  have hext := ha.extension.resolve_left hne
  rw [text, text, hav, hbv, he, List.nil_append, List.append_nil, List.append_nil] at h
  have hal := ha.name.length
  have hbl := hb.name.length
  have hel := hext.length
  have hlen := congrArg List.length h
  simp only [List.length_append] at hlen
  have hpre : a.target <+: b.target :=
    List.prefix_of_prefix_length_le ⟨_, h⟩ ⟨_, rfl⟩ (by omega)
  obtain ⟨x, hx⟩ := hpre
  rw [← hx, List.append_assoc] at h
  have htail := List.append_cancel_left h
  have hxl : x.length = exe.length := by
    have := congrArg List.length hx
    rw [List.length_append] at this
    omega
  have hmap := congrArg (List.map (letter style)) htail
  rw [List.map_append, List.map_append, ha.name, hb.name, hext] at hmap
  have hcount := congrArg (List.count (letter style '-')) hmap
  rw [List.count_append, List.count_append] at hcount
  have hexe : (exe.map (letter style)).count (letter style '-') = 0 := by
    cases style <;> decide +kernel
  have hxne : x ≠ [] := by
    intro h
    subst h
    cases hxl
  obtain ⟨k, _, hk⟩ := hb.target
  rw [← hx] at hk
  have hlast : '-' ∈ x := hk.hyphen_mem_of_append hxne
  have hpos := List.count_pos_iff.mpr (List.mem_map_of_mem (f := letter style) hlast)
  omega

/-- A plain basename can be cut in one way only. -/
theorem eq_of_text_eq (ha : a.Fits style n name none) (hb : b.Fits style n name none)
    (h : a.text = b.text) : a = b := by
  have hext : a.extension.length = b.extension.length := by
    by_cases hae : a.extension = []
    · have hbe : b.extension = [] := by
        by_cases hbe : b.extension = []
        · exact hbe
        · exact absurd hae (extension_ne_nil hb ha h.symm hbe)
      rw [hae, hbe]
    · have hbe := extension_ne_nil ha hb h hae
      rw [(ha.extension.resolve_left hae).length, (hb.extension.resolve_left hbe).length]
  have hav : a.version = [] := ha.version
  have hbv : b.version = [] := hb.version
  have hal := ha.name.length
  have hbl := hb.name.length
  obtain ⟨p, u, v, e⟩ := a
  obtain ⟨p', u', v', e'⟩ := b
  simp only at hav hbv hal hbl hext
  subst hav hbv
  simp only [text, List.nil_append] at h
  have hlen := congrArg List.length h
  simp only [List.length_append] at hlen
  obtain ⟨rfl, hrest⟩ := List.append_inj h (by omega)
  obtain ⟨rfl, rfl⟩ := List.append_inj hrest (by omega)
  rfl

end Basename

end BuildLog.BasenamePattern
