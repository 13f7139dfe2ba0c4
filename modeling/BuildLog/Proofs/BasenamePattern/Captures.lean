import BuildLog.Proofs.BasenamePattern.Search
import BuildLog.Proofs.Regex.GroupNames
import Mathlib.Data.List.Nodup

/-! What the groups of a match say. No two groups of a pattern share a name, so a version pattern
cannot speak for the target or the extension. -/

namespace BuildLog.Regex

theorem Ast.groupNames_ofParts (as : List Ast) :
    (ofParts as).groupNames = as.flatMap groupNames := by
  induction as with
  | nil => rfl
  | cons a as ih =>
    cases as with
    | nil => simp [ofParts]
    | cons b bs =>
      show a.groupNames ++ (ofParts (b :: bs)).groupNames = _
      rw [ih]
      exact List.flatMap_cons.symm

end BuildLog.Regex

namespace BuildLog.BasenamePattern

open Regex

variable {style : PathStyle} {n : Nat} {name : List Char}

theorem groupNames_parts (style : PathStyle) (n : Nat) (name : List Char) (v : Option Ast) :
    (Ast.ofParts (parts style n name v)).groupNames =
      (if n = 0 then [] else [targetGroup]) ++
        ((v.toList.flatMap fun a => versionGroup :: a.groupNames) ++ [extensionGroup]) := by
  have hlead : (leadParts style).flatMap Ast.groupNames = [] := by cases style <;> rfl
  have htarget : (if n = 0 then [] else [targetTree n]).flatMap Ast.groupNames =
      if n = 0 then [] else [targetGroup] := by
    split <;> rfl
  have hname : (name.map (Ast.char · false)).flatMap Ast.groupNames = [] := by
    simp [List.flatMap_map, Ast.groupNames]
  have hversion : (v.toList.map (.group (.capture (some versionGroup)))).flatMap Ast.groupNames =
      v.toList.flatMap fun a => versionGroup :: a.groupNames := by
    rw [List.flatMap_map]
    rfl
  rw [Ast.groupNames_ofParts, parts]
  simp only [List.flatMap_append, hlead, htarget, hname, hversion, List.nil_append]
  rfl

/-- The groups that the pattern has whatever the version is. -/
def ownGroups (n : Nat) : List String :=
  (if n = 0 then [] else [targetGroup]) ++ [versionGroup, extensionGroup]

/-- The names of a version pattern have to differ from each other and from those around them. -/
theorem nodup_groupNames_iff {a : Ast} :
    (Ast.ofParts (parts style n name (some a))).groupNames.Nodup ↔
      a.groupNames.Nodup ∧ a.groupNames.Disjoint (ownGroups n) := by
  have hperm : (Ast.ofParts (parts style n name (some a))).groupNames.Perm
      (a.groupNames ++ ownGroups n) := by
    have hswap := List.perm_append_comm_assoc ((if n = 0 then [] else [targetGroup]) ++
      [versionGroup]) a.groupNames [extensionGroup]
    rw [groupNames_parts, ownGroups]
    simpa using hswap
  have hown : (ownGroups n).Nodup := by
    rw [ownGroups]
    split <;> decide
  rw [hperm.nodup_iff, List.nodup_append', and_iff_right hown]

/-- What a version pattern names in a pattern that compiles is not the extension, and not the
target where there is one. -/
theorem notMem_groupNames {a : Ast}
    (h : (Ast.ofParts (parts style n name (some a))).groupNames.Nodup) :
    extensionGroup ∉ a.groupNames ∧ (n ≠ 0 → targetGroup ∉ a.groupNames) := by
  have hdisjoint := (nodup_groupNames_iff.mp h).2
  exact ⟨fun hm => hdisjoint hm (by simp [ownGroups]),
    fun hn hm => hdisjoint hm (by simp [ownGroups, hn])⟩

namespace Basename

variable {b : Basename} {groups : List GroupSpan}

def targetSpan (b : Basename) : Option (Nat × Nat) :=
  if b.target = [] then none else some (0, b.target.length)

def extensionSpan (b : Basename) : Option (Nat × Nat) :=
  if b.extension = [] then none else some (b.versionEnd, b.text.length)

theorem find?_extensionSpans (b : Basename) (name : String) :
    b.extensionSpans.find? (·.name == name) =
      if name = extensionGroup then b.extensionSpans.head? else none := by
  by_cases h : b.extension = []
  · simp [extensionSpans, h]
  · by_cases hn : name = extensionGroup
    · subst hn
      simp [extensionSpans, h]
    · have hn' : (extensionGroup == name) = false := beq_eq_false_iff_ne.mpr (Ne.symm hn)
      simp [extensionSpans, h, hn, hn']

theorem find?_targetSpans (b : Basename) (name : String) :
    b.targetSpans.find? (·.name == name) =
      if name = targetGroup then b.targetSpans.head? else none := by
  by_cases h : b.target = []
  · simp [targetSpans, h]
  · by_cases hn : name = targetGroup
    · subst hn
      simp [targetSpans, h]
    · have hn' : (targetGroup == name) = false := beq_eq_false_iff_ne.mpr (Ne.symm hn)
      simp [targetSpans, h, hn, hn']

theorem find?_groups {name : String} (h : ∀ g ∈ groups, g.name ≠ name) :
    groups.find? (·.name == name) = none :=
  List.find?_eq_none.mpr fun g hg => by simpa using h g hg

theorem group?_target (h : ∀ g ∈ groups, g.name ≠ targetGroup) :
    (b.toMatch groups).group? targetGroup = b.targetSpan := by
  have hne : targetGroup ≠ extensionGroup := by decide
  rw [Match.group?, toMatch, List.find?_append, List.find?_append, find?_extensionSpans,
    find?_groups h, find?_targetSpans, if_neg hne, if_pos rfl, targetSpan, targetSpans]
  split <;> rfl

theorem group?_extension (h : ∀ g ∈ groups, g.name ≠ extensionGroup) :
    (b.toMatch groups).group? extensionGroup = b.extensionSpan := by
  have hne : extensionGroup ≠ targetGroup := by decide
  rw [Match.group?, toMatch, List.find?_append, List.find?_append, find?_extensionSpans,
    find?_groups h, find?_targetSpans, if_neg hne, if_pos rfl, extensionSpan, extensionSpans]
  split <;> rfl

theorem group?_version (i j : Nat) (inner : List GroupSpan) :
    (b.toMatch (⟨versionGroup, i, j⟩ :: inner)).group? versionGroup = some (i, j) := by
  have hne : versionGroup ≠ extensionGroup := by decide
  rw [Match.group?, toMatch, List.find?_append, find?_extensionSpans, if_neg hne]
  simp

theorem group?_version_of_plain (b : Basename) : (b.toMatch []).group? versionGroup = none := by
  have hext : versionGroup ≠ extensionGroup := by decide
  have htarget : versionGroup ≠ targetGroup := by decide
  rw [Match.group?, toMatch, List.find?_append, List.find?_append, find?_extensionSpans,
    find?_targetSpans, if_neg hext, if_neg htarget]
  rfl

end Basename

/-- A match is a basename that fits and has no longer target; its groups are the parts of the
basename unless the version pattern has a group of the same name. -/
theorem captures_of_find? {version : Option Expr} {p : Pattern} {s : List Char} {m : Match}
    (hp : p.expr = expr style n name version)
    (hext : ∀ e, version = some e → extensionGroup ∉ e.groupNames) (h : p.find? s = some m) :
    ∃ b : Basename, b.text = s ∧ b.Fits style n name version ∧ m.start = 0 ∧ m.stop = s.length ∧
      m.group? versionGroup = version.map (fun _ => (b.nameEnd, b.versionEnd)) ∧
      m.group? extensionGroup = b.extensionSpan ∧
      ((∀ e, version = some e → targetGroup ∉ e.groupNames) →
        m.group? targetGroup = b.targetSpan) ∧
      ∀ b' : Basename, b'.text = s → b'.Fits style n name version →
        b'.target.length ≤ b.target.length := by
  obtain ⟨b, groups, rfl, hfits, hgroups, rfl, hmax⟩ := exists_of_find? hp h
  refine ⟨b, rfl, hfits, rfl, rfl, ?_⟩
  cases version with
  | none =>
    obtain ⟨_, rfl⟩ := Basename.versionGroups_none.mp hgroups
    have hnone : ∀ name, ∀ g ∈ ([] : List GroupSpan), g.name ≠ name := by
      intro name g hg
      cases hg
    exact ⟨Basename.group?_version_of_plain b, Basename.group?_extension (hnone _),
      fun _ => Basename.group?_target (hnone _), hmax⟩
  | some e =>
    obtain ⟨inner, hinner, rfl⟩ := Basename.versionGroups_some.mp hgroups
    have hnames : ∀ other, other ≠ versionGroup → other ∉ e.groupNames →
        ∀ g ∈ (⟨versionGroup, b.nameEnd, b.versionEnd⟩ :: inner : List GroupSpan),
          g.name ≠ other := by
      intro other hne hnot g hg
      rcases List.mem_cons.mp hg with rfl | hg
      · exact Ne.symm hne
      · exact fun h => hnot (h ▸ Expr.name_mem_groupNames hinner g hg)
    exact ⟨Basename.group?_version _ _ inner,
      Basename.group?_extension (hnames _ (by decide) (hext e rfl)),
      fun htarget => Basename.group?_target (hnames _ (by decide) (htarget e rfl)), hmax⟩

/-- A basename that can be cut in one way only is matched, and the groups of the match are its
parts. -/
theorem exists_find? {version : Option Expr} {p : Pattern} {b : Basename}
    (hp : p.expr = expr style n name version)
    (hnames : ∀ name e, version = some e → name ∉ e.groupNames)
    (hfits : b.Fits style n name version)
    (hunique : ∀ b' : Basename, b'.text = b.text → b'.Fits style n name version → b' = b) :
    ∃ m, p.find? b.text = some m ∧ m.group? targetGroup = b.targetSpan ∧
      m.group? extensionGroup = b.extensionSpan ∧
      m.group? versionGroup = version.map (fun _ => (b.nameEnd, b.versionEnd)) := by
  have hmatch := (isSome_find?_iff hp b.text).mpr ⟨b, rfl, hfits⟩
  obtain ⟨m, hm⟩ := Option.isSome_iff_exists.mp hmatch
  obtain ⟨b', hb', hfits', _, _, hversion, hext, htarget, _⟩ :=
    captures_of_find? hp (hnames extensionGroup) hm
  obtain rfl := hunique b' hb' hfits'
  exact ⟨m, hm, htarget (hnames targetGroup), hext, hversion⟩

end BuildLog.BasenamePattern
