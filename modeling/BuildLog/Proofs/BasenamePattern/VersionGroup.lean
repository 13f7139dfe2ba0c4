import BuildLog.Proofs.BasenamePattern.Captures
import BuildLog.Proofs.Regex.CaseFlag

/-! What a version pattern has to be to be a part of the pattern of a basename. There it stands in a
group of its own: it must not swallow the parenthesis behind it, name a group of the pattern around it,
or be nested so deeply that the two levels around it are too many. The flag for the case that is set
in front of it on Windows changes nothing about this. -/

namespace BuildLog.BasenamePattern

open Regex

variable {style : PathStyle} {n : Nat} {name pattern : String} {a : Ast}

theorem frontParts_append (style : PathStyle) (n : Nat) (name : List Char) (v : Option Ast) :
    frontParts style n name ++ (v.toList.map (.group (.capture (some versionGroup))) ++
      [extensionTree, .assertion .dollar]) = parts style n name v := by
  simp only [frontParts, parts, List.append_assoc]

theorem depth_of_mem_frontParts {name : List Char} {b : Ast} (h : b ∈ frontParts style n name) :
    b.depth ≤ 16 := by
  rcases List.mem_append.mp h with h | h
  · have hlead : ∀ b ∈ leadParts style, b.depth ≤ 16 := by cases style <;> decide
    exact hlead b h
  · rcases List.mem_append.mp h with h | h
    · split at h
      · cases h
      · obtain rfl := List.mem_singleton.mp h
        have hdepth : (targetTree n).depth = (targetTree 1).depth := rfl
        rw [hdepth]
        decide
    · obtain ⟨c, _, rfl⟩ := List.mem_map.mp h
      exact Nat.zero_le _

/-- The version is nested two levels deeper in the pattern than it is alone. -/
theorem depth_parts_le_iff (style : PathStyle) (n : Nat) (name : List Char) (v : Option Ast) :
    (Ast.ofParts (parts style n name v)).depth ≤ Ast.maxDepth ↔
      ∀ a, v = some a → a.depth + 2 ≤ Ast.maxDepth := by
  have hparts : parts style n name v = (frontParts style n name ++
      (v.toList.map (.group (.capture (some versionGroup))) ++ [extensionTree])) ++
        [.assertion .dollar] := by
    simp only [frontParts, parts, List.append_assoc, List.singleton_append]
  have hfront : ∀ b ∈ frontParts style n name, b.depth ≤ 249 := fun b hb =>
    Nat.le_trans (depth_of_mem_frontParts hb) (by decide)
  have hextension : extensionTree.depth ≤ 249 := by decide
  rw [hparts]
  refine (Ast.depth_ofParts_le_iff (n := 249) (by simp)).trans ?_
  cases v with
  | none => simpa [or_imp, forall_and, hextension] using hfront
  | some a =>
    have hgroup : (Ast.group (.capture (some versionGroup)) a).depth = a.depth + 1 := rfl
    have hmax : Ast.maxDepth = 250 := rfl
    simp only [List.forall_mem_append, Option.toList_some, List.map_cons, List.map_nil,
      List.forall_mem_singleton, hgroup, hextension, Option.some.injEq, forall_eq', hmax]
    constructor
    · intro h
      have := h.2.1
      omega
    · intro h
      exact ⟨hfront, by omega, trivial⟩

theorem nodup_groupNames_plain (style : PathStyle) (n : Nat) (name : List Char) :
    (Ast.ofParts (parts style n name none)).groupNames.Nodup := by
  rw [groupNames_parts]
  split <;> decide

theorem readFrom_source_of_ending {version : Option String} {v : Option Ast} (style : PathStyle)
    (hn : n < UInt32.size) (name : String)
    (h : ∀ l, Ast.readFrom false [] ⟨l, []⟩ (ending version).toList =
      some (addAll l (v.toList.map (.group (.capture (some versionGroup))) ++
        [extensionTree, .assertion .dollar])).tree) :
    Ast.readFrom false [] .start (source style n name version).toList =
      some (.ofParts (parts style n name.toList v)) := by
  rw [readFrom_source, if_pos hn, h, ← addAll_append, tree_addAll, frontParts_append]

theorem isSome_read?_plain (style : PathStyle) (hn : n < UInt32.size) (name : String) :
    (Ast.read? (source style n name none).toList).isSome = true := by
  have hread := readFrom_source_of_ending (v := none) style hn name fun _ => readFrom_ending_none
  refine Option.isSome_iff_exists.mpr ⟨_, Ast.read?_eq_some_iff.mpr ⟨hread, ?_, ?_⟩⟩
  · exact (depth_parts_le_iff style n name.toList none).mpr fun _ h => nomatch h
  · exact nodup_groupNames_plain style n name.toList

theorem isSome_read?_source_iff (style : PathStyle) (hn : n < UInt32.size) (name : String)
    (ha : Ast.read? pattern.toList = some a) :
    (Ast.read? (source style n name (some pattern)).toList).isSome = true ↔
      Ast.FillsGroup pattern.toList a ∧ a.depth + 2 ≤ Ast.maxDepth ∧
        a.groupNames.Disjoint (ownGroups n) := by
  obtain ⟨halone, _, hnodup⟩ := Ast.read?_eq_some_iff.mp ha
  constructor
  · intro h
    obtain ⟨b, hb⟩ := Option.isSome_iff_exists.mp h
    obtain ⟨hread, hdepth, _⟩ := Ast.read?_eq_some_iff.mp hb
    have hversion : (some pattern).mapM (fun p => Ast.read? p.toList) = some (some a) :=
      congrArg (Option.map some) ha
    obtain ⟨rfl, hnames⟩ := read_source hversion hb
    refine ⟨?_, (depth_parts_le_iff style n name.toList (some a)).mp hdepth a rfl,
      (nodup_groupNames_iff.mp hnames).2⟩
    refine (Ast.fillsGroup_or_swallowsGroup halone).resolve_right fun hswallows => ?_
    rw [readFrom_source, if_pos hn, readFrom_ending_some, hswallows _ _ _ _ _ _ inert_extension]
      at hread
    cases hread
  · intro h
    obtain ⟨hfills, hdepth, hnames⟩ := h
    have hread := readFrom_source_of_ending (v := some a) style hn name fun _ =>
      readFrom_ending_of_fillsGroup hfills
    refine Option.isSome_iff_exists.mpr ⟨_, Ast.read?_eq_some_iff.mpr ⟨hread, ?_, ?_⟩⟩
    · refine (depth_parts_le_iff style n name.toList (some a)).mpr fun b hb => ?_
      obtain rfl := Option.some.inj hb
      exact hdepth
    · exact nodup_groupNames_iff.mpr ⟨hnodup, hnames⟩

/-- A pattern stands for an expression whether case is disregarded or not. -/
theorem exists_versionExpr? {p : Pattern} (style : PathStyle) (h : Pattern.compile pattern = .ok p) :
    ∃ e, versionExpr? style pattern = some e := by
  obtain ⟨a, ha, hexpr⟩ := Pattern.compile_eq_ok h
  have hcase : Flags.SameButCase {} (flags style) := ⟨style == .windows, rfl⟩
  have hsome := (Ast.resolve_sameButCase hcase (Ast.namesAscii_read? ha)).isSome
  have halone : (a.resolve {}).isSome = true := by
    rw [← Option.isSome_map (f := (·.1)), ← Ast.expr?, hexpr]
    rfl
  rw [halone] at hsome
  obtain ⟨r, hr⟩ := Option.isSome_iff_exists.mp hsome.symm
  exact ⟨r.1, by rw [versionExpr?, ha, Option.bind_some, hr, Option.map_some]⟩

theorem exists_compile_version_iff {e : Expr} (hn : n < UInt32.size) (name : String)
    (ha : Ast.read? pattern.toList = some a) (he : versionExpr? style pattern = some e) :
    (∃ p, compile style n name (some pattern) = .ok p) ↔
      (Ast.FillsGroup pattern.toList a ∧ a.depth + 2 ≤ Ast.maxDepth ∧
        a.groupNames.Disjoint (ownGroups n)) ∧
        (expr style n name.toList (some e)).isTooBig = false := by
  have hversion : (some pattern).mapM (versionExpr? style) = some (some e) :=
    congrArg (Option.map some) he
  rw [← isSome_read?_source_iff style hn name ha]
  constructor
  · intro h
    obtain ⟨p, hp⟩ := h
    obtain ⟨b, hb, _⟩ := Pattern.compile_eq_ok hp
    have hread := Option.isSome_of_mem hb
    rw [compile_of_read hversion hread] at hp
    split at hp
    · cases hp
    · exact ⟨hread, Bool.eq_false_iff.mpr ‹_›⟩
  · intro h
    exact exists_compile hversion h.1 h.2

end BuildLog.BasenamePattern
