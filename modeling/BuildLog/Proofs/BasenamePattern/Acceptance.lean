import BuildLog.Proofs.BasenamePattern.Captures
import BuildLog.Proofs.Result

/-! The basenames that a compiled pattern accepts, with and without a version. -/

namespace BuildLog.BasenamePattern

open Regex

variable {style : PathStyle} {n : Nat} {name : String} {p : Pattern}

theorem expr_of_plain (h : compile style n name none = .ok p) :
    p.expr = expr style n name.toList none := by
  obtain ⟨⟨e, he, hp⟩, _⟩ := expr_of_compile (v := none) rfl h
  obtain rfl : none = e := Option.some.inj he
  exact hp

/-- A version pattern that can be read by itself stands for the same in the pattern of a
basename. -/
theorem expr_of_versioned {pattern : String} {v : Pattern} (hv : Pattern.compile pattern = .ok v)
    (h : compile style n name (some pattern) = .ok p) :
    ∃ a e, Ast.read? pattern.toList = some a ∧ versionExpr? style pattern = some e ∧
      p.expr = expr style n name.toList (some e) ∧ (style = .posix → e = v.expr) ∧
      (∀ name, name ∉ a.groupNames → ∀ e', some e = some e' → name ∉ e'.groupNames) ∧
      extensionGroup ∉ a.groupNames ∧
      (n ≠ 0 → targetGroup ∉ a.groupNames) := by
  obtain ⟨a, ha, hax⟩ := Pattern.compile_eq_ok hv
  have hread : (some pattern).mapM (fun p => Ast.read? p.toList) = some (some a) :=
    congrArg (Option.map some) ha
  obtain ⟨⟨version, hversion, hp⟩, hnodup⟩ := expr_of_compile hread h
  obtain ⟨e, he, rfl⟩ := Option.map_eq_some_iff.mp hversion
  obtain ⟨⟨e, f⟩, hr, rfl⟩ := Option.map_eq_some_iff.mp he
  obtain ⟨hext, htarget⟩ := notMem_groupNames hnodup
  refine ⟨a, e, ha, ?_, hp, ?_, fun name hname e' he' hm => ?_, hext, htarget⟩
  · rw [versionExpr?, ha]
    exact he
  · intro h
    subst h
    exact Option.some.inj (he.symm.trans hax)
  · obtain rfl := Option.some.inj he'
    exact hname (Ast.groupNames_resolve hr hm)

/-- Without a version pattern exactly the basenames are accepted that are cut into a triplet of at
most `n` segments, the name and the extension, in the only way in which they can be cut. -/
theorem plain_accepts_iff (h : compile style n name none = .ok p) (s : List Char) :
    ((p.find? s).isSome = true ↔
      ∃ b : Basename, b.text = s ∧ b.Fits style n name.toList none) ∧
    ∀ b : Basename, b.text = s → b.Fits style n name.toList none →
      (∀ b' : Basename, b'.text = s → b'.Fits style n name.toList none → b' = b) ∧
      ∃ m, p.find? s = some m ∧ m.start = 0 ∧ m.stop = s.length ∧
        (∀ k, IsTriplet style k b.target →
          m.group? targetGroup = if 1 ≤ k then some (0, b.target.length) else none) ∧
        m.group? extensionGroup =
          if b.extension = [] then none else some (b.versionEnd, s.length) := by
  have hp := expr_of_plain h
  have hiff := isSome_find?_iff hp s
  refine ⟨hiff, fun b hb hfits => ⟨fun b' hb' hfits' =>
    Basename.eq_of_text_eq hfits' hfits (hb'.trans hb.symm), ?_⟩⟩
  obtain ⟨m, hm⟩ := Option.isSome_iff_exists.mp (hiff.mpr ⟨b, hb, hfits⟩)
  obtain ⟨b', hb', hfits', hstart, hstop, _, hext, htarget, _⟩ :=
    captures_of_find? hp (fun _ he => nomatch he) hm
  obtain rfl : b' = b := Basename.eq_of_text_eq hfits' hfits (hb'.trans hb.symm)
  subst hb
  refine ⟨m, hm, hstart, hstop, fun k hk => ?_, hext⟩
  rw [htarget (fun _ he => nomatch he), Basename.targetSpan]
  by_cases hk0 : k = 0
  · rw [if_pos (hk.eq_nil_iff.mpr hk0), if_neg (by omega)]
  · rw [if_neg fun h0 => hk0 (hk.eq_nil_iff.mp h0), if_pos (Nat.one_le_iff_ne_zero.mpr hk0)]

theorem plain_accepts_iff_gpp : ∃ p m, compile .windows 2 "g++" none = .ok p ∧
    p.find? "arm-G++.EXE".toList = some m ∧ m.group? targetGroup = some (0, 4) ∧
    ∃ b : Basename, b.text = "arm-G++.EXE".toList ∧ b.Fits .windows 2 "g++".toList none ∧
      ∀ b' : Basename, b'.text = "arm-G++.EXE".toList →
        b'.Fits .windows 2 "g++".toList none → b' = b := by
  have hfind : (compile .windows 2 "g++" none).toOption.bind
      (·.find? "arm-G++.EXE".toList) =
        some ⟨0, 11, [⟨extensionGroup, 7, 11⟩, ⟨targetGroup, 0, 4⟩]⟩ := by decide +kernel
  obtain ⟨p, hp, hm⟩ := Option.bind_eq_some_iff.mp hfind
  have hcompile := ok_of_toOption hp
  obtain ⟨hiff, hall⟩ := plain_accepts_iff hcompile "arm-G++.EXE".toList
  obtain ⟨b, hb, hfits⟩ := hiff.mp (Option.isSome_iff_exists.mpr ⟨_, hm⟩)
  exact ⟨p, _, hcompile, hm, rfl, b, hb, hfits, (hall b hb hfits).1⟩

/-- With a version pattern those basenames are accepted that have a version behind the name, where
the pattern matches at its place in the whole basename. A match reports the longest target of all,
and nothing in the version pattern reaches beyond its group. -/
theorem versioned_accepts_iff {pattern : String} {v : Pattern}
    (hv : Pattern.compile pattern = .ok v) (h : compile style n name (some pattern) = .ok p) :
    ∃ e, versionExpr? style pattern = some e ∧ (style = .posix → e = v.expr) ∧
      ∀ s : List Char,
        ((p.find? s).isSome = true ↔
          ∃ b : Basename, b.text = s ∧ b.Fits style n name.toList (some e)) ∧
        ∀ m, p.find? s = some m →
          ∃ b : Basename, b.text = s ∧ b.Fits style n name.toList (some e) ∧
            m.start = 0 ∧ m.stop = s.length ∧
            m.group? versionGroup = some (b.nameEnd, b.versionEnd) ∧
            m.group? extensionGroup =
              (if b.extension = [] then none else some (b.versionEnd, s.length)) ∧
            (0 < n →
              m.group? targetGroup =
                (if b.target = [] then none else some (0, b.target.length)) ∧
              (m.group? targetGroup = none ↔ ∀ b' : Basename, b'.text = s →
                b'.Fits style n name.toList (some e) → b'.target = [])) ∧
            ∀ b' : Basename, b'.text = s → b'.Fits style n name.toList (some e) →
              b'.target.length ≤ b.target.length ∧
              ∀ k k', IsTriplet style k b.target → IsTriplet style k' b'.target → k' ≤ k := by
  obtain ⟨_, e, _, he, hp, hposix, hnot, hext, htarget⟩ := expr_of_versioned hv h
  refine ⟨e, he, hposix, fun s => ⟨isSome_find?_iff hp s, fun m hm => ?_⟩⟩
  obtain ⟨b, rfl, hfits, hstart, hstop, hversion, hextension, hspan, hmax⟩ :=
    captures_of_find? hp (hnot _ hext) hm
  refine ⟨b, rfl, hfits, hstart, hstop, hversion, hextension, fun hn => ?_, fun b' hb' hfits' => ?_⟩
  · have hspan := hspan (hnot _ (htarget (Nat.ne_of_gt hn)))
    refine ⟨hspan, ?_⟩
    rw [hspan, Basename.targetSpan]
    constructor
    · intro hnone b' hb' hfits'
      have hlen := hmax b' hb' hfits'
      by_cases h0 : b.target = []
      · rw [h0, List.length_nil] at hlen
        exact List.length_eq_zero_iff.mp (Nat.le_zero.mp hlen)
      · rw [if_neg h0] at hnone
        cases hnone
    · intro hall
      exact if_pos (hall b rfl hfits)
  · have hle := hmax b' hb' hfits'
    refine ⟨hle, fun k k' hk hk' => hk.le_of_prefix hk' ?_⟩
    exact List.prefix_of_prefix_length_le ⟨_, hb'⟩ ⟨_, rfl⟩ hle

theorem versioned_accepts_iff_gcc : ∃ v p m e, Pattern.compile "1|2" = .ok v ∧
    compile .posix 1 "gcc" (some "1|2") = .ok p ∧
    p.find? "arm-gcc2.exe".toList = some m ∧ versionExpr? .posix "1|2" = some e ∧
    ∃ b : Basename, b.text = "arm-gcc2.exe".toList ∧ b.Fits .posix 1 "gcc".toList (some e) ∧
      m.group? versionGroup = some (b.nameEnd, b.versionEnd) := by
  have hversion : (Pattern.compile "1|2").toOption.isSome = true := by decide +kernel
  have hfind : (compile .posix 1 "gcc" (some "1|2")).toOption.bind
      (·.find? "arm-gcc2.exe".toList) =
        some ⟨0, 12, [⟨extensionGroup, 8, 12⟩, ⟨versionGroup, 7, 8⟩, ⟨targetGroup, 0, 4⟩]⟩ := by
    decide +kernel
  obtain ⟨v, hv⟩ := Option.isSome_iff_exists.mp hversion
  obtain ⟨p, hp, hm⟩ := Option.bind_eq_some_iff.mp hfind
  obtain ⟨e, he, _, hall⟩ := versioned_accepts_iff (ok_of_toOption hv) (ok_of_toOption hp)
  obtain ⟨b, hb, hfits, _, _, hspan, _⟩ := (hall "arm-gcc2.exe".toList).2 _ hm
  exact ⟨v, p, _, e, ok_of_toOption hv, ok_of_toOption hp, hm, he, b, hb, hfits, hspan⟩

end BuildLog.BasenamePattern
