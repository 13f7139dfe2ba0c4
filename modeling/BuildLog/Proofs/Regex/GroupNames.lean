import BuildLog.Proofs.Regex.Alternation

/-! The names of the groups that a match reports are names that the pattern gives. -/

namespace BuildLog.Regex

def Expr.groupNames : Expr → List String
  | .empty => []
  | .set _ => []
  | .look _ => []
  | .seq x y => x.groupNames ++ y.groupNames
  | .alt x y => x.groupNames ++ y.groupNames
  | .group none x => x.groupNames
  | .group (some name) x => name :: x.groupNames
  | .rep x _ _ _ => x.groupNames

theorem Rounds.groups {step : Nat → Arrival → Prop} {P : GroupSpan → Prop}
    (h : ∀ i a, step i a → ∀ g ∈ a.groups, P g) {k i : Nat} {a : Arrival} (ha : Rounds step k i a) :
    ∀ g ∈ a.groups, P g := by
  induction k generalizing i a with
  | zero =>
    obtain rfl : a = ⟨i, []⟩ := ha
    intro g hg
    cases hg
  | succ k ih =>
    obtain ⟨b, c, hb, hc, rfl⟩ := ha
    intro g hg
    rcases List.mem_append.mp hg with hg | hg
    · exact ih hc g hg
    · exact h i b hb g hg

theorem Expr.name_mem_groupNames {text : Array Char} {e : Expr} {i : Nat} {a : Arrival}
    (h : e.Reaches text i a) : ∀ g ∈ a.groups, g.name ∈ e.groupNames := by
  induction e generalizing i a with
  | empty =>
    obtain rfl : a = ⟨i, []⟩ := h
    intro g hg
    cases hg
  | set s =>
    obtain ⟨_, rfl⟩ := h
    intro g hg
    cases hg
  | look l =>
    obtain ⟨_, rfl⟩ := h
    intro g hg
    cases hg
  | seq x y ihx ihy =>
    obtain ⟨b, c, hb, hc, rfl⟩ := h
    intro g hg
    rcases List.mem_append.mp hg with hg | hg
    · exact List.mem_append_right _ (ihy hc g hg)
    · exact List.mem_append_left _ (ihx hb g hg)
  | alt x y ihx ihy =>
    intro g hg
    rcases h with h | h
    · exact List.mem_append_left _ (ihx h g hg)
    · exact List.mem_append_right _ (ihy h g hg)
  | group name x ih =>
    cases name with
    | none => exact ih h
    | some name =>
      obtain ⟨b, hb, rfl⟩ := h
      intro g hg
      rcases List.mem_cons.mp hg with rfl | hg
      · exact List.mem_cons_self
      · exact List.mem_cons_of_mem name (ih hb g hg)
  | rep x min max greedy ih =>
    obtain ⟨k, _, hk⟩ := h
    exact hk.groups fun i a ha => ih ha

theorem Expr.groupNames_repeated (e : Expr) (min : Nat) (max : Option Nat) (greedy : Bool) :
    (e.repeated min max greedy).groupNames ⊆ e.groupNames := by
  simp only [repeated]
  split
  all_goals
    split
    · exact List.nil_subset _
    · split <;> exact List.Subset.refl _

namespace Expr

theorem groupNames_chain (es : List Expr) : (chain es).groupNames = es.flatMap groupNames := by
  induction es with
  | nil => rfl
  | cons e es ih =>
    cases es with
    | nil => simp [chain]
    | cons e' es => rw [chain, groupNames, ih, ← List.flatMap_cons]

theorem groupNames_alternation (es : List Expr) :
    (alternation es).groupNames = es.flatMap groupNames := by
  induction es with
  | nil => rfl
  | cons e es ih =>
    cases es with
    | nil => simp [alternation]
    | cons e' es => rw [alternation, groupNames, ih, ← List.flatMap_cons]

theorem flatMap_groupNames_parts (e : Expr) : e.parts.flatMap groupNames = e.groupNames := by
  induction e with
  | seq x y ihx ihy => rw [parts, List.flatMap_append, ihx, ihy, groupNames]
  | _ => simp [parts, groupNames]

theorem flatMap_groupNames_branches (e : Expr) :
    e.branches.flatMap groupNames = e.groupNames := by
  induction e with
  | alt x y ihx ihy => rw [branches, List.flatMap_append, ihx, ihy, groupNames]
  | _ => simp [branches, groupNames]

theorem flatMap_groupNames_flatMap_branches (es : List Expr) :
    (es.flatMap branches).flatMap groupNames = es.flatMap groupNames := by
  rw [List.flatMap_assoc]
  simp only [flatMap_groupNames_branches]

theorem groupNames_canonical (e : Expr) : e.canonical.groupNames = e.groupNames := by
  induction e with
  | seq x y ihx ihy =>
    rw [canonical, groupNames_chain, List.flatMap_append, flatMap_groupNames_parts,
      flatMap_groupNames_parts, ihx, ihy, groupNames]
  | alt x y ihx ihy => rw [canonical, groupNames, ihx, ihy, groupNames]
  | group name x ih => cases name <;> simp [canonical, groupNames, ih]
  | rep x min max greedy ih => exact ih
  | _ => rfl

theorem groupNames_choice (es : List Expr) : (choice es).groupNames ⊆ es.flatMap groupNames := by
  rw [choice]
  split
  · exact List.nil_subset _
  · rw [groupNames_alternation]
    exact List.Subset.refl _

theorem groupNames_rest {e : Expr} {es : List Expr} (he : e ∈ es) :
    (beginning es).flatten.flatMap groupNames ++ (rest (beginning es).length e).groupNames =
      e.groupNames := by
  rw [rest, groupNames_chain, ← List.flatMap_append, ← parts_eq_beginning_append he,
    flatMap_groupNames_parts]

theorem groupNames_lifted (es : List Expr) : (lifted es).groupNames ⊆ es.flatMap groupNames := by
  rw [lifted]
  split
  · exact groupNames_choice es
  · rename_i hsome
    have hne : es ≠ [] := by
      intro h
      subst h
      exact hsome rfl
    obtain ⟨e, es', rfl⟩ := List.exists_cons_of_ne_nil hne
    have hstart : (beginning (e :: es')).flatten.flatMap groupNames ⊆
        (e :: es').flatMap groupNames := by
      have hfirst := groupNames_rest (List.mem_cons_self : e ∈ e :: es')
      rw [List.flatMap_cons, ← hfirst, List.append_assoc]
      exact List.subset_append_left _ _
    rw [groupNames_chain, List.flatMap_append, List.flatMap_singleton]
    refine List.append_subset.mpr ⟨hstart, List.Subset.trans (groupNames_choice _) ?_⟩
    rw [flatMap_groupNames_flatMap_branches, List.flatMap_map]
    intro name hname
    obtain ⟨x, hx, hname⟩ := List.mem_flatMap.mp hname
    refine List.mem_flatMap.mpr ⟨x, hx, ?_⟩
    rw [← groupNames_rest hx]
    exact List.mem_append_right _ hname

theorem groupNames_oneOf {es : List Expr} {names : List String}
    (h : ∀ e ∈ es, e.groupNames ⊆ names) : (oneOf es).groupNames ⊆ names := by
  have hall : (lifted ((es.map canonical).flatMap branches)).groupNames ⊆ names := by
    refine List.Subset.trans (groupNames_lifted _) ?_
    rw [flatMap_groupNames_flatMap_branches, List.flatMap_map]
    simp only [groupNames_canonical]
    intro name hname
    obtain ⟨e, he, hname⟩ := List.mem_flatMap.mp hname
    exact h e he hname
  match es, h with
  | [], _ => exact hall
  | [e], h => exact h e List.mem_cons_self
  | e :: e' :: es, _ => exact hall

end Expr

theorem Ast.groupNames_branches? {a : Ast} {f g : Flags} {es : List Expr}
    (h : a.branches? f = some (es, g)) : ∀ e ∈ es, e.groupNames ⊆ a.groupNames := by
  induction a generalizing f g es with
  | empty =>
    cases h
    exact List.forall_mem_singleton.mpr (List.nil_subset _)
  | flags change =>
    cases h
    exact List.forall_mem_singleton.mpr (List.nil_subset _)
  | char c byte =>
    simp only [branches?] at h
    split at h
    · cases h
    · cases h
      exact List.forall_mem_singleton.mpr (List.nil_subset _)
  | dot =>
    simp only [branches?] at h
    split at h
    · cases h
      exact List.forall_mem_singleton.mpr (List.nil_subset _)
    · cases h
  | assertion a =>
    cases h
    exact List.forall_mem_singleton.mpr (List.nil_subset _)
  | cls t =>
    obtain ⟨s, _, hs⟩ := Option.map_eq_some_iff.mp h
    cases hs
    exact List.forall_mem_singleton.mpr (List.nil_subset _)
  | group kind body ih =>
    cases kind with
    | plain change =>
      obtain ⟨⟨xs, f'⟩, hx, hr⟩ := Option.map_eq_some_iff.mp h
      cases hr
      exact List.forall_mem_singleton.mpr (Expr.groupNames_oneOf (ih hx))
    | capture name =>
      obtain ⟨⟨xs, f'⟩, hx, hr⟩ := Option.map_eq_some_iff.mp h
      cases hr
      have hsub : (Expr.oneOf xs).groupNames ⊆ body.groupNames := Expr.groupNames_oneOf (ih hx)
      cases name with
      | none => exact List.forall_mem_singleton.mpr hsub
      | some name => exact List.forall_mem_singleton.mpr (List.cons_subset_cons name hsub)
  | rep body min max greedy ih =>
    obtain ⟨⟨xs, f'⟩, hx, hr⟩ := Option.map_eq_some_iff.mp h
    cases hr
    exact List.forall_mem_singleton.mpr
      (List.Subset.trans (Expr.groupNames_repeated _ _ _ _) (Expr.groupNames_oneOf (ih hx)))
  | seq x y ihx ihy =>
    obtain ⟨⟨xs, f1⟩, hx, h⟩ := Option.bind_eq_some_iff.mp h
    obtain ⟨⟨ys, f2⟩, hy, hr⟩ := Option.bind_eq_some_iff.mp h
    cases hr
    refine List.forall_mem_singleton.mpr (List.append_subset.mpr ⟨?_, ?_⟩)
    · exact List.Subset.trans (Expr.groupNames_oneOf (ihx hx)) (List.subset_append_left _ _)
    · exact List.Subset.trans (Expr.groupNames_oneOf (ihy hy)) (List.subset_append_right _ _)
  | alt x y ihx ihy =>
    obtain ⟨⟨xs, f1⟩, hx, h⟩ := Option.bind_eq_some_iff.mp h
    obtain ⟨⟨ys, f2⟩, hy, hr⟩ := Option.bind_eq_some_iff.mp h
    cases hr
    refine List.forall_mem_cons.mpr ⟨?_, fun e he => ?_⟩
    · exact List.Subset.trans (Expr.groupNames_oneOf (ihx hx)) (List.subset_append_left _ _)
    · exact List.Subset.trans (ihy hy e he) (List.subset_append_right _ _)

theorem Ast.groupNames_resolve {a : Ast} {f g : Flags} {e : Expr} (h : a.resolve f = some (e, g)) :
    e.groupNames ⊆ a.groupNames := by
  obtain ⟨⟨es, f'⟩, hes, hr⟩ := Option.map_eq_some_iff.mp h
  cases hr
  exact Expr.groupNames_oneOf (groupNames_branches? hes)

end BuildLog.Regex
