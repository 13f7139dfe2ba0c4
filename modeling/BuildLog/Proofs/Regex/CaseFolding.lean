import BuildLog.Regex.Property.CaseFold

/-! The closure of a set under case holds the characters that fold as one of the set does. This
rests on three facts about the table of rules: no code point is folded by two of them, none is
folded twice, and every rule is a range. -/

namespace BuildLog.Regex

namespace FoldRule

theorem mem_domain {r : FoldRule} {n : Nat} :
    n ∈ r.domain ↔ ∃ k, k ≤ (r.hi - r.lo) / r.step ∧ n = r.lo + r.step * k := by
  simp only [domain, List.mem_map, List.mem_range, Nat.lt_succ_iff, eq_comm]

theorem bounds_of_mem_domain {r : FoldRule} {n : Nat} (hr : r.lo ≤ r.hi) (h : n ∈ r.domain) :
    r.lo ≤ n ∧ n ≤ r.hi := by
  obtain ⟨k, hk, rfl⟩ := mem_domain.mp h
  have h1 := Nat.mul_le_mul_left r.step hk
  have h2 := Nat.mul_div_le (r.hi - r.lo) r.step
  omega

theorem meets_of_hasCode {s : CharSet} {lo hi n : Nat} (hn : s.hasCode n = true) (hlo : lo ≤ n)
    (hhi : n ≤ hi) : meets s lo hi = true := by
  obtain ⟨q, hq, hqn⟩ := List.any_eq_true.mp hn
  simp only [CharRange.contains, Bool.and_eq_true, decide_eq_true_eq] at hqn
  refine List.any_eq_true.mpr ⟨q, hq, ?_⟩
  simp only [Bool.and_eq_true, decide_eq_true_eq]
  omega

theorem mem_of_any_images {r : FoldRule} {s : CharSet} {m : Nat}
    (h : (r.images s).any (·.contains m) = true) :
    ∃ n ∈ r.domain, s.hasCode n = true ∧ m = r.apply n := by
  obtain ⟨q, hq, hm⟩ := List.any_eq_true.mp h
  rw [images] at hq
  split at hq
  · obtain ⟨n, hn, rfl⟩ := List.mem_map.mp hq
    simp only [List.mem_filter, Bool.and_eq_true] at hn
    simp only [CharRange.contains, Bool.and_eq_true, decide_eq_true_eq] at hm
    exact ⟨n, hn.1, hn.2.1, by omega⟩
  · cases hq

theorem any_images_of_mem {r : FoldRule} {s : CharSet} {n : Nat} (hr : r.lo ≤ r.hi)
    (hn : n ∈ r.domain) (hs : s.hasCode n = true) :
    s.hasCode (r.apply n) = true ∨ (r.images s).any (·.contains (r.apply n)) = true := by
  by_cases ha : s.hasCode (r.apply n) = true
  · exact .inl ha
  · have hb := bounds_of_mem_domain hr hn
    refine .inr (List.any_eq_true.mpr ⟨⟨r.apply n, r.apply n⟩, ?_, by simp [CharRange.contains]⟩)
    rw [images, if_pos (meets_of_hasCode hs hb.1 hb.2)]
    exact List.mem_map.mpr ⟨n, by simp [hn, hs, ha], rfl⟩

theorem mem_of_any_preimages {r : FoldRule} {s : CharSet} {n : Nat}
    (h : (r.preimages s).any (·.contains n) = true) :
    n ∈ r.domain ∧ s.hasCode (r.apply n) = true := by
  obtain ⟨q, hq, hm⟩ := List.any_eq_true.mp h
  rw [preimages] at hq
  split at hq
  · obtain ⟨k, hk, rfl⟩ := List.mem_map.mp hq
    simp only [List.mem_filter, Bool.and_eq_true] at hk
    simp only [CharRange.contains, Bool.and_eq_true, decide_eq_true_eq] at hm
    obtain rfl : n = k := by omega
    exact ⟨hk.1, hk.2.1⟩
  · cases hq

theorem any_preimages_of_mem {r : FoldRule} {s : CharSet} {n : Nat} (hr : r.lo ≤ r.hi)
    (hn : n ∈ r.domain) (hs : s.hasCode (r.apply n) = true) :
    s.hasCode n = true ∨ (r.preimages s).any (·.contains n) = true := by
  by_cases ha : s.hasCode n = true
  · exact .inl ha
  · have hb := bounds_of_mem_domain hr hn
    have hlo : r.image ≤ r.apply n := Nat.le_add_right _ _
    have hhi : r.apply n ≤ r.apply r.hi := by
      simp only [apply]
      omega
    refine .inr (List.any_eq_true.mpr ⟨⟨n, n⟩, ?_, by simp [CharRange.contains]⟩)
    rw [preimages, if_pos (meets_of_hasCode hs hlo hhi)]
    exact List.mem_map.mpr ⟨n, by simp [hn, hs, ha], rfl⟩

/-- Whether no image of a rule is folded by a rule of a list. The list is in increasing order. -/
def avoids (r : FoldRule) : List FoldRule → Bool
  | [] => true
  | s :: ss =>
    if s.hi < r.image then r.avoids ss
    else if r.apply r.hi < s.lo then true
    else s.step == 2 && (r.step == 2 || r.lo == r.hi) && r.image % 2 != s.lo % 2 && r.avoids ss

theorem apply_notMem_domain {r : FoldRule} {rules : List FoldRule} (hr : r.lo ≤ r.hi)
    (hrules : ∀ s ∈ rules, s.lo ≤ s.hi) (hsort : rules.Pairwise fun s q => s.hi < q.lo)
    (ha : r.avoids rules = true) {n : Nat} (hn : n ∈ r.domain) {s : FoldRule} (hs : s ∈ rules) :
    r.apply n ∉ s.domain := by
  intro hm
  have hbn := bounds_of_mem_domain hr hn
  have hbm := bounds_of_mem_domain (hrules s hs) hm
  have hap : r.apply n = r.image + (n - r.lo) := rfl
  have hhi : r.apply r.hi = r.image + (r.hi - r.lo) := rfl
  induction rules with
  | nil => cases hs
  | cons q qs ih =>
    have hc := List.pairwise_cons.mp hsort
    have hq := hrules q List.mem_cons_self
    have next : r.avoids qs = true → s ≠ q → False := by
      intro h hne
      rcases List.mem_cons.mp hs with rfl | hs
      · exact hne rfl
      · exact ih (fun s hs => hrules s (List.mem_cons_of_mem q hs)) hc.2 h hs
    rw [avoids] at ha
    split at ha
    · refine next ha ?_
      intro h
      subst h
      omega
    · split at ha
      · rcases List.mem_cons.mp hs with rfl | hs
        · omega
        · have := hc.1 s hs
          omega
      · simp only [Bool.and_eq_true, Bool.or_eq_true, beq_iff_eq, bne_iff_ne] at ha
        obtain ⟨⟨⟨hstep, hone⟩, hpar⟩, hrest⟩ := ha
        refine next hrest ?_
        intro h
        subst h
        obtain ⟨k, _, hk⟩ := mem_domain.mp hn
        obtain ⟨l, _, hl⟩ := mem_domain.mp hm
        rw [hstep] at hl
        rcases hone with hone | hone
        · rw [hone] at hk
          omega
        · omega

end FoldRule

theorem foldRules_range : ∀ r ∈ foldRules, r.lo ≤ r.hi := by
  decide +kernel

theorem foldRules_sorted : foldRules.Pairwise fun r s => r.hi < s.lo := by
  decide +kernel

theorem foldRules_avoid : foldRules.all (fun r => r.avoids foldRules) = true := by
  decide +kernel

theorem find?_domain {rules : List FoldRule} (hrules : ∀ s ∈ rules, s.lo ≤ s.hi)
    (hsort : rules.Pairwise fun s q => s.hi < q.lo) {r : FoldRule} (hr : r ∈ rules) {n : Nat}
    (hn : n ∈ r.domain) : (rules.find? fun r => r.domain.contains n) = some r := by
  induction rules with
  | nil => cases hr
  | cons q qs ih =>
    have hc := List.pairwise_cons.mp hsort
    have hbn := FoldRule.bounds_of_mem_domain (hrules r hr) hn
    rw [List.find?_cons]
    rcases List.mem_cons.mp hr with rfl | hr
    · simp [hn]
    · have hq : n ∉ q.domain := by
        intro h
        have h1 := FoldRule.bounds_of_mem_domain (hrules q List.mem_cons_self) h
        have h2 := hc.1 r hr
        omega
      simp only [List.contains_eq_mem, hq, decide_false]
      simpa only [List.contains_eq_mem] using
        ih (fun s hs => hrules s (List.mem_cons_of_mem q hs)) hc.2 hr

theorem foldCase_of_mem {r : FoldRule} (hr : r ∈ foldRules) {n : Nat} (hn : n ∈ r.domain) :
    foldCase n = r.apply n := by
  rw [foldCase, find?_domain foldRules_range foldRules_sorted hr hn]

theorem foldCase_of_notMem {n : Nat} (h : ∀ r ∈ foldRules, n ∉ r.domain) : foldCase n = n := by
  have hf : (foldRules.find? fun r => r.domain.contains n) = none :=
    List.find?_eq_none.mpr fun r hr => by simpa using h r hr
  rw [foldCase, hf]

/-- What a rule folds to is not folded again. -/
theorem foldCase_apply {r : FoldRule} (hr : r ∈ foldRules) {n : Nat} (hn : n ∈ r.domain) :
    foldCase (r.apply n) = r.apply n :=
  foldCase_of_notMem fun _ hs => FoldRule.apply_notMem_domain (foldRules_range r hr)
    foldRules_range foldRules_sorted (List.all_eq_true.mp foldRules_avoid r hr) hn hs

theorem foldCase_cases (n : Nat) :
    (∃ r ∈ foldRules, n ∈ r.domain ∧ foldCase n = r.apply n) ∨
      (∀ r ∈ foldRules, n ∉ r.domain) ∧ foldCase n = n := by
  by_cases h : ∃ r ∈ foldRules, n ∈ r.domain
  · obtain ⟨r, hr, hn⟩ := h
    exact .inl ⟨r, hr, hn, foldCase_of_mem hr hn⟩
  · have h' : ∀ r ∈ foldRules, n ∉ r.domain := fun r hr hn => h ⟨r, hr, hn⟩
    exact .inr ⟨h', foldCase_of_notMem h'⟩

theorem foldRules_ascii : ∀ r ∈ foldRules, r.lo = 0x41 ∧ r.hi = 0x5A ∨ 0xB5 ≤ r.lo := by
  decide +kernel

/-- The first characters fold to themselves, but for the capital letters. -/
theorem foldCase_of_lt {n : Nat} (hn : n < 0xB5) (hupper : n < 0x41 ∨ 0x5A < n) :
    foldCase n = n := by
  apply foldCase_of_notMem
  intro r hr hm
  have hb := FoldRule.bounds_of_mem_domain (foldRules_range r hr) hm
  rcases foldRules_ascii r hr with ⟨hlo, hhi⟩ | hlo
  · omega
  · omega

theorem foldCase_foldCase (n : Nat) : foldCase (foldCase n) = foldCase n := by
  rcases foldCase_cases n with ⟨r, hr, hn, h⟩ | ⟨_, h⟩
  · rw [h, foldCase_apply hr hn]
  · rw [h, h]

namespace CharSet

theorem hasCode_extend (s : CharSet) (add : FoldRule → List CharRange) (n : Nat) :
    (CharSet.mk (s.ranges ++ foldRules.flatMap add)).hasCode n = true ↔
      s.hasCode n = true ∨ ∃ r ∈ foldRules, (add r).any (·.contains n) = true := by
  simp only [hasCode, List.any_append, List.any_flatMap, Bool.or_eq_true]
  rw [List.any_eq_true (l := foldRules)]

/-- The characters of a set and what they fold to. -/
theorem hasCode_folded (s : CharSet) (n : Nat) :
    (CharSet.mk (s.ranges ++ foldRules.flatMap fun r => r.images s)).hasCode n = true ↔
      s.hasCode n = true ∨ ∃ m, s.hasCode m = true ∧ foldCase m = n := by
  rw [hasCode_extend]
  constructor
  · intro h
    rcases h with h | ⟨r, hr, h⟩
    · exact .inl h
    · obtain ⟨m, hm, hs, rfl⟩ := FoldRule.mem_of_any_images h
      exact .inr ⟨m, hs, foldCase_of_mem hr hm⟩
  · intro h
    rcases h with h | ⟨m, hs, rfl⟩
    · exact .inl h
    · rcases foldCase_cases m with ⟨r, hr, hm, h⟩ | ⟨_, h⟩
      · rw [h]
        rcases FoldRule.any_images_of_mem (foldRules_range r hr) hm hs with h | h
        · exact .inl h
        · exact .inr ⟨r, hr, h⟩
      · rw [h]
        exact .inl hs

/-- The closure of a set holds what folds as a character of the set. -/
theorem contains_caseClosure (s : CharSet) (c : Char) :
    s.caseClosure.contains c = true ↔
      ∃ n, s.hasCode n = true ∧ foldCase n = foldCase c.toNat := by
  rw [caseClosure, contains_normalize, contains]
  generalize c.toNat = n
  rw [hasCode_extend]
  have hf := hasCode_folded s
  constructor
  · intro h
    rcases h with h | ⟨r, hr, h⟩
    · rcases (hf n).mp h with h | ⟨m, hs, rfl⟩
      · exact ⟨n, h, rfl⟩
      · exact ⟨m, hs, (foldCase_foldCase m).symm⟩
    · obtain ⟨hn, h⟩ := FoldRule.mem_of_any_preimages h
      rw [foldCase_of_mem hr hn]
      rcases (hf _).mp h with h | h
      · exact ⟨_, h, foldCase_apply hr hn⟩
      · exact h
  · intro h
    obtain ⟨m, hs, he⟩ := h
    have hm := (hf _).mpr (.inr ⟨m, hs, he⟩)
    rcases foldCase_cases n with ⟨r, hr, hn, h⟩ | ⟨_, h⟩
    · rw [h] at hm
      rcases FoldRule.any_preimages_of_mem (foldRules_range r hr) hn hm with h | h
      · exact .inl h
      · exact .inr ⟨r, hr, h⟩
    · rw [h] at hm
      exact .inl hm

end CharSet

end BuildLog.Regex
