import BuildLog.Proofs.Regex.NamedClasses

/-! The flag for the case decides what a pattern matches, and never whether it is a pattern. What can
fail is a set that has to be of single bytes: the other case of an ASCII letter is one too, and
whatever is left out of a class of ASCII is not. -/

namespace BuildLog.Regex

namespace CharSet

variable {s t : CharSet}

theorem isAscii_iff : s.isAscii = true ↔ ∀ r ∈ s.ranges, r.hi < 0x80 := by
  simp [isAscii]

theorem isAscii_union (hs : s.isAscii = true) (ht : t.isAscii = true) :
    (s.union t).isAscii = true :=
  isAscii_iff.mpr (List.forall_mem_append.mpr ⟨isAscii_iff.mp hs, isAscii_iff.mp ht⟩)

theorem isAscii_inter (hs : s.isAscii = true) (t : CharSet) : (s.inter t).isAscii = true := by
  refine isAscii_iff.mpr fun q hq => ?_
  obtain ⟨r, hr, hq⟩ := List.mem_flatMap.mp hq
  obtain ⟨r', _, hq⟩ := List.mem_flatMap.mp hq
  have hhi := isAscii_iff.mp hs r hr
  simp only [CharRange.inter] at hq
  split at hq
  · obtain rfl := List.mem_singleton.mp hq
    exact Nat.lt_of_le_of_lt (Nat.min_le_left ..) hhi
  · cases hq

theorem hi_le_of_mem_minus {q r r' : CharRange} (h : q ∈ r.minus r') : q.hi ≤ r.hi := by
  grind [CharRange.minus]

theorem isAscii_diff (hs : s.isAscii = true) (t : CharSet) : (s.diff t).isAscii = true := by
  obtain ⟨rs⟩ := s
  rw [isAscii_iff] at hs ⊢
  show ∀ r ∈ t.ranges.foldl minusRange rs, r.hi < 0x80
  induction t.ranges generalizing rs with
  | nil => exact hs
  | cons q qs ih =>
    refine ih (minusRange rs q) fun r hr => ?_
    obtain ⟨r', hr', hr⟩ := List.mem_flatMap.mp hr
    exact Nat.lt_of_le_of_lt (hi_le_of_mem_minus hr) (hs r' hr')

theorem isAscii_joinFrom {r : CharRange} {qs : List CharRange} (h : ∀ q ∈ r :: qs, q.hi < 0x80) :
    ∀ q ∈ joinFrom r qs, q.hi < 0x80 := by
  induction qs generalizing r with
  | nil => exact h
  | cons q qs ih =>
    obtain ⟨hr, hqs⟩ := List.forall_mem_cons.mp h
    obtain ⟨hq, hqs'⟩ := List.forall_mem_cons.mp hqs
    rw [joinFrom]
    split
    · exact ih (List.forall_mem_cons.mpr ⟨Nat.max_lt.mpr ⟨hr, hq⟩, hqs'⟩)
    · exact List.forall_mem_cons.mpr ⟨hr, ih hqs⟩

theorem isAscii_normalize (hs : s.isAscii = true) : s.normalize.isAscii = true := by
  have hsorted : ∀ r ∈ sort (s.ranges.filter fun r => r.lo ≤ r.hi), r.hi < 0x80 := fun r hr =>
    isAscii_iff.mp hs r (List.mem_filter.mp ((perm_sort _).mem_iff.mp hr)).1
  refine isAscii_iff.mpr ?_
  simp only [normalize]
  revert hsorted
  cases sort (s.ranges.filter fun r => r.lo ≤ r.hi) with
  | nil => exact fun h => h
  | cons r rs => exact isAscii_joinFrom

theorem not_isAscii_compl (hs : s.isAscii = true) : s.compl.isAscii = false := by
  have hbeyond : ∀ {t : CharSet}, t.isAscii = true → t.hasCode 0x80 = false := by
    intro t ht
    refine List.any_eq_false.mpr fun r hr => ?_
    have := isAscii_iff.mp ht r hr
    simp [CharRange.contains]
    omega
  have hcompl : s.compl.hasCode 0x80 = true := by
    rw [hasCode, compl, diff, any_foldl_minusRange, ← hasCode, ← hasCode, hbeyond hs]
    rfl
  refine Bool.eq_false_iff.mpr fun h => ?_
  rw [hbeyond h] at hcompl
  cases hcompl

end CharSet

namespace Flags

variable {f g : Flags} {s : CharSet}

/-- The same flags, but for the one for the case. -/
def SameButCase (f g : Flags) : Prop :=
  ∃ on, g = { f with ignoreCase := on }

theorem SameButCase.unicode (h : f.SameButCase g) : f.unicode = g.unicode := by
  obtain ⟨on, rfl⟩ := h
  rfl

theorem SameButCase.set (h : f.SameButCase g) (flag : Flag) (on : Bool) :
    (f.set flag on).SameButCase (g.set flag on) := by
  obtain ⟨ignoreCase, rfl⟩ := h
  cases flag with
  | ignoreCase => exact ⟨on, rfl⟩
  | _ => exact ⟨ignoreCase, rfl⟩

theorem SameButCase.apply (h : f.SameButCase g) (change : FlagChange) :
    (f.apply change).SameButCase (g.apply change) := by
  induction change generalizing f g with
  | nil => exact h
  | cons c change ih => exact ih (h.set c.1 c.2)

theorem isAscii_asciiClosure (hs : s.isAscii = true) : (asciiClosure s).isAscii = true := by
  have hletters : ∀ lo hi, ∀ r ∈ (s.inter (.ofRange lo hi)).ranges, r.hi ≤ hi.toNat := by
    intro lo hi r hr
    obtain ⟨q, _, hr⟩ := List.mem_flatMap.mp hr
    obtain ⟨q', hq', hr⟩ := List.mem_flatMap.mp hr
    obtain rfl := List.mem_singleton.mp hq'
    simp only [CharRange.inter] at hr
    split at hr
    · obtain rfl := List.mem_singleton.mp hr
      exact Nat.min_le_right ..
    · cases hr
  refine CharSet.isAscii_normalize (CharSet.isAscii_iff.mpr ?_)
  refine List.forall_mem_append.mpr ⟨List.forall_mem_append.mpr ⟨CharSet.isAscii_iff.mp hs, ?_⟩, ?_⟩
  · refine List.forall_mem_map.mpr fun r hr => ?_
    have := hletters 'A' 'Z' r hr
    have hz : 'Z'.toNat = 0x5A := rfl
    simp only
    omega
  · refine List.forall_mem_map.mpr fun r hr => ?_
    have := hletters 'a' 'z' r hr
    have hz : 'z'.toNat = 0x7A := rfl
    simp only
    omega

theorem isAscii_close (hf : f.unicode = false) (hs : s.isAscii = true) :
    (f.close s).isAscii = true := by
  simp only [close, hf, Bool.false_eq_true, if_false]
  split
  · exact isAscii_asciiClosure hs
  · exact hs

theorem isAscii_of_allow? {t : CharSet} (hf : f.unicode = false) (h : f.allow? s = some t) :
    t.isAscii = true := by
  simp only [allow?, hf, Bool.false_eq_true, false_or] at h
  split at h
  · cases h
    assumption
  · cases h

theorem SameButCase.allow? (h : f.SameButCase g) (s : CharSet) : f.allow? s = g.allow? s := by
  rw [Flags.allow?, Flags.allow?, h.unicode]

/-- A class that is not negated is allowed whatever its case, and one that is never fits in bytes. -/
theorem isSome_allow?_negate_close (negated : Bool) (hs : f.unicode = false → s.isAscii = true) :
    (f.allow? (negate negated (f.close s))).isSome = (f.unicode || !negated) := by
  cases hf : f.unicode with
  | true => simp [allow?, hf]
  | false =>
    have hclose := isAscii_close hf (hs hf)
    cases negated with
    | true => simp [allow?, hf, negate, CharSet.not_isAscii_compl hclose]
    | false => simp [allow?, hf, negate, hclose]

end Flags

namespace ClassTree

variable {f g : Flags} {t : ClassTree} {s : CharSet}

theorem isAscii_posix {ranges : List (Char × Char)} (h : ∀ r ∈ ranges, r.2.toNat < 0x80) :
    (ranges.foldl (fun s r => s.union (.ofRange r.1 r.2)) CharSet.empty).isAscii = true := by
  have hfold : ∀ s : CharSet, s.isAscii = true →
      (ranges.foldl (fun s r => s.union (.ofRange r.1 r.2)) s).isAscii = true := by
    induction ranges with
    | nil => exact fun _ hs => hs
    | cons r ranges ih =>
      obtain ⟨hr, hranges⟩ := List.forall_mem_cons.mp h
      intro s hs
      refine ih hranges _ (CharSet.isAscii_union hs ?_)
      simp [CharSet.isAscii, CharSet.ofRange, hr]
  exact hfold .empty rfl

theorem isAscii_apply {t : CharSet} (o : SetOp) (hs : s.isAscii = true) (ht : t.isAscii = true) :
    (o.apply s t).isAscii = true := by
  cases o with
  | inter => exact CharSet.isAscii_inter hs t
  | diff => exact CharSet.isAscii_diff hs t
  | symmDiff => exact CharSet.isAscii_union (CharSet.isAscii_diff hs t) (CharSet.isAscii_diff ht s)

theorem isAscii_of_chars? (hf : f.unicode = false) (h : t.chars? f = some s) :
    s.isAscii = true := by
  induction t generalizing s with
  | empty =>
    cases h
    rfl
  | char c => exact Flags.isAscii_of_allow? hf h
  | range lo hi => exact Flags.isAscii_of_allow? hf h
  | posix ranges negated => exact Flags.isAscii_of_allow? hf h
  | perl kind negated => exact Flags.isAscii_of_allow? hf h
  | property query negated => simp [chars?, hf] at h
  | bracket negated body ih =>
    obtain ⟨u, _, h⟩ := Option.bind_eq_some_iff.mp h
    exact Flags.isAscii_of_allow? hf h
  | both a b iha ihb =>
    simp only [chars?, bind, Option.bind_eq_some_iff, pure, Option.some.injEq] at h
    obtain ⟨u, hu, v, hv, rfl⟩ := h
    exact CharSet.isAscii_union (iha hu) (ihb hv)
  | op o a b iha ihb =>
    simp only [chars?, bind, Option.bind_eq_some_iff, pure, Option.some.injEq] at h
    obtain ⟨u, hu, v, hv, rfl⟩ := h
    exact isAscii_apply o (Flags.isAscii_close hf (iha hu)) (Flags.isAscii_close hf (ihb hv))

theorem isSome_chars?_bracket (f : Flags) (negated : Bool) (body : ClassTree) :
    ((bracket negated body).chars? f).isSome =
      ((body.chars? f).isSome && (f.unicode || !negated)) := by
  rw [chars?]
  cases hbody : body.chars? f with
  | none => rfl
  | some s =>
    exact Flags.isSome_allow?_negate_close negated fun hf => isAscii_of_chars? hf hbody

theorem isSome_chars?_both (f : Flags) (a b : ClassTree) :
    ((both a b).chars? f).isSome = ((a.chars? f).isSome && (b.chars? f).isSome) := by
  rw [chars?]
  cases a.chars? f <;> cases b.chars? f <;> rfl

theorem isSome_chars?_op (f : Flags) (o : SetOp) (a b : ClassTree) :
    ((op o a b).chars? f).isSome = ((a.chars? f).isSome && (b.chars? f).isSome) := by
  rw [chars?]
  cases a.chars? f <;> cases b.chars? f <;> rfl

theorem isSome_chars?_congr (h : f.SameButCase g) (ht : t.NamesAscii) :
    (t.chars? f).isSome = (t.chars? g).isSome := by
  induction t with
  | empty => rfl
  | char c => rw [chars?, chars?, h.allow?]
  | range lo hi => rw [chars?, chars?, h.allow?]
  | posix ranges negated =>
    have hascii := isAscii_posix ht
    rw [chars?, chars?, Flags.isSome_allow?_negate_close negated fun _ => hascii,
      Flags.isSome_allow?_negate_close negated fun _ => hascii, h.unicode]
  | perl kind negated => rw [chars?, chars?, h.allow?, h.unicode]
  | property query negated =>
    rw [chars?, chars?, h.unicode]
    split
    · rw [Option.isSome_map, Option.isSome_map]
    · rfl
  | bracket negated body ih =>
    rw [isSome_chars?_bracket, isSome_chars?_bracket, ih ht, h.unicode]
  | both a b iha ihb => rw [isSome_chars?_both, isSome_chars?_both, iha ht.1, ihb ht.2]
  | op o a b iha ihb => rw [isSome_chars?_op, isSome_chars?_op, iha ht.1, ihb ht.2]

end ClassTree

namespace Ast

variable {f g : Flags} {a : Ast}

/-- Both results are missing, or both leave the same flags behind them but for the case. -/
def SameFlags {α : Type} (r r' : Option (α × Flags)) : Prop :=
  Option.Rel (fun x y => x.2.SameButCase y.2) r r'

section

variable {α β : Type} {r r' : Option (α × Flags)}

theorem SameFlags.isSome (h : SameFlags r r') : r.isSome = r'.isSome := by
  cases h <;> rfl

theorem SameFlags.map {k k' : α × Flags → β × Flags} (h : SameFlags r r')
    (hk : ∀ x y, x.2.SameButCase y.2 → (k x).2.SameButCase (k' y).2) :
    SameFlags (r.map k) (r'.map k') := by
  cases h with
  | none => exact .none
  | some h => exact .some (hk _ _ h)

theorem SameFlags.bind {k k' : α × Flags → Option (β × Flags)} (h : SameFlags r r')
    (hk : ∀ x y, x.2.SameButCase y.2 → SameFlags (k x) (k' y)) :
    SameFlags (r.bind k) (r'.bind k') := by
  cases h with
  | none => exact .none
  | some h => exact hk _ _ h

end

theorem branches?_sameButCase (h : f.SameButCase g) (ha : a.NamesAscii) :
    SameFlags (a.branches? f) (a.branches? g) := by
  induction a generalizing f g with
  | empty => exact .some h
  | flags change => exact .some (h.apply change)
  | char c byte =>
    rw [branches?, branches?, h.unicode]
    split
    · exact .none
    · exact .some h
  | dot =>
    rw [branches?, branches?, h.unicode]
    split
    · exact .some h
    · exact .none
  | assertion a => exact .some h
  | cls t =>
    have hsome := ClassTree.isSome_chars?_congr h ha
    rw [branches?, branches?]
    cases hf : t.chars? f <;> cases hg : t.chars? g <;> rw [hf, hg] at hsome
    · exact .none
    · cases hsome
    · cases hsome
    · exact .some h
  | group kind body ih =>
    cases kind with
    | capture name => exact (ih h ha).map fun _ _ _ => h
    | plain change => exact (ih (h.apply change) ha).map fun _ _ _ => h
  | rep body min max greedy ih => exact (ih h ha).map fun _ _ _ => h
  | seq a b iha ihb =>
    exact (iha h ha.1).bind fun x y hxy => (ihb hxy ha.2).bind fun x' y' hxy' => .some hxy'
  | alt a b iha ihb =>
    exact (iha h ha.1).bind fun x y hxy => (ihb hxy ha.2).bind fun x' y' hxy' => .some hxy'

theorem resolve_sameButCase (h : f.SameButCase g) (ha : a.NamesAscii) :
    SameFlags (a.resolve f) (a.resolve g) :=
  (branches?_sameButCase h ha).map fun _ _ hxy => hxy

end Ast

end BuildLog.Regex
