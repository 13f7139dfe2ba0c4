/-! Sets of characters as lists of ranges. The order of the ranges and overlaps between them do not
matter to membership, so union is append and the other operations work range by range;
`normalize` gives the sorted form without overlaps that the size of a compiled set depends on. -/

namespace BuildLog.Regex

/-- The characters from `lo` to `hi`, both included, as code points. -/
structure CharRange where
  lo : Nat
  hi : Nat
  deriving DecidableEq, Repr

namespace CharRange

def contains (r : CharRange) (n : Nat) : Bool :=
  r.lo ≤ n && n ≤ r.hi

def minus (r s : CharRange) : List CharRange :=
  if r.hi < s.lo ∨ s.hi < r.lo then [r]
  else (if r.lo < s.lo then [⟨r.lo, s.lo - 1⟩] else []) ++
    (if s.hi < r.hi then [⟨s.hi + 1, r.hi⟩] else [])

def inter (r s : CharRange) : List CharRange :=
  let lo := max r.lo s.lo
  let hi := min r.hi s.hi
  if lo ≤ hi then [⟨lo, hi⟩] else []

theorem any_minus (r s : CharRange) (n : Nat) :
    (r.minus s).any (·.contains n) = (r.contains n && !s.contains n) := by
  grind [minus, contains]

theorem any_inter (r s : CharRange) (n : Nat) :
    (r.inter s).any (·.contains n) = (r.contains n && s.contains n) := by
  grind [inter, contains]

end CharRange

structure CharSet where
  ranges : List CharRange
  deriving DecidableEq, Repr

namespace CharSet

def hasCode (s : CharSet) (n : Nat) : Bool :=
  s.ranges.any (·.contains n)

def contains (s : CharSet) (c : Char) : Bool :=
  s.hasCode c.toNat

def empty : CharSet := ⟨[]⟩

def all : CharSet := ⟨[⟨0, 0x10FFFF⟩]⟩

def ofRange (lo hi : Char) : CharSet := ⟨[⟨lo.toNat, hi.toNat⟩]⟩

def single (c : Char) : CharSet := ofRange c c

def ofPairs (ps : List (Nat × Nat)) : CharSet := ⟨ps.map fun p => ⟨p.1, p.2⟩⟩

def union (s t : CharSet) : CharSet := ⟨s.ranges ++ t.ranges⟩

def minusRange (rs : List CharRange) (r : CharRange) : List CharRange :=
  rs.flatMap (·.minus r)

def diff (s t : CharSet) : CharSet := ⟨t.ranges.foldl minusRange s.ranges⟩

def compl (s : CharSet) : CharSet := all.diff s

def inter (s t : CharSet) : CharSet :=
  ⟨s.ranges.flatMap fun r => t.ranges.flatMap fun q => r.inter q⟩

def symmDiff (s t : CharSet) : CharSet := (s.diff t).union (t.diff s)

/-- Puts a range in front of the first that starts no lower. -/
def insert (r : CharRange) : List CharRange → List CharRange
  | [] => [r]
  | q :: qs => if r.lo ≤ q.lo then r :: q :: qs else q :: insert r qs

def sort (rs : List CharRange) : List CharRange :=
  rs.foldr insert []

/-- Joins neighbours of a list that is sorted by the lower ends. -/
def joinFrom (r : CharRange) : List CharRange → List CharRange
  | [] => [r]
  | q :: qs => if q.lo ≤ r.hi + 1 then joinFrom ⟨r.lo, max r.hi q.hi⟩ qs else r :: joinFrom q qs

def join : List CharRange → List CharRange
  | [] => []
  | r :: rs => joinFrom r rs

/-- The same set with sorted ranges that neither overlap nor touch. -/
def normalize (s : CharSet) : CharSet :=
  ⟨join (sort (s.ranges.filter fun r => r.lo ≤ r.hi))⟩

def isAscii (s : CharSet) : Bool :=
  s.ranges.all fun r => r.hi < 0x80

/-- The only character of the set, if there is just one and the set is normal. -/
def only? (s : CharSet) : Option Nat :=
  match s.ranges with
  | [r] => if r.lo = r.hi then some r.lo else none
  | _ => none

@[simp] theorem contains_empty (c : Char) : empty.contains c = false := rfl

theorem contains_union (s t : CharSet) (c : Char) :
    (s.union t).contains c = (s.contains c || t.contains c) := by
  simp [contains, hasCode, union]

theorem contains_single (a c : Char) : (single a).contains c = true ↔ c = a := by
  simp only [contains, hasCode, single, ofRange, CharRange.contains, List.any_cons, List.any_nil,
    Bool.or_false, Bool.and_eq_true, decide_eq_true_eq]
  constructor
  · intro h
    exact Char.toNat_inj.mp (Nat.le_antisymm h.2 h.1)
  · intro h
    subst h
    exact ⟨Nat.le_refl _, Nat.le_refl _⟩

theorem any_minusRange (rs : List CharRange) (r : CharRange) (n : Nat) :
    (minusRange rs r).any (·.contains n) = (rs.any (·.contains n) && !r.contains n) := by
  induction rs with
  | nil => rfl
  | cons q qs ih =>
    simp only [minusRange, List.flatMap_cons, List.any_append, List.any_cons] at ih ⊢
    rw [ih, CharRange.any_minus, Bool.and_or_distrib_right]

theorem any_foldl_minusRange (rs qs : List CharRange) (n : Nat) :
    (qs.foldl minusRange rs).any (·.contains n) =
      (rs.any (·.contains n) && !qs.any (·.contains n)) := by
  induction qs generalizing rs with
  | nil => simp
  | cons q qs ih => simp only [List.foldl_cons, ih, any_minusRange, List.any_cons, Bool.not_or,
      Bool.and_assoc]

theorem contains_diff (s t : CharSet) (c : Char) :
    (s.diff t).contains c = (s.contains c && !t.contains c) :=
  any_foldl_minusRange s.ranges t.ranges c.toNat

theorem contains_all (c : Char) : all.contains c = true := by
  have h : c.toNat < 0xD800 ∨ 0xDFFF < c.toNat ∧ c.toNat < 0x110000 := c.valid
  simp only [contains, hasCode, all, CharRange.contains, List.any_cons, List.any_nil,
    Bool.or_false, Bool.and_eq_true, decide_eq_true_eq]
  omega

theorem contains_compl (s : CharSet) (c : Char) : s.compl.contains c = !s.contains c := by
  rw [compl, contains_diff, contains_all, Bool.true_and]

theorem contains_inter (s t : CharSet) (c : Char) :
    (s.inter t).contains c = (s.contains c && t.contains c) := by
  simp only [contains, hasCode, inter]
  induction s.ranges with
  | nil => rfl
  | cons r rs ih =>
    have h : ((t.ranges.flatMap fun q => r.inter q).any (·.contains c.toNat)) =
        (r.contains c.toNat && t.ranges.any (·.contains c.toNat)) := by
      induction t.ranges with
      | nil => simp
      | cons q qs ihq =>
        simp only [List.flatMap_cons, List.any_append, List.any_cons, ihq, CharRange.any_inter,
          Bool.and_or_distrib_left]
    simp only [List.flatMap_cons, List.any_append, List.any_cons, ih, h, Bool.and_or_distrib_right]

theorem any_joinFrom (r : CharRange) (qs : List CharRange) (hr : r.lo ≤ r.hi)
    (hs : (r :: qs).Pairwise fun a b => a.lo ≤ b.lo) (hq : ∀ q ∈ qs, q.lo ≤ q.hi) (n : Nat) :
    (joinFrom r qs).any (·.contains n) = (r.contains n || qs.any (·.contains n)) := by
  induction qs generalizing r with
  | nil => rfl
  | cons q qs ih =>
    have hq' := hq q (List.mem_cons_self ..)
    have hrq : r.lo ≤ q.lo := (List.pairwise_cons.mp hs).1 q (List.mem_cons_self ..)
    rw [joinFrom]
    split
    · rename_i hj
      rw [ih]
      · have : (CharRange.mk r.lo (max r.hi q.hi)).contains n = (r.contains n || q.contains n) := by
          grind [CharRange.contains]
        simp only [this, List.any_cons, Bool.or_assoc]
      · simp only
        omega
      · have h := List.pairwise_cons.mp (List.pairwise_cons.mp hs).2
        exact List.pairwise_cons.mpr ⟨fun a ha => Nat.le_trans hrq (h.1 a ha), h.2⟩
      · exact fun a ha => hq a (List.mem_cons_of_mem _ ha)
    · rw [List.any_cons, ih q hq' (List.pairwise_cons.mp hs).2
        (fun a ha => hq a (List.mem_cons_of_mem _ ha)), List.any_cons]

theorem any_filter_nonempty (rs : List CharRange) (n : Nat) :
    (rs.filter fun r => r.lo ≤ r.hi).any (·.contains n) = rs.any (·.contains n) := by
  induction rs with
  | nil => rfl
  | cons r rs ih =>
    by_cases h : r.lo ≤ r.hi
    · simp [h, ih]
    · have : r.contains n = false := by grind [CharRange.contains]
      simp [h, ih, this]

theorem perm_insert (r : CharRange) (rs : List CharRange) : (insert r rs).Perm (r :: rs) := by
  induction rs with
  | nil => exact .refl _
  | cons q qs ih =>
    rw [insert]
    split
    · exact .refl _
    · exact (ih.cons q).trans (.swap r q qs)

theorem pairwise_insert {r : CharRange} {rs : List CharRange}
    (h : rs.Pairwise fun a b => a.lo ≤ b.lo) : (insert r rs).Pairwise fun a b => a.lo ≤ b.lo := by
  induction rs with
  | nil => simp [insert]
  | cons q qs ih =>
    have hc := List.pairwise_cons.mp h
    rw [insert]
    split
    · rename_i hr
      refine List.pairwise_cons.mpr ⟨fun a ha => ?_, h⟩
      rcases List.mem_cons.mp ha with rfl | ha
      · exact hr
      · exact Nat.le_trans hr (hc.1 a ha)
    · rename_i hr
      refine List.pairwise_cons.mpr ⟨fun a ha => ?_, ih hc.2⟩
      rcases List.mem_cons.mp ((perm_insert r qs).mem_iff.mp ha) with rfl | ha
      · omega
      · exact hc.1 a ha

theorem perm_sort (rs : List CharRange) : (sort rs).Perm rs := by
  induction rs with
  | nil => exact .refl _
  | cons r rs ih => exact (perm_insert r _).trans (ih.cons r)

theorem pairwise_sort (rs : List CharRange) : (sort rs).Pairwise fun a b => a.lo ≤ b.lo := by
  induction rs with
  | nil => exact .nil
  | cons r rs ih => exact pairwise_insert ih

theorem contains_normalize (s : CharSet) (c : Char) : s.normalize.contains c = s.contains c := by
  simp only [contains, hasCode, normalize]
  rw [← any_filter_nonempty s.ranges]
  have hp := perm_sort (s.ranges.filter fun r => r.lo ≤ r.hi)
  have hs := pairwise_sort (s.ranges.filter fun r => r.lo ≤ r.hi)
  have hq : ∀ q ∈ sort (s.ranges.filter fun r => r.lo ≤ r.hi), q.lo ≤ q.hi := fun q hq => by
    simpa using (List.mem_filter.mp (hp.mem_iff.mp hq)).2
  rw [← hp.any_eq]
  revert hs hq
  generalize sort (s.ranges.filter fun r => r.lo ≤ r.hi) = rs
  intro hs hq
  cases rs with
  | nil => rfl
  | cons r rs =>
    exact any_joinFrom r rs (hq r (List.mem_cons_self ..)) hs
      (fun q h => hq q (List.mem_cons_of_mem _ h)) c.toNat

end CharSet

end BuildLog.Regex
