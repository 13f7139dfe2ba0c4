import BuildLog.Proofs.Regex.Rows
import BuildLog.Regex.Pattern

/-! Which match is preferred. Behind a greedy repetition whose rounds can end in one place only,
the first arrival that goes on is the one furthest on. -/

namespace BuildLog.Regex

namespace Table

def Single (n : Nat) (t : Table) : Prop :=
  ∀ i ≤ n, (t.row i).length ≤ 1

/-- The arrivals of a row come nearer and nearer. -/
def Descends (n : Nat) (t : Table) : Prop :=
  ∀ i ≤ n, (t.row i).Pairwise fun a b => b.stop < a.stop

/-- An arrival takes a character and stays in the text. -/
def Advances (n : Nat) (t : Table) : Prop :=
  ∀ i ≤ n, ∀ a ∈ t.row i, i < a.stop ∧ a.stop ≤ n

variable {n : Nat} {s t : Table} {p : Nat → Arrival → Prop}

theorem Lists.single (ht : t.Lists n p)
    (h : ∀ i ≤ n, ∀ a b, p i a → p i b → a.stop = b.stop) : t.Single n := by
  intro i hi
  have hd := ht.distinct i hi
  have hs := ht.sound i hi
  cases hr : t.row i with
  | nil => exact Nat.zero_le 1
  | cons a as =>
    cases as with
    | nil => exact Nat.le_refl 1
    | cons b bs =>
      rw [hr] at hd hs
      have hab := (List.pairwise_cons.mp hd).1 b List.mem_cons_self
      have ha := hs a List.mem_cons_self
      have hb := hs b (List.mem_cons_of_mem a List.mem_cons_self)
      exact absurd (h i hi a b ha hb) hab

theorem Lists.advances (ht : t.Lists n p) (hp : Forward n p) (h : ∀ i a, p i a → i < a.stop) :
    t.Advances n := by
  intro i hi a ha
  have hpa := ht.sound i hi a ha
  exact ⟨h i a hpa, (hp i hi a hpa).2⟩

theorem Single.cases (ht : t.Single n) {i : Nat} (hi : i ≤ n) :
    t.row i = [] ∨ ∃ a ∈ t.row i, t.row i = [a] := by
  have hl := ht i hi
  cases hr : t.row i with
  | nil => exact .inl rfl
  | cons a as =>
    rw [hr, List.length_cons] at hl
    obtain rfl : as = [] := List.length_eq_zero_iff.mp (by omega)
    exact .inr ⟨a, List.mem_cons_self, rfl⟩

theorem Single.descends (ht : t.Single n) : t.Descends n := by
  intro i hi
  rcases ht.cases hi with h | ⟨a, _, h⟩
  · rw [h]
    exact .nil
  · rw [h]
    exact List.pairwise_singleton _ a

theorem descends_firsts {row : List Arrival} (h : row.Pairwise fun a b => b.stop < a.stop) :
    (Arrival.firsts row).Pairwise fun a b => b.stop < a.stop :=
  h.sublist (Arrival.firstsFrom_sublist 0 row)

theorem descends_map_after (a : Arrival) {row : List Arrival}
    (h : row.Pairwise fun a b => b.stop < a.stop) :
    (row.map a.after).Pairwise fun a b => b.stop < a.stop :=
  List.pairwise_map.mpr h

theorem andThen_row {i : Nat} (hi : i ≤ n) : (s.andThen n t).row i =
    Arrival.firsts ((s.row i).flatMap fun a => (t.row a.stop).map a.after) :=
  kept_row _ hi

theorem Single.andThen (hs : s.Single n) (hin : ∀ i ≤ n, ∀ a ∈ s.row i, a.stop ≤ n)
    (ht : t.Descends n) : (s.andThen n t).Descends n := by
  intro i hi
  rw [andThen_row hi]
  refine descends_firsts ?_
  rcases hs.cases hi with h | ⟨a, ha, h⟩
  · rw [h]
    exact .nil
  · rw [h, List.flatMap_singleton]
    exact descends_map_after a (ht a.stop (hin i hi a ha))

theorem Single.times (ht : t.Single n) (hin : t.Advances n) (k : Nat) : (times n t k).Single n := by
  induction k with
  | zero => exact fun _ _ => Nat.le_refl 1
  | succ k ih =>
    intro i hi
    rw [times_succ_row k hi]
    refine Nat.le_trans (Arrival.firstsFrom_sublist 0 _).length_le ?_
    rcases ht.cases hi with h | ⟨a, ha, h⟩
    · rw [h]
      exact Nat.zero_le 1
    · rw [h, List.flatMap_singleton, List.length_map]
      exact ih a.stop (hin i hi a ha).2

theorem times_le (hin : t.Advances n) (k : Nat) :
    ∀ i ≤ n, ∀ a ∈ (times n t k).row i, a.stop ≤ n := by
  induction k with
  | zero =>
    intro i hi a ha
    obtain rfl : a = ⟨i, []⟩ := List.mem_singleton.mp ha
    exact hi
  | succ k ih =>
    intro i hi a ha
    rw [times_succ_row k hi] at ha
    obtain ⟨b, hb, c, hc, rfl⟩ := mem_onward.mp (Arrival.mem_firstsFrom ha).1
    exact ih b.stop (hin i hi b hb).2 c hc

/-- A greedy repetition of a step that ends in one place only goes as far as it can first. -/
theorem Single.upTo_row (ht : t.Single n) (hin : t.Advances n) (k : Nat) :
    ∀ i ≤ n, ((upTo n true t k).row i).Pairwise (fun a b => b.stop < a.stop) ∧
      ∀ a ∈ (upTo n true t k).row i, i ≤ a.stop := by
  induction k with
  | zero =>
    intro i _
    refine ⟨List.pairwise_singleton _ _, fun a ha => ?_⟩
    obtain rfl : a = ⟨i, []⟩ := List.mem_singleton.mp ha
    exact Nat.le_refl i
  | succ k ih =>
    intro i hi
    rw [upTo_succ_row true k hi]
    have hrow : ((t.row i).flatMap fun a => ((upTo n true t k).row a.stop).map a.after).Pairwise
          (fun a b => b.stop < a.stop) ∧
        ∀ a ∈ (t.row i).flatMap fun a => ((upTo n true t k).row a.stop).map a.after, i < a.stop := by
      rcases ht.cases hi with h | ⟨a, ha, h⟩
      · rw [h]
        exact ⟨.nil, fun a ha => nomatch ha⟩
      · have hlt := hin i hi a ha
        rw [h, List.flatMap_singleton]
        refine ⟨descends_map_after a (ih a.stop hlt.2).1, fun b hb => ?_⟩
        obtain ⟨c, hc, rfl⟩ := List.mem_map.mp hb
        exact Nat.lt_of_lt_of_le hlt.1 ((ih a.stop hlt.2).2 c hc)
    refine ⟨descends_firsts (List.pairwise_append.mpr ⟨hrow.1, List.pairwise_singleton _ _, ?_⟩),
      fun a ha => ?_⟩
    · intro a ha b hb
      obtain rfl := List.mem_singleton.mp hb
      exact hrow.2 a ha
    · rcases mem_arrange.mp (Arrival.mem_firstsFrom ha).1 with ha | ha
      · exact Nat.le_of_lt (hrow.2 a ha)
      · obtain rfl := List.mem_singleton.mp ha
        exact Nat.le_refl i

theorem Single.rounds (ht : t.Single n) (hin : t.Advances n) (min max : Nat) :
    (rounds n min (some max) true t).Descends n := by
  have hup : ∀ k, (upTo n true t k).Descends n := fun k i hi => (ht.upTo_row hin k i hi).1
  rw [Table.rounds]
  split
  · exact (ht.times hin min).descends
  · split
    · exact hup max
    · exact (ht.times hin min).andThen (times_le hin min) (hup _)

/-- An optional step is taken if it can be, and then goes as far as it prefers. -/
theorem Descends.optional (ht : t.Descends n) (hin : t.Advances n) :
    (Table.rounds n 0 (some 1) true t).Descends n := by
  intro i hi
  have hrow : (Table.rounds n 0 (some 1) true t).row i =
      Arrival.firsts (t.row i ++ [⟨i, []⟩]) := by
    refine (upTo_succ_row true 0 hi).trans ?_
    simp [arrange, upTo, stay, List.flatMap_singleton']
  rw [hrow]
  refine descends_firsts (List.pairwise_append.mpr ⟨ht i hi, List.pairwise_singleton _ _, ?_⟩)
  intro a ha b hb
  obtain rfl := List.mem_singleton.mp hb
  exact (hin i hi a ha).1

end Table

namespace Expr

variable {text : Array Char} {x y : Expr} {i : Nat} {a : Arrival}

theorem head?_seq (hi : i ≤ text.size) : (((seq x y).table text).row i).head? =
    ((x.table text).row i).findSome? fun b => ((y.table text).row b.stop).head?.map b.after := by
  have hrow : ((seq x y).table text).row i = Arrival.firsts
      (((x.table text).row i).flatMap fun b => ((y.table text).row b.stop).map b.after) :=
    Table.andThen_row hi
  simp only [hrow, Arrival.head?_firsts, List.head?_flatMap, List.head?_map]

theorem head?_empty_seq (hi : i ≤ text.size) :
    (((seq .empty y).table text).row i).head? = ((y.table text).row i).head? := by
  have hrow : ((empty.table text).row i) = [⟨i, []⟩] := rfl
  have hafter : (Arrival.mk i []).after = id := funext (Arrival.stay_after i)
  rw [head?_seq hi, hrow, List.findSome?_singleton, hafter, Option.map_id]
  rfl

theorem head?_look_seq {l : Look} (hi : i ≤ text.size)
    (hl : l.holds (if i = 0 then none else text[i - 1]?) text[i]? = true) :
    (((seq (.look l) y).table text).row i).head? = ((y.table text).row i).head? := by
  have hrow : ((look l).table text).row i = [⟨i, []⟩] := if_pos hl
  have hafter : (Arrival.mk i []).after = id := funext (Arrival.stay_after i)
  rw [head?_seq hi, hrow, List.findSome?_singleton, hafter, Option.map_id]
  rfl

theorem descends_group (name : String) (hx : (x.table text).Descends text.size) :
    ((group (some name) x).table text).Descends text.size :=
  fun i hi => List.pairwise_map.mpr (hx i hi)

theorem reaches_of_head? (hi : i ≤ text.size) (h : ((x.table text).row i).head? = some a) :
    x.Reaches text i a :=
  (x.lists_table text).sound i hi a (List.mem_of_head? h)

theorem isSome_head? (hi : i ≤ text.size) :
    ((x.table text).row i).head?.isSome = true ↔ ∃ a, x.Reaches text i a := by
  constructor
  · intro h
    obtain ⟨a, ha⟩ := Option.isSome_iff_exists.mp h
    exact ⟨a, reaches_of_head? hi ha⟩
  · intro h
    obtain ⟨a, ha⟩ := h
    obtain ⟨b, hb, _⟩ := (x.lists_table text).complete i hi a ha
    exact List.isSome_head?.mpr (List.ne_nil_of_mem hb)

/-- Behind a part that prefers to go on, the first arrival is one for which the part went as far as
what follows it allows. -/
theorem furthest_of_head?_seq (hx : (x.table text).Descends text.size) (hi : i ≤ text.size)
    (h : (((seq x y).table text).row i).head? = some a) :
    ∃ b c, x.Reaches text i b ∧ y.Reaches text b.stop c ∧ a = b.after c ∧
      ∀ b' c', x.Reaches text i b' → y.Reaches text b'.stop c' → b'.stop ≤ b.stop := by
  rw [head?_seq hi, List.findSome?_eq_some_iff] at h
  obtain ⟨before, b, behind, hrow, hb, hnone⟩ := h
  obtain ⟨c, hc, rfl⟩ := Option.map_eq_some_iff.mp hb
  have hlists := x.lists_table text
  have hxb : x.Reaches text i b := hlists.sound i hi b (by simp [hrow])
  have hbn : b.stop ≤ text.size := (x.forward text i hi b hxb).2
  refine ⟨b, c, hxb, reaches_of_head? hbn hc, rfl, fun b' c' hb' hc' => ?_⟩
  obtain ⟨d, hd, hdb⟩ := hlists.complete i hi b' hb'
  rw [← hdb] at hc' ⊢
  rw [hrow] at hd
  have hpw := hx i hi
  rw [hrow] at hpw
  rcases List.mem_append.mp hd with hd | hd
  · have hdn : d.stop ≤ text.size := hdb ▸ (x.forward text i hi b' hb').2
    have hsome := (isSome_head? hdn).mpr ⟨c', hc'⟩
    have hn : ((y.table text).row d.stop).head? = none := Option.map_eq_none_iff.mp (hnone d hd)
    rw [hn] at hsome
    cases hsome
  · rcases List.mem_cons.mp hd with rfl | hd
    · exact Nat.le_refl _
    · have hbd := (List.pairwise_cons.mp (List.pairwise_append.mp hpw).2.1).1 d hd
      exact Nat.le_of_lt hbd

end Expr

end BuildLog.Regex

namespace BuildLog.Pattern

/-- A pattern that can match at the start of a text only has the first arrival from there as its
match. -/
theorem find?_of_anchored {p : Pattern} {text : List Char}
    (h : ∀ i a, 0 < i → i ≤ text.length → ¬ p.expr.Reaches text.toArray i a) :
    p.find? text =
      ((p.expr.table text.toArray).row 0).head?.map fun a => ⟨0, a.stop, a.groups⟩ := by
  have hnil : ∀ i ∈ List.range text.length,
      ((p.expr.table text.toArray).row (i + 1)).head? = none := by
    intro i hi
    have hle : i + 1 ≤ text.toArray.size := List.mem_range.mp hi
    have hrow := (Regex.Expr.row_eq_nil_iff (e := p.expr) hle).mpr
      fun j hj => h (i + 1) _ (Nat.succ_pos i) hle hj.choose_spec
    rw [hrow]
    rfl
  rw [find?, List.range_succ_eq_map, List.findSome?_cons]
  cases ((p.expr.table text.toArray).row 0).head? with
  | some a => rfl
  | none =>
    refine List.findSome?_eq_none_iff.mpr fun i hi => ?_
    obtain ⟨j, hj, rfl⟩ := List.mem_map.mp hi
    rw [hnil j hj]
    rfl

end BuildLog.Pattern
