import BuildLog.Proofs.Regex.Reach

/-! The table of an expression lists what the expression reaches: nothing else, every end of a
match, and each end once. -/

namespace BuildLog.Regex

/-- Keeping the first arrival at each end loses no end and no order. -/
theorem Arrival.mem_firstsFrom {seen : Nat} {as : List Arrival} {a : Arrival}
    (h : a ∈ firstsFrom seen as) : a ∈ as ∧ seen.testBit a.stop = false := by
  induction as generalizing seen with
  | nil => cases h
  | cons b bs ih =>
    rw [firstsFrom] at h
    split at h
    · exact ⟨List.mem_cons_of_mem b (ih h).1, (ih h).2⟩
    · rename_i hb
      rcases List.mem_cons.mp h with rfl | h
      · exact ⟨List.mem_cons_self, by simpa using hb⟩
      · have hs := (ih h).2
        simp only [Nat.testBit_or, Bool.or_eq_false_iff] at hs
        exact ⟨List.mem_cons_of_mem b (ih h).1, hs.1⟩

theorem Arrival.testBit_shiftLeft_one (i j : Nat) : (1 <<< i).testBit j = decide (i = j) := by
  rw [Nat.shiftLeft_eq, Nat.one_mul, Nat.testBit_two_pow]

theorem Arrival.exists_mem_firstsFrom {seen : Nat} {as : List Arrival} {a : Arrival} (h : a ∈ as)
    (hs : seen.testBit a.stop = false) : ∃ b ∈ firstsFrom seen as, b.stop = a.stop := by
  induction as generalizing seen with
  | nil => cases h
  | cons b bs ih =>
    rw [firstsFrom]
    by_cases hb : seen.testBit b.stop = true
    · rw [if_pos hb]
      rcases List.mem_cons.mp h with rfl | h
      · rw [hs] at hb
        cases hb
      · exact ih h hs
    · rw [if_neg hb]
      by_cases he : b.stop = a.stop
      · exact ⟨b, List.mem_cons_self, he⟩
      · rcases List.mem_cons.mp h with rfl | h
        · exact absurd rfl he
        · have hs' : (seen ||| 1 <<< b.stop).testBit a.stop = false := by
            rw [Nat.testBit_or, hs, testBit_shiftLeft_one, decide_eq_false he]
            rfl
          obtain ⟨c, hc, hca⟩ := ih h hs'
          exact ⟨c, List.mem_cons_of_mem b hc, hca⟩

theorem Arrival.pairwise_firstsFrom (seen : Nat) (as : List Arrival) :
    (firstsFrom seen as).Pairwise fun a b => a.stop ≠ b.stop := by
  induction as generalizing seen with
  | nil => exact .nil
  | cons b bs ih =>
    rw [firstsFrom]
    split
    · exact ih seen
    · refine List.pairwise_cons.mpr ⟨fun a ha he => ?_, ih _⟩
      have h := (mem_firstsFrom ha).2
      rw [Nat.testBit_or, testBit_shiftLeft_one, decide_eq_true he, Bool.or_true] at h
      cases h

theorem Arrival.firstsFrom_sublist (seen : Nat) (as : List Arrival) :
    (firstsFrom seen as).Sublist as := by
  induction as generalizing seen with
  | nil => exact .slnil
  | cons b bs ih =>
    rw [firstsFrom]
    split
    · exact (ih seen).cons b
    · exact (ih _).cons_cons b

theorem Arrival.head?_firsts (as : List Arrival) : (firsts as).head? = as.head? := by
  cases as with
  | nil => rfl
  | cons a as => simp [firsts, firstsFrom]

/-- A table that holds from each position up to `n` what is reached from there, each end once. -/
structure Table.Lists (n : Nat) (t : Table) (step : Nat → Arrival → Prop) : Prop where
  sound : ∀ i ≤ n, ∀ a ∈ t.row i, step i a
  complete : ∀ i ≤ n, ∀ a, step i a → ∃ b ∈ t.row i, b.stop = a.stop
  distinct : ∀ i ≤ n, (t.row i).Pairwise fun a b => a.stop ≠ b.stop

namespace Table

variable {n : Nat} {s t : Table} {p q : Nat → Arrival → Prop}

/-- What a row has to be for its first arrivals to list a step. -/
theorem lists_of_firsts {row : Nat → List Arrival} (ht : ∀ i ≤ n, t.row i = Arrival.firsts (row i))
    (sound : ∀ i ≤ n, ∀ a ∈ row i, p i a)
    (complete : ∀ i ≤ n, ∀ a, p i a → ∃ b ∈ row i, b.stop = a.stop) : t.Lists n p where
  sound := by
    intro i hi a ha
    rw [ht i hi] at ha
    exact sound i hi a (Arrival.mem_firstsFrom ha).1
  complete := by
    intro i hi a ha
    obtain ⟨b, hb, hba⟩ := complete i hi a ha
    obtain ⟨c, hc, hcb⟩ := Arrival.exists_mem_firstsFrom hb (Nat.zero_testBit _)
    rw [ht i hi]
    exact ⟨c, hc, hcb.trans hba⟩
  distinct := by
    intro i hi
    rw [ht i hi]
    exact Arrival.pairwise_firstsFrom 0 _

theorem Lists.congr (ht : t.Lists n p) (h : ∀ i ≤ n, ∀ a, p i a ↔ q i a) : t.Lists n q where
  sound := fun i hi a ha => (h i hi a).mp (ht.sound i hi a ha)
  complete := fun i hi a ha => ht.complete i hi a ((h i hi a).mpr ha)
  distinct := ht.distinct

theorem mem_onward {row : List Arrival} {next : Nat → List Arrival} {a : Arrival} :
    (a ∈ row.flatMap fun b => (next b.stop).map b.after) ↔
      ∃ b ∈ row, ∃ c ∈ next b.stop, a = b.after c := by
  simp only [List.mem_flatMap, List.mem_map, eq_comm]

theorem mem_arrange {greedy : Bool} {more stop : List Arrival} {a : Arrival} :
    a ∈ arrange greedy more stop ↔ a ∈ more ∨ a ∈ stop := by
  cases greedy <;> simp [arrange, or_comm]

theorem lists_stay (n : Nat) : stay.Lists n fun i a => a = ⟨i, []⟩ where
  sound := fun _ _ _ ha => List.mem_singleton.mp ha
  complete := by
    intro i _ a h
    subst h
    exact ⟨_, List.mem_singleton_self _, rfl⟩
  distinct := fun _ _ => List.pairwise_singleton _ _

theorem Lists.onward (hs : s.Lists n p) (ht : t.Lists n q) (hp : Forward n p) :
    (∀ i ≤ n, ∀ a ∈ (s.row i).flatMap fun b => (t.row b.stop).map b.after,
      ∃ b c, p i b ∧ q b.stop c ∧ a = b.after c) ∧
    (∀ i ≤ n, ∀ a, (∃ b c, p i b ∧ q b.stop c ∧ a = b.after c) →
      ∃ d ∈ (s.row i).flatMap fun b => (t.row b.stop).map b.after, d.stop = a.stop) := by
  constructor
  · intro i hi a ha
    obtain ⟨b, hb, c, hc, rfl⟩ := mem_onward.mp ha
    have h1 := hs.sound i hi b hb
    exact ⟨b, c, h1, ht.sound b.stop (hp i hi b h1).2 c hc, rfl⟩
  · intro i hi a h
    obtain ⟨b, c, hb, hc, rfl⟩ := h
    obtain ⟨b', hb', he⟩ := hs.complete i hi b hb
    obtain ⟨c', hc', he'⟩ := ht.complete b.stop (hp i hi b hb).2 c hc
    exact ⟨b'.after c', mem_onward.mpr ⟨b', hb', c', he ▸ hc', rfl⟩, he'⟩

theorem Lists.andThen (hs : s.Lists n p) (ht : t.Lists n q) (hp : Forward n p) :
    (s.andThen n t).Lists n fun i a => ∃ b c, p i b ∧ q b.stop c ∧ a = b.after c :=
  lists_of_firsts (fun _ hi => kept_row _ hi) (hs.onward ht hp).1 (hs.onward ht hp).2

theorem Lists.orElse (hs : s.Lists n p) (ht : t.Lists n q) :
    (s.orElse n t).Lists n fun i a => p i a ∨ q i a := by
  refine lists_of_firsts (fun _ hi => kept_row _ hi) ?_ ?_
  · intro i hi a ha
    rcases List.mem_append.mp ha with ha | ha
    · exact .inl (hs.sound i hi a ha)
    · exact .inr (ht.sound i hi a ha)
  · intro i hi a h
    rcases h with ha | ha
    · obtain ⟨b, hb, he⟩ := hs.complete i hi a ha
      exact ⟨b, List.mem_append_left _ hb, he⟩
    · obtain ⟨b, hb, he⟩ := ht.complete i hi a ha
      exact ⟨b, List.mem_append_right _ hb, he⟩

theorem times_succ_row {i : Nat} (k : Nat) (hi : i ≤ n) : (times n t (k + 1)).row i =
    Arrival.firsts ((t.row i).flatMap fun a => ((times n t k).row a.stop).map a.after) := by
  rw [times]
  exact kept_row _ hi

theorem upTo_succ_row {i : Nat} (greedy : Bool) (k : Nat) (hi : i ≤ n) :
    (upTo n greedy t (k + 1)).row i = Arrival.firsts (arrange greedy
      ((t.row i).flatMap fun a => ((upTo n greedy t k).row a.stop).map a.after) [⟨i, []⟩]) := by
  rw [upTo]
  exact kept_row _ hi

theorem Lists.times (ht : t.Lists n p) (hp : Forward n p) (k : Nat) :
    (times n t k).Lists n (Rounds p k) := by
  induction k with
  | zero => exact lists_stay n
  | succ k ih =>
    exact lists_of_firsts (fun _ hi => times_succ_row k hi) (ht.onward ih hp).1
      (ht.onward ih hp).2

theorem Lists.upTo (ht : t.Lists n p) (hp : Forward n p) (greedy : Bool) (k : Nat) :
    (upTo n greedy t k).Lists n fun i a => ∃ l ≤ k, Rounds p l i a := by
  induction k with
  | zero =>
    refine (lists_stay n).congr fun i _ a => ⟨fun h => ⟨0, Nat.le_refl 0, h⟩, ?_⟩
    intro h
    obtain ⟨l, hl, h⟩ := h
    obtain rfl := Nat.le_zero.mp hl
    exact h
  | succ k ih =>
    refine lists_of_firsts (fun _ hi => upTo_succ_row greedy k hi) ?_ ?_
    · intro i hi a ha
      rcases mem_arrange.mp ha with ha | ha
      · obtain ⟨b, c, hb, ⟨l, hl, hc⟩, rfl⟩ := (ht.onward ih hp).1 i hi a ha
        exact ⟨l + 1, Nat.succ_le_succ hl, b, c, hb, hc, rfl⟩
      · exact ⟨0, Nat.zero_le _, List.mem_singleton.mp ha⟩
    · intro i hi a h
      obtain ⟨l, hl, h⟩ := h
      cases l with
      | zero =>
        obtain rfl : a = ⟨i, []⟩ := h
        exact ⟨_, mem_arrange.mpr (.inr (List.mem_singleton_self _)), rfl⟩
      | succ l =>
        obtain ⟨b, c, hb, hc, rfl⟩ := h
        obtain ⟨d, hd, he⟩ := (ht.onward ih hp).2 i hi _
          ⟨b, c, hb, ⟨l, Nat.le_of_succ_le_succ hl, hc⟩, rfl⟩
        exact ⟨d, mem_arrange.mpr (.inl hd), he⟩

theorem drop_loopRows (n : Nat) (greedy : Bool) (t : Table) (k l : Nat) :
    (loopRows n greedy t (k + l)).drop l = loopRows n greedy t k := by
  induction l with
  | zero => exact List.drop_zero
  | succ l ih => rw [← Nat.add_assoc, loopRows, List.drop_succ_cons, ih]

theorem loop_row (n : Nat) (greedy : Bool) (t : Table) (i : Nat) :
    (loop n greedy t).row i =
      (((loopRows n greedy t (n + 1))[i]?).map Thunk.get).getD [] := by
  simp only [loop, List.size_toArray, List.getElem_toArray]
  by_cases h : i < (loopRows n greedy t (n + 1)).length
  · simp [h]
  · simp [h]

/-- A row of a loop goes on with the rows of the positions behind. -/
theorem loop_row_eq {i : Nat} (greedy : Bool) (t : Table) (hi : i ≤ n) :
    (loop n greedy t).row i = Arrival.firsts (arrange greedy
      ((t.row i).flatMap fun a =>
        if i < a.stop then ((loop n greedy t).row a.stop).map a.after else []) [⟨i, []⟩]) := by
  have hn : n + 1 = (n - i + 1) + i := by omega
  have hd := drop_loopRows n greedy t (n - i + 1) i
  have hd' := drop_loopRows n greedy t (n - i) (i + 1)
  rw [← hn] at hd
  rw [show n - i + (i + 1) = n + 1 by omega] at hd'
  have hi' : (loopRows n greedy t (n + 1))[i]? = (loopRows n greedy t (n - i + 1))[0]? := by
    rw [← hd, List.getElem?_drop]
    rfl
  have hrest : ∀ j, i < j → (loopRows n greedy t (n - i))[j - i - 1]? =
      (loopRows n greedy t (n + 1))[j]? := by
    intro j hj
    rw [← hd', List.getElem?_drop]
    congr 1
    omega
  rw [loop_row, hi', loopRows]
  simp only [List.getElem?_cons_zero, Option.map_some, Option.getD_some, Thunk.get]
  rw [show n - (n - i) = i by omega]
  refine congrArg (fun f => Arrival.firsts (arrange greedy ((t.row i).flatMap f) [⟨i, []⟩]))
    (funext fun a => ?_)
  by_cases ha : i < a.stop
  · rw [if_pos ha, if_pos ha, hrest a.stop ha, loop_row]
    cases (loopRows n greedy t (n + 1))[a.stop]? <;> rfl
  · rw [if_neg ha, if_neg ha]

theorem Lists.loop_sound (ht : t.Lists n p) (hp : Forward n p) (greedy : Bool) {i : Nat}
    (hi : i ≤ n) {a : Arrival} (ha : a ∈ (loop n greedy t).row i) : ∃ k, Rounds p k i a := by
  induction hd : n - i using Nat.strongRecOn generalizing i a with
  | ind d ih =>
    rw [loop_row_eq greedy t hi] at ha
    rcases mem_arrange.mp (Arrival.mem_firstsFrom ha).1 with ha | ha
    · obtain ⟨b, hb, ha⟩ := List.mem_flatMap.mp ha
      by_cases hlt : i < b.stop
      · rw [if_pos hlt] at ha
        obtain ⟨c, hc, rfl⟩ := List.mem_map.mp ha
        have hpb := ht.sound i hi b hb
        have hle := (hp i hi b hpb).2
        obtain ⟨k, hk⟩ := ih (n - b.stop) (by omega) hle hc rfl
        exact ⟨k + 1, b, c, hpb, hk, rfl⟩
      · rw [if_neg hlt] at ha
        cases ha
    · exact ⟨0, List.mem_singleton.mp ha⟩

theorem Lists.loop_complete (ht : t.Lists n p) (hp : Forward n p) (greedy : Bool) {k i : Nat}
    (hi : i ≤ n) {a : Arrival} (ha : Rounds p k i a) :
    ∃ b ∈ (loop n greedy t).row i, b.stop = a.stop := by
  induction k generalizing i a with
  | zero =>
    obtain rfl : a = ⟨i, []⟩ := ha
    rw [loop_row_eq greedy t hi]
    exact Arrival.exists_mem_firstsFrom (mem_arrange.mpr (.inr (List.mem_singleton_self _)))
      (Nat.zero_testBit _)
  | succ k ih =>
    obtain ⟨b, c, hb, hc, rfl⟩ := ha
    have hbi := hp i hi b hb
    obtain ⟨c', hc', he'⟩ := ih hbi.2 hc
    by_cases hlt : i < b.stop
    · obtain ⟨b', hb', he⟩ := ht.complete i hi b hb
      have hm : b'.after c' ∈ (t.row i).flatMap fun a =>
          if i < a.stop then ((loop n greedy t).row a.stop).map a.after else [] := by
        refine List.mem_flatMap.mpr ⟨b', hb', ?_⟩
        rw [he, if_pos hlt]
        exact List.mem_map.mpr ⟨c', hc', rfl⟩
      obtain ⟨d, hd, hde⟩ := Arrival.exists_mem_firstsFrom
        (mem_arrange.mpr (.inl hm) : _ ∈ arrange greedy _ [⟨i, []⟩]) (Nat.zero_testBit _)
      rw [loop_row_eq greedy t hi]
      exact ⟨d, hd, hde.trans he'⟩
    · have hbe : b.stop = i := by omega
      rw [hbe] at hc'
      exact ⟨c', hc', he'⟩

theorem plus_row {i : Nat} (greedy : Bool) (hi : i ≤ n) : (plus n greedy t).row i =
    Arrival.firsts ((t.row i).flatMap fun a =>
      if i < a.stop then ((loop n greedy t).row a.stop).map a.after else [a]) := by
  rw [plus]
  exact kept_row _ hi

theorem rounds_zero_row {i : Nat} (greedy : Bool) (hi : i ≤ n) :
    (Table.rounds n 0 none greedy t).row i =
      Arrival.firsts (arrange greedy ((plus n greedy t).row i) [⟨i, []⟩]) := by
  rw [Table.rounds]
  exact kept_row _ hi

theorem Lists.plus (ht : t.Lists n p) (hp : Forward n p) (greedy : Bool) :
    (plus n greedy t).Lists n fun i a => ∃ k, Rounds p (k + 1) i a := by
  refine lists_of_firsts (fun _ hi => plus_row greedy hi) ?_ ?_
  · intro i hi a ha
    obtain ⟨b, hb, ha⟩ := List.mem_flatMap.mp ha
    have hpb := ht.sound i hi b hb
    by_cases hlt : i < b.stop
    · rw [if_pos hlt] at ha
      obtain ⟨c, hc, rfl⟩ := List.mem_map.mp ha
      obtain ⟨k, hk⟩ := ht.loop_sound hp greedy (hp i hi b hpb).2 hc
      exact ⟨k, b, c, hpb, hk, rfl⟩
    · rw [if_neg hlt, List.mem_singleton] at ha
      subst ha
      exact ⟨0, a, ⟨a.stop, []⟩, hpb, rfl, rfl⟩
  · intro i hi a h
    obtain ⟨k, ha⟩ := h
    have taken : ∀ {b c : Arrival} {l : Nat}, p i b → Rounds p l b.stop c → i < b.stop →
        ∃ d ∈ (t.row i).flatMap fun a =>
          if i < a.stop then ((loop n greedy t).row a.stop).map a.after else [a],
        d.stop = (b.after c).stop := by
      intro b c l hb hc hlt
      obtain ⟨b', hb', he⟩ := ht.complete i hi b hb
      obtain ⟨c', hc', he'⟩ := ht.loop_complete hp greedy (hp i hi b hb).2 hc
      refine ⟨b'.after c', List.mem_flatMap.mpr ⟨b', hb', ?_⟩, he'⟩
      rw [he, if_pos hlt]
      exact List.mem_map.mpr ⟨c', hc', rfl⟩
    induction k generalizing a with
    | zero =>
      obtain ⟨b, c, hb, hc, rfl⟩ := ha
      by_cases hlt : i < b.stop
      · exact taken hb hc hlt
      · obtain rfl : c = ⟨b.stop, []⟩ := hc
        obtain ⟨b', hb', he⟩ := ht.complete i hi b hb
        refine ⟨b', List.mem_flatMap.mpr ⟨b', hb', ?_⟩, he⟩
        rw [he, if_neg hlt]
        exact List.mem_singleton_self b'
    | succ k ih =>
      obtain ⟨b, c, hb, hc, rfl⟩ := ha
      by_cases hlt : i < b.stop
      · exact taken hb hc hlt
      · have hle := (hp i hi b hb).1
        have hbe : b.stop = i := by omega
        rw [hbe] at hc
        exact ih c hc

theorem rounds_seq_iff {k l i : Nat} {a : Arrival} :
    Rounds p (k + l) i a ↔ ∃ b c, Rounds p k i b ∧ Rounds p l b.stop c ∧ a = b.after c :=
  ⟨exists_of_rounds_add, fun ⟨_, _, hb, hc, ha⟩ => ha ▸ rounds_append hb hc⟩

/-- The table of a repetition lists what `min` rounds and some more reach. -/
theorem Lists.rounds (ht : t.Lists n p) (hp : Forward n p) (min : Nat) (max : Option Nat)
    (greedy : Bool) : (rounds n min max greedy t).Lists n
      fun i a => ∃ k, (∀ m, max = some m → k ≤ m - min) ∧ Rounds p (min + k) i a := by
  have hmin := ht.times hp min
  cases max with
  | some max =>
    have hmore := hmin.andThen (ht.upTo hp greedy (max - min)) (hp.rounds min)
    simp only [Table.rounds, Option.some.injEq, forall_eq']
    split
    · rename_i he
      refine hmin.congr fun i _ a => ⟨fun h => ⟨0, Nat.zero_le _, h⟩, ?_⟩
      intro h
      obtain ⟨k, hk, h⟩ := h
      obtain rfl : k = 0 := by omega
      exact h
    · split
      · rename_i h0
        subst h0
        simpa only [Nat.zero_add, Nat.sub_zero] using ht.upTo hp greedy max
      · refine hmore.congr fun i _ a => ?_
        simp only [rounds_seq_iff]
        constructor
        · intro h
          obtain ⟨b, c, hb, ⟨k, hk, hc⟩, rfl⟩ := h
          exact ⟨k, hk, b, c, hb, hc, rfl⟩
        · intro h
          obtain ⟨k, hk, b, c, hb, hc, rfl⟩ := h
          exact ⟨b, c, hb, ⟨k, hk, hc⟩, rfl⟩
  | none =>
    have hplus := ht.plus hp greedy
    simp only [reduceCtorEq, false_implies, implies_true, true_and]
    match min with
    | 0 =>
      refine lists_of_firsts (fun _ hi => rounds_zero_row greedy hi) ?_ ?_
      · intro i hi a ha
        rcases mem_arrange.mp ha with ha | ha
        · obtain ⟨k, hk⟩ := hplus.sound i hi a ha
          exact ⟨k + 1, by rwa [Nat.zero_add]⟩
        · exact ⟨0, List.mem_singleton.mp ha⟩
      · intro i hi a h
        obtain ⟨k, hk⟩ := h
        rw [Nat.zero_add] at hk
        cases k with
        | zero =>
          obtain rfl : a = ⟨i, []⟩ := hk
          exact ⟨_, mem_arrange.mpr (.inr (List.mem_singleton_self _)), rfl⟩
        | succ k =>
          obtain ⟨b, hb, he⟩ := hplus.complete i hi a ⟨k, hk⟩
          exact ⟨b, mem_arrange.mpr (.inl hb), he⟩
    | 1 =>
      simp only [Nat.add_comm 1]
      exact hplus
    | min + 2 =>
      refine ((ht.times hp (min + 1)).andThen hplus (hp.rounds _)).congr fun i _ a => ?_
      have he : ∀ k, min + 2 + k = min + 1 + (k + 1) := by omega
      simp only [he, rounds_seq_iff]
      constructor
      · intro h
        obtain ⟨b, c, hb, ⟨k, hc⟩, rfl⟩ := h
        exact ⟨k, b, c, hb, hc, rfl⟩
      · intro h
        obtain ⟨k, b, c, hb, hc, rfl⟩ := h
        exact ⟨b, c, hb, ⟨k, hc⟩, rfl⟩

end Table

/-- The table of an expression lists what the expression reaches. -/
theorem Expr.lists_table (text : Array Char) (e : Expr) :
    (e.table text).Lists text.size (e.Reaches text) := by
  induction e with
  | empty => exact Table.lists_stay _
  | set s =>
    refine ⟨fun i _ a ha => ?_, fun i _ a ha => ?_, fun i _ => ?_⟩
    · simp only [table] at ha
      split at ha
      · rename_i c hc
        split at ha
        · exact ⟨⟨c, hc, ‹_›⟩, List.mem_singleton.mp ha⟩
        · cases ha
      · cases ha
    · obtain ⟨⟨c, hc, hs⟩, rfl⟩ := ha
      simp [table, hc, hs]
    · simp only [table]
      split
      · split <;> simp
      · exact .nil
  | look l =>
    have hrow : ∀ i, ((look l).table text).row i =
        if l.holds (if i = 0 then none else text[i - 1]?) text[i]? = true then [⟨i, []⟩] else [] :=
      fun _ => rfl
    refine ⟨fun i _ a ha => ?_, fun i _ a ha => ?_, fun i _ => ?_⟩
    · rw [hrow] at ha
      by_cases hl : l.holds (if i = 0 then none else text[i - 1]?) text[i]? = true
      · rw [if_pos hl] at ha
        exact ⟨hl, List.mem_singleton.mp ha⟩
      · rw [if_neg hl] at ha
        cases ha
    · obtain ⟨hl, rfl⟩ := ha
      rw [hrow, if_pos hl]
      exact ⟨_, List.mem_singleton_self _, rfl⟩
    · rw [hrow, apply_ite (List.Pairwise fun a b : Arrival => a.stop ≠ b.stop)]
      simp
  | seq x y ihx ihy => exact ihx.andThen ihy (x.forward text)
  | alt x y ihx ihy => exact ihx.orElse ihy
  | group name x ih =>
    cases name with
    | none => exact ih
    | some name =>
      refine ⟨fun i hi a ha => ?_, fun i hi a ha => ?_, fun i hi => ?_⟩
      · obtain ⟨b, hb, rfl⟩ := List.mem_map.mp ha
        exact ⟨b, ih.sound i hi b hb, rfl⟩
      · obtain ⟨b, hb, rfl⟩ := ha
        obtain ⟨c, hc, he⟩ := ih.complete i hi b hb
        exact ⟨_, List.mem_map.mpr ⟨c, hc, rfl⟩, he⟩
      · exact List.pairwise_map.mpr (ih.distinct i hi)
  | rep x min max greedy ih => exact ih.rounds (x.forward text) min max greedy

theorem Expr.row_eq_nil_iff {text : Array Char} {e : Expr} {i : Nat} (hi : i ≤ text.size) :
    (e.table text).row i = [] ↔ ∀ j, ¬ e.Spans text i j := by
  rw [List.eq_nil_iff_forall_not_mem]
  constructor
  · intro h j h
    obtain ⟨groups, hj⟩ := h
    obtain ⟨b, hb, _⟩ := (e.lists_table text).complete i hi _ hj
    exact h b hb
  · intro h a ha
    exact h a.stop (.of_reaches ((e.lists_table text).sound i hi a ha))

end BuildLog.Regex
