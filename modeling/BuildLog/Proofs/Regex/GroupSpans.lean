import BuildLog.Proofs.Regex.Reach

/-! The spans of the groups that a match reports lie inside the match. -/

namespace BuildLog.Regex

def GroupSpan.Within (i j : Nat) (g : GroupSpan) : Prop :=
  i ≤ g.start ∧ g.start ≤ g.stop ∧ g.stop ≤ j

theorem GroupSpan.Within.mono {i j i' j' : Nat} {g : GroupSpan} (h : g.Within i j) (hi : i' ≤ i)
    (hj : j ≤ j') : g.Within i' j' :=
  ⟨Nat.le_trans hi h.1, h.2.1, Nat.le_trans h.2.2 hj⟩

/-- A step whose groups lie between the position and the end of the step. -/
def Inner (n : Nat) (step : Nat → Arrival → Prop) : Prop :=
  ∀ i ≤ n, ∀ a, step i a → ∀ g ∈ a.groups, g.Within i a.stop

theorem Inner.andThen {n i : Nat} {first second : Nat → Arrival → Prop} (hf : Forward n first)
    (hs : Forward n second) (hif : Inner n first) (his : Inner n second) (hi : i ≤ n) {b c : Arrival}
    (hb : first i b) (hc : second b.stop c) : ∀ g ∈ (b.after c).groups, g.Within i c.stop := by
  have hbstop := hf i hi b hb
  have hcstop := hs b.stop hbstop.2 c hc
  intro g hg
  rcases List.mem_append.mp hg with hg | hg
  · exact (his b.stop hbstop.2 c hc g hg).mono hbstop.1 (Nat.le_refl c.stop)
  · exact (hif i hi b hb g hg).mono (Nat.le_refl i) hcstop.1

theorem Inner.rounds {n : Nat} {step : Nat → Arrival → Prop} (hf : Forward n step)
    (hin : Inner n step) (k : Nat) : Inner n (Rounds step k) := by
  induction k with
  | zero =>
    intro i _ a ha g hg
    obtain rfl : a = ⟨i, []⟩ := ha
    cases hg
  | succ k ih =>
    intro i hi a ha
    obtain ⟨b, c, hb, hc, rfl⟩ := ha
    exact Inner.andThen hf (hf.rounds k) hin ih hi hb hc

theorem Expr.inner (text : Array Char) (e : Expr) : Inner text.size (e.Reaches text) := by
  induction e with
  | empty =>
    intro i _ a h g hg
    obtain rfl : a = ⟨i, []⟩ := h
    cases hg
  | set s =>
    intro i _ a h g hg
    obtain ⟨_, rfl⟩ := h
    cases hg
  | look l =>
    intro i _ a h g hg
    obtain ⟨_, rfl⟩ := h
    cases hg
  | seq x y ihx ihy =>
    intro i hi a h
    obtain ⟨b, c, hb, hc, rfl⟩ := h
    exact Inner.andThen (x.forward text) (y.forward text) ihx ihy hi hb hc
  | alt x y ihx ihy =>
    intro i hi a h
    rcases h with h | h
    · exact ihx i hi a h
    · exact ihy i hi a h
  | group name x ih =>
    intro i hi a h
    cases name with
    | none => exact ih i hi a h
    | some name =>
      obtain ⟨b, hb, rfl⟩ := h
      intro g hg
      rcases List.mem_cons.mp hg with rfl | hg
      · exact ⟨Nat.le_refl i, (x.forward text i hi b hb).1, Nat.le_refl b.stop⟩
      · exact ih i hi b hb g hg
  | rep x min max greedy ih =>
    intro i hi a h
    obtain ⟨k, _, hk⟩ := h
    exact Inner.rounds (x.forward text) ih (min + k) i hi a hk

end BuildLog.Regex
