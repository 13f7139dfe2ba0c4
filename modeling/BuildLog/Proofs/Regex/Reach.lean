import BuildLog.Regex.Arrival

/-! What an expression reaches from a position, said without tables: any match in the usual sense,
preferred or not. -/

namespace BuildLog.Regex

theorem Arrival.after_assoc (a b c : Arrival) : a.after (b.after c) = (a.after b).after c := by
  simp [after, List.append_assoc]

@[simp] theorem Arrival.stop_after (a b : Arrival) : (a.after b).stop = b.stop := rfl

@[simp] theorem Arrival.groups_after (a b : Arrival) :
    (a.after b).groups = b.groups ++ a.groups := rfl

@[simp] theorem Arrival.after_stay (a : Arrival) : a.after ⟨a.stop, []⟩ = a := rfl

@[simp] theorem Arrival.stay_after (i : Nat) (a : Arrival) : (Arrival.mk i []).after a = a := by
  simp [after]

/-- Some rounds of a step, each from where the one before it arrived. -/
def Rounds (step : Nat → Arrival → Prop) : Nat → Nat → Arrival → Prop
  | 0, i, a => a = ⟨i, []⟩
  | k + 1, i, a => ∃ b c, step i b ∧ Rounds step k b.stop c ∧ a = b.after c

/-- The arrivals of an expression from a position of a text. A repetition asks for `min` rounds and
admits `max - min` more. -/
def Expr.Reaches (text : Array Char) : Expr → Nat → Arrival → Prop
  | .empty, i, a => a = ⟨i, []⟩
  | .set s, i, a => (∃ c, text[i]? = some c ∧ s.contains c = true) ∧ a = ⟨i + 1, []⟩
  | .look l, i, a =>
    l.holds (if i = 0 then none else text[i - 1]?) text[i]? = true ∧ a = ⟨i, []⟩
  | .seq x y, i, a => ∃ b c, x.Reaches text i b ∧ y.Reaches text b.stop c ∧ a = b.after c
  | .alt x y, i, a => x.Reaches text i a ∨ y.Reaches text i a
  | .group none x, i, a => x.Reaches text i a
  | .group (some name) x, i, a =>
    ∃ b, x.Reaches text i b ∧ a = ⟨b.stop, ⟨name, i, b.stop⟩ :: b.groups⟩
  | .rep x min max _, i, a =>
    ∃ k, (∀ m, max = some m → k ≤ m - min) ∧ Rounds (x.Reaches text) (min + k) i a

/-- An expression matches the characters of a text from `i` up to `j`. -/
def Expr.Spans (text : Array Char) (e : Expr) (i j : Nat) : Prop :=
  ∃ groups, e.Reaches text i ⟨j, groups⟩

theorem Expr.Spans.of_reaches {text : Array Char} {e : Expr} {i : Nat} {a : Arrival}
    (h : e.Reaches text i a) : e.Spans text i a.stop :=
  ⟨a.groups, h⟩

/-- A step that goes neither back nor beyond `n`. -/
def Forward (n : Nat) (step : Nat → Arrival → Prop) : Prop :=
  ∀ i ≤ n, ∀ a, step i a → i ≤ a.stop ∧ a.stop ≤ n

theorem Forward.rounds {n : Nat} {step : Nat → Arrival → Prop} (hf : Forward n step) (k : Nat) :
    Forward n (Rounds step k) := by
  induction k with
  | zero =>
    intro i hi a h
    subst h
    exact ⟨Nat.le_refl i, hi⟩
  | succ k ih =>
    intro i hi a h
    obtain ⟨b, c, hb, hc, rfl⟩ := h
    have h1 := hf i hi b hb
    have h2 := ih b.stop h1.2 c hc
    exact ⟨Nat.le_trans h1.1 h2.1, h2.2⟩

theorem rounds_append {step : Nat → Arrival → Prop} {k l i : Nat} {a b : Arrival}
    (ha : Rounds step k i a) (hb : Rounds step l a.stop b) : Rounds step (k + l) i (a.after b) := by
  induction k generalizing i a with
  | zero =>
    obtain rfl : a = ⟨i, []⟩ := ha
    simpa using hb
  | succ k ih =>
    obtain ⟨c, d, hc, hd, rfl⟩ := ha
    rw [Nat.succ_add]
    exact ⟨c, d.after b, hc, ih hd hb, (Arrival.after_assoc c d b).symm⟩

theorem exists_of_rounds_add {step : Nat → Arrival → Prop} {k l i : Nat} {a : Arrival}
    (h : Rounds step (k + l) i a) :
    ∃ b c, Rounds step k i b ∧ Rounds step l b.stop c ∧ a = b.after c := by
  induction k generalizing i a with
  | zero => exact ⟨⟨i, []⟩, a, rfl, by simpa using h, by simp⟩
  | succ k ih =>
    rw [Nat.succ_add] at h
    obtain ⟨b, c, hb, hc, rfl⟩ := h
    obtain ⟨d, e, hd, he, rfl⟩ := ih hc
    exact ⟨b.after d, e, ⟨b, d, hb, hd, rfl⟩, he, Arrival.after_assoc b d e⟩

theorem Expr.forward (text : Array Char) (e : Expr) : Forward text.size (e.Reaches text) := by
  induction e with
  | empty =>
    intro i hi a h
    subst h
    exact ⟨Nat.le_refl i, hi⟩
  | set s =>
    intro i hi a h
    obtain ⟨⟨c, hc, _⟩, rfl⟩ := h
    have hlt : i < text.size := (Array.getElem?_eq_some_iff.mp hc).1
    exact ⟨Nat.le_succ i, hlt⟩
  | look l =>
    intro i hi a h
    obtain ⟨_, rfl⟩ := h
    exact ⟨Nat.le_refl i, hi⟩
  | seq x y ihx ihy =>
    intro i hi a h
    obtain ⟨b, c, hb, hc, rfl⟩ := h
    have h1 := ihx i hi b hb
    have h2 := ihy b.stop h1.2 c hc
    exact ⟨Nat.le_trans h1.1 h2.1, h2.2⟩
  | alt x y ihx ihy =>
    intro i hi a h
    rcases h with h | h
    · exact ihx i hi a h
    · exact ihy i hi a h
  | group name x ih =>
    intro i hi a h
    cases name with
    | none => exact ih i hi a h
    | some name =>
      obtain ⟨b, hb, rfl⟩ := h
      exact ih i hi b hb
  | rep x min max greedy ih =>
    intro i hi a h
    obtain ⟨k, _, hk⟩ := h
    exact ih.rounds (min + k) i hi a hk

end BuildLog.Regex
