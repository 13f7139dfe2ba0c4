import BuildLog.Proofs.Regex.Words
import BuildLog.Regex.Resolve

/-! Sequences of parts: how deeply they are nested, how the flags pass from one to the next, and what
the whole reaches. -/

namespace BuildLog.Regex

theorem Ast.depthIn_ofParts_le_iff {as : List Ast} {s : Assertion} {n : Nat} :
    (ofParts (as ++ [.assertion s])).depthIn .seq ≤ n ↔ ∀ a ∈ as, a.depth ≤ n := by
  induction as with
  | nil => simp [ofParts, depthIn]
  | cons a as ih =>
    have hcons : ofParts (a :: (as ++ [.assertion s])) =
        .seq a (ofParts (as ++ [.assertion s])) := by
      cases as <;> rfl
    have hdepth : ∀ b : Ast, (Ast.seq a b).depthIn .seq = max a.depth (b.depthIn .seq) := fun b => by
      simp [depthIn, depth]
    rw [List.cons_append, hcons, List.forall_mem_cons, ← ih, hdepth, Nat.max_le]

/-- A sequence of more than one part is nested one level deeper than its deepest part. -/
theorem Ast.depth_ofParts_le_iff {as : List Ast} {s : Assertion} {n : Nat} (h : as ≠ []) :
    (ofParts (as ++ [.assertion s])).depth ≤ n + 1 ↔ ∀ a ∈ as, a.depth ≤ n := by
  obtain ⟨a, as, rfl⟩ := List.exists_cons_of_ne_nil h
  have hdepth : (ofParts (a :: as ++ [.assertion s])).depth =
      (ofParts (a :: as ++ [.assertion s])).depthIn .seq + 1 := by
    cases as <;> simp [ofParts, depth, depthIn, Nat.add_comm]
  rw [hdepth, Nat.add_le_add_iff_right, depthIn_ofParts_le_iff]

/-- Applies the flags to each part, with those that hold behind the part in front of it. -/
def Ast.resolveAll (f : Flags) : List Ast → Option (List Expr × Flags)
  | [] => some ([], f)
  | a :: as =>
    (a.resolve f).bind fun r => (resolveAll r.2 as).map fun rs => (r.1 :: rs.1, rs.2)

namespace Ast

variable {f : Flags}

theorem resolve_ofParts (as : List Ast) :
    (ofParts as).resolve f = (resolveAll f as).map fun r => (.chain r.1, r.2) := by
  induction as generalizing f with
  | nil => rfl
  | cons a as ih =>
    rw [resolveAll]
    cases as with
    | nil =>
      simp only [ofParts, resolveAll, Option.map_some]
      cases a.resolve f <;> rfl
    | cons b bs =>
      show (Ast.seq a (ofParts (b :: bs))).resolve f = _
      rw [resolve_seq]
      cases ha : a.resolve f with
      | none => rfl
      | some r =>
        simp only [Option.bind_some, ih]
        rw [resolveAll]
        cases b.resolve r.2 with
        | none => rfl
        | some r' => cases h : resolveAll r'.2 bs <;> simp [h, Expr.chain]

theorem resolveAll_append (as bs : List Ast) :
    resolveAll f (as ++ bs) = (resolveAll f as).bind fun r =>
      (resolveAll r.2 bs).map fun rs => (r.1 ++ rs.1, rs.2) := by
  induction as generalizing f with
  | nil => simp [resolveAll]
  | cons a as ih =>
    rw [List.cons_append, resolveAll, resolveAll]
    cases a.resolve f with
    | none => rfl
    | some r =>
      simp only [Option.bind_some, ih]
      cases resolveAll r.2 as with
      | none => rfl
      | some rs => cases h : resolveAll rs.2 bs <;> simp [h]

end Ast

namespace Expr

variable {text : Array Char} {i : Nat} {a : Arrival}

theorem reaches_chain_cons {e : Expr} {es : List Expr} :
    (chain (e :: es)).Reaches text i a ↔
      ∃ b c, e.Reaches text i b ∧ (chain es).Reaches text b.stop c ∧ a = b.after c := by
  cases es with
  | nil =>
    constructor
    · intro h
      exact ⟨a, ⟨a.stop, []⟩, h, rfl, rfl⟩
    · intro h
      obtain ⟨b, c, hb, hc, rfl⟩ := h
      obtain rfl : c = ⟨b.stop, []⟩ := hc
      exact hb
  | cons e' es => exact Iff.rfl

theorem Takes.chain_cons {e : Expr} {es : List Expr} {L M : List Char → Prop} (he : e.Takes L)
    (hes : (chain es).Takes M) :
    (chain (e :: es)).Takes fun w => ∃ u v, L u ∧ M v ∧ w = u ++ v :=
  fun text i a => reaches_chain_cons.trans (he.seq hes text i a)

theorem reaches_chain_append {es fs : List Expr} :
    (chain (es ++ fs)).Reaches text i a ↔
      ∃ b c, (chain es).Reaches text i b ∧ (chain fs).Reaches text b.stop c ∧ a = b.after c := by
  induction es generalizing i a with
  | nil =>
    constructor
    · intro h
      exact ⟨⟨i, []⟩, a, rfl, h, (Arrival.stay_after i a).symm⟩
    · intro h
      obtain ⟨b, c, hb, hc, rfl⟩ := h
      obtain rfl : b = ⟨i, []⟩ := hb
      rw [Arrival.stay_after]
      exact hc
  | cons e es ih =>
    rw [List.cons_append, reaches_chain_cons]
    constructor
    · intro h
      obtain ⟨b, c, hb, hc, rfl⟩ := h
      obtain ⟨d, g, hd, hg, rfl⟩ := ih.mp hc
      exact ⟨b.after d, g, reaches_chain_cons.mpr ⟨b, d, hb, hd, rfl⟩, hg,
        Arrival.after_assoc b d g⟩
    · intro h
      obtain ⟨b, c, hb, hc, rfl⟩ := h
      obtain ⟨d, g, hd, hg, rfl⟩ := reaches_chain_cons.mp hb
      exact ⟨d, g.after c, hd, ih.mpr ⟨g, c, hg, hc, rfl⟩, (Arrival.after_assoc d g c).symm⟩

end Expr

end BuildLog.Regex
