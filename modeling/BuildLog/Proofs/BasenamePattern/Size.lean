import BuildLog.Driver
import BuildLog.Proofs.BasenamePattern.Shape
import Mathlib.Algebra.Order.BigOperators.Group.List
import Mathlib.Algebra.Order.Ring.Nat

/-! How much memory the pattern of a basename takes. A sequence takes what its parts take, and the
target what a segment takes for each of its rounds, so without a version the pattern stays far below
the limit. -/

namespace BuildLog.Regex.Expr

/-- What a choice between two ways adds to the size. -/
def choiceSize : Nat := stateSize + 2 * branchSize

theorem sizeIn_seq_le (d : Direction) (a b : Expr) :
    (seq a b).sizeIn d false ≤ a.sizeIn d false + b.sizeIn d false := by
  rw [sizeIn]
  split
  · exact Nat.le_add_left _ _
  · split
    · exact Nat.le_add_right _ _
    · exact Nat.le_refl _

theorem sizeIn_chain_le (d : Direction) (es : List Expr) :
    (chain es).sizeIn d false ≤ stateSize + (es.map (·.sizeIn d false)).sum := by
  induction es with
  | nil => exact Nat.le_refl _
  | cons e es ih =>
    cases es with
    | nil => exact Nat.le_add_left _ _
    | cons e' es =>
      have hseq := sizeIn_seq_le d e (chain (e' :: es))
      rw [chain, List.map_cons, List.sum_cons]
      omega

theorem sizeIn_rep_from_one (d : Direction) (e : Expr) (n : Nat) (greedy : Bool) :
    (rep e 1 (some n) greedy).sizeIn d false =
      if 1 = n then 1 * e.sizeIn d false
      else 1 * e.sizeIn d false + (n - 1) * (e.sizeIn d false + choiceSize) + stateSize := rfl

theorem sizeIn_repeated_le (d : Direction) (e : Expr) (n : Nat) (greedy : Bool) :
    (e.repeated 1 (some n) greedy).sizeIn d false ≤
      (n + 1) * (e.sizeIn d false + choiceSize) + stateSize := by
  have hsucc := Nat.add_mul n 1 (e.sizeIn d false + choiceSize)
  have hone : e.sizeIn d false ≤ (n + 1) * (e.sizeIn d false + choiceSize) + stateSize := by omega
  have hempty : Expr.empty.sizeIn d false ≤ (n + 1) * (e.sizeIn d false + choiceSize) + stateSize :=
    Nat.le_add_left _ _
  have hrep : (rep e 1 (some n) greedy).sizeIn d false ≤
      (n + 1) * (e.sizeIn d false + choiceSize) + stateSize := by
    rw [sizeIn_rep_from_one]
    have hless := Nat.mul_le_mul_right (e.sizeIn d false + choiceSize) (Nat.sub_le n 1)
    split <;> omega
  cases he : e.isEmptyOnly with
  | true =>
    simp only [repeated, he, if_true]
    rcases n with _ | n
    · exact hempty
    · have hmin : Nat.min (n + 1) 1 = 1 := Nat.min_eq_right (Nat.le_add_left 1 n)
      simpa [hmin] using hone
  | false =>
    simp only [repeated, he, Bool.false_eq_true, if_false]
    split
    · exact hempty
    · split
      · exact hone
      · exact hrep

end BuildLog.Regex.Expr

namespace BuildLog.BasenamePattern

open Regex

def driverChars : List Char := "clang+ipvrm".toList

theorem name_subset_driverChars : ∀ driver ∈ Driver.all, driver.name.toList ⊆ driverChars := by
  decide +kernel

theorem length_name_le : ∀ driver ∈ Driver.all, driver.name.toList.length ≤ 8 := by
  decide +kernel

theorem sizeIn_charExpr_le (style : PathStyle) (d : Direction) :
    ∀ c ∈ driverChars, (charExpr style c).sizeIn d false ≤ 512 := by
  have hall : driverChars.all (fun c => (charExpr style c).sizeIn d false ≤ 512) = true := by
    cases style <;> cases d <;> decide +kernel
  exact fun c hc => of_decide_eq_true (List.all_eq_true.mp hall c hc)

theorem sizeIn_segmentExpr_le (style : PathStyle) (d : Direction) :
    (segmentExpr style).sizeIn d false ≤ 512 := by
  cases style <;> cases d <;> decide +kernel

theorem sizeIn_extensionExpr_le (style : PathStyle) (d : Direction) :
    (extensionExpr style).sizeIn d false ≤ 512 := by
  cases style <;> cases d <;> decide +kernel

theorem sizeIn_targetExpr_le (style : PathStyle) (d : Direction) (n : Nat) :
    (targetExpr style n).sizeIn d false ≤ (n + 2) * 1024 := by
  have hrep : (targetExpr style n).sizeIn d false =
      ((segmentExpr style).repeated 1 (some n) true).sizeIn d false +
        (if d = .forward then 2 * stateSize else 0) + Expr.choiceSize + stateSize := rfl
  have hrounds := Expr.sizeIn_repeated_le d (segmentExpr style) n true
  have hround : (segmentExpr style).sizeIn d false + Expr.choiceSize ≤ 1024 :=
    Nat.le_trans (Nat.add_le_add_right (sizeIn_segmentExpr_le style d) _) (by decide)
  have hall := Nat.mul_le_mul_left (n + 1) hround
  have hgroup : (if d = .forward then 2 * stateSize else 0) + Expr.choiceSize + stateSize + stateSize ≤
      1024 := by
    cases d <;> decide
  rw [hrep]
  omega

theorem sizeIn_names_le {style : PathStyle} {driver : Driver} (d : Direction)
    (hd : driver ∈ Driver.all) :
    ((driver.name.toList.map (charExpr style)).map (·.sizeIn d false)).sum ≤ 8 * 512 := by
  have hchars : ∀ k ∈ (driver.name.toList.map (charExpr style)).map (·.sizeIn d false), k ≤ 512 := by
    intro k hk
    obtain ⟨e, he, rfl⟩ := List.mem_map.mp hk
    obtain ⟨c, hc, rfl⟩ := List.mem_map.mp he
    exact sizeIn_charExpr_le style d c (name_subset_driverChars driver hd hc)
  have hsum := List.sum_le_card_nsmul _ 512 hchars
  rw [List.length_map, List.length_map, nsmul_eq_mul] at hsum
  exact Nat.le_trans hsum (Nat.mul_le_mul_right 512 (length_name_le driver hd))

theorem sizeIn_targetExprs_le {n : Nat} (style : PathStyle) (d : Direction) (hn : n ≤ 8) :
    ((targetExprs style n).map (·.sizeIn d false)).sum ≤ 10 * 1024 := by
  rw [targetExprs]
  split
  · exact Nat.zero_le _
  · exact Nat.le_trans (sizeIn_targetExpr_le style d n) (Nat.mul_le_mul_right 1024 (by omega))

theorem sizeIn_restExprs_le {style : PathStyle} {driver : Driver} (d : Direction)
    (hd : driver ∈ Driver.all) :
    ((restExprs style driver.name.toList none).map (·.sizeIn d false)).sum ≤
      8 * 512 + (512 + stateSize) := by
  rw [restExprs, List.map_append, List.sum_append]
  exact Nat.add_le_add (sizeIn_names_le d hd)
    (Nat.add_le_add_right (sizeIn_extensionExpr_le style d) stateSize)

theorem sizeIn_leadExprs_le (style : PathStyle) (d : Direction) :
    ((leadExprs style).map (·.sizeIn d false)).sum ≤ 64 := by
  cases style <;> cases d <;> decide

/-- Without a version no pattern of a driver is too big, whether there is a target or not. -/
theorem isTooBig_plain {n : Nat} {driver : Driver} (style : PathStyle) (hn : n ≤ 8)
    (hd : driver ∈ Driver.all) : (expr style n driver.name.toList none).isTooBig = false := by
  have hparts : ∀ d, (expr style n driver.name.toList none).sizeIn d false ≤
      stateSize + (64 + (10 * 1024 + (8 * 512 + (512 + stateSize)))) := by
    intro d
    refine Nat.le_trans (Expr.sizeIn_chain_le d _) (Nat.add_le_add_left ?_ stateSize)
    rw [List.map_append, List.map_append, List.sum_append, List.sum_append]
    exact Nat.add_le_add (sizeIn_leadExprs_le style d)
      (Nat.add_le_add (sizeIn_targetExprs_le style d hn) (sizeIn_restExprs_le d hd))
  have hsize : ∀ d, (expr style n driver.name.toList none).size d ≤ Expr.sizeLimit := by
    intro d
    have hsearch : (if d = .forward then
        2 * stateSize + 3 * stateSize + 2 * branchSize + transitionSize else 0) ≤ 512 := by
      cases d <;> decide
    exact Nat.le_trans (Nat.add_le_add (Nat.add_le_add_right (hparts d) stateSize) hsearch)
      (by decide)
  simp [Expr.isTooBig, hsize]

end BuildLog.BasenamePattern
