import BuildLog.Proofs.BasenamePattern.Matching

/-! The match that a search for the pattern of a basename finds: it takes the whole text, and of all
targets that leave a name behind them the longest one. -/

namespace BuildLog.BasenamePattern

open Regex

variable {style : PathStyle} {n : Nat} {name s : List Char} {version : Option Expr}

/-- A segment ends with the first hyphen. -/
theorem IsSegment.eq_takeWhile {w t : List Char} (h : IsSegment style w) (hp : w <+: t) :
    w = t.takeWhile (· != '-') ++ ['-'] := by
  obtain ⟨u, _, hu, rfl⟩ := h
  obtain ⟨r, rfl⟩ := hp
  have hne : ∀ c ∈ u, (c != '-') = true := fun c hc =>
    bne_iff_ne.mpr (isSegmentChar_ne_hyphen (hu c hc))
  rw [List.append_assoc, List.takeWhile_append_of_pos hne]
  simp

theorem single_segmentExpr (style : PathStyle) (s : List Char) :
    ((segmentExpr style).table s.toArray).Single s.toArray.size := by
  refine ((segmentExpr style).lists_table s.toArray).single fun i _ a b ha hb => ?_
  obtain ⟨u, hu, hup, rfl⟩ := (takes_segment style s i a).mp ha
  obtain ⟨v, hv, hvp, rfl⟩ := (takes_segment style s i b).mp hb
  rw [hu.eq_takeWhile hup, hv.eq_takeWhile hvp]

/-- An expression that does not take the empty word goes on. -/
theorem advances_of_takes {e : Expr} {L : List Char → Prop} (he : e.Takes L) (hL : ¬ L [])
    (s : List Char) : (e.table s.toArray).Advances s.toArray.size := by
  refine (e.lists_table s.toArray).advances (e.forward s.toArray) fun i a ha => ?_
  obtain ⟨w, hw, _, rfl⟩ := (he s i a).mp ha
  have hpos : 0 < w.length := List.length_pos_iff.mpr fun h => hL (h ▸ hw)
  exact Nat.lt_add_of_pos_right hpos

theorem descends_segments (style : PathStyle) (hn : n ≠ 0) (s : List Char) :
    (((segmentExpr style).repeated 1 (some n) true).table s.toArray).Descends s.toArray.size := by
  have hsingle := single_segmentExpr style s
  have hadv := advances_of_takes (takes_segment style)
    (fun h => nomatch h.count_hyphen) s
  have hn' : (some n : Option Nat) ≠ some 0 := by simpa using hn
  simp only [Expr.repeated, isEmptyOnly_segmentExpr, Bool.false_eq_true, if_false]
  rw [if_neg hn']
  by_cases h1 : n = 1
  · subst h1
    exact hsingle.descends
  · rw [if_neg (by simpa using h1)]
    exact hsingle.rounds hadv 1 n

theorem descends_targetExpr (style : PathStyle) (hn : n ≠ 0) (s : List Char) :
    ((targetExpr style n).table s.toArray).Descends s.toArray.size := by
  have hdesc := Expr.descends_group targetGroup (descends_segments style hn s)
  refine Table.Descends.optional hdesc fun i hi a ha => ?_
  obtain ⟨b, hb, rfl⟩ := List.mem_map.mp ha
  have hne : ¬ ∃ k ≤ n, k ≠ 0 ∧ IsTriplet style k [] := by
    intro h
    obtain ⟨k, _, hk0, hk⟩ := h
    exact hk0 (hk.eq_nil_iff.mp rfl)
  exact advances_of_takes (takes_segments style hn) hne s i hi b hb

theorem reaches_lead {es : List Expr} {i : Nat} {a : Arrival} (hi : i ≤ s.length)
    (h : (Expr.chain (leadExprs style ++ es)).Reaches s.toArray i a) : i = 0 := by
  obtain ⟨b, c, hb, _, _⟩ := Expr.reaches_chain_append.mp h
  have hstart : ∀ a, (Expr.look .textStart).Reaches s.toArray i a → i = 0 := by
    intro a h
    obtain ⟨hl, _⟩ := h
    by_cases h0 : i = 0
    · exact h0
    · rw [if_neg h0, Look.holds, Option.isNone_iff_eq_none] at hl
      have hsize := Array.getElem?_eq_none_iff.mp hl
      rw [List.size_toArray] at hsize
      omega
  cases style with
  | posix => exact hstart b hb
  | windows =>
    obtain ⟨d, e, hd, he, _⟩ := hb
    obtain rfl : d = ⟨i, []⟩ := hd
    exact hstart e he

theorem head?_lead {es : List Expr} (hes : es ≠ []) :
    (((Expr.chain (leadExprs style ++ es)).table s.toArray).row 0).head? =
      (((Expr.chain es).table s.toArray).row 0).head? := by
  obtain ⟨e, es, rfl⟩ := List.exists_cons_of_ne_nil hes
  have hlook : ∀ y : Expr, (((Expr.seq (.look .textStart) y).table s.toArray).row 0).head? =
      ((y.table s.toArray).row 0).head? := fun y =>
    Expr.head?_look_seq (Nat.zero_le _) rfl
  cases style with
  | posix => exact hlook _
  | windows => exact (Expr.head?_empty_seq (Nat.zero_le _)).trans (hlook _)

variable {p : Pattern}

theorem targetExprs_append_ne_nil : targetExprs style n ++ restExprs style name version ≠ [] := by
  simp [restExprs]

theorem find?_eq (hp : p.expr = expr style n name version) (s : List Char) :
    p.find? s = (((Expr.chain (targetExprs style n ++ restExprs style name version)).table
      s.toArray).row 0).head?.map fun a => ⟨0, a.stop, a.groups⟩ := by
  rw [Pattern.find?_of_anchored, hp, expr, head?_lead targetExprs_append_ne_nil]
  intro i a hpos hi h
  rw [hp] at h
  exact absurd (reaches_lead hi h) (Nat.ne_of_gt hpos)

theorem isSome_find?_iff (hp : p.expr = expr style n name version) (s : List Char) :
    (p.find? s).isSome = true ↔ ∃ b : Basename, b.text = s ∧ b.Fits style n name version := by
  rw [find?_eq hp, Option.isSome_map, Expr.isSome_head? (Nat.zero_le _)]
  exact exists_reaches_iff

/-- The first arrival takes the longest target that leaves the rest something to match. -/
theorem furthest_of_head? {a : Arrival}
    (h : (((Expr.chain (targetExprs style n ++ restExprs style name version)).table
      s.toArray).row 0).head? = some a) :
    ∃ b c, (Expr.chain (targetExprs style n)).Reaches s.toArray 0 b ∧
      (Expr.chain (restExprs style name version)).Reaches s.toArray b.stop c ∧ a = b.after c ∧
      ∀ b' c', (Expr.chain (targetExprs style n)).Reaches s.toArray 0 b' →
        (Expr.chain (restExprs style name version)).Reaches s.toArray b'.stop c' →
        b'.stop ≤ b.stop := by
  by_cases hn : n = 0
  · subst hn
    have hr : (Expr.chain (restExprs style name version)).Reaches s.toArray 0 a :=
      Expr.reaches_of_head? (Nat.zero_le _) h
    refine ⟨⟨0, []⟩, a, rfl, hr, (Arrival.stay_after 0 a).symm, fun b' c' hb' _ => ?_⟩
    obtain rfl : b' = ⟨0, []⟩ := hb'
    exact Nat.le_refl 0
  · have hrest : restExprs style name version ≠ [] := by simp [restExprs]
    rw [targetExprs, if_neg hn] at h ⊢
    obtain ⟨e, es, he⟩ := List.exists_cons_of_ne_nil hrest
    rw [he] at h ⊢
    exact Expr.furthest_of_head?_seq (descends_targetExpr style hn s) (Nat.zero_le _) h

/-- The match of a whole basename, with the spans of its parts. -/
def Basename.toMatch (b : Basename) (groups : List GroupSpan) : Match :=
  ⟨0, b.text.length, b.extensionSpans ++ (groups ++ b.targetSpans)⟩

/-- A match is a basename that fits, with the spans of its parts, and no basename of that text has
a longer target. -/
theorem exists_of_find? (hp : p.expr = expr style n name version) {m : Match}
    (h : p.find? s = some m) :
    ∃ (b : Basename) (groups : List GroupSpan), b.text = s ∧ b.Fits style n name version ∧
      b.VersionGroups version groups ∧
      m = b.toMatch groups ∧
      ∀ b' : Basename, b'.text = s → b'.Fits style n name version →
        b'.target.length ≤ b.target.length := by
  rw [find?_eq hp] at h
  obtain ⟨a, ha, rfl⟩ := Option.map_eq_some_iff.mp h
  obtain ⟨t, c, ht, hc, rfl, hmax⟩ := furthest_of_head? ha
  obtain ⟨w, hk, hw, rfl⟩ := reaches_target.mp ht
  simp only [Nat.zero_add] at hc hmax
  obtain ⟨b, groups, hs, rfl, hfits, hv, rfl⟩ := exists_of_reaches_rest hw hk hc
  refine ⟨b, groups, hs, hfits, hv, ?_, fun b' hs' hb' => ?_⟩
  · simp [Basename.toMatch, Basename.targetSpans, hs]
  · subst hs'
    obtain ⟨groups', hv'⟩ := Basename.versionFits_iff.mp hb'.version
    exact hmax _ _ hb'.reaches_target (Basename.reaches_rest hb'.name hb'.extension hv')

end BuildLog.BasenamePattern
