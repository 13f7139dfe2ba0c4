import BuildLog.Regex.Grouping

/-! Reading an escape with a closing parenthesis and more behind it. What stands behind is left
over, and where nothing but space is left in front of it only an open comment can swallow it. -/

namespace BuildLog.Regex.Token

variable {verbose : Bool} {cs rest : List Char}

theorem skipSpaceFrom_append {inComment : Bool} {d : Char} {ds : List Char}
    (h : skipSpaceFrom inComment cs = d :: ds) (behind : List Char) :
    skipSpaceFrom inComment (cs ++ behind) = d :: (ds ++ behind) := by
  induction cs generalizing inComment with
  | nil => cases h
  | cons c cs ih =>
    rw [List.cons_append]
    rw [skipSpaceFrom] at h ⊢
    by_cases hc : inComment = true
    · rw [if_pos hc] at h ⊢
      exact ih h
    · rw [if_neg hc] at h ⊢
      by_cases hb : isBlank c = true
      · rw [if_pos hb] at h ⊢
        exact ih h
      · rw [if_neg hb] at h ⊢
        by_cases hh : c = '#'
        · rw [if_pos hh] at h ⊢
          exact ih h
        · rw [if_neg hh] at h ⊢
          cases h
          rfl

/-- Whether a comment is open behind some space does not depend on what stands behind it. -/
theorem skipSpaceFrom_append_of_nil {inComment : Bool} (h : skipSpaceFrom inComment cs = []) :
    ∃ stillInComment, ∀ behind, skipSpaceFrom inComment (cs ++ behind) =
      skipSpaceFrom stillInComment behind := by
  induction cs generalizing inComment with
  | nil => exact ⟨inComment, fun _ => rfl⟩
  | cons c cs ih =>
    simp only [List.cons_append]
    rw [skipSpaceFrom] at h
    simp only [skipSpaceFrom]
    by_cases hc : inComment = true
    · rw [if_pos hc] at h
      simp only [if_pos hc]
      exact ih h
    · rw [if_neg hc] at h
      simp only [if_neg hc]
      by_cases hb : isBlank c = true
      · rw [if_pos hb] at h
        simp only [if_pos hb]
        exact ih h
      · rw [if_neg hb] at h
        simp only [if_neg hb]
        by_cases hh : c = '#'
        · rw [if_pos hh] at h
          simp only [if_pos hh]
          exact ih h
        · rw [if_neg hh] at h
          cases h

theorem skipSpaceFrom_comment (h : '\n' ∉ cs) : skipSpaceFrom true cs = [] := by
  induction cs with
  | nil => rfl
  | cons c cs ih =>
    rw [List.mem_cons, not_or] at h
    rw [skipSpaceFrom, if_pos rfl, decide_eq_true (Ne.symm h.1)]
    exact ih h.2

theorem skipSpace_append {d : Char} {ds : List Char} (h : skipSpace verbose cs = d :: ds)
    (behind : List Char) : skipSpace verbose (cs ++ behind) = d :: (ds ++ behind) := by
  cases verbose with
  | false =>
    obtain rfl : cs = d :: ds := h
    rfl
  | true => exact skipSpaceFrom_append h behind

@[simp] theorem skipSpace_paren (verbose : Bool) (cs : List Char) :
    skipSpace verbose (')' :: cs) = ')' :: cs := by
  cases verbose <;> rfl

/-- Text that ends neither a comment nor the name of a class. -/
structure Inert (tail : List Char) : Prop where
  newline : '\n' ∉ tail
  colon : ':' ∉ tail

theorem inert_nil : Inert [] :=
  ⟨List.not_mem_nil, List.not_mem_nil⟩

/-- Where nothing but space is left, either any text behind follows or an open comment swallows any
text behind. -/
theorem skipSpace_append_of_nil (h : skipSpace verbose cs = []) :
    (∀ tail, Inert tail → skipSpace verbose (cs ++ ')' :: tail) = ')' :: tail) ∨
      ∀ tail, Inert tail → skipSpace verbose (cs ++ ')' :: tail) = [] := by
  cases verbose with
  | false =>
    obtain rfl : cs = [] := h
    exact .inl fun _ _ => rfl
  | true =>
    have hs : skipSpaceFrom false cs = [] := h
    obtain ⟨b, hb⟩ := skipSpaceFrom_append_of_nil hs
    simp only [skipSpace, if_true, hb]
    cases b with
    | false => exact .inl fun _ _ => rfl
    | true => exact .inr fun tail ht => skipSpaceFrom_comment (by simpa using ht.newline)

/-- A reader that reads the same with some text behind, and leaves that text over. -/
def Leaves {α : Type} (behind : List Char) (read : List Char → Option (α × List Char)) : Prop :=
  ∀ {cs rest : List Char} {a : α}, read cs = some (a, rest) →
    read (cs ++ behind) = some (a, rest ++ behind)

theorem Leaves.map {α β : Type} {behind : List Char} {read : List Char → Option (α × List Char)}
    (h : Leaves behind read) (f : α → β) :
    Leaves behind fun cs => (read cs).map fun r => (f r.1, r.2) := by
  intro cs rest b hb
  obtain ⟨⟨a, r⟩, ha, he⟩ := Option.map_eq_some_iff.mp hb
  cases he
  simp only [h ha, Option.map_some]

theorem leaves_bracedFrom (behind : List Char) (verbose inComment : Bool) :
    Leaves behind (bracedFrom verbose inComment) := by
  intro cs
  induction cs generalizing inComment with
  | nil =>
    intro rest body h
    cases h
  | cons c cs ih =>
    intro rest body h
    rw [List.cons_append]
    rw [bracedFrom] at h ⊢
    by_cases hc : inComment = true
    · rw [if_pos hc] at h ⊢
      exact ih _ h
    · rw [if_neg hc] at h ⊢
      by_cases hb : verbose = true ∧ isBlank c = true
      · rw [if_pos hb] at h ⊢
        exact ih _ h
      · rw [if_neg hb] at h ⊢
        by_cases hh : verbose = true ∧ c = '#'
        · rw [if_pos hh] at h ⊢
          exact ih _ h
        · rw [if_neg hh] at h ⊢
          by_cases he : c = '}'
          · rw [if_pos he] at h ⊢
            cases h
            rfl
          · rw [if_neg he] at h ⊢
            obtain ⟨⟨b, r⟩, hb, he⟩ := Option.map_eq_some_iff.mp h
            cases he
            rw [ih _ hb]
            rfl

theorem leaves_braced (behind : List Char) (verbose : Bool) : Leaves behind (braced verbose) :=
  leaves_bracedFrom behind verbose false

theorem leaves_hexFixed (behind : List Char) (verbose : Bool) (digits value : Nat) :
    Leaves behind (hexFixed verbose digits value) := by
  intro cs rest n h
  induction digits generalizing value cs with
  | zero =>
    cases h
    rfl
  | succ digits ih =>
    rw [hexFixed] at h ⊢
    cases hs : skipSpace verbose cs with
    | nil =>
      rw [hs] at h
      cases h
    | cons c cs' =>
      rw [hs] at h
      rw [skipSpace_append hs]
      simp only at h ⊢
      cases hd : hexDigit? c with
      | none =>
        rw [hd] at h
        cases h
      | some d =>
        rw [hd] at h
        exact ih _ h

theorem leaves_hexEscape (behind : List Char) (verbose : Bool) {digits : Nat} (hd : 0 < digits) :
    Leaves behind (hexEscape verbose digits) := by
  intro cs rest a h
  rw [hexEscape] at h ⊢
  cases hs : skipSpace verbose cs with
  | nil =>
    rw [hs] at h
    obtain ⟨k, rfl⟩ : ∃ k, digits = k + 1 := ⟨digits - 1, by omega⟩
    cases verbose <;> cases h
  | cons c cs' =>
    rw [hs] at h
    rw [skipSpace_append hs]
    split at h
    · rename_i he
      cases he
      simp only [bind, Option.bind_eq_some_iff, pure, Option.some.injEq, Prod.mk.injEq,
        Prod.exists] at h ⊢
      obtain ⟨body, r, hb, n, hn, x, hx, rfl, rfl⟩ := h
      exact ⟨body, _, leaves_braced behind verbose hb, n, hn, x, hx, rfl, rfl⟩
    · rename_i hne
      split
      · rename_i he
        exact (hne cs' (congrArg (· :: cs') (List.cons.inj he).1)).elim
      · simp only [bind, Option.bind_eq_some_iff, pure, Option.some.injEq, Prod.mk.injEq,
          Prod.exists] at h ⊢
        obtain ⟨n, r, hb, x, hx, rfl, rfl⟩ := h
        exact ⟨n, _, leaves_hexFixed behind verbose digits 0 hb, x, hx, rfl, rfl⟩

theorem leaves_propertyEscape (behind : List Char) (verbose negated : Bool) :
    Leaves behind (propertyEscape verbose negated) := by
  intro cs rest a h
  rw [propertyEscape] at h ⊢
  cases hs : skipSpace verbose cs with
  | nil =>
    rw [hs] at h
    cases h
  | cons c cs' =>
    rw [hs] at h
    rw [skipSpace_append hs]
    simp only at h ⊢
    by_cases hc : c = '{'
    · rw [if_pos hc] at h ⊢
      simp only [bind, Option.bind_eq_some_iff, pure, Option.some.injEq, Prod.mk.injEq,
        Prod.exists] at h ⊢
      obtain ⟨body, r, hb, rfl, rfl⟩ := h
      exact ⟨body, _, leaves_braced behind verbose hb, rfl, rfl⟩
    · rw [if_neg hc] at h ⊢
      by_cases hb : c = '\\'
      · rw [if_pos hb] at h
        cases h
      · rw [if_neg hb] at h ⊢
        cases h
        rfl

theorem leaves_boundaryEscape (verbose : Bool) (tail : List Char) :
    Leaves (')' :: tail) (boundaryEscape verbose) := by
  intro cs rest a h
  cases cs with
  | nil =>
    cases h
    rfl
  | cons c cs =>
    rw [List.cons_append]
    rw [boundaryEscape.eq_def] at h ⊢
    split at h
    · rename_i hc
      cases hc
      simp only at h ⊢
      cases hs : skipSpace verbose cs with
      | nil =>
        rw [hs] at h
        cases h
      | cons d ds =>
        rw [hs] at h
        rw [skipSpace_append hs]
        simp only at h ⊢
        by_cases hd : isWordLookChar d = true
        · rw [if_pos hd] at h ⊢
          simp only [bind, Option.bind_eq_some_iff, pure, Option.some.injEq, Prod.mk.injEq,
            Prod.exists] at h ⊢
          obtain ⟨body, r, hb, kind, hk, rfl, rfl⟩ := h
          exact ⟨body, _, leaves_braced _ verbose hb, kind, hk, rfl, rfl⟩
        · rw [if_neg hd] at h ⊢
          cases h
          rfl
    · rename_i hne
      split
      · rename_i hc
        exact (hne cs (congrArg (· :: cs) (List.cons.inj hc).1)).elim
      · cases h
        rfl

theorem leaves_escape (verbose : Bool) (tail : List Char) :
    Leaves (')' :: tail) (escape verbose) := by
  intro cs rest a h
  cases cs with
  | nil => cases h
  | cons c cs =>
    rw [List.cons_append]
    rw [escape.eq_def] at h ⊢
    simp only at h ⊢
    split at h
    any_goals
      cases h
      rfl
    any_goals exact leaves_hexEscape _ verbose (by decide) h
    any_goals exact leaves_propertyEscape _ verbose _ h
    · exact leaves_boundaryEscape verbose tail h
    · split at h
      · cases h
        split
        · rfl
        · contradiction
      · cases h

end BuildLog.Regex.Token
