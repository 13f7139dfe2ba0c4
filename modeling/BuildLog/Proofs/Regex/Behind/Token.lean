import BuildLog.Proofs.Regex.Behind.Class

/-! Reading a token with a closing parenthesis and more behind it. -/

namespace BuildLog.Regex.Token

variable {verbose : Bool} {cs rest tail : List Char}

theorem leaves_flagLetters (behind : List Char) (off : Bool) {change : FlagChange} {c : Char}
    (h : flagLetters off cs = some (change, c, rest)) :
    flagLetters off (cs ++ behind) = some (change, c, rest ++ behind) := by
  induction cs generalizing off change with
  | nil => cases h
  | cons d cs ih =>
    rw [List.cons_append]
    rw [flagLetters.eq_def] at h ⊢
    simp only at h ⊢
    by_cases hd : d = ':' ∨ d = ')'
    · rw [if_pos hd] at h ⊢
      cases h
      rfl
    · rw [if_neg hd] at h ⊢
      by_cases hy : d = '-'
      · rw [if_pos hy] at h ⊢
        cases off with
        | true => cases h
        | false =>
          cases cs with
          | nil => cases h
          | cons e es =>
            simp only [List.cons_append] at h ⊢ ih
            by_cases he : e = ':' ∨ e = ')'
            · rw [if_pos he] at h
              cases h
            · rw [if_neg he] at h ⊢
              exact ih _ h
      · rw [if_neg hy] at h ⊢
        cases hf : flagOf? d with
        | none =>
          rw [hf] at h
          cases h
        | some f =>
          rw [hf] at h
          obtain ⟨⟨ch, r⟩, hr, he⟩ := Option.map_eq_some_iff.mp h
          cases he
          simp only [ih _ hr, Option.map_some]

theorem leaves_groupName (behind : List Char) : Leaves behind groupName := by
  intro cs rest k h
  rw [groupName] at h ⊢
  cases hd : cs.dropWhile (· != '>') with
  | nil =>
    rw [hd] at h
    cases h
  | cons c r =>
    have hne : cs.dropWhile (· != '>') ≠ [] := by simp [hd]
    rw [List.dropWhile_append, List.takeWhile_append, if_neg (takeWhile_length_ne hne), hd]
    rw [hd] at h
    simp only [List.isEmpty_cons, Bool.false_eq_true, if_false, List.cons_append] at h ⊢
    split at h
    · rw [if_pos ‹_›]
      cases h
      rfl
    · cases h

/-- What a token is read as with a closing parenthesis and some text behind: the same, and the text is
left over unless an open comment swallows it, which does not depend on the text. -/
def Follows (read : List Char → Option (Token × List Char)) : Prop :=
  ∀ {cs rest : List Char} {t : Token}, read cs = some (t, rest) →
    (∀ tail, Inert tail → read (cs ++ ')' :: tail) = some (t, rest ++ ')' :: tail)) ∨
      rest = [] ∧ ∀ tail, Inert tail → read (cs ++ ')' :: tail) = some (t, [])

/-- The flags behind a question mark, with the parenthesis in front of it. -/
def flagFront (cs : List Char) : Option (Token × List Char) :=
  match flagLetters false cs with
  | some (change, c, rest) =>
    if ¬ (change.map (·.1)).Nodup then none
    else if c = ':' then some (.opening (.plain change), rest)
    else if change.isEmpty then none
    else some (.flags change, rest)
  | none => none

theorem leaves_flagFront (behind : List Char) : Leaves behind flagFront := by
  intro cs rest t h
  rw [flagFront] at h ⊢
  cases hf : flagLetters false cs with
  | none =>
    rw [hf] at h
    cases h
  | some r =>
    obtain ⟨change, c, r⟩ := r
    rw [hf] at h
    rw [leaves_flagLetters behind false hf]
    simp only at h ⊢
    by_cases hd : (change.map (·.1)).Nodup
    · rw [if_neg (not_not_intro hd)] at h ⊢
      by_cases hc : c = ':'
      · rw [if_pos hc] at h ⊢
        cases h
        rfl
      · rw [if_neg hc] at h ⊢
        by_cases he : change.isEmpty = true
        · rw [if_pos he] at h
          cases h
        · rw [if_neg he] at h ⊢
          cases h
          rfl
    · rw [if_pos hd] at h
      cases h

theorem groupFront_skipSpace (verbose : Bool) (cs : List Char) :
    groupFront verbose cs = groupFront false (skipSpace verbose cs) := rfl

theorem groupFront_capture {c : Char} (hc : c ≠ '?') (cs : List Char) :
    groupFront false (c :: cs) = some (.opening (.capture none), c :: cs) := by
  rw [groupFront.eq_def]
  split <;> simp_all [skipSpace]

theorem groupFront_angle {c : Char} (h1 : c ≠ '=') (h2 : c ≠ '!') (cs : List Char) :
    groupFront false ('?' :: '<' :: c :: cs) =
      (groupName (c :: cs)).map fun r => (.opening r.1, r.2) := by
  rw [groupFront.eq_def]
  simp only [skipSpace, Bool.false_eq_true, if_false]
  split <;> simp_all
  subst_vars
  simp_all

theorem groupFront_flags {c : Char} (h1 : c ≠ '=') (h2 : c ≠ '!') (h3 : c ≠ '<')
    (hp : c = 'P' → cs.head? ≠ some '<') :
    groupFront false ('?' :: c :: cs) = flagFront (c :: cs) := by
  rw [groupFront.eq_def]
  simp only [skipSpace, Bool.false_eq_true, if_false]
  split
  · cases ‹_ :: _ = _›
    exact absurd rfl h1
  · cases ‹_ :: _ = _›
    exact absurd rfl h2
  · cases ‹_ :: _ = _›
    exact absurd rfl h3
  · cases ‹_ :: _ = _›
    exact absurd rfl h3
  · cases ‹_ :: _ = _›
    exact absurd rfl (hp rfl)
  · cases ‹_ :: _ = _›
    exact absurd rfl h3
  · cases ‹_ :: _ = _›
    rfl
  · rename_i h7
    exact (h7 _ rfl).elim

theorem leaves_groupFront (tail : List Char) {c : Char} {cs rest : List Char} {t : Token}
    (h : groupFront false (c :: cs) = some (t, rest)) :
    groupFront false (c :: (cs ++ ')' :: tail)) = some (t, rest ++ ')' :: tail) := by
  by_cases hc : c = '?'
  · subst hc
    cases cs with
    | nil => cases h
    | cons d ds =>
      rw [List.cons_append]
      by_cases h1 : d = '='
      · subst h1
        cases h
      by_cases h2 : d = '!'
      · subst h2
        cases h
      by_cases h3 : d = '<'
      · subst h3
        cases ds with
        | nil => cases h
        | cons e es =>
          by_cases h4 : e = '='
          · subst h4
            cases h
          by_cases h5 : e = '!'
          · subst h5
            cases h
          rw [groupFront_angle h4 h5] at h
          rw [List.cons_append, groupFront_angle h4 h5]
          exact Leaves.map (leaves_groupName _) Token.opening h
      by_cases h4 : d = 'P'
      · subst h4
        cases ds with
        | nil => cases h
        | cons e es =>
          by_cases h5 : e = '<'
          · subst h5
            exact Leaves.map (leaves_groupName _) Token.opening h
          · rw [groupFront_flags h1 h2 h3 fun _ => by simpa using h5] at h
            cases h
      rw [groupFront_flags h1 h2 h3 (fun he => absurd he h4)] at h ⊢
      exact leaves_flagFront _ h
  · rw [groupFront_capture hc] at h ⊢
    cases h
    rfl

theorem follows_groupFront (verbose : Bool) : Follows (groupFront verbose) := by
  intro cs rest t h
  rw [groupFront_skipSpace] at h
  simp only [groupFront_skipSpace verbose (cs ++ _)]
  cases hs : skipSpace verbose cs with
  | nil =>
    rw [hs] at h
    cases h
    rcases skipSpace_append_of_nil hs with he | he
    · refine .inl fun tail ht => ?_
      rw [he tail ht]
      rfl
    · refine .inr ⟨rfl, fun tail ht => ?_⟩
      rw [he tail ht]
      rfl
  | cons c cs' =>
    rw [hs] at h
    refine .inl fun tail _ => ?_
    rw [skipSpace_append hs]
    exact leaves_groupFront tail h

theorem leaves_repToken (tail : List Char) (min : Nat) (max : Option Nat) :
    Leaves (')' :: tail) fun cs => some (repToken min max cs) := by
  intro cs rest t h
  cases cs with
  | nil =>
    cases h
    rfl
  | cons c cs =>
    by_cases hc : c = '?'
    · subst hc
      cases h
      rfl
    · simp only [List.cons_append, Option.some.injEq] at h ⊢
      rw [repToken.eq_def] at h ⊢
      split at h
      · exact (hc (List.cons.inj ‹_›).1).elim
      · split
        · exact (hc (List.cons.inj ‹_›).1).elim
        · cases h
          rfl

theorem follows_countedRep (verbose : Bool) : Follows (countedRep verbose) := by
  intro cs rest t h
  simp only [countedRep, bind, Option.bind_eq_some_iff, pure, Prod.exists] at h ⊢
  obtain ⟨body, r, hb, min, max, hbounds, h⟩ := h
  cases hs : skipSpace verbose r with
  | nil =>
    rw [hs] at h
    cases h
    rcases skipSpace_append_of_nil hs with he | he
    · exact .inl fun tail ht =>
        ⟨body, _, leaves_braced _ verbose hb, min, max, hbounds, by rw [he tail ht]; rfl⟩
    · exact .inr ⟨rfl, fun tail ht =>
        ⟨body, _, leaves_braced _ verbose hb, min, max, hbounds, by rw [he tail ht]; rfl⟩⟩
  | cons c cs' =>
    rw [hs] at h
    refine .inl fun tail _ => ⟨body, _, leaves_braced _ verbose hb, min, max, hbounds, ?_⟩
    rw [skipSpace_append hs, ← List.cons_append]
    exact leaves_repToken tail min max h

theorem follows_next (verbose : Bool) (c : Char) : Follows (next verbose c) := by
  intro cs rest t h
  simp only [next.eq_def verbose c (cs ++ _)]
  rw [next.eq_def] at h
  split at h
  · exact follows_groupFront verbose h
  · cases h
    exact .inl fun _ _ => rfl
  · cases h
    exact .inl fun _ _ => rfl
  · exact .inl fun _ ht =>
      Leaves.map (leaves_bracketClass verbose ht.colon) (fun t => Token.part (.cls t)) h
  · exact .inl fun tail _ => leaves_repToken tail _ _ h
  · exact .inl fun tail _ => leaves_repToken tail _ _ h
  · exact .inl fun tail _ => leaves_repToken tail _ _ h
  · exact follows_countedRep verbose h
  · exact .inl fun tail _ => Leaves.map (leaves_escape verbose tail) Token.part h
  all_goals
    cases h
    exact .inl fun _ _ => rfl

end BuildLog.Regex.Token
