import BuildLog.Proofs.Regex.Behind.Escape

/-! Reading a class in brackets with a closing parenthesis and more behind it. A class that is read
is closed, so what stands behind is left over. It must hold no colon, with which the name of a class
could end. -/

namespace BuildLog.Regex.Token

variable {verbose : Bool} {cs rest tail : List Char}

def posixName (negated : Bool) (body : List Char) : Option (ClassTree × List Char) :=
  match body.dropWhile (· != ':') with
  | ':' :: ']' :: rest =>
    (posixRanges? (String.ofList (body.takeWhile (· != ':')))).map fun ranges =>
      (.posix ranges negated, rest)
  | _ => none

theorem posixClass?_colon (cs : List Char) : posixClass? (':' :: cs) =
    posixName (cs.head? == some '^') (if cs.head? == some '^' then cs.drop 1 else cs) := rfl

theorem takeWhile_length_ne {α : Type} {p : α → Bool} {as : List α} (h : as.dropWhile p ≠ []) :
    (as.takeWhile p).length ≠ as.length := by
  intro he
  have hl := congrArg List.length (List.takeWhile_append_dropWhile (p := p) (l := as))
  rw [List.length_append, he] at hl
  exact h (List.length_eq_zero_iff.mp (by omega))

theorem leaves_posixName (behind : List Char) (negated : Bool) :
    Leaves behind (posixName negated) := by
  intro body rest t h
  rw [posixName] at h ⊢
  split at h
  · rename_i r hd
    have hne : body.dropWhile (· != ':') ≠ [] := by simp [hd]
    rw [List.dropWhile_append, List.takeWhile_append, hd, if_neg (takeWhile_length_ne hne)]
    obtain ⟨ranges, hr, he⟩ := Option.map_eq_some_iff.mp h
    cases he
    simp [hr]
  · cases h

theorem posixName_append_eq_none {negated : Bool} (body : List Char)
    (h : posixName negated body = none) (hc : ':' ∉ tail) :
    posixName negated (body ++ ')' :: tail) = none := by
  have hd : (')' :: tail).dropWhile (· != ':') = [] := by
    have hp : ∀ c ∈ ')' :: tail, (c != ':') = true := by
      intro c hm
      rcases List.mem_cons.mp hm with rfl | hm
      · rfl
      · exact bne_iff_ne.mpr fun he => hc (he ▸ hm)
    simpa using @List.dropWhile_append_of_pos _ _ _ [] hp
  rw [posixName, List.dropWhile_append, List.takeWhile_append]
  rw [posixName] at h
  cases he : body.dropWhile (· != ':') with
  | nil => simp [hd]
  | cons c cs =>
    have hne : body.dropWhile (· != ':') ≠ [] := by simp [he]
    rw [if_neg (takeWhile_length_ne hne)]
    rw [he] at h
    cases cs with
    | nil => simp
    | cons d ds =>
      simp only [List.isEmpty_cons, Bool.false_eq_true, if_false, List.cons_append]
      split
      · rename_i heq
        cases heq
        simpa using h
      · rfl

theorem leaves_posixClass? (behind : List Char) : Leaves behind posixClass? := by
  intro cs rest t h
  cases cs with
  | nil => cases h
  | cons c cs =>
    by_cases hc : c = ':'
    · subst hc
      rw [List.cons_append, posixClass?_colon]
      rw [posixClass?_colon] at h
      cases cs with
      | nil => cases h
      | cons d ds =>
        simp only [List.cons_append, List.head?_cons, List.drop_one, List.tail_cons] at h ⊢
        split at h
        · rw [if_pos ‹_›]
          exact leaves_posixName behind _ h
        · rw [if_neg ‹_›]
          exact leaves_posixName behind _ h
    · rw [posixClass?.eq_def] at h
      split at h
      · rename_i he
        exact (hc (List.cons.inj he).1).elim
      · cases h

theorem posixClass?_append_eq_none (h : posixClass? cs = none) (hc : ':' ∉ tail) :
    posixClass? (cs ++ ')' :: tail) = none := by
  cases cs with
  | nil => rfl
  | cons c cs =>
    by_cases hcc : c = ':'
    · subst hcc
      rw [List.cons_append, posixClass?_colon]
      rw [posixClass?_colon] at h
      cases cs with
      | nil => exact posixName_append_eq_none [] h hc
      | cons d ds =>
        simp only [List.cons_append, List.head?_cons, List.drop_one, List.tail_cons] at h ⊢
        split at h
        · rw [if_pos ‹_›]
          exact posixName_append_eq_none _ h hc
        · rw [if_neg ‹_›]
          exact posixName_append_eq_none (d :: ds) h hc
    · rw [posixClass?.eq_def]
      split
      · rename_i he
        exact (hcc (List.cons.inj he).1).elim
      · rfl

theorem leadingHyphens_append {inComment : Bool} {n : Nat} {d : Char} {ds : List Char}
    (h : leadingHyphens verbose inComment cs = (n, d :: ds)) (behind : List Char) :
    leadingHyphens verbose inComment (cs ++ behind) = (n, d :: (ds ++ behind)) := by
  induction cs generalizing inComment n with
  | nil => cases h
  | cons c cs ih =>
    rw [List.cons_append]
    rw [leadingHyphens] at h ⊢
    by_cases hc : inComment = true
    · rw [if_pos hc] at h ⊢
      exact ih h
    · rw [if_neg hc] at h ⊢
      by_cases hb : verbose = true ∧ isBlank c = true
      · rw [if_pos hb] at h ⊢
        exact ih h
      · rw [if_neg hb] at h ⊢
        by_cases hh : verbose = true ∧ c = '#'
        · rw [if_pos hh] at h ⊢
          exact ih h
        · rw [if_neg hh] at h ⊢
          by_cases hy : c = '-'
          · rw [if_pos hy] at h ⊢
            cases hl : leadingHyphens verbose false cs with
            | mk m r =>
              rw [hl] at h
              cases h
              rw [ih hl]
          · rw [if_neg hy] at h ⊢
            cases h
            rfl

/-- The members at the front of a class, from the number of hyphens there. -/
def frontMembers (negated : Bool) : Nat → List Char → Bool × List ClassTree × List Char
  | 0, ']' :: cs => (negated, [.char ']'], cs)
  | n, cs => (negated, List.replicate n (.char '-'), cs)

theorem classFront_eq (verbose : Bool) (cs : List Char) : classFront verbose cs =
    let negated := (skipSpace verbose cs).head? == some '^'
    let front := leadingHyphens verbose false
      (if negated then (skipSpace verbose cs).drop 1 else skipSpace verbose cs)
    frontMembers negated front.1 front.2 := rfl

theorem frontMembers_append {front negated : Bool} {n : Nat} {r : List Char} {ts : List ClassTree}
    {d : Char} {ds : List Char} (h : frontMembers front n r = (negated, ts, d :: ds))
    (behind : List Char) : r ≠ [] ∧
      frontMembers front n (r ++ behind) = (negated, ts, d :: (ds ++ behind)) := by
  rw [frontMembers.eq_def] at h
  split at h
  · cases h
    exact ⟨List.cons_ne_nil _ _, rfl⟩
  · rename_i hne
    cases h
    refine ⟨List.cons_ne_nil _ _, ?_⟩
    rw [List.cons_append, frontMembers.eq_def]
    split
    · rename_i he
      cases he
      exact (hne ds rfl rfl).elim
    · rfl

theorem classFront_append {negated : Bool} {ts : List ClassTree} {d : Char} {ds : List Char}
    (h : classFront verbose cs = (negated, ts, d :: ds)) (behind : List Char) :
    classFront verbose (cs ++ behind) = (negated, ts, d :: (ds ++ behind)) := by
  have front : ∀ {front : Bool} {cs : List Char},
      frontMembers front (leadingHyphens verbose false cs).1 (leadingHyphens verbose false cs).2 =
        (negated, ts, d :: ds) →
      frontMembers front (leadingHyphens verbose false (cs ++ behind)).1
        (leadingHyphens verbose false (cs ++ behind)).2 = (negated, ts, d :: (ds ++ behind)) := by
    intro front cs h
    cases hl : leadingHyphens verbose false cs with
    | mk n r =>
      rw [hl] at h
      obtain ⟨hr, hf⟩ := frontMembers_append h behind
      cases r with
      | nil => exact absurd rfl hr
      | cons e es =>
        rw [leadingHyphens_append hl]
        exact hf
  rw [classFront_eq] at h ⊢
  cases hs : skipSpace verbose cs with
  | nil =>
    rw [hs] at h
    cases h
  | cons c cs' =>
    rw [hs] at h
    rw [skipSpace_append hs]
    simp only [List.head?_cons, List.drop_one, List.tail_cons] at h ⊢
    split at h
    · rw [if_pos ‹_›]
      exact front h
    · rw [if_neg ‹_›]
      exact front h

theorem leaves_classMember (verbose : Bool) (tail : List Char) :
    Leaves (')' :: tail) (classMember verbose) := by
  intro cs rest t h
  cases cs with
  | nil => cases h
  | cons c cs =>
    rw [List.cons_append]
    by_cases hc : c = '\\'
    · subst hc
      rw [classMember] at h ⊢
      cases hx : escape verbose cs with
      | none =>
        rw [hx] at h
        cases h
      | some r =>
        obtain ⟨a, r⟩ := r
        rw [hx] at h
        rw [leaves_escape verbose tail hx]
        cases a <;> cases h <;> rfl
    · rw [classMember] at h ⊢
      · cases h
        rfl
      · exact hc
      · exact hc

theorem leaves_classRange (verbose : Bool) (tail : List Char) :
    Leaves (')' :: tail) (classRange verbose) := by
  intro cs rest t h
  simp only [classRange, bind, Option.bind_eq_some_iff, Prod.exists] at h ⊢
  obtain ⟨first, r, hm, h⟩ := h
  refine ⟨first, _, leaves_classMember verbose tail hm, ?_⟩
  cases hs : skipSpace verbose r with
  | nil =>
    rw [hs] at h
    cases h
  | cons c behind =>
    rw [hs] at h
    rw [skipSpace_append hs]
    split at h
    · cases ‹_ = []›
    · rename_i he
      cases he
      simp only
      cases hb : skipSpace verbose behind with
      | nil =>
        rw [hb] at h
        cases h
      | cons e es =>
        rw [hb] at h
        rw [skipSpace_append hb]
        split at h
        · rename_i he
          cases he
          cases h
          rfl
        · rename_i he
          cases he
          cases h
          rfl
        · rename_i h1 h2
          split
          · rename_i he
            exact (h1 es (congrArg (· :: es) (List.cons.inj he).1)).elim
          · rename_i he
            exact (h2 es (congrArg (· :: es) (List.cons.inj he).1)).elim
          · simp only [Option.bind_eq_some_iff, Prod.exists] at h ⊢
            obtain ⟨last, r', hl, h⟩ := h
            refine ⟨last, _, leaves_classMember verbose tail hl, ?_⟩
            split at h
            · split at h
              · cases h
                rename_i hle
                simp only [hle, if_true]
                rfl
              · cases h
            · cases h
    · rename_i h1 h2
      split
      · rename_i he
        cases he
      · rename_i he
        exact (h2 behind (congrArg (· :: behind) (List.cons.inj he).1)).elim
      · cases h
        rfl

theorem classRange_rest_ne_nil {c : Char} {t : ClassTree}
    (h : classRange verbose (c :: cs) = some (t, rest)) : cs ≠ [] := by
  intro h
  subst h
  simp only [classRange, bind, Option.bind_eq_some_iff, Prod.exists] at h
  obtain ⟨first, r, hm, h⟩ := h
  have hr : r = [] := List.length_eq_zero_iff.mp (by
    have := length_classMember hm
    simp only [List.length_cons, List.length_nil] at this
    omega)
  subst hr
  cases verbose <;> cases h

def ClassStep.append (behind : List Char) : ClassStep → ClassStep
  | .done t rest => .done t (rest ++ behind)
  | .more s rest => .more s (rest ++ behind)

theorem classStep_append {s : ClassState} {r : ClassStep} (h : classStep verbose s cs = some r)
    (hr : ∀ s', r ≠ .more s' []) (hc : ':' ∉ tail) :
    classStep verbose s (cs ++ ')' :: tail) = some (r.append (')' :: tail)) := by
  rw [classStep.eq_def] at h ⊢
  cases hs : skipSpace verbose cs with
  | nil =>
    rw [hs] at h
    cases h
  | cons c cs' =>
    rw [hs] at h
    rw [skipSpace_append hs]
    split at h
    · cases ‹_ = []›
    · rename_i he
      cases he
      simp only
      cases hp : posixClass? cs' with
      | none =>
        rw [hp] at h
        rw [posixClass?_append_eq_none hp hc]
        cases hf : classFront verbose cs' with
        | mk negated front =>
          obtain ⟨ts, r⟩ := front
          rw [hf] at h
          cases h
          cases r with
          | nil => exact absurd rfl (hr _)
          | cons d ds =>
            rw [classFront_append hf]
            rfl
      | some r =>
        rw [hp] at h
        rw [leaves_posixClass? _ hp]
        cases h
        rfl
    · rename_i he
      cases he
      simp only
      split at h
      · cases h
        rfl
      · cases h
        rfl
      · cases h
    · rename_i he
      cases he
      cases h
      rfl
    · rename_i he
      cases he
      cases h
      rfl
    · rename_i he
      cases he
      cases h
      rfl
    · rename_i h1 h2 h3 h4 h5 he
      cases he
      obtain ⟨⟨t, r⟩, hx, rfl⟩ := Option.map_eq_some_iff.mp h
      obtain ⟨d, ds, rfl⟩ := List.exists_cons_of_ne_nil (classRange_rest_ne_nil hx)
      have pair : ∀ {o : Char} {rest : List Char},
          (∀ rest, c = o → d :: ds = o :: rest → False) →
          c :: (d :: ds ++ ')' :: tail) ≠ o :: o :: rest := by
        intro o rest ho he
        injection he with h6 h7
        injection h7 with h7
        exact ho ds h6 (congrArg (· :: ds) h7)
      split
      · cases ‹_ = []›
      · exact (h1 (List.cons.inj ‹_›).1).elim
      · exact (h2 (List.cons.inj ‹_›).1).elim
      · exact (pair h3 ‹_›).elim
      · exact (pair h4 ‹_›).elim
      · exact (pair h5 ‹_›).elim
      · rename_i he
        cases he
        rw [← List.cons_append, leaves_classRange verbose tail hx]
        rfl

theorem classBody_of_done {s : ClassState} {t : ClassTree}
    (h : classStep verbose s cs = some (.done t rest)) :
    classBody verbose s cs = some (t, rest) := by
  rw [classBody]
  split <;> simp_all

theorem classBody_of_more {s s' : ClassState} (h : classStep verbose s cs = some (.more s' rest)) :
    classBody verbose s cs = classBody verbose s' rest := by
  rw [classBody]
  split <;> simp_all

theorem classBody_nil (verbose : Bool) (s : ClassState) : classBody verbose s [] = none := by
  rw [classBody]
  cases verbose <;> rfl

theorem leaves_classBody (verbose : Bool) (hc : ':' ∉ tail) (s : ClassState) :
    Leaves (')' :: tail) (classBody verbose s) := by
  intro cs rest t h
  fun_induction classBody verbose s cs with
  | case1 => cases h
  | case2 s cs t' rest' hs =>
    cases h
    have hdone : ∀ s', ClassStep.done t rest ≠ .more s' [] := by
      intro s' he
      cases he
    exact classBody_of_done (classStep_append hs hdone hc)
  | case3 s cs s' rest' hs ih =>
    have hne : rest' ≠ [] := by
      intro h
      subst h
      rw [classBody_nil] at h
      cases h
    have hmore : ∀ s'', ClassStep.more s' rest' ≠ .more s'' [] := by
      intro s'' he
      cases he
      exact hne rfl
    rw [classBody_of_more (classStep_append hs hmore hc)]
    exact ih h

theorem leaves_bracketClass (verbose : Bool) (hc : ':' ∉ tail) :
    Leaves (')' :: tail) (bracketClass verbose) := by
  intro cs rest t h
  rw [bracketClass] at h ⊢
  cases hf : classFront verbose cs with
  | mk negated front =>
    obtain ⟨ts, r⟩ := front
    rw [hf] at h
    cases r with
    | nil =>
      simp only [classBody_nil] at h
      cases h
    | cons d ds =>
      rw [classFront_append hf]
      exact leaves_classBody verbose hc _ h

end BuildLog.Regex.Token
