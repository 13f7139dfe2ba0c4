import BuildLog.Proofs.CommandLine.Pieces

/-! Every line that does not start with a quote is read by the grammar, and in one way only. What is
read decides what the line is split into. -/

namespace BuildLog.CommandLine

variable {style : PathStyle} {cs rest : List Char} {ps : List Piece} {quote : Char}

theorem splitUnquoted_of_blank (h : ∀ c ∈ rest.head?, isBlank c = true) :
    splitUnquoted style .plain rest = .ok ⟨[], rest⟩ := by
  cases rest with
  | nil => rfl
  | cons c cs =>
    rw [splitUnquoted]
    exact if_pos (h c rfl)

/-- The token of a line that can be read is what its pieces stand for. -/
theorem Reads.split (h : Reads style cs ps rest) :
    splitUnquoted style .plain cs = .ok ⟨ps.flatMap Piece.value, rest⟩ := by
  obtain ⟨rfl, hallowed, hend, hblank⟩ := h
  by_cases hb : .backslash ∈ ps
  · obtain ⟨front, behind, rfl, hfront⟩ := List.eq_append_cons_of_mem hb
    obtain ⟨rfl, rfl⟩ := hend front behind rfl
    obtain rfl : style = .posix := hallowed .backslash hb
    have hpieces := splitUnquoted_pieces
      (fun p hp => hallowed p (List.mem_append_left _ hp)) hfront ['\\']
    rw [List.flatMap_append, List.append_nil]
    refine hpieces.trans ?_
    rw [List.flatMap_append]
    rfl
  · rw [splitUnquoted_pieces hallowed hb, splitUnquoted_of_blank hblank]
    simp [Except.map, Split.prepend]

theorem Breaks.split {body : List Char} (h : Breaks style cs ps quote body) :
    splitUnquoted style .plain cs = .error (.unterminatedQuote quote) := by
  obtain ⟨rfl, hallowed, hb, hopens, hbody⟩ := h
  have hblank := isBlank_of_opens hopens
  rw [splitUnquoted_pieces hallowed hb, splitUnquoted]
  simp only [hblank, Bool.false_eq_true, if_false]
  rw [if_pos (opensQuote_iff.mpr hopens), splitUnquoted_section_of_notMem hbody]
  rfl

theorem Reads.cons (h : Reads style cs ps rest) {p : Piece} (hp : p.Allowed style)
    (hb : p ≠ .backslash) : Reads style (p.text ++ cs) (p :: ps) rest where
  line_eq := by rw [h.line_eq, List.flatMap_cons, List.append_assoc]
  allowed := List.forall_mem_cons.mpr ⟨hp, h.allowed⟩
  at_end := by
    intro front behind he
    cases front with
    | nil => exact absurd (List.cons.inj he).1 hb
    | cons _ front => exact h.at_end front behind (List.cons.inj he).2
  blank := h.blank

theorem Breaks.cons {body : List Char} (h : Breaks style cs ps quote body) {p : Piece}
    (hp : p.Allowed style) (hb : p ≠ .backslash) :
    Breaks style (p.text ++ cs) (p :: ps) quote body where
  line_eq := by rw [h.line_eq, List.flatMap_cons, List.append_assoc]
  allowed := List.forall_mem_cons.mpr ⟨hp, h.allowed⟩
  no_backslash := List.not_mem_cons_of_ne_of_not_mem (Ne.symm hb) h.no_backslash
  opens := h.opens
  unclosed := h.unclosed

/-- A line that is read as pieces, up to a rest or up to a section that is never closed. -/
def Readable (style : PathStyle) (cs : List Char) : Prop :=
  (∃ ps rest, Reads style cs ps rest) ∨ ∃ ps quote body, Breaks style cs ps quote body

theorem Readable.cons (h : Readable style cs) {p : Piece} (hp : p.Allowed style)
    (hb : p ≠ .backslash) : Readable style (p.text ++ cs) := by
  rcases h with ⟨ps, rest, h⟩ | ⟨ps, quote, body, h⟩
  · exact .inl ⟨_, _, h.cons hp hb⟩
  · exact .inr ⟨_, _, _, h.cons hp hb⟩

theorem readable (style : PathStyle) (cs : List Char) : Readable style cs := by
  induction hn : cs.length using Nat.strongRecOn generalizing cs with
  | ind n ih =>
    subst hn
    cases cs with
    | nil => exact .inl ⟨[], [], rfl, List.forall_mem_nil _, by simp, by simp⟩
    | cons c cs =>
      by_cases hblank : isBlank c = true
      · exact .inl ⟨[], c :: cs, rfl, List.forall_mem_nil _, by simp, by simp [hblank]⟩
      by_cases hopens : c = '"' ∨ c = '\'' ∧ style = .posix
      · by_cases hc : c ∈ cs
        · obtain ⟨body, rest, rfl, hbody⟩ := List.eq_append_cons_of_mem hc
          have hrest := ih rest.length (by simp; omega) rest rfl
          have h := hrest.cons (p := .quoted c body) ⟨hopens, hbody⟩ (by simp)
          rw [Piece.text, List.cons_append, List.append_assoc] at h
          exact h
        · exact .inr ⟨[], c, cs, rfl, List.forall_mem_nil _, by simp, hopens, hc⟩
      by_cases hescape : c = '\\' ∧ style = .posix
      · obtain ⟨rfl, hs⟩ := hescape
        cases cs with
        | nil =>
          refine .inl ⟨[.backslash], [], rfl, ?_, ?_, by simp⟩
          · intro p hp
            obtain rfl := List.mem_singleton.mp hp
            exact hs
          · intro front behind he
            cases front with
            | nil => exact ⟨(List.cons.inj he).2.symm, rfl⟩
            | cons _ front => simp at he
        | cons c cs =>
          have hrest := ih cs.length (by simp only [List.length_cons]; omega) cs rfl
          exact hrest.cons (p := .escaped c) hs (by simp)
      · have hrest := ih cs.length (by simp) cs rfl
        rw [not_or] at hopens
        refine hrest.cons (p := .plain c) ⟨by simpa using hblank, hopens.1, fun hs => ?_⟩
          (by simp)
        exact ⟨fun h => hopens.2 ⟨h, hs⟩, fun h => hescape ⟨h, hs⟩⟩

theorem not_allowed_plain_of_opens (h : quote = '"' ∨ quote = '\'' ∧ style = .posix) :
    ¬ (Piece.plain quote).Allowed style := by
  intro h
  obtain ⟨_, hquote, hposix⟩ := h
  rcases h with h | ⟨h, hs⟩
  · exact hquote h
  · exact (hposix hs).1 h

theorem ne_backslash_of_opens (h : quote = '"' ∨ quote = '\'' ∧ style = .posix) :
    quote ≠ '\\' := by
  rcases h with rfl | ⟨rfl, _⟩ <;> decide

/-- The body of a section ends at its first quote. -/
theorem section_inj {body body' : List Char} {cs' : List Char} (hb : quote ∉ body)
    (hb' : quote ∉ body') (h : body ++ quote :: cs = body' ++ quote :: cs') :
    body = body' ∧ cs = cs' := by
  have hs := splitQuoted_append hb cs
  rw [h, splitQuoted_append hb' cs'] at hs
  cases hs
  exact ⟨rfl, rfl⟩

/-- The first piece of a line can be told from its first characters. -/
theorem Piece.eq_of_append_eq {p p' : Piece} {cs' : List Char} (hp : p.Allowed style)
    (hp' : p'.Allowed style) (hb : p = .backslash → cs = []) (hb' : p' = .backslash → cs' = [])
    (h : p.text ++ cs = p'.text ++ cs') : p = p' ∧ cs = cs' := by
  cases p with
  | plain c =>
    cases p' with
    | plain c' =>
      obtain ⟨rfl, rfl⟩ := List.cons.inj h
      exact ⟨rfl, rfl⟩
    | quoted quote' body' =>
      obtain ⟨rfl, _⟩ := List.cons.inj h
      exact absurd hp (not_allowed_plain_of_opens hp'.1)
    | escaped c' =>
      obtain ⟨rfl, _⟩ := List.cons.inj h
      exact absurd rfl (hp.2.2 hp').2
    | backslash =>
      obtain ⟨rfl, _⟩ := List.cons.inj h
      exact absurd rfl (hp.2.2 hp').2
  | quoted quote body =>
    cases p' with
    | plain c' =>
      obtain ⟨rfl, _⟩ := List.cons.inj h
      exact absurd hp' (not_allowed_plain_of_opens hp.1)
    | quoted quote' body' =>
      obtain ⟨rfl, h⟩ := List.cons.inj h
      simp only [List.append_eq, List.append_assoc, List.singleton_append] at h
      obtain ⟨rfl, rfl⟩ := section_inj hp.2 hp'.2 h
      exact ⟨rfl, rfl⟩
    | escaped c' =>
      obtain ⟨rfl, _⟩ := List.cons.inj h
      exact absurd rfl (ne_backslash_of_opens hp.1)
    | backslash =>
      obtain ⟨rfl, _⟩ := List.cons.inj h
      exact absurd rfl (ne_backslash_of_opens hp.1)
  | escaped c =>
    cases p' with
    | plain c' =>
      obtain ⟨rfl, _⟩ := List.cons.inj h
      exact absurd rfl (hp'.2.2 hp).2
    | quoted quote' body' =>
      obtain ⟨rfl, _⟩ := List.cons.inj h
      exact absurd rfl (ne_backslash_of_opens hp'.1)
    | escaped c' =>
      obtain ⟨_, h⟩ := List.cons.inj h
      obtain ⟨rfl, rfl⟩ := List.cons.inj h
      exact ⟨rfl, rfl⟩
    | backslash =>
      rw [hb' rfl] at h
      cases (List.cons.inj h).2
  | backslash =>
    cases p' with
    | plain c' =>
      obtain ⟨rfl, _⟩ := List.cons.inj h
      exact absurd rfl (hp'.2.2 hp).2
    | quoted quote' body' =>
      obtain ⟨rfl, _⟩ := List.cons.inj h
      exact absurd rfl (ne_backslash_of_opens hp'.1)
    | escaped c' =>
      rw [hb rfl] at h
      cases (List.cons.inj h).2
    | backslash => exact ⟨rfl, (List.cons.inj h).2⟩

theorem Piece.exists_head {p : Piece} (hp : p.Allowed style) :
    ∃ c t, p.text = c :: t ∧ isBlank c = false := by
  cases p with
  | plain c => exact ⟨c, [], rfl, hp.1⟩
  | quoted quote body => exact ⟨quote, _, rfl, isBlank_of_opens hp.1⟩
  | escaped c => exact ⟨'\\', [c], rfl, by decide⟩
  | backslash => exact ⟨'\\', [], rfl, by decide⟩

theorem Reads.tail {p : Piece} (h : Reads style cs (p :: ps) rest) :
    Reads style (ps.flatMap Piece.text ++ rest) ps rest where
  line_eq := rfl
  allowed := (List.forall_mem_cons.mp h.allowed).2
  at_end := fun front behind he => h.at_end (p :: front) behind (congrArg (p :: ·) he)
  blank := h.blank

theorem Reads.eq_nil (h : Reads style rest ps rest) : ps = [] := by
  cases ps with
  | nil => rfl
  | cons p ps =>
    obtain ⟨c, t, ht, _⟩ := Piece.exists_head (List.forall_mem_cons.mp h.allowed).1
    have hlen := congrArg List.length h.line_eq
    rw [List.flatMap_cons, ht] at hlen
    simp only [List.cons_append, List.length_cons, List.length_append] at hlen
    omega

/-- A line is read in one way only. -/
theorem Reads.unique {ps' : List Piece} {rest' : List Char} (h : Reads style cs ps rest)
    (h' : Reads style cs ps' rest') : ps = ps' ∧ rest = rest' := by
  have hrest : rest = rest' := by
    have hs := h.split.symm.trans h'.split
    exact congrArg Split.rest (Except.ok.inj hs)
  subst hrest
  refine ⟨?_, rfl⟩
  induction ps generalizing cs ps' with
  | nil =>
    obtain rfl : cs = rest := h.line_eq
    exact h'.eq_nil.symm
  | cons p ps ih =>
    cases ps' with
    | nil =>
      obtain rfl : cs = rest := h'.line_eq
      exact h.eq_nil
    | cons p' ps' =>
      have heq := h.line_eq.symm.trans h'.line_eq
      rw [List.flatMap_cons, List.flatMap_cons, List.append_assoc, List.append_assoc] at heq
      have hnil : ∀ {p ps}, Reads style cs (p :: ps) rest → p = .backslash →
          ps.flatMap Piece.text ++ rest = [] := by
        intro p ps h h
        subst h
        obtain ⟨rfl, rfl⟩ := h.at_end [] ps rfl
        rfl
      obtain ⟨rfl, htail⟩ := Piece.eq_of_append_eq (List.forall_mem_cons.mp h.allowed).1
        (List.forall_mem_cons.mp h'.allowed).1 (hnil h) (hnil h') heq
      have ht := h'.tail
      rw [← htail] at ht
      rw [ih h.tail ht]

end BuildLog.CommandLine
