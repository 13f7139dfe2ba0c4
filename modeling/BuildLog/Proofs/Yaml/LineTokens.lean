import BuildLog.Proofs.Yaml.Line

/-! The tokens on a line outside of flow collections, one after the other. The reader goes from one
outline to another, whatever follows. -/

namespace BuildLog.Yaml.TokenStream.State

open Source

variable {s s' s'' : State} {index line column : Nat} {cs : List Char} {p : Placed} {ps : List Placed}

/-- A number of tokens takes the reader from one state to another, whatever it reads then. -/
def Reads (count : Nat) (s s' : State) : Prop := ∀ n, run (n + count) s = run n s'

theorem Reads.refl (s : State) : Reads 0 s s := fun _ => rfl

theorem Reads.trans {j k : Nat} (h : Reads j s s') (h' : Reads k s' s'') : Reads (j + k) s s'' := by
  intro n
  rw [Nat.add_comm j k, ← Nat.add_assoc, h, h']

section Skip

variable {keyAllowed : Bool}

theorem skipToToken_margin (m : Nat) :
    skipToToken false false keyAllowed (place index line column (Written.margin m ++ cs)) =
      skipToToken false false keyAllowed (place (index + m) line (column + m) cs) := by
  induction m generalizing index column with
  | zero => rfl
  | succ m ih =>
    have hplace : place index line column (Written.margin (m + 1) ++ cs) =
        ⟨' ', index, line, column⟩ :: place (index + 1) line (column + 1) (Written.margin m ++ cs) :=
      place_cons rfl _
    rw [hplace, skipToToken, if_neg (by simp), if_pos (by simp), ih, Nat.add_right_comm index 1 m,
      Nat.add_right_comm column 1 m]
    rfl

theorem skipToToken_of_starts (h : StartsToken cs) :
    skipToToken false false keyAllowed (place index line column cs) =
      (keyAllowed, place index line column cs) := by
  obtain ⟨c, ps, hplace, hwhite, hbreak, hcomment⟩ := h.exists_place index line column
  simp only [isWhite, Bool.or_eq_false_iff, beq_eq_false_iff_ne] at hwhite
  simp [hplace, skipToToken, hwhite.1, hwhite.2, hbreak, hcomment]

theorem skipToToken_newline (m : Nat) (h : StartsToken cs) :
    skipToToken false false keyAllowed
        (place index line column ('\n' :: (Written.margin m ++ cs))) =
      (true, place (index + 1 + m) (line + 1) m cs) := by
  have hplace : place index line column ('\n' :: (Written.margin m ++ cs)) =
      ⟨'\n', index, line, column⟩ :: place (index + 1) (line + 1) 0 (Written.margin m ++ cs) :=
    place_newline _
  have hskip : skipToToken false false keyAllowed
      (⟨'\n', index, line, column⟩ :: place (index + 1) (line + 1) 0 (Written.margin m ++ cs)) =
        skipToToken false false true (place (index + 1) (line + 1) 0 (Written.margin m ++ cs)) := by
    simp [skipToToken, isBreak]
  rw [hplace, hskip, skipToToken_margin, Nat.zero_add, skipToToken_of_starts h]

end Skip

/-- A reader outside of flow collections with an outline behind it. -/
def standing (o : Outline) (k : Option PossibleKey) (keyAllowed : Bool) (rest : List Placed) : State :=
  ⟨rest, o.blocks, [k], keyAllowed, o.tokens⟩

section Standing

variable {o : Outline} {k : Option PossibleKey} {keyAllowed : Bool} {rest : List Placed}

/-- A key that is not required and on a line that is over, if it is one at all. -/
def IsOver (k : Option PossibleKey) (line : Nat) : Prop :=
  ∀ key, k = some key → key.required = false ∧ key.start.line < line

theorem isOver_none (line : Nat) : IsOver none line := fun _ h => nomatch h

theorem isFinished_standing (h : o.tokens.head? ≠ some .streamEnd) :
    (standing o k keyAllowed rest).isFinished = false := by
  simpa [isFinished, standing] using h

/-- A key that is not required is kept or given up. -/
theorem exists_dropStale (hk : IsOver k line) : ∃ k', IsOver k' line ∧
    (standing o k keyAllowed rest).dropStale = some (standing o k' keyAllowed rest) := by
  cases rest with
  | nil => exact ⟨k, hk, rfl⟩
  | cons p ps =>
    cases k with
    | none => exact ⟨none, hk, rfl⟩
    | some key =>
      have hrequired := (hk key rfl).1
      by_cases hstale : isStale key p = true
      · refine ⟨none, isOver_none line, ?_⟩
        simp [standing, dropStale, hstale, hrequired]
      · refine ⟨some key, hk, ?_⟩
        simp [standing, dropStale, hstale]

theorem dropStale_fresh {key : PossibleKey} (h : isStale key p = false) :
    (standing o (some key) keyAllowed (p :: ps)).dropStale =
      some (standing o (some key) keyAllowed (p :: ps)) := by
  simp [standing, dropStale, h]

theorem dropStale_stale (hk : IsOver k p.line) :
    (standing o k keyAllowed (p :: ps)).dropStale = some (standing o none keyAllowed (p :: ps)) := by
  cases k with
  | none => rfl
  | some key =>
    obtain ⟨hrequired, hline⟩ := hk key rfl
    simp [standing, dropStale, isStale, hrequired, hline]

theorem reads_of_next (hunfinished : s.isFinished = false) {s₁ : State}
    (hstale : s.dropStale = some s₁) (hnext : s₁.next = some s') : Reads 1 s s' := by
  intro n
  rw [run, hunfinished, hstale]
  simp only [hnext, Bool.false_eq_true, if_false]

theorem next_standing {k' : Option PossibleKey} {keyAllowed' : Bool}
    (hskip : skipToToken false false keyAllowed rest = (keyAllowed', p :: ps))
    (hstale : (standing o k keyAllowed' (p :: ps)).dropStale =
      some (standing o k' keyAllowed' (p :: ps))) :
    (standing o k keyAllowed rest).next =
      if isEnd p.char then (standing (o.close p.column) k' keyAllowed' (p :: ps)).finish
      else (standing (o.close p.column) k' keyAllowed' (p :: ps)).token p (peek ps) := by
  have hskip' : skipToToken (standing o k keyAllowed rest).inFlow false
      (standing o k keyAllowed rest).keyAllowed (standing o k keyAllowed rest).rest =
        (keyAllowed', p :: ps) := hskip
  rw [next, hskip']
  show (standing o k keyAllowed' (p :: ps)).dropStale.bind _ = _
  rw [hstale]
  rfl

end Standing

section Token

theorem token_plain {next : Char} (hflow : s.inFlow = false) (hwhite : isWhite p.char = false)
    (hinline : isInline p.char = true)
    (hindicator : isIndicator p.char = false)
    (hblank : p.char = '-' ∨ p.char = '?' ∨ p.char = ':' → isWhiteOrEnd next = false)
    (hmark : p.column = 0 → p.char ≠ '-' ∧ p.char ≠ '.') : s.token p next = s.plain := by
  have hne : ∀ d, isIndicator d = true → p.char ≠ d := by
    rintro d hd rfl
    rw [hindicator] at hd
    cases hd
  have hstart : startsPlain false p.char next = true := by
    have hend : isWhiteOrEnd p.char = false := by
      simp [isWhiteOrEnd, isBreakOrEnd, hwhite, (isInline_iff.mp hinline).2, isEnd_of_isInline hinline]
    unfold startsPlain
    split
    · have hnext : (isWhite next || isBreakOrEnd next) = false := hblank (.inl ‹_›)
      simp [(Bool.or_eq_false_iff.mp hnext).1]
    split
    · simp [hblank (.inr ‹_›)]
    · simp [hend, hindicator]
  have hhyphen : ¬ (p.char = '-' ∧ isWhiteOrEnd next = true) := fun h => by
    simp [hblank (.inl h.1)] at h
  have hquestion : ¬ (p.char = '?' ∧ (false = true ∨ isWhiteOrEnd next = true)) := fun h => by
    simp [hblank (.inr (.inl h.1))] at h
  have hcolon : ¬ (p.char = ':' ∧ (false = true ∨ isWhiteOrEnd next = true)) := fun h => by
    simp [hblank (.inr (.inr h.1))] at h
  have hdots : ¬ (p.column = 0 ∧ p.char = '.' ∧ isDocumentMarker s.rest = true) :=
    fun h => (hmark h.1).2 h.2.1
  have hhyphens : ¬ (p.column = 0 ∧ p.char = '-' ∧ isDocumentMarker s.rest = true) :=
    fun h => (hmark h.1).1 h.2.1
  simp only [token, hflow, hne '%' rfl, hne '[' rfl, hne '{' rfl, hne ']' rfl, hne '}' rfl,
    hne ',' rfl, hne '*' rfl, hne '&' rfl, hne '!' rfl, hne '|' rfl, hne '>' rfl, hne '\'' rfl,
    hne '"' rfl, hhyphen, hquestion, hcolon, hdots, hhyphens, hstart, and_false, false_and, if_false,
    if_true]

variable {o : Outline} {k : Option PossibleKey} {keyAllowed : Bool} {t : List Char} {c next : Char}

theorem token_colon (hnext : isWhiteOrEnd next = true) :
    (standing o k keyAllowed ps).token ⟨':', index, line, column⟩ next =
      (standing o k keyAllowed ps).value column := by
  simp [token, hnext]

theorem token_hyphen (hnext : isWhiteOrEnd next = true)
    (hmark : isDocumentMarker ps = false) :
    (standing o k keyAllowed ps).token ⟨'-', index, line, column⟩ next =
      (standing o k keyAllowed ps).blockEntry column := by
  have hmark' : isDocumentMarker (standing o k keyAllowed ps).rest = false := hmark
  simp [token, hnext, hmark']

theorem token_singleQuote :
    (standing o k keyAllowed ps).token ⟨'\'', index, line, column⟩ next =
      (standing o k keyAllowed ps).singleQuoted := by
  simp [token]

theorem token_doubleQuote :
    (standing o k keyAllowed ps).token ⟨'"', index, line, column⟩ next =
      (standing o k keyAllowed ps).doubleQuoted := by
  simp [token]

/-- What may be a key at some place, where keys are allowed. -/
def keyHere (o : Outline) (keyAllowed : Bool) (p : Placed) : Option PossibleKey :=
  if keyAllowed then some ⟨o.tokens.length, o.blocks.head? == some p.column, p⟩ else none

theorem mayBeKey_standing : (standing o none keyAllowed (p :: ps)).mayBeKey =
    some (standing o (keyHere o keyAllowed p) keyAllowed (p :: ps)) := by
  cases keyAllowed <;> rfl

theorem innerColumn_le (h : o.NoneDeeper column) :
    (standing o k keyAllowed ps).innerColumn ≤ column + 1 := by
  obtain ⟨blocks, tokens⟩ := o
  cases blocks with
  | nil => exact Nat.zero_le _
  | cons b blocks => exact Nat.succ_le_succ (h b rfl)

theorem lt_innerColumn {m : Nat} (h : ∃ b, o.blocks.head? = some b ∧ m ≤ b) :
    m < (standing o k keyAllowed ps).innerColumn := by
  obtain ⟨b, hb, hm⟩ := h
  obtain ⟨blocks, tokens⟩ := o
  cases blocks with
  | nil => cases hb
  | cons c blocks =>
    obtain rfl : c = b := Option.some.inj hb
    exact Nat.lt_succ_of_le hm

theorem openBlock_of_open {start : Token} {i : Nat} (h : o.blocks.head?.any (column ≤ ·) = true) :
    (standing o k keyAllowed ps).openBlock column i start = standing o k keyAllowed ps :=
  if_pos h

/-- A colon behind a token puts the tokens of a key in front of it. -/
theorem value_standing (o : Outline) (t : Token) (required : Bool) (start : Placed) (column : Nat) :
    (standing (o.push t) (some ⟨o.tokens.length, required, start⟩) keyAllowed (p :: ps)).value column =
      some (standing ((((o.openMapping start.column).push .key).push t).push .value) none false
        ps) := by
  have hkey : ((standing (o.push t) none keyAllowed (p :: ps)).insert o.tokens.length .key) =
      standing ((o.push .key).push t) none keyAllowed (p :: ps) := by
    simp [insert, standing, Outline.push]
  have hopen : (standing ((o.push .key).push t) none keyAllowed (p :: ps)).openBlock start.column
      o.tokens.length .blockMappingStart =
        standing (((o.openMapping start.column).push .key).push t) none keyAllowed (p :: ps) := by
    unfold Outline.openMapping
    split
    · rename_i h
      exact openBlock_of_open h
    · rename_i h
      have hlater : o.tokens.length + 1 + 1 - o.tokens.length = 2 := by omega
      refine (if_neg h).trans ?_
      simp [insert, standing, Outline.push, hlater]
  show some (((_ : State).insert o.tokens.length .key).openBlock start.column o.tokens.length
    .blockMappingStart |>.takeOne .value false) = _
  rw [show ({ standing (o.push t) (some ⟨o.tokens.length, required, start⟩) keyAllowed (p :: ps) with
    keys := [none] } : State) = standing (o.push t) none keyAllowed (p :: ps) from rfl, hkey, hopen]
  rfl

theorem plain_standing (ht : Written.allowsPlain t = true) {passedBreak : Bool}
    (hblocks : o.NoneDeeper column) {q : Placed} {qs : List Placed}
    (hplace : place index line column (t ++ cs) = q :: qs)
    (hend : Scalar.plain false (standing o none keyAllowed ps).innerColumn .none
      (place (index + t.length) line (column + t.length) cs) = some (⟨[], ps⟩, passedBreak)) :
    (standing o none keyAllowed (q :: qs)).plain =
      some (standing (o.push (.scalar t .plain)) (keyHere o keyAllowed q) passedBreak ps) := by
  obtain ⟨_, _, -, -, -, hinline, hlast, hearly⟩ := Written.exists_cons_of_allowsPlain ht
  have hread : Scalar.plain false (standing o none keyAllowed ps).innerColumn .none (q :: qs) =
      some (⟨t, ps⟩, passedBreak) := by
    rw [← hplace, Scalar.plain_append hinline hearly hlast rfl (fun h => absurd rfl h)
      (innerColumn_le hblocks), hend]
    simp [Reading.prepend, Gap.text]
  rw [State.plain, mayBeKey_standing]
  show (Scalar.plain false (standing o none keyAllowed ps).innerColumn .none (q :: qs)).bind _ = _
  rw [hread]
  rfl

/-- What starts a text that may be written plainly starts a plain scalar. -/
theorem exists_token_plain (ht : Written.allowsPlain t = true)
    (hmark : column = 0 → t.head? ≠ some '-' ∧ t.head? ≠ some '.') (index line : Nat)
    (cs : List Char) : ∃ c qs, place index line column (t ++ cs) = ⟨c, index, line, column⟩ :: qs ∧
      isEnd c = false ∧ ∀ s : State, s.inFlow = false →
        s.token ⟨c, index, line, column⟩ (peek qs) = s.plain := by
  obtain ⟨c, t, rfl, hwhite, hother, hinline, -⟩ := Written.exists_cons_of_allowsPlain ht
  obtain ⟨hc, hinline⟩ := List.forall_mem_cons.mp hinline
  simp only [Written.startsOtherwise, Bool.or_eq_false_iff] at hother
  obtain ⟨hlist, hstart⟩ := hother
  have hindicator : isIndicator c = false := by
    have hsub : ",[]\x7b\x7d#&*!|>'\"%@\x60".toList ⊆ "#,[]\x7b\x7d&*!|>'\"%@\x60".toList := by decide
    simp only [isIndicator, List.contains_eq_mem, decide_eq_false_iff_not] at hlist ⊢
    exact fun h => hlist (hsub h)
  have hblank : c = '-' ∨ c = '?' ∨ c = ':' →
      isWhiteOrEnd (peek (place (index + 1) line (column + 1) (t ++ cs))) = false := by
    intro h
    have hnext : isWhiteOrEnd (t.headD endMark) = false := by
      rcases h with rfl | rfl | rfl <;> simpa using hstart
    cases t with
    | nil => cases hnext
    | cons d t => rwa [List.cons_append, peek_place_inline (hinline d List.mem_cons_self)]
  refine ⟨c, _, place_cons hc _, isEnd_of_isInline hc, fun s hflow => ?_⟩
  refine token_plain hflow hwhite hc hindicator hblank fun h => ?_
  obtain ⟨hhyphen, hdot⟩ := hmark h
  exact ⟨fun hc => hhyphen (congrArg some hc), fun hc => hdot (congrArg some hc)⟩

theorem exists_singleQuoted_standing (ht : ∀ c ∈ t, isInline c = true) (index line column : Nat)
    (cs : List Char) : ∃ i k ps,
      place index line column (Written.inStyle .singleQuoted t ++ '\n' :: cs) =
        ⟨'\'', index, line, column⟩ :: ps ∧
      (standing o none keyAllowed (⟨'\'', index, line, column⟩ :: ps)).singleQuoted =
        some (standing (o.push (.scalar t .singleQuoted))
          (keyHere o keyAllowed ⟨'\'', index, line, column⟩) false (place i line k ('\n' :: cs))) := by
  have hwritten : Written.inStyle .singleQuoted t ++ '\n' :: cs =
      '\'' :: (Scalar.doubled t ++ '\'' :: '\n' :: cs) := by
    simp [Written.inStyle]
  obtain ⟨i, k, hread⟩ := @Scalar.exists_singleQuoted_doubled (index + 1) line (column + 1) .none t cs
    ht rfl (Nat.succ_pos _)
  refine ⟨i, k, _, by rw [hwritten, place_cons rfl], ?_⟩
  rw [State.singleQuoted, mayBeKey_standing]
  show (Scalar.singleQuoted .none (place (index + 1) line (column + 1)
    (Scalar.doubled t ++ '\'' :: '\n' :: cs))).bind _ = _
  rw [hread]
  rfl

theorem exists_doubleQuoted_standing (t : List Char) (index line column : Nat) (cs : List Char) :
    ∃ i k ps, place index line column (Written.inStyle .doubleQuoted t ++ cs) =
        ⟨'"', index, line, column⟩ :: ps ∧
      (standing o none keyAllowed (⟨'"', index, line, column⟩ :: ps)).doubleQuoted =
        some (standing (o.push (.scalar t .doubleQuoted))
          (keyHere o keyAllowed ⟨'"', index, line, column⟩) false (place i line k cs)) := by
  have hwritten : Written.inStyle .doubleQuoted t ++ cs =
      '"' :: (t.flatMap Written.escape ++ '"' :: cs) := by
    simp [Written.inStyle]
  obtain ⟨i, k, hread⟩ := @Scalar.exists_doubleQuoted_escaped (index + 1) line (column + 1) .none t cs
    rfl (Nat.succ_pos _)
  refine ⟨i, k, _, by rw [hwritten, place_cons rfl], ?_⟩
  rw [State.doubleQuoted, mayBeKey_standing]
  show (Scalar.doubleQuoted .none (place (index + 1) line (column + 1)
    (t.flatMap Written.escape ++ '"' :: cs))).bind _ = _
  rw [hread]
  rfl

/-- A text in any style is read back, and the reader goes on in the next line. -/
theorem exists_token_text {style : ScalarStyle} (h : Written.Allows style t) {m : Nat}
    (hcolumn : 0 < column) (hblocks : o.NoneDeeper column)
    (hnext : ∃ b, o.blocks.head? = some b ∧ m ≤ b) (hcs : StartsToken cs) :
    ∃ c qs, place index line column (Written.inStyle style t ++ '\n' :: (Written.margin m ++ cs)) =
        ⟨c, index, line, column⟩ :: qs ∧ isEnd c = false ∧
      ∃ keyAllowed' rest i,
        (standing o none keyAllowed (⟨c, index, line, column⟩ :: qs)).token
            ⟨c, index, line, column⟩ (peek qs) =
          some (standing (o.push (.scalar t style))
            (keyHere o keyAllowed ⟨c, index, line, column⟩) keyAllowed' rest) ∧
        skipToToken false false keyAllowed' rest = (true, place i (line + 1) m cs) := by
  cases style with
  | plain =>
    have hmark : column = 0 → t.head? ≠ some '-' ∧ t.head? ≠ some '.' := by omega
    obtain ⟨c, qs, hplace, hend, htoken⟩ :=
      exists_token_plain h hmark index line ('\n' :: (Written.margin m ++ cs))
    have hread : (standing o none keyAllowed (⟨c, index, line, column⟩ :: qs)).plain =
        some (standing (o.push (.scalar t .plain)) (keyHere o keyAllowed ⟨c, index, line, column⟩) true
          (place (index + t.length + 1 + m) (line + 1) m cs)) :=
      plain_standing h hblocks hplace (Scalar.plain_newline (lt_innerColumn hnext) hcs)
    exact ⟨c, qs, hplace, hend, true, _, _,
      (htoken _ rfl).trans hread, skipToToken_of_starts hcs⟩
  | singleQuoted =>
    obtain ⟨i, k, ps, hplace, hread⟩ :=
      @exists_singleQuoted_standing o keyAllowed t h index line column (Written.margin m ++ cs)
    exact ⟨'\'', ps, hplace, rfl, false, _, _,
      token_singleQuote.trans hread, skipToToken_newline m hcs⟩
  | doubleQuoted =>
    obtain ⟨i, k, ps, hplace, hread⟩ :=
      @exists_doubleQuoted_standing o keyAllowed t index line column ('\n' :: (Written.margin m ++ cs))
    exact ⟨'"', ps, hplace, rfl, false, _, _,
      token_doubleQuote.trans hread, skipToToken_newline m hcs⟩
  | literal => cases h
  | folded => cases h

end Token

end BuildLog.Yaml.TokenStream.State
