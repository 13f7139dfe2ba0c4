import BuildLog.Proofs.Yaml.LineTokens
import Mathlib.Algebra.Order.BigOperators.Group.List

/-! The tokens of whole lines. A document of lines that fit together is read line by line, each from
one outline to the next. -/

namespace BuildLog.Yaml

open Source TokenStream

namespace TokenStream.State

variable {s s' : State} {index line column : Nat} {cs : List Char} {p : Placed} {ps : List Placed}

variable {o : Outline} {k : Option PossibleKey} {keyAllowed : Bool} {rest : List Placed}
  {key t : List Char}

/-- A token that starts behind white space is read where no key waits for its colon. -/
theorem reads_standing {keyAllowed' : Bool} (hunfinished : o.tokens.head? ≠ some .streamEnd)
    (hk : IsOver k p.line)
    (hskip : skipToToken false false keyAllowed rest = (keyAllowed', p :: ps))
    (hend : isEnd p.char = false)
    (htoken : (standing (o.close p.column) none keyAllowed' (p :: ps)).token p (peek ps) = some s') :
    Reads 1 (standing o k keyAllowed rest) s' := by
  obtain ⟨k', hover, hstale⟩ := @exists_dropStale p.line o k keyAllowed rest hk
  refine reads_of_next (isFinished_standing hunfinished) hstale ?_
  rw [next_standing hskip (dropStale_stale hover), hend]
  exact htoken

theorem reads_colon {start : Placed} {required : Bool} {t : Token} (ht : t ≠ .streamEnd)
    (hblocks : o.NoneDeeper column)
    (hline : start.line = line) (hindex : index ≤ start.index + 1024)
    (hcs : isWhiteOrEnd (peek (place (index + 1) line (column + 1) cs)) = true) :
    Reads 1
      (standing (o.push t) (some ⟨o.tokens.length, required, start⟩) false
        (place index line column (':' :: cs)))
      (standing ((((o.openMapping start.column).push .key).push t).push .value) none false
        (place (index + 1) line (column + 1) cs)) := by
  have hplace : place index line column (':' :: cs) =
      ⟨':', index, line, column⟩ :: place (index + 1) line (column + 1) cs := place_cons rfl cs
  have hfresh : isStale ⟨o.tokens.length, required, start⟩ ⟨':', index, line, column⟩ = false := by
    simp [isStale, hline, hindex]
  have hskip : skipToToken false false false (place index line column (':' :: cs)) =
      (false, place index line column (':' :: cs)) := by
    refine skipToToken_of_starts fun c hc => ?_
    obtain rfl := Option.some.inj hc
    decide
  have hclose : (o.push t).close column = o.push t := Outline.close_eq_self hblocks
  rw [hplace] at hskip ⊢
  have hunfinished : (o.push t).tokens.head? ≠ some .streamEnd := fun h => ht (Option.some.inj h)
  refine reads_of_next (isFinished_standing hunfinished) (dropStale_fresh hfresh) ?_
  rw [next_standing hskip (dropStale_fresh hfresh), hclose]
  exact (token_colon hcs).trans (value_standing o t required start column)

theorem exists_reads_key (hkey : Line.IsKey key) (hunfinished : o.tokens.head? ≠ some .streamEnd)
    (hk : IsOver k line)
    (hskip : skipToToken false false keyAllowed rest =
      (true, place index line column (key ++ ':' :: cs)))
    (hcs : ∀ i k, isWhiteOrEnd (peek (place i line k cs)) = true) :
    ∃ i c, column < c ∧ Reads 2 (standing o k keyAllowed rest)
      (standing (o.atKey column key) none false (place i line c cs)) := by
  obtain ⟨hplain, hshort, hmark⟩ := hkey
  obtain ⟨c, qs, hplace, hend, htoken⟩ :=
    exists_token_plain hplain (fun _ => hmark) index line (':' :: cs)
  have hread : (standing (o.close column) none true (⟨c, index, line, column⟩ :: qs)).plain =
      some (standing ((o.close column).push (.scalar key .plain))
        (keyHere (o.close column) true ⟨c, index, line, column⟩) false
        (place (index + key.length) line (column + key.length) (':' :: cs))) :=
    plain_standing hplain (Outline.noneDeeper_close o column) hplace (Scalar.plain_colon (hcs _ _))
  have hfirst : Reads 1 (standing o k keyAllowed rest) _ :=
    reads_standing hunfinished hk (hskip.trans (congrArg _ hplace)) hend ((htoken _ rfl).trans hread)
  have hblocks : (o.close column).NoneDeeper (column + key.length) :=
    (Outline.noneDeeper_close o column).mono (Nat.le_add_right column _)
  have hindex : index + key.length ≤ index + 1024 := Nat.add_le_add_left hshort index
  have hsecond : Reads 1
      (standing ((o.close column).push (.scalar key .plain))
        (keyHere (o.close column) true ⟨c, index, line, column⟩) false
        (place (index + key.length) line (column + key.length) (':' :: cs)))
      (standing ((((Outline.openMapping _ column).push .key).push (.scalar key .plain)).push .value)
        none false (place (index + key.length + 1) line (column + key.length + 1) cs)) :=
    @reads_colon (index + key.length) line (column + key.length) cs (o.close column)
      ⟨c, index, line, column⟩ _ _ Token.noConfusion hblocks rfl hindex (hcs _ _)
  exact ⟨_, _, by omega, hfirst.trans hsecond⟩

/-- A reader in front of some lines, with an outline behind it. -/
structure Before (s : State) (o : Outline) (xs : List Line) : Prop where
  unfinished : o.tokens.head? ≠ some .streamEnd
  stands : ∃ k keyAllowed rest index line, s = standing o k keyAllowed rest ∧ IsOver k line ∧
    skipToToken false false keyAllowed rest =
      (true, place index line (Line.columnOf xs) (Line.textOf xs))

theorem before_newline {xs : List Line} (hunfinished : o.tokens.head? ≠ some .streamEnd)
    (h : StartsToken (Line.textOf xs)) :
    Before (standing o none keyAllowed (place index line column ('\n' :: xs.flatMap Line.chars))) o
      xs := by
  refine ⟨hunfinished, none, keyAllowed, _, index + 1 + Line.columnOf xs, line + 1, rfl,
    isOver_none _, ?_⟩
  rw [Line.flatMap_chars, skipToToken_newline _ h]

/-- A text on the rest of a line is read, and then the reader is in front of the next line. -/
theorem exists_reads_text {style : ScalarStyle} {b : Nat} {xs : List Line}
    (ht : Written.Allows style t) (hunfinished : o.tokens.head? ≠ some .streamEnd)
    (hblock : o.blocks.head? = some b) (hb : b ≤ column) (hnext : Line.columnOf xs ≤ b)
    (hxs : StartsToken (Line.textOf xs)) :
    ∃ s', Reads 1
        (standing o none keyAllowed (place index line column
          (' ' :: (Written.inStyle style t ++ '\n' :: xs.flatMap Line.chars)))) s' ∧
      Before s' (o.push (.scalar t style)) xs := by
  have hbelow : o.NoneDeeper (column + 1) :=
    Outline.noneDeeper_of_head? hblock (hb.trans (Nat.le_succ column))
  rw [Line.flatMap_chars]
  obtain ⟨c, qs, hplace, hend, keyAllowed', rest, i, htoken, hskip⟩ :=
    @exists_token_text (index + 1) line (column + 1) (Line.textOf xs) o keyAllowed t style ht
      (Line.columnOf xs) (Nat.succ_pos _) hbelow ⟨b, hblock, hnext⟩ hxs
  have hspace : skipToToken false false keyAllowed (place index line column
      (' ' :: (Written.inStyle style t ++
        '\n' :: (Written.margin (Line.columnOf xs) ++ Line.textOf xs)))) =
          (keyAllowed, ⟨c, index + 1, line, column + 1⟩ :: qs) := by
    rw [← hplace]
    exact (skipToToken_margin 1).trans (skipToToken_of_starts (Written.startsToken_inStyle ht _))
  have hover : IsOver (keyHere o keyAllowed ⟨c, index + 1, line, column + 1⟩) (line + 1) := by
    intro key hkey
    unfold keyHere at hkey
    split at hkey
    · obtain rfl := Option.some.inj hkey
      have hcolumn : b ≠ column + 1 := by omega
      exact ⟨by simpa [hblock] using hcolumn, Nat.lt_succ_self line⟩
    · cases hkey
  refine ⟨_, reads_standing hunfinished (isOver_none _) hspace hend ?_, fun h => ?_, _, keyAllowed',
    rest, i, line + 1, rfl, hover, hskip⟩
  · rw [Outline.close_eq_self hbelow]
    exact htoken
  · cases Option.some.inj h

theorem reads_emptyMapping {b : Nat} (hunfinished : o.tokens.head? ≠ some .streamEnd)
    (hblock : o.blocks.head? = some b) (hb : b ≤ column) :
    Reads 2 (standing o none false (place index line column (' ' :: '{' :: '}' :: cs)))
      (standing ((o.push .flowMappingStart).push .flowMappingEnd) none false
        (place (index + 3) line (column + 3) cs)) := by
  have hclose : o.close (column + 1) = o :=
    Outline.close_eq_self (Outline.noneDeeper_of_head? hblock (hb.trans (Nat.le_succ column)))
  have hskip : skipToToken false false false (place index line column (' ' :: '{' :: '}' :: cs)) =
      (false, ⟨'{', index + 1, line, column + 1⟩ ::
        place (index + 2) line (column + 2) ('}' :: cs)) := by
    rw [place_cons rfl, place_cons rfl]
    rfl
  have hopen : Reads 1 (standing o none false (place index line column (' ' :: '{' :: '}' :: cs)))
      ⟨place (index + 2) line (column + 2) ('}' :: cs), o.blocks, [none, none], true,
        .flowMappingStart :: o.tokens⟩ := by
    refine reads_standing hunfinished (isOver_none _) hskip rfl ?_
    rw [hclose]
    rfl
  have hend : Reads 1
      ⟨place (index + 2) line (column + 2) ('}' :: cs), o.blocks, [none, none], true,
        .flowMappingStart :: o.tokens⟩
      (standing ((o.push .flowMappingStart).push .flowMappingEnd) none false
        (place (index + 3) line (column + 3) cs)) := by
    rw [place_cons rfl]
    exact reads_of_next rfl rfl rfl
  exact hopen.trans hend

theorem reads_hyphen (hblock : o.blocks.head? = some column)
    (hunfinished : o.tokens.head? ≠ some .streamEnd) (hk : IsOver k line)
    (hskip : skipToToken false false keyAllowed rest =
      (true, place index line column ('-' :: ' ' :: cs))) :
    Reads 1 (standing o k keyAllowed rest)
      (standing (o.push .blockEntry) none true (place (index + 1) line (column + 1) (' ' :: cs))) := by
  have hclose : o.close column = o :=
    Outline.close_eq_self (Outline.noneDeeper_of_head? hblock (Nat.le_refl column))
  have hplace : place index line column ('-' :: ' ' :: cs) = ⟨'-', index, line, column⟩ ::
      ⟨' ', index + 1, line, column + 1⟩ :: place (index + 2) line (column + 2) cs := by
    rw [place_cons rfl, place_cons rfl]
  rw [hplace] at hskip
  refine reads_standing hunfinished hk hskip rfl ?_
  rw [hclose]
  refine (token_hyphen rfl rfl).trans ?_
  have hopen : ∀ ps, (standing o none true ps).openBlock column o.tokens.length .blockSequenceStart =
      standing o none true ps :=
    fun ps => openBlock_of_open (by simp [hblock])
  show ((standing o none true _).openBlock column o.tokens.length .blockSequenceStart).dropKey.bind
    (fun s => some (s.takeOne .blockEntry true)) = _
  rw [hopen, place_cons rfl]
  rfl

theorem isWhiteOrEnd_newline (i l k : Nat) (cs : List Char) :
    isWhiteOrEnd (peek (place i l k ('\n' :: cs))) = true := by
  rw [place_newline]
  rfl

theorem isWhiteOrEnd_space (i l k : Nat) (cs : List Char) :
    isWhiteOrEnd (peek (place i l k (' ' :: cs))) = true := by
  rw [place_cons rfl]
  rfl

/-- A line is read as its outline says. -/
theorem exists_reads_line {x : Line} {xs : List Line} (h : Before s o (x :: xs))
    (hfit : Line.Fit o (x :: xs)) : ∃ s', Reads x.count s s' ∧ Before s' (x.after o) xs := by
  obtain ⟨hx, hnext, hxs⟩ := hfit
  have hstarts := Line.startsToken_textOf hxs
  have hvalue : ∀ column key, (o.atKey column key).tokens.head? ≠ some .streamEnd :=
    fun column key h => by cases Option.some.inj h
  obtain ⟨hunfinished, k, keyAllowed, rest, index, line, rfl, hk, hskip⟩ := h
  cases x with
  | header column key =>
    rw [Line.textOf, Line.body, List.append_assoc] at hskip
    obtain ⟨i, c, -, hread⟩ :=
      exists_reads_key hx hunfinished hk hskip fun _ _ => isWhiteOrEnd_newline _ _ _ _
    exact ⟨_, hread, before_newline (hvalue column key) hstarts⟩
  | field column key text style =>
    obtain ⟨hkey, htext⟩ := hx
    rw [Line.textOf, Line.body, List.append_assoc] at hskip
    obtain ⟨i, c, hc, hread⟩ :=
      exists_reads_key hkey hunfinished hk hskip fun _ _ => isWhiteOrEnd_space _ _ _ _
    obtain ⟨s', htextRead, hbefore⟩ := exists_reads_text htext (hvalue column key)
      (Outline.head?_atKey o column key) hc.le (hnext rfl) hstarts
    exact ⟨s', hread.trans htextRead, hbefore⟩
  | empty column key =>
    rw [Line.textOf, Line.body, List.append_assoc] at hskip
    obtain ⟨i, c, hc, hread⟩ :=
      exists_reads_key hx hunfinished hk hskip fun _ _ => isWhiteOrEnd_space _ _ _ _
    have hblock := Outline.head?_atKey o column key
    exact ⟨_, hread.trans (reads_emptyMapping (hvalue column key) hblock hc.le),
      before_newline (fun h => by cases Option.some.inj h) hstarts⟩
  | item column text style =>
    obtain ⟨hcolumn, htext⟩ := hx
    have hentry : (o.push .blockEntry).tokens.head? ≠ some .streamEnd :=
      fun h => by cases Option.some.inj h
    obtain ⟨s', htextRead, hbefore⟩ :=
      exists_reads_text htext hentry hcolumn (Nat.le_succ column) (hnext rfl) hstarts
    exact ⟨s', (reads_hyphen hcolumn hunfinished hk hskip).trans htextRead, hbefore⟩

theorem exists_reads_lines {xs : List Line} (h : Before s o xs) (hfit : Line.Fit o xs) :
    ∃ s', Reads (xs.map Line.count).sum s s' ∧ Before s' (xs.foldl Line.after o) [] := by
  induction xs generalizing s o with
  | nil => exact ⟨s, .refl s, h⟩
  | cons x xs ih =>
    obtain ⟨s₁, hread, hbefore⟩ := exists_reads_line h hfit
    obtain ⟨s₂, hreads, hend⟩ := ih hbefore hfit.2.2
    exact ⟨s₂, hread.trans hreads, hend⟩

/-- Behind the last line all blocks are closed. -/
theorem run_end (h : Before s o []) (n : Nat) : run (n + 2) s = ⟨o.finish, true⟩ := by
  obtain ⟨hunfinished, k, keyAllowed, rest, index, line, rfl, hk, hskip⟩ := h
  obtain ⟨k', hover, hstale⟩ := @exists_dropStale line o k keyAllowed rest hk
  have hend : isEnd endMark = true := rfl
  have hnext : (standing o k' keyAllowed rest).next = some ⟨[⟨endMark, index, line, 0⟩], [], [none],
      true, .streamEnd :: (List.replicate o.blocks.length .blockEnd ++ o.tokens)⟩ := by
    rw [next_standing hskip (dropStale_stale hover), if_pos hend, ← Outline.closeAll_close o 0]
    rfl
  rw [reads_of_next (isFinished_standing hunfinished) hstale hnext (n + 1)]
  rfl

end TokenStream.State

open TokenStream.State

namespace Line

variable {o : Outline} {xs : List Line}

/-- The tokens of some lines that fit together. -/
theorem ofSource_lines (h : Fit {} xs) :
    ofSource (place 0 0 0 (xs.flatMap chars)) = ⟨(xs.foldl after {}).finish, true⟩ := by
  have hbefore : Before { rest := place 0 0 0 (xs.flatMap chars) } {} xs := by
    refine ⟨(fun h => nomatch h), none, true, _, columnOf xs, 0, rfl, isOver_none 0, ?_⟩
    rw [flatMap_chars, skipToToken_margin, skipToToken_of_starts (startsToken_textOf h),
      Nat.zero_add]
  obtain ⟨s, hread, hend⟩ := exists_reads_lines hbefore h
  have hcount : (xs.map count).sum ≤ (xs.flatMap chars).length := by
    rw [List.length_flatMap]
    exact List.sum_le_sum fun x _ => count_le_length x
  have hlength : (place 0 0 0 (xs.flatMap chars)).length = (xs.flatMap chars).length + 1 :=
    length_place (isPrintable_of_mem_flatMap h)
  obtain ⟨n, hn⟩ := Nat.exists_eq_add_of_le hcount
  have hfuel : (place 0 0 0 (xs.flatMap chars)).length + 2 = (n + 1 + 2) + (xs.map count).sum := by
    omega
  rw [ofSource, hfuel, hread, run_end hend]

end Line

end BuildLog.Yaml
