import BuildLog.Proofs.Yaml.Plain
import Mathlib.Tactic.Ring

/-! Quoted scalars: between single quotes only a quote is written in another way, between double quotes
every character that could be taken for something else. -/

namespace BuildLog.Yaml.Scalar

open Source

variable {index line column : Nat} {gap : Gap} {t rest : List Char}

section SingleQuoted

/-- The text with each quote doubled. -/
def doubled (t : List Char) : List Char :=
  t.flatMap fun c => if c = '\'' then ['\'', '\''] else [c]

theorem forall_mem_doubled {P : Char → Prop} (hquote : P '\'') (h : ∀ c ∈ t, P c) :
    ∀ c ∈ doubled t, P c := by
  intro c hc
  obtain ⟨d, hd, hc⟩ := List.mem_flatMap.mp hc
  split at hc
  · obtain rfl : c = '\'' := by simpa using hc
    exact hquote
  · rw [List.mem_singleton.mp hc]
    exact h d hd

theorem singleQuoted_blank {c : Char} (hc : isWhite c = true) (ps : List Placed) :
    singleQuoted gap (⟨c, index, line, column⟩ :: ps) = singleQuoted (gap.push c) ps := by
  have hblank : (isWhite c || isBreak c) = true := by simp [hc]
  rw [singleQuoted.eq_def]
  exact if_pos hblank

theorem singleQuoted_char {c : Char} (hc : isInline c = true) (hwhite : isWhite c = false)
    (hquote : c ≠ '\'') (hcolumn : 0 < column) (ps : List Placed) :
    singleQuoted gap (⟨c, index, line, column⟩ :: ps) =
      (singleQuoted .none ps).map (.prepend (gap.text ++ [c])) := by
  have hzero : column ≠ 0 := by omega
  rw [singleQuoted.eq_def]
  simp [hwhite, (isInline_iff.mp hc).2, isEnd_of_isInline hc, hzero, hquote]

theorem singleQuoted_doubledQuote (hcolumn : 0 < column) (i l k : Nat) (ps : List Placed) :
    singleQuoted gap (⟨'\'', index, line, column⟩ :: ⟨'\'', i, l, k⟩ :: ps) =
      (singleQuoted .none ps).map (.prepend (gap.text ++ ['\''])) := by
  have hzero : column ≠ 0 := by omega
  rw [singleQuoted.eq_def]
  simp [isWhite, isBreak, isEnd, endMark, hzero]

theorem singleQuoted_close {c : Char} (hc : c ≠ '\'') (hcolumn : 0 < column) (i l k : Nat)
    (ps : List Placed) :
    singleQuoted gap (⟨'\'', index, line, column⟩ :: ⟨c, i, l, k⟩ :: ps) =
      some ⟨gap.text, ⟨c, i, l, k⟩ :: ps⟩ := by
  have hzero : column ≠ 0 := by omega
  rw [singleQuoted.eq_def]
  simp [isWhite, isBreak, isEnd, endMark, hzero, hc]

theorem exists_singleQuoted_doubled (ht : ∀ c ∈ t, isInline c = true)
    (hbreak : gap.hasBreak = false) (hcolumn : 0 < column) :
    ∃ i k, singleQuoted gap (place index line column (doubled t ++ '\'' :: '\n' :: rest)) =
      some ⟨gap.text ++ t, place i line k ('\n' :: rest)⟩ := by
  induction t generalizing index column gap with
  | nil =>
    refine ⟨index + 1, column + 1, ?_⟩
    show singleQuoted gap (place index line column ('\'' :: '\n' :: rest)) = _
    rw [place_cons rfl, place_newline, singleQuoted_close (by decide) hcolumn, List.append_nil]
  | cons c t ih =>
    obtain ⟨hc, htail⟩ := List.forall_mem_cons.mp ht
    by_cases hquote : c = '\''
    · subst hquote
      obtain ⟨i, k, hread⟩ := @ih (index + 1 + 1) (column + 1 + 1) .none htail rfl (Nat.succ_pos _)
      refine ⟨i, k, ?_⟩
      show singleQuoted gap
        (place index line column ('\'' :: '\'' :: (doubled t ++ '\'' :: '\n' :: rest))) = _
      rw [place_cons rfl, place_cons rfl, singleQuoted_doubledQuote hcolumn, hread]
      simp [Reading.prepend, Gap.text]
    have hwritten : doubled (c :: t) ++ '\'' :: '\n' :: rest =
        c :: (doubled t ++ '\'' :: '\n' :: rest) := by
      simp [doubled, hquote]
    rw [hwritten, place_cons hc]
    by_cases hwhite : isWhite c = true
    · have hcbreak := (isInline_iff.mp hc).2
      obtain ⟨i, k, hread⟩ :=
        @ih (index + 1) (column + 1) _ htail (Gap.hasBreak_push hbreak hcbreak) (Nat.succ_pos _)
      refine ⟨i, k, ?_⟩
      rw [singleQuoted_blank hwhite, hread, Gap.text_push hbreak hcbreak, List.append_assoc]
      rfl
    · obtain ⟨i, k, hread⟩ := @ih (index + 1) (column + 1) .none htail rfl (Nat.succ_pos _)
      refine ⟨i, k, ?_⟩
      rw [singleQuoted_char hc (by simpa using hwhite) hquote hcolumn, hread]
      simp [Reading.prepend, Gap.text]

end SingleQuoted

section DoubleQuoted

theorem hexDigit?_upperHexDigit : ∀ n < 16, hexDigit? (Written.upperHexDigit n) = some n := by
  decide

theorem isInline_upperHexDigit : ∀ n < 16, isInline (Written.upperHexDigit n) = true := by
  decide

/-- The digits of a number are read in front of other digits. -/
theorem hexCode_hex (digits more value n : Nat) :
    hexCode (digits + more) value (place index line column (Written.hex digits n ++ rest)) =
      hexCode more (value * 16 ^ digits + n % 16 ^ digits)
        (place (index + digits) line (column + digits) rest) := by
  induction digits generalizing more n rest with
  | zero => simp [Written.hex, Nat.mod_one]
  | succ digits ih =>
    have hdigit : n % 16 < 16 := Nat.mod_lt n (by decide)
    have hwritten : Written.hex (digits + 1) n ++ rest =
        Written.hex digits (n / 16) ++ Written.upperHexDigit (n % 16) :: rest := by
      simp [Written.hex]
    have hvalue : 16 * (value * 16 ^ digits + n / 16 % 16 ^ digits) + n % 16 =
        value * 16 ^ (digits + 1) + n % 16 ^ (digits + 1) := by
      rw [Nat.mul_add, Nat.pow_succ', Nat.mod_mul]
      ring
    rw [hwritten, show digits + 1 + more = digits + (more + 1) by omega, ih (more + 1) (n / 16),
      place_cons (isInline_upperHexDigit _ hdigit), hexCode, hexDigit?_upperHexDigit _ hdigit,
      Option.bind_some, hvalue]
    rfl

theorem unescape?_escapeLetter {c letter : Char} (h : Written.escapeLetter? c = some letter) :
    unescape? letter = some c ∧ codeLength? letter = none ∧ isInline letter = true := by
  unfold Written.escapeLetter? at h
  split at h <;> cases h
  all_goals
    rename_i hcode
    rw [← Char.ofNat_toNat c, hcode]
    exact ⟨rfl, rfl, rfl⟩

theorem doubleQuoted_blank {c : Char} (hc : isWhite c = true) (ps : List Placed) :
    doubleQuoted gap (⟨c, index, line, column⟩ :: ps) = doubleQuoted (gap.push c) ps := by
  have hblank : (isWhite c || isBreak c) = true := by simp [hc]
  rw [doubleQuoted.eq_def]
  exact if_pos hblank

theorem doubleQuoted_char {c : Char} (hc : isInline c = true) (hwhite : isWhite c = false)
    (hquote : c ≠ '"') (hescape : c ≠ '\\') (hcolumn : 0 < column) (ps : List Placed) :
    doubleQuoted gap (⟨c, index, line, column⟩ :: ps) =
      (doubleQuoted .none ps).map (.prepend (gap.text ++ [c])) := by
  have hzero : column ≠ 0 := by omega
  rw [doubleQuoted.eq_def]
  simp [hwhite, (isInline_iff.mp hc).2, isEnd_of_isInline hc, hzero, hquote, hescape]

theorem doubleQuoted_close (hcolumn : 0 < column) (ps : List Placed) :
    doubleQuoted gap (⟨'"', index, line, column⟩ :: ps) = some ⟨gap.text, ps⟩ := by
  have hzero : column ≠ 0 := by omega
  rw [doubleQuoted.eq_def]
  simp [isWhite, isBreak, isEnd, endMark, hzero]

theorem doubleQuoted_letter {c letter : Char} (h : Written.escapeLetter? c = some letter)
    (hcolumn : 0 < column) (i l k : Nat) (ps : List Placed) :
    doubleQuoted gap (⟨'\\', index, line, column⟩ :: ⟨letter, i, l, k⟩ :: ps) =
      (doubleQuoted .none ps).map (.prepend (gap.text ++ [c])) := by
  have hzero : column ≠ 0 := by omega
  obtain ⟨hletter, hlength, hinline⟩ := unescape?_escapeLetter h
  have hbreak := (isInline_iff.mp hinline).2
  rw [doubleQuoted.eq_def]
  simp [show isWhite '\\' = false from rfl, show isBreak '\\' = false from rfl,
    show isEnd '\\' = false from rfl, hzero, hletter, hlength, hbreak]

theorem doubleQuoted_code {c letter : Char} {digits : Nat} (hletter : codeLength? letter = some digits)
    (hbreak : isBreak letter = false) (hsize : c.toNat < 16 ^ digits) (hcolumn : 0 < column)
    (i l k : Nat) :
    doubleQuoted gap (⟨'\\', index, line, column⟩ :: ⟨letter, i, l, k⟩ ::
        place (i + 1) line (k + 1) (Written.hex digits c.toNat ++ rest)) =
      (doubleQuoted .none (place (i + 1 + digits) line (k + 1 + digits) rest)).map
        (.prepend (gap.text ++ [c])) := by
  have hzero : column ≠ 0 := by omega
  have hcode : hexCode digits 0 (place (i + 1) line (k + 1) (Written.hex digits c.toNat ++ rest)) =
      some (c.toNat, place (i + 1 + digits) line (k + 1 + digits) rest) := by
    have h := @hexCode_hex (i + 1) line (k + 1) rest digits 0 0 c.toNat
    rw [Nat.add_zero, Nat.zero_mul, Nat.zero_add, Nat.mod_eq_of_lt hsize] at h
    exact h
  have hvalid : c.toNat.isValidChar := c.valid
  rw [doubleQuoted.eq_def]
  simp [show isWhite '\\' = false from rfl, show isBreak '\\' = false from rfl,
    show isEnd '\\' = false from rfl, hzero, hletter, hbreak]
  split
  · rename_i hnone
    rw [hcode] at hnone
    cases hnone
  · rename_i code after hsome
    obtain ⟨rfl, rfl⟩ := Prod.mk.inj (Option.some.inj (hcode.symm.trans hsome))
    rw [if_pos hvalid, Char.ofNat_toNat]

theorem isInline_of_mem_hex {digits n : Nat} {c : Char} (h : c ∈ Written.hex digits n) :
    isInline c = true := by
  induction digits generalizing n with
  | zero => cases h
  | succ digits ih =>
    rcases List.mem_append.mp h with h | h
    · exact ih h
    · rw [List.mem_singleton.mp h]
      exact isInline_upperHexDigit _ (Nat.mod_lt n (by decide))

/-- The three ways in which a character is written between double quotes. -/
theorem escape_cases (c : Char) :
    (Written.escape c = [c] ∧ isInline c = true ∧ c ≠ '"' ∧ c ≠ '\\') ∨
    (∃ letter, Written.escapeLetter? c = some letter ∧ Written.escape c = ['\\', letter]) ∨
    ∃ letter digits, codeLength? letter = some digits ∧ isInline letter = true ∧
      c.toNat < 16 ^ digits ∧
      Written.escape c = '\\' :: letter :: Written.hex digits c.toNat := by
  have hvalid : c.toNat < 0x110000 := by
    have h : c.toNat < 0xD800 ∨ 0xDFFF < c.toNat ∧ c.toNat < 0x110000 := c.valid
    omega
  unfold Written.escape
  split
  · rename_i hplain
    simp only [Bool.and_eq_true, Bool.not_eq_true', bne_iff_ne] at hplain
    obtain ⟨⟨hinline, hquote⟩, hescape⟩ := hplain
    exact .inl ⟨rfl, isInline_iff.mpr hinline, hquote, hescape⟩
  split
  · rename_i letter hletter
    exact .inr (.inl ⟨letter, hletter, rfl⟩)
  split
  · exact .inr (.inr ⟨'x', 2, rfl, rfl, by omega, rfl⟩)
  split
  · exact .inr (.inr ⟨'u', 4, rfl, rfl, by omega, rfl⟩)
  · exact .inr (.inr ⟨'U', 8, rfl, rfl, by omega, rfl⟩)

/-- Each character but a space is read alone, in whatever way it is written. -/
theorem exists_doubleQuoted_escape {c : Char} (hspace : c ≠ ' ') (hcolumn : 0 < column) :
    ∃ i k, 0 < k ∧
      doubleQuoted gap (place index line column (Written.escape c ++ rest)) =
        (doubleQuoted .none (place i line k rest)).map (.prepend (gap.text ++ [c])) := by
  rcases escape_cases c with ⟨hwritten, hc, hquote, hescape⟩ | ⟨letter, hletter, hwritten⟩ |
    ⟨letter, digits, hletter, hinline, hsize, hwritten⟩
  · have hwhite : isWhite c = false :=
      Bool.eq_false_iff.mpr fun h => hspace (eq_space_of_isWhite hc h)
    refine ⟨index + 1, column + 1, Nat.succ_pos _, ?_⟩
    rw [hwritten, List.singleton_append, place_cons hc,
      doubleQuoted_char hc hwhite hquote hescape hcolumn]
  · have hinline := (unescape?_escapeLetter hletter).2.2
    refine ⟨index + 1 + 1, column + 1 + 1, Nat.succ_pos _, ?_⟩
    rw [hwritten, List.cons_append, List.singleton_append, place_cons rfl, place_cons hinline,
      doubleQuoted_letter hletter hcolumn]
  · refine ⟨index + 1 + 1 + digits, column + 1 + 1 + digits, by omega, ?_⟩
    rw [hwritten, List.cons_append, List.cons_append, place_cons rfl, place_cons hinline,
      doubleQuoted_code hletter (isInline_iff.mp hinline).2 hsize hcolumn]

theorem exists_doubleQuoted_escaped (hbreak : gap.hasBreak = false) (hcolumn : 0 < column) :
    ∃ i k, doubleQuoted gap (place index line column (t.flatMap Written.escape ++ '"' :: rest)) =
      some ⟨gap.text ++ t, place i line k rest⟩ := by
  induction t generalizing index column gap with
  | nil =>
    refine ⟨index + 1, column + 1, ?_⟩
    show doubleQuoted gap (place index line column ('"' :: rest)) = _
    rw [place_cons rfl, doubleQuoted_close hcolumn, List.append_nil]
  | cons c t ih =>
    rw [List.flatMap_cons, List.append_assoc]
    by_cases hspace : c = ' '
    · subst hspace
      obtain ⟨i, k, hread⟩ :=
        @ih (index + 1) (column + 1) (gap.push ' ') (Gap.hasBreak_push hbreak rfl) (Nat.succ_pos _)
      refine ⟨i, k, ?_⟩
      show doubleQuoted gap
        (place index line column (' ' :: (t.flatMap Written.escape ++ '"' :: rest))) = _
      rw [place_cons rfl, doubleQuoted_blank rfl, hread, Gap.text_push hbreak rfl, List.append_assoc]
      rfl
    · obtain ⟨i, k, hpos, hchar⟩ := exists_doubleQuoted_escape hspace hcolumn
      obtain ⟨i', k', hread⟩ := @ih i k .none rfl hpos
      refine ⟨i', k', ?_⟩
      rw [hchar, hread]
      simp [Reading.prepend, Gap.text]

theorem isInline_of_mem_escape {c : Char} : ∀ d ∈ Written.escape c, isInline d = true := by
  rcases escape_cases c with ⟨hwritten, hc, -⟩ | ⟨letter, hletter, hwritten⟩ |
    ⟨letter, digits, -, hinline, -, hwritten⟩
  · rw [hwritten]
    exact List.forall_mem_singleton.mpr hc
  · rw [hwritten]
    exact List.forall_mem_cons.mpr
      ⟨rfl, List.forall_mem_singleton.mpr (unescape?_escapeLetter hletter).2.2⟩
  · rw [hwritten]
    exact List.forall_mem_cons.mpr
      ⟨rfl, List.forall_mem_cons.mpr ⟨hinline, fun d => isInline_of_mem_hex⟩⟩

end DoubleQuoted

end BuildLog.Yaml.Scalar
