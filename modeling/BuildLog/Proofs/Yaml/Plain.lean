import BuildLog.Proofs.Yaml.Place
import BuildLog.Yaml.Scalar

/-! Plain scalars. A text that may be written as it is, is read up to the colon behind it or up to the
next line. -/

namespace BuildLog.Yaml

open Source

/-- Nothing or a character that is neither a blank nor the start of a comment. -/
def StartsToken (cs : List Char) : Prop :=
  ∀ c, cs.head? = some c → isInline c = true ∧ isWhite c = false ∧ c ≠ '#'

theorem StartsToken.exists_place {cs : List Char} (h : StartsToken cs) (index line column : Nat) :
    ∃ c ps, place index line column cs = ⟨c, index, line, column⟩ :: ps ∧
      isWhite c = false ∧ isBreak c = false ∧ c ≠ '#' := by
  cases cs with
  | nil => exact ⟨endMark, [], rfl, rfl, rfl, by decide⟩
  | cons c cs =>
    obtain ⟨hinline, hwhite, hcomment⟩ := h c rfl
    exact ⟨c, _, place_cons hinline cs, hwhite, (isInline_iff.mp hinline).2, hcomment⟩

namespace Gap

variable {gap : Gap} {c : Char}

theorem hasBreak_push (hgap : gap.hasBreak = false) (hc : isBreak c = false) :
    (gap.push c).hasBreak = false := by
  cases gap with
  | none => simp [push, hc, hasBreak]
  | blanks cs => simp [push, hc, hasBreak]
  | lines first more => cases hgap

theorem text_push (hgap : gap.hasBreak = false) (hc : isBreak c = false) :
    (gap.push c).text = gap.text ++ [c] := by
  cases gap with
  | none => simp [push, hc, text]
  | blanks cs => simp [push, hc, text]
  | lines first more => cases hgap

end Gap

namespace Scalar

variable {index line column indent : Nat} {gap : Gap} {t rest : List Char}

/-- Inside a text that may be written plainly, a plain scalar does not end. -/
theorem endsPlain_eq_false {c : Char} {p : Placed} {ps : List Placed} (hp : p.char = c)
    (hc : isInline c = true)
    (hgap : gap ≠ .none → c ≠ '#' ∧ 0 < p.column ∧ indent ≤ p.column)
    (hcolon : c = ':' → isWhiteOrEnd (peek ps) = false) :
    endsPlain false indent gap p ps = false := by
  have hend := isEnd_of_isInline hc
  have hstop : (gap != .none && ((!false && decide (p.column < indent)) || c == '#' ||
      (p.column == 0 && isDocumentMarker (p :: ps)))) = false := by
    by_cases h : gap = .none
    · simp [h]
    · obtain ⟨hcomment, hcolumn, hindent⟩ := hgap h
      have hzero : p.column ≠ 0 := by omega
      simp [hcomment, hzero, Nat.not_lt.mpr hindent]
  have hvalue : (c == ':' && isWhiteOrEnd (peek ps)) = false := by
    by_cases h : c = ':' <;> simp [h]
    exact hcolon h
  rw [endsPlain, hp, hend, hstop, hvalue]
  rfl

theorem plain_gap {c : Char} (hc : isWhite c = true ∨ isBreak c = true) (htab : c ≠ '\t')
    (ps : List Placed) : plain false indent gap (⟨c, index, line, column⟩ :: ps) =
      plain false indent (gap.push c) ps := by
  have hblank : (isWhite c || isBreak c) = true := by simpa using hc
  have htab' : (gap.hasBreak && decide (column < indent) && c == '\t') = false := by simp [htab]
  rw [plain, if_pos hblank, if_neg (by rw [htab']; decide)]

theorem plain_char {c : Char} {ps : List Placed} (hwhite : isWhite c = false)
    (hbreak : isBreak c = false)
    (h : endsPlain false indent gap ⟨c, index, line, column⟩ ps = false) :
    plain false indent gap (⟨c, index, line, column⟩ :: ps) =
      (plain false indent .none ps).map fun r => (r.1.prepend (gap.text ++ [c]), r.2) := by
  simp [plain, hwhite, hbreak, h]

theorem plain_end {c : Char} {ps : List Placed} (hwhite : isWhite c = false)
    (hbreak : isBreak c = false)
    (h : endsPlain false indent gap ⟨c, index, line, column⟩ ps = true) :
    plain false indent gap (⟨c, index, line, column⟩ :: ps) =
      some (⟨[], ⟨c, index, line, column⟩ :: ps⟩, gap.hasBreak) := by
  simp [plain, hwhite, hbreak, h]

/-- A text without a break, or the rest of one behind some blanks, is read up to what follows it. -/
theorem plain_append (ht : ∀ c ∈ t, isInline c = true) (hearly : Written.endsEarly t = false)
    (hlast : t.getLast?.any Written.isSpace = false) (hbreak : gap.hasBreak = false)
    (hgap : gap ≠ .none → t ≠ [] ∧ t.head? ≠ some '#' ∧ 0 < column ∧ indent ≤ column)
    (hindent : indent ≤ column + 1) :
    plain false indent gap (place index line column (t ++ rest)) =
      (plain false indent .none (place (index + t.length) line (column + t.length) rest)).map
        fun r => (r.1.prepend (gap.text ++ t), r.2) := by
  induction t generalizing index column gap with
  | nil =>
    have hnone : gap = .none := Classical.byContradiction fun h => (hgap h).1 rfl
    rw [hnone]
    exact (Option.map_id_apply).symm
  | cons c t ih =>
    obtain ⟨hc, htail⟩ := List.forall_mem_cons.mp ht
    have hcbreak := (isInline_iff.mp hc).2
    have hearly' : Written.endsEarly t = false := by
      simp only [Written.endsEarly, Bool.or_eq_false_iff] at hearly
      exact hearly.2
    have hlast' : t.getLast?.any Written.isSpace = false := by
      cases t with
      | nil => rfl
      | cons d t => simpa using hlast
    have hplace : place index line column (c :: t ++ rest) =
        ⟨c, index, line, column⟩ :: place (index + 1) line (column + 1) (t ++ rest) := place_cons hc _
    have hindex : index + 1 + t.length = index + (c :: t).length := Nat.add_right_comm index 1 _
    have hcolumn : column + 1 + t.length = column + (c :: t).length := Nat.add_right_comm column 1 _
    by_cases hwhite : isWhite c = true
    · obtain rfl := eq_space_of_isWhite hc hwhite
      have hgap' : gap.push ' ' ≠ .none → t ≠ [] ∧ t.head? ≠ some '#' ∧ 0 < column + 1 ∧
          indent ≤ column + 1 := by
        intro _
        cases t with
        | nil => simp [Written.isSpace] at hlast
        | cons d t =>
          refine ⟨by simp, fun h => ?_, by omega, hindent⟩
          obtain rfl : d = '#' := by simpa using h
          simp [Written.endsEarly, isWhiteOrEnd, isWhite] at hearly
      rw [hplace, plain_gap (.inl hwhite) (by decide),
        ih htail hearly' hlast' (Gap.hasBreak_push hbreak rfl) hgap' (by omega),
        Gap.text_push hbreak rfl, hindex, hcolumn, List.append_assoc]
      rfl
    · have hnext : c = ':' →
          isWhiteOrEnd (peek (place (index + 1) line (column + 1) (t ++ rest))) = false := by
        rintro rfl
        cases t with
        | nil => simp [Written.endsEarly] at hearly
        | cons d t =>
          rw [List.cons_append, peek_place_inline (htail d List.mem_cons_self)]
          simp only [Written.endsEarly, Bool.or_eq_false_iff] at hearly
          simpa using hearly.1.1
      have hstop : endsPlain false indent gap ⟨c, index, line, column⟩
          (place (index + 1) line (column + 1) (t ++ rest)) = false := by
        refine endsPlain_eq_false rfl hc (fun h => ?_) hnext
        obtain ⟨-, hhead, hcolumn, hindent⟩ := hgap h
        exact ⟨fun hc => hhead (congrArg some hc), hcolumn, hindent⟩
      rw [hplace, plain_char (by simpa using hwhite) hcbreak hstop,
        ih htail hearly' hlast' rfl (fun h => absurd rfl h) (by omega), hindex, hcolumn,
        Option.map_map]
      congr 1
      funext r
      simp [Reading.prepend, Gap.text]

theorem plain_colon (h : isWhiteOrEnd (peek (place (index + 1) line (column + 1) rest)) = true) :
    plain false indent .none (place index line column (':' :: rest)) =
      some (⟨[], place index line column (':' :: rest)⟩, false) := by
  rw [place_cons rfl, plain_end rfl rfl (by simp [endsPlain, h])]
  rfl

theorem plain_margin {first : Option Char} {more : List Char} {m : Nat}
    (hindent : column + m < indent) (hrest : StartsToken rest) :
    plain false indent (.lines first more) (place index line column (Written.margin m ++ rest)) =
      some (⟨[], place (index + m) line (column + m) rest⟩, true) := by
  induction m generalizing index column with
  | zero =>
    obtain ⟨c, ps, hplace, hwhite, hbreak, -⟩ := hrest.exists_place index line column
    have hcolumn : column < indent := hindent
    show plain false indent _ (place index line column rest) = _
    rw [hplace, plain_end hwhite hbreak (by simp [endsPlain, hcolumn])]
    exact congrArg (fun ps => some (Reading.mk [] ps, true)) hplace.symm
  | succ m ih =>
    have hplace : place index line column (Written.margin (m + 1) ++ rest) =
        ⟨' ', index, line, column⟩ :: place (index + 1) line (column + 1) (Written.margin m ++ rest) :=
      place_cons rfl _
    have hpush : (Gap.lines first more).push ' ' = .lines first more := rfl
    rw [hplace, plain_gap (.inl rfl) (by decide), hpush, ih (by omega), Nat.add_right_comm index 1 m,
      Nat.add_right_comm column 1 m]
    rfl

theorem plain_newline {m : Nat} (hindent : m < indent) (hrest : StartsToken rest) :
    plain false indent .none (place index line column ('\n' :: (Written.margin m ++ rest))) =
      some (⟨[], place (index + 1 + m) (line + 1) m rest⟩, true) := by
  have hplace : place index line column ('\n' :: (Written.margin m ++ rest)) =
      ⟨'\n', index, line, column⟩ :: place (index + 1) (line + 1) 0 (Written.margin m ++ rest) :=
    place_newline _
  have hmargin : plain false indent (.lines (some '\n') [])
      (place (index + 1) (line + 1) 0 (Written.margin m ++ rest)) =
        some (⟨[], place (index + 1 + m) (line + 1) (0 + m) rest⟩, true) :=
    plain_margin (by omega) hrest
  rw [Nat.zero_add] at hmargin
  rw [hplace, plain_gap (.inr rfl) (by decide)]
  exact hmargin

end Scalar

end BuildLog.Yaml
