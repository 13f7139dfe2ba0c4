import BuildLog.Proofs.Yaml.Quoted

/-! The styles of texts on one line: which of them a text is written in, and what stands around it. -/

namespace BuildLog.Yaml.Written

variable {t : List Char} {style : ScalarStyle}

def styleOf (t : List Char) : ScalarStyle :=
  if !isAmbiguous t && allowsPlain t then .plain
  else if allowsSingleQuotes t then .singleQuoted
  else .doubleQuoted

/-- A text on one line with the marks of a style around it. -/
def inStyle (style : ScalarStyle) (t : List Char) : List Char :=
  match style with
  | .singleQuoted => '\'' :: Scalar.doubled t ++ ['\'']
  | .doubleQuoted => '"' :: t.flatMap escape ++ ['"']
  | _ => t

/-- Whether a text may be written in a style on one line. -/
def Allows (style : ScalarStyle) (t : List Char) : Prop :=
  match style with
  | .plain => allowsPlain t = true
  | .singleQuoted => ∀ c ∈ t, isInline c = true
  | .doubleQuoted => True
  | _ => False

theorem indented_of_inline (indent : Nat) (h : ∀ c ∈ t, isBreak c = false) :
    indented indent false t = t := by
  induction t with
  | nil => rfl
  | cons c t ih =>
    obtain ⟨hc, ht⟩ := List.forall_mem_cons.mp h
    rw [indented, hc, ih ht]
    rfl

theorem not_isBreak_getLast? (h : ∀ c ∈ t, isBreak c = false) : t.getLast?.any isBreak = false := by
  cases hlast : t.getLast? with
  | none => rfl
  | some c => exact h c (List.mem_of_getLast? hlast)

/-- Without a break a text has a style, and the margin of further lines does not matter. -/
theorem scalar_eq_inStyle (indent : Nat) (h : ∀ c ∈ t, isBreak c = false) :
    scalar indent t = inStyle (styleOf t) t ++ ['\n'] := by
  have hnewline : t.contains '\n' = false := by
    rw [List.contains_eq_mem, decide_eq_false_iff_not]
    intro hmem
    cases h '\n' hmem
  have hsingle : singleQuoted indent t = '\'' :: Scalar.doubled t ++ ['\''] := by
    rw [singleQuoted, not_isBreak_getLast? h]
    show '\'' :: indented indent false (Scalar.doubled t) ++ [] ++ ['\''] = _
    rw [indented_of_inline indent (Scalar.forall_mem_doubled rfl h), List.append_nil]
  rw [scalar, isBlock, hnewline, styleOf]
  simp only [Bool.false_and, Bool.false_eq_true, if_false]
  split
  · rfl
  · split
    · rw [hsingle]
      rfl
    · rfl

theorem allows_styleOf (h : ∀ c ∈ t, isBreak c = false) : Allows (styleOf t) t := by
  unfold styleOf
  split
  · rename_i hplain
    exact (Bool.and_eq_true_iff.mp hplain).2
  split
  · rename_i hsingle
    intro c hc
    simp only [allowsSingleQuotes, Bool.and_eq_true, List.all_eq_true] at hsingle
    exact isInline_iff.mpr ⟨hsingle.1.1 c hc, h c hc⟩
  · trivial

theorem exists_cons_of_allowsPlain (h : allowsPlain t = true) :
    ∃ c cs, t = c :: cs ∧ isWhite c = false ∧ startsOtherwise c (cs.headD endMark) = false ∧
      (∀ d ∈ t, isInline d = true) ∧ t.getLast?.any isSpace = false ∧ endsEarly t = false := by
  cases t with
  | nil => cases h
  | cons c cs =>
    simp only [allowsPlain, Bool.and_eq_true, Bool.not_eq_true', List.all_eq_true,
      List.any_eq_false] at h
    obtain ⟨⟨⟨⟨⟨⟨hprintable, hbreak⟩, hspace⟩, hlast⟩, -⟩, hother⟩, hearly⟩ := h
    have hinline : ∀ d ∈ c :: cs, isInline d = true := fun d hd =>
      isInline_iff.mpr ⟨hprintable d hd, Bool.eq_false_iff.mpr (hbreak d hd)⟩
    have hwhite : isWhite c = false := by
      refine Bool.eq_false_iff.mpr fun h => ?_
      rw [eq_space_of_isWhite (hinline c List.mem_cons_self) h] at hspace
      cases hspace
    exact ⟨c, cs, rfl, hwhite, hother, hinline, hlast, hearly⟩

theorem isInline_of_mem_inStyle (h : Allows style t) : ∀ c ∈ inStyle style t, isInline c = true := by
  have hquoted : ∀ {mark : Char} {cs : List Char}, isInline mark = true →
      (∀ c ∈ cs, isInline c = true) → ∀ c ∈ mark :: cs ++ [mark], isInline c = true :=
    fun hmark hcs => List.forall_mem_append.mpr
      ⟨List.forall_mem_cons.mpr ⟨hmark, hcs⟩, List.forall_mem_singleton.mpr hmark⟩
  cases style with
  | plain =>
    obtain ⟨_, _, -, -, -, hinline, -⟩ := exists_cons_of_allowsPlain h
    exact hinline
  | singleQuoted => exact hquoted rfl (Scalar.forall_mem_doubled rfl h)
  | doubleQuoted =>
    refine hquoted rfl fun c hc => ?_
    obtain ⟨d, -, hc⟩ := List.mem_flatMap.mp hc
    exact Scalar.isInline_of_mem_escape c hc
  | literal => cases h
  | folded => cases h

theorem startsToken_inStyle (h : Allows style t) (cs : List Char) :
    StartsToken (inStyle style t ++ cs) := by
  cases style with
  | plain =>
    obtain ⟨c, t, rfl, hwhite, hother, hinline, -⟩ := exists_cons_of_allowsPlain h
    intro d hd
    obtain rfl : c = d := Option.some.inj hd
    refine ⟨hinline c List.mem_cons_self, hwhite, ?_⟩
    rintro rfl
    cases hother
  | singleQuoted =>
    intro d hd
    obtain rfl := Option.some.inj hd
    decide
  | doubleQuoted =>
    intro d hd
    obtain rfl := Option.some.inj hd
    decide
  | literal => cases h
  | folded => cases h

end BuildLog.Yaml.Written
