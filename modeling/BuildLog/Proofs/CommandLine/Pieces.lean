import BuildLog.CommandLine

/-! The grammar of the command in front of a line. A token that does not start with a quote is made
of pieces, and what splits the token off reads exactly these. -/

namespace BuildLog.CommandLine

/-- What an unquoted token is made of. A lone backslash stands at the end of a line. -/
inductive Piece where
  | plain (c : Char)
  | quoted (quote : Char) (body : List Char)
  | escaped (c : Char)
  | backslash
  deriving DecidableEq, Repr

namespace Piece

def text : Piece → List Char
  | plain c => [c]
  | quoted quote body => quote :: (body ++ [quote])
  | escaped c => ['\\', c]
  | backslash => ['\\']

/-- The piece with quotes and escapes removed. -/
def value : Piece → List Char
  | plain c => [c]
  | quoted _ body => body
  | escaped c => [c]
  | backslash => ['\\']

/-- The pieces of a style. There are no escapes in a Windows path and an apostrophe is a character
like any other. -/
def Allowed (style : PathStyle) : Piece → Prop
  | plain c => isBlank c = false ∧ c ≠ '"' ∧ (style = .posix → c ≠ '\'' ∧ c ≠ '\\')
  | quoted quote body => (quote = '"' ∨ quote = '\'' ∧ style = .posix) ∧ quote ∉ body
  | escaped _ => style = .posix
  | backslash => style = .posix

end Piece

/-- A line is read as some pieces and a rest that is empty or starts with a blank. -/
structure Reads (style : PathStyle) (line : List Char) (ps : List Piece) (rest : List Char) :
    Prop where
  line_eq : line = ps.flatMap Piece.text ++ rest
  allowed : ∀ p ∈ ps, p.Allowed style
  at_end : ∀ front behind, ps = front ++ .backslash :: behind → behind = [] ∧ rest = []
  blank : ∀ c ∈ rest.head?, isBlank c = true

/-- Behind some pieces a quote opens a section that is never closed. -/
structure Breaks (style : PathStyle) (line : List Char) (ps : List Piece) (quote : Char)
    (body : List Char) : Prop where
  line_eq : line = ps.flatMap Piece.text ++ quote :: body
  allowed : ∀ p ∈ ps, p.Allowed style
  no_backslash : Piece.backslash ∉ ps
  opens : quote = '"' ∨ quote = '\'' ∧ style = .posix
  unclosed : quote ∉ body

def Split.prepend (t : List Char) (s : Split) : Split :=
  { s with token := t ++ s.token }

variable {style : PathStyle} {cs rest : List Char} {ps : List Piece} {quote : Char}

theorem map_map {α β γ ε : Type} (r : Except ε α) (f : α → β) (g : β → γ) :
    (r.map f).map g = r.map (g ∘ f) := by
  cases r <;> rfl

theorem splitQuoted_of_notMem (h : quote ∉ cs) :
    splitQuoted quote cs = .error (.unterminatedQuote quote) := by
  induction cs with
  | nil => rfl
  | cons c cs ih =>
    rw [List.mem_cons, not_or] at h
    rw [splitQuoted, if_neg (Ne.symm h.1), ih h.2]
    rfl

theorem splitQuoted_append {body : List Char} (h : quote ∉ body) (rest : List Char) :
    splitQuoted quote (body ++ quote :: rest) = .ok ⟨body, rest⟩ := by
  induction body with
  | nil => exact if_pos rfl
  | cons c body ih =>
    rw [List.mem_cons, not_or] at h
    rw [List.cons_append, splitQuoted, if_neg (Ne.symm h.1), ih h.2]
    rfl

theorem splitUnquoted_section_of_notMem (h : quote ∉ cs) :
    splitUnquoted style (.quoted quote) cs = .error (.unterminatedQuote quote) := by
  induction cs with
  | nil => rfl
  | cons c cs ih =>
    rw [List.mem_cons, not_or] at h
    rw [splitUnquoted, if_neg (Ne.symm h.1), ih h.2]
    rfl

/-- A section gives the token its body. -/
theorem splitUnquoted_section {body : List Char} (h : quote ∉ body) (rest : List Char) :
    splitUnquoted style (.quoted quote) (body ++ quote :: rest) =
      (splitUnquoted style .plain rest).map (Split.prepend body) := by
  induction body with
  | nil =>
    rw [List.nil_append, splitUnquoted, if_pos rfl]
    cases splitUnquoted style .plain rest <;> rfl
  | cons c body ih =>
    rw [List.mem_cons, not_or] at h
    rw [List.cons_append, splitUnquoted, if_neg (Ne.symm h.1), ih h.2, map_map]
    rfl

theorem opensQuote_iff {c : Char} :
    opensQuote style c = true ↔ c = '"' ∨ c = '\'' ∧ style = .posix := by
  simp [opensQuote]

theorem isBlank_of_opens (h : quote = '"' ∨ quote = '\'' ∧ style = .posix) :
    isBlank quote = false := by
  rcases h with rfl | ⟨rfl, _⟩ <;> decide

/-- One piece in front of a line goes to the token. -/
theorem splitUnquoted_piece {p : Piece} (hp : p.Allowed style) (hb : p ≠ .backslash)
    (rest : List Char) :
    splitUnquoted style .plain (p.text ++ rest) =
      (splitUnquoted style .plain rest).map (Split.prepend p.value) := by
  cases p with
  | plain c =>
    obtain ⟨hblank, hquote, hposix⟩ := hp
    have hopens : ¬ opensQuote style c = true := by
      rw [opensQuote_iff]
      intro h
      rcases h with h | ⟨h, hs⟩
      · exact hquote h
      · exact (hposix hs).1 h
    have hescape : ¬ (c = '\\' ∧ style = .posix) := fun h => (hposix h.2).2 h.1
    rw [Piece.text, List.singleton_append, splitUnquoted.eq_def]
    simp only [hblank, Bool.false_eq_true, if_false]
    rw [if_neg hopens, if_neg hescape]
    rfl
  | quoted quote body =>
    obtain ⟨hopens, hbody⟩ := hp
    have hblank := isBlank_of_opens hopens
    rw [Piece.text, List.cons_append, List.append_assoc, List.singleton_append,
      splitUnquoted.eq_def]
    simp only [hblank, Bool.false_eq_true, if_false]
    rw [if_pos (opensQuote_iff.mpr hopens)]
    exact splitUnquoted_section hbody rest
  | escaped c =>
    obtain rfl : style = .posix := hp
    rfl
  | backslash => exact absurd rfl hb

/-- The pieces in front of a line go to the token one by one. -/
theorem splitUnquoted_pieces (hps : ∀ p ∈ ps, p.Allowed style) (hb : .backslash ∉ ps)
    (rest : List Char) :
    splitUnquoted style .plain (ps.flatMap Piece.text ++ rest) =
      (splitUnquoted style .plain rest).map (Split.prepend (ps.flatMap Piece.value)) := by
  induction ps with
  | nil =>
    show splitUnquoted style .plain rest = _
    cases splitUnquoted style .plain rest <;> rfl
  | cons p ps ih =>
    obtain ⟨hp, hps⟩ := List.forall_mem_cons.mp hps
    rw [List.mem_cons, not_or] at hb
    rw [List.flatMap_cons, List.append_assoc, splitUnquoted_piece hp (Ne.symm hb.1),
      ih hps hb.2, map_map, List.flatMap_cons]
    refine congrArg (Except.map · _) (funext fun s => ?_)
    simp [Split.prepend]

end BuildLog.CommandLine
