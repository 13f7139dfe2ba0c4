import BuildLog.Proofs.CommandLine.Tokenize

/-! The commands and arguments that some line is split into. A backslash in front of each character
writes any command for a shell; a Windows path has no escapes, so there a command is written in
quotes of a kind that it does not hold. -/

namespace BuildLog.CommandLine

variable {style : PathStyle} {text : String} {split : CommandLine} {cs rest : List Char}
  {ps : List Piece}

/-- The text does not start with a blank. -/
def StartsPlain (s : String) : Prop :=
  ∀ c ∈ s.toList.head?, isBlank c = false

/-- The command with each of its characters escaped, and the arguments behind a blank. -/
def escaped (split : CommandLine) : String :=
  String.ofList (split.command.toList.flatMap (fun c => ['\\', c]) ++ ' ' :: split.arguments.toList)

/-- The command in quotes, and the arguments behind a blank. -/
def inQuotes (q : Char) (split : CommandLine) : String :=
  String.ofList (q :: (split.command.toList ++ q :: ' ' :: split.arguments.toList))

theorem trimStart_of_startsPlain (h : StartsPlain split.arguments) :
    split.arguments.toList = trimStart (' ' :: split.arguments.toList) := by
  have hblank : trimStart (' ' :: split.arguments.toList) = trimStart split.arguments.toList := rfl
  rw [hblank]
  cases ha : split.arguments.toList with
  | nil => rfl
  | cons c cs =>
    have hc : isBlank c = false := h c (by simp [ha])
    exact (trimStart_cons hc cs).symm

theorem startsPlain_of_trimStart (h : split.arguments.toList = trimStart rest) :
    StartsPlain split.arguments := by
  intro c hc
  rw [h] at hc
  obtain ⟨cs, hcs⟩ := List.head?_eq_some_iff.mp hc
  exact isBlank_of_trimStart hcs

/-- A line that is split has a command in quotes or one made of pieces, and arguments without the
blanks in front of them. -/
theorem cases_of_tokenize (h : tokenize style text = .ok split) :
    (∃ rest, split.arguments.toList = trimStart rest) ∧ split.command ≠ "" ∧
      ((∃ q rest, (q = '"' ∨ q = '\'') ∧
          trimStart text.toList = q :: (split.command.toList ++ q :: rest) ∧
          q ∉ split.command.toList) ∨
        ∃ ps rest, Reads style (trimStart text.toList) ps rest ∧
          split.command.toList = ps.flatMap Piece.value) := by
  obtain ⟨command, arguments⟩ := split
  cases hl : trimStart text.toList with
  | nil =>
    rw [tokenize_eq_empty_iff.mpr hl] at h
    cases h
  | cons c cs =>
    by_cases hc : c = '"' ∨ c = '\''
    · obtain ⟨hne, rest, rfl, hmem, harguments⟩ := (tokenize_quoted_eq_ok_iff hl hc).mp h
      exact ⟨⟨rest, harguments⟩, hne, .inl ⟨c, rest, hc, rfl, hmem⟩⟩
    · rw [not_or] at hc
      obtain ⟨ps, rest, hr, hcommand, harguments⟩ :=
        (tokenize_unquoted_eq_ok_iff hl hc.1 hc.2).mp h
      have hvalue := hr.value_ne_nil (isBlank_of_trimStart hl) hc.1 hc.2
      have hne : command ≠ "" := by
        intro hempty
        rw [hempty] at hcommand
        exact hvalue hcommand.symm
      exact ⟨⟨rest, harguments⟩, hne, .inr ⟨ps, rest, hr, hcommand⟩⟩

theorem Piece.value_sublist (p : Piece) : p.value.Sublist p.text := by
  cases p with
  | plain c => exact .refl _
  | quoted quote body => exact (List.sublist_append_left body [quote]).cons quote
  | escaped c => exact (List.Sublist.refl [c]).cons '\\'
  | backslash => exact .refl _

theorem Piece.flatMap_value_sublist (ps : List Piece) :
    (ps.flatMap Piece.value).Sublist (ps.flatMap Piece.text) := by
  induction ps with
  | nil => exact .refl _
  | cons p ps ih => exact p.value_sublist.append ih

/-- A command is what is left of its line when some characters are taken out. -/
theorem command_sublist_of_tokenize (h : tokenize style text = .ok split) :
    split.command.toList.Sublist text.toList := by
  refine List.Sublist.trans ?_ (List.dropWhile_sublist isBlank)
  obtain ⟨_, _, hcommand⟩ := cases_of_tokenize h
  rcases hcommand with ⟨q, rest, _, hline, _⟩ | ⟨ps, rest, hr, hcommand⟩
  · rw [show text.toList.dropWhile isBlank = _ from hline]
    exact (List.sublist_append_left _ _).cons q
  · rw [hcommand, show text.toList.dropWhile isBlank = _ from hr.line_eq]
    exact (Piece.flatMap_value_sublist ps).trans (List.sublist_append_left _ rest)

/-- No piece of a Windows path stands for a double quote. -/
theorem Reads.doubleQuote_notMem (h : Reads .windows cs ps rest) :
    '"' ∉ ps.flatMap Piece.value := by
  intro hm
  obtain ⟨p, hp, hm⟩ := List.mem_flatMap.mp hm
  have hallowed := h.allowed p hp
  cases p with
  | plain c =>
    obtain rfl : '"' = c := List.mem_singleton.mp hm
    exact hallowed.2.1 rfl
  | quoted quote body =>
    obtain ⟨hquote, hbody⟩ := hallowed
    rcases hquote with rfl | ⟨_, hs⟩
    · exact hbody hm
    · cases hs
  | escaped c => cases hallowed
  | backslash => cases hallowed

theorem quotes_of_tokenize (h : tokenize .windows text = .ok split) :
    ¬ ('"' ∈ split.command.toList ∧ '\'' ∈ split.command.toList) := by
  intro hboth
  obtain ⟨_, _, hcommand⟩ := cases_of_tokenize h
  rcases hcommand with ⟨q, rest, hq, _, hmem⟩ | ⟨ps, rest, hr, hcommand⟩
  · rcases hq with rfl | rfl
    · exact hmem hboth.1
    · exact hmem hboth.2
  · rw [hcommand] at hboth
    exact hr.doubleQuote_notMem hboth.1

theorem reads_escaped (cs : List Char) (hrest : ∀ c ∈ rest.head?, isBlank c = true) :
    Reads .posix (cs.flatMap (fun c => ['\\', c]) ++ rest) (cs.map .escaped) rest where
  line_eq := by
    rw [List.flatMap_map]
    rfl
  allowed := List.forall_mem_map.mpr fun _ _ => rfl
  at_end := by
    intro front behind he
    have hmem : Piece.backslash ∈ cs.map Piece.escaped := by simp [he]
    simp at hmem
  blank := hrest

theorem flatMap_value_escaped (cs : List Char) :
    (cs.map Piece.escaped).flatMap Piece.value = cs := by
  induction cs with
  | nil => rfl
  | cons c cs ih => simp [Piece.value, ih]

/-- What is written with escapes is read as it was. -/
theorem tokenize_escaped (hne : split.command ≠ "") (h : StartsPlain split.arguments) :
    tokenize .posix split.escaped = .ok split := by
  obtain ⟨command, arguments⟩ := split
  cases hc : command.toList with
  | nil => exact absurd (String.toList_eq_nil_iff.mp hc) hne
  | cons c cs =>
    have hblank : ∀ x ∈ (' ' :: arguments.toList).head?, isBlank x = true := by simp [isBlank]
    have hr := reads_escaped (c :: cs) hblank
    have htext : trimStart (escaped ⟨command, arguments⟩).toList =
        '\\' :: c :: (cs.flatMap (fun c => ['\\', c]) ++ ' ' :: arguments.toList) := by
      rw [escaped, String.toList_ofList, hc]
      exact trimStart_cons (by decide) _
    exact (tokenize_unquoted_eq_ok_iff htext (by decide) (by decide)).mpr
      ⟨_, _, hr, by rw [flatMap_value_escaped, hc], trimStart_of_startsPlain h⟩

/-- What is written in quotes is read as it was, unless the quote is in the command. -/
theorem tokenize_inQuotes {q : Char} (hq : q = '"' ∨ q = '\'') (hne : split.command ≠ "")
    (hmem : q ∉ split.command.toList) (h : StartsPlain split.arguments) :
    tokenize style (split.inQuotes q) = .ok split := by
  obtain ⟨command, arguments⟩ := split
  have hblank : isBlank q = false := by rcases hq with rfl | rfl <;> decide
  have htext : trimStart (inQuotes q ⟨command, arguments⟩).toList =
      q :: (command.toList ++ q :: ' ' :: arguments.toList) := by
    rw [inQuotes, String.toList_ofList, trimStart_cons hblank]
  exact (tokenize_quoted_eq_ok_iff htext hq).mpr
    ⟨hne, ' ' :: arguments.toList, rfl, hmem, trimStart_of_startsPlain h⟩

/-- A command and arguments are what some line is split into exactly if there is a command and the
arguments do not start with a blank; a command of a Windows path does not hold both kinds of quotes.
For a shell the line is the one that escapes each character of the command. -/
theorem exists_line_iff (split : CommandLine) :
    ((∃ line, tokenize .posix line = .ok split) ↔
      split.command ≠ "" ∧ StartsPlain split.arguments) ∧
    ((∃ line, tokenize .windows line = .ok split) ↔
      (split.command ≠ "" ∧ StartsPlain split.arguments) ∧
        ¬ ('"' ∈ split.command.toList ∧ '\'' ∈ split.command.toList)) ∧
    (split.command ≠ "" → StartsPlain split.arguments →
      tokenize .posix split.escaped = .ok split) := by
  have hshape : ∀ {style line}, tokenize style line = .ok split →
      split.command ≠ "" ∧ StartsPlain split.arguments := by
    intro style line h
    obtain ⟨⟨rest, harguments⟩, hne, _⟩ := cases_of_tokenize h
    exact ⟨hne, startsPlain_of_trimStart harguments⟩
  refine ⟨⟨fun h => ?_, fun h => ?_⟩, ⟨fun h => ?_, fun h => ?_⟩, tokenize_escaped⟩
  · obtain ⟨line, h⟩ := h
    exact hshape h
  · exact ⟨_, tokenize_escaped h.1 h.2⟩
  · obtain ⟨line, h⟩ := h
    exact ⟨hshape h, quotes_of_tokenize h⟩
  · obtain ⟨⟨hne, hplain⟩, hquotes⟩ := h
    by_cases hdouble : '"' ∈ split.command.toList
    · have hsingle : '\'' ∉ split.command.toList := fun hm => hquotes ⟨hdouble, hm⟩
      exact ⟨_, tokenize_inQuotes (.inr rfl) hne hsingle hplain⟩
    · exact ⟨_, tokenize_inQuotes (.inl rfl) hne hdouble hplain⟩

theorem exists_line_iff_quotes :
    tokenize .posix (escaped ⟨"'\"\n gcc", "-c a.c"⟩) = .ok ⟨"'\"\n gcc", "-c a.c"⟩ ∧
    ¬ ∃ line, tokenize .windows line = .ok ⟨"'\"\n gcc", "-c a.c"⟩ := by
  obtain ⟨_, hwindows, hescaped⟩ := exists_line_iff ⟨"'\"\n gcc", "-c a.c"⟩
  have hplain : StartsPlain "-c a.c" := by simp [StartsPlain, isBlank]
  refine ⟨hescaped (by decide) hplain, fun h => ?_⟩
  have hquotes := (hwindows.mp h).2
  exact hquotes (by decide)

end BuildLog.CommandLine
