import BuildLog.Proofs.CommandLine.Grammar

/-! What the tokenizer makes of a line, by how the line starts. -/

namespace BuildLog.CommandLine

variable {style : PathStyle} {line : String} {cs : List Char} {reason : MalformedLine}

theorem tokenize_of_error (h : splitToken style (trimStart line.toList) = .error reason) :
    tokenize style line = .error reason := by
  rw [tokenize, h]
  rfl

theorem tokenize_of_ok {s : Split} (h : splitToken style (trimStart line.toList) = .ok s) :
    tokenize style line = if s.token = [] then .error .emptyCommand
      else .ok ⟨String.ofList s.token, String.ofList (trimStart s.rest)⟩ := by
  rw [tokenize, h]
  obtain ⟨token, rest⟩ := s
  cases token <;> rfl

theorem splitToken_of_quote {q : Char} (h : q = '"' ∨ q = '\'') (body : List Char) :
    splitToken style (q :: body) = splitQuoted q body :=
  if_pos h

theorem splitToken_of_not_quote {c : Char} (h : c ≠ '"') (h' : c ≠ '\'') (cs : List Char) :
    splitToken style (c :: cs) = splitUnquoted style .plain (c :: cs) :=
  if_neg fun hc => hc.elim h h'

theorem isBlank_of_trimStart {c : Char} {l : List Char} (h : trimStart l = c :: cs) :
    isBlank c = false := by
  have hd := List.head?_dropWhile_not isBlank l
  rw [show l.dropWhile isBlank = c :: cs from h] at hd
  simpa using hd

section

variable {q : Char} {body : List Char}

theorem tokenize_of_unclosed (h : trimStart line.toList = q :: body) (hq : q = '"' ∨ q = '\'')
    (hbody : q ∉ body) : tokenize style line = .error (.unterminatedQuote q) := by
  refine tokenize_of_error ?_
  rw [h, splitToken_of_quote hq, splitQuoted_of_notMem hbody]

theorem tokenize_of_closed {rest : List Char}
    (h : trimStart line.toList = q :: (body ++ q :: rest)) (hq : q = '"' ∨ q = '\'')
    (hbody : q ∉ body) : tokenize style line = if body = [] then .error .emptyCommand
      else .ok ⟨String.ofList body, String.ofList (trimStart rest)⟩ := by
  refine tokenize_of_ok (s := ⟨body, rest⟩) ?_
  rw [h, splitToken_of_quote hq, splitQuoted_append hbody]

theorem tokenize_quoted_eq_error_iff (h : trimStart line.toList = q :: body)
    (hq : q = '"' ∨ q = '\'') : tokenize style line = .error reason ↔
      reason = .unterminatedQuote q ∧ q ∉ body ∨ reason = .emptyCommand ∧ body.head? = some q := by
  by_cases hm : q ∈ body
  · obtain ⟨t, rest, rfl, ht⟩ := List.eq_append_cons_of_mem hm
    rw [tokenize_of_closed h hq ht]
    cases t with
    | nil => simp [eq_comm]
    | cons c t =>
      rw [List.mem_cons, not_or] at ht
      simp [Ne.symm ht.1]
  · have hhead : body.head? ≠ some q := fun hh => hm (List.mem_of_head? hh)
    rw [tokenize_of_unclosed h hq hm]
    simp [hm, hhead, eq_comm]

theorem tokenize_quoted_eq_ok_iff {command arguments : String}
    (h : trimStart line.toList = q :: body) (hq : q = '"' ∨ q = '\'') :
    tokenize style line = .ok ⟨command, arguments⟩ ↔ command ≠ "" ∧
      ∃ rest, body = command.toList ++ q :: rest ∧ q ∉ command.toList ∧
        arguments.toList = trimStart rest := by
  constructor
  · intro hok
    by_cases hm : q ∈ body
    · obtain ⟨t, rest, rfl, ht⟩ := List.eq_append_cons_of_mem hm
      rw [tokenize_of_closed h hq ht] at hok
      by_cases hnil : t = []
      · rw [if_pos hnil] at hok
        cases hok
      · rw [if_neg hnil] at hok
        cases hok
        refine ⟨?_, rest, ?_, ?_, String.toList_ofList⟩
        · simpa using hnil
        · rw [String.toList_ofList]
        · rwa [String.toList_ofList]
    · rw [tokenize_of_unclosed h hq hm] at hok
      cases hok
  · intro h
    obtain ⟨hne, rest, rfl, hm, harguments⟩ := h
    have hnil : command.toList ≠ [] := by simpa using hne
    rw [tokenize_of_closed h hq hm, if_neg hnil, ← harguments, String.ofList_toList,
      String.ofList_toList]

end

section

variable {c : Char} {rest : List Char} {ps : List Piece}

theorem Reads.value_ne_nil (h : Reads style (c :: cs) ps rest) (hblank : isBlank c = false)
    (hc : c ≠ '"') (hc' : c ≠ '\'') : ps.flatMap Piece.value ≠ [] := by
  cases ps with
  | nil =>
    have hb := h.blank c (by rw [show rest = c :: cs from h.line_eq.symm]; rfl)
    rw [hblank] at hb
    cases hb
  | cons p ps =>
    have hline := h.line_eq
    have hp := (List.forall_mem_cons.mp h.allowed).1
    cases p with
    | quoted quote body =>
      obtain ⟨rfl, _⟩ := List.cons.inj hline
      rcases hp.1 with h | ⟨h, _⟩
      · exact absurd h hc
      · exact absurd h hc'
    | _ => simp [Piece.value]

theorem tokenize_of_reads (h : trimStart line.toList = c :: cs) (hc : c ≠ '"') (hc' : c ≠ '\'')
    (hr : Reads style (c :: cs) ps rest) : tokenize style line =
      .ok ⟨String.ofList (ps.flatMap Piece.value), String.ofList (trimStart rest)⟩ := by
  have hsplit : splitToken style (trimStart line.toList) = .ok ⟨ps.flatMap Piece.value, rest⟩ := by
    rw [h, splitToken_of_not_quote hc hc']
    exact hr.split
  rw [tokenize_of_ok hsplit, if_neg (hr.value_ne_nil (isBlank_of_trimStart h) hc hc')]

theorem tokenize_of_breaks {q : Char} {body : List Char} (h : trimStart line.toList = c :: cs)
    (hc : c ≠ '"') (hc' : c ≠ '\'') (hb : Breaks style (c :: cs) ps q body) :
    tokenize style line = .error (.unterminatedQuote q) := by
  refine tokenize_of_error ?_
  rw [h, splitToken_of_not_quote hc hc']
  exact hb.split

theorem tokenize_unquoted_eq_error_iff (h : trimStart line.toList = c :: cs) (hc : c ≠ '"')
    (hc' : c ≠ '\'') : tokenize style line = .error reason ↔
      ∃ ps q body, Breaks style (c :: cs) ps q body ∧ reason = .unterminatedQuote q := by
  constructor
  · intro herror
    rcases readable style (c :: cs) with ⟨ps, rest, hr⟩ | ⟨ps, q, body, hb⟩
    · rw [tokenize_of_reads h hc hc' hr] at herror
      cases herror
    · rw [tokenize_of_breaks h hc hc' hb] at herror
      cases herror
      exact ⟨ps, q, body, hb, rfl⟩
  · intro h
    obtain ⟨ps, q, body, hb, rfl⟩ := h
    exact tokenize_of_breaks h hc hc' hb

theorem tokenize_unquoted_eq_ok_iff {command arguments : String}
    (h : trimStart line.toList = c :: cs) (hc : c ≠ '"') (hc' : c ≠ '\'') :
    tokenize style line = .ok ⟨command, arguments⟩ ↔
      ∃ ps rest, Reads style (c :: cs) ps rest ∧ command.toList = ps.flatMap Piece.value ∧
        arguments.toList = trimStart rest := by
  constructor
  · intro hok
    rcases readable style (c :: cs) with ⟨ps, rest, hr⟩ | ⟨ps, q, body, hb⟩
    · rw [tokenize_of_reads h hc hc' hr] at hok
      cases hok
      exact ⟨ps, rest, hr, String.toList_ofList, String.toList_ofList⟩
    · rw [tokenize_of_breaks h hc hc' hb] at hok
      cases hok
  · intro h
    obtain ⟨ps, rest, hr, hcommand, harguments⟩ := h
    rw [tokenize_of_reads h hc hc' hr, ← hcommand, ← harguments, String.ofList_toList,
      String.ofList_toList]

end

theorem tokenize_eq_empty_iff :
    tokenize style line = .error .empty ↔ trimStart line.toList = [] := by
  constructor
  · intro h
    cases hl : trimStart line.toList with
    | nil => rfl
    | cons c cs =>
      by_cases hq : c = '"' ∨ c = '\''
      · rcases (tokenize_quoted_eq_error_iff hl hq).mp h with ⟨he, _⟩ | ⟨he, _⟩ <;> cases he
      · rw [not_or] at hq
        obtain ⟨_, _, _, _, he⟩ := (tokenize_unquoted_eq_error_iff hl hq.1 hq.2).mp h
        cases he
  · intro h
    refine tokenize_of_error ?_
    rw [h]
    rfl

/-- The tokenizer recognizes its grammar and nothing else: a line without text is empty, a line that
starts with a quote is cut at the next such quote, and any other line is read piece by piece up to a
blank or up to a section that is never closed. -/
theorem tokenize_recognizes (style : PathStyle) (line : String) :
    (tokenize style line = .error .empty ↔ trimStart line.toList = []) ∧
    (∀ q body, trimStart line.toList = q :: body → q = '"' ∨ q = '\'' →
      (∀ reason, tokenize style line = .error reason ↔
        reason = .unterminatedQuote q ∧ q ∉ body ∨
          reason = .emptyCommand ∧ body.head? = some q) ∧
      ∀ command arguments, tokenize style line = .ok ⟨command, arguments⟩ ↔
        command ≠ "" ∧ ∃ rest, body = command.toList ++ q :: rest ∧ q ∉ command.toList ∧
          arguments.toList = trimStart rest) ∧
    ∀ c cs, trimStart line.toList = c :: cs → c ≠ '"' → c ≠ '\'' →
      (∀ reason, tokenize style line = .error reason ↔
        ∃ ps q body, Breaks style (c :: cs) ps q body ∧ reason = .unterminatedQuote q) ∧
      ∀ command arguments, tokenize style line = .ok ⟨command, arguments⟩ ↔
        ∃ ps rest, Reads style (c :: cs) ps rest ∧ command.toList = ps.flatMap Piece.value ∧
          arguments.toList = trimStart rest :=
  ⟨tokenize_eq_empty_iff,
    fun _ _ h hq => ⟨fun _ => tokenize_quoted_eq_error_iff h hq,
      fun _ _ => tokenize_quoted_eq_ok_iff h hq⟩,
    fun _ _ h hc hc' => ⟨fun _ => tokenize_unquoted_eq_error_iff h hc hc',
      fun _ _ => tokenize_unquoted_eq_ok_iff h hc hc'⟩⟩

theorem tokenize_recognizes_gcc :
    ∃ ps rest, Reads .posix "/opt/'my tools'/gcc -c".toList ps rest ∧
      "/opt/my tools/gcc".toList = ps.flatMap Piece.value ∧ "-c".toList = trimStart rest := by
  have hline : trimStart "  /opt/'my tools'/gcc -c".toList = '/' :: "opt/'my tools'/gcc -c".toList :=
    by decide +kernel
  have hok : tokenize .posix "  /opt/'my tools'/gcc -c" = .ok ⟨"/opt/my tools/gcc", "-c"⟩ := by
    rfl
  have hread := (tokenize_recognizes .posix "  /opt/'my tools'/gcc -c").2.2 _ _ hline (by decide)
    (by decide)
  exact (hread.2 _ _).mp hok

end BuildLog.CommandLine
