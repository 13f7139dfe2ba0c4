import BuildLog.Proofs.CommandLine.Tokenize

/-! A directory in front of a command. It is read as a part of the command if its characters are
plain ones or, inside a quoted command, if the quote is not among them. -/

namespace BuildLog

/-- The text ends in a separator. -/
def PathStyle.IsDirectory (style : PathStyle) (dir : String) : Prop :=
  ∃ front c, dir.toList = front ++ [c] ∧ style.isSeparator c = true

theorem PathStyle.lastComponent_directory {style : PathStyle} {dir : String}
    (h : style.IsDirectory dir) (path : List Char) :
    style.lastComponent (dir.toList ++ path) = style.lastComponent path := by
  obtain ⟨front, c, hdir, hc⟩ := h
  rw [hdir, List.append_assoc, List.singleton_append, style.lastComponent_append_separator hc]

namespace CommandLine

variable {style : PathStyle} {line dir : String} {split : CommandLine} {cs rest : List Char}
  {ps : List Piece}

/-- The same command, looked up in a directory. -/
def inDirectory (dir : String) (line : CommandLine) : CommandLine :=
  { line with command := dir ++ line.command }

theorem Reads.append_plain {dir : List Char} (h : Reads style cs ps rest)
    (hdir : ∀ c ∈ dir, (Piece.plain c).Allowed style) :
    Reads style (dir ++ cs) (dir.map .plain ++ ps) rest := by
  induction dir with
  | nil => exact h
  | cons c dir ih =>
    obtain ⟨hc, hdir⟩ := List.forall_mem_cons.mp hdir
    exact (ih hdir).cons hc (by simp)

theorem flatMap_value_plain (dir : List Char) : (dir.map Piece.plain).flatMap Piece.value = dir := by
  induction dir with
  | nil => rfl
  | cons c dir ih => simp [Piece.value, ih]

theorem tokenize_inDirectory (hline : tokenize style line = .ok split)
    (hhead : ∀ c ∈ line.toList.head?, isBlank c = false ∧ c ≠ '"' ∧ c ≠ '\'')
    (hdir : ∀ c ∈ dir.toList, (Piece.plain c).Allowed style)
    (hstart : dir.toList.head? ≠ some '\'') :
    tokenize style (dir ++ line) = .ok (split.inDirectory dir) := by
  obtain ⟨command, arguments⟩ := split
  cases hl : line.toList with
  | nil =>
    have hempty : tokenize style line = .error .empty := tokenize_eq_empty_iff.mpr (by simp [hl])
    rw [hempty] at hline
    cases hline
  | cons c cs =>
    obtain ⟨hblank, hc, hc'⟩ := hhead c (by simp [hl])
    have htrim : trimStart line.toList = c :: cs := by rw [hl, trimStart_cons hblank]
    obtain ⟨ps, rest, hr, hcommand, harguments⟩ :=
      (tokenize_unquoted_eq_ok_iff htrim hc hc').mp hline
    have hreads := hr.append_plain hdir
    have hvalue : (dir ++ command).toList =
        (dir.toList.map Piece.plain ++ ps).flatMap Piece.value := by
      rw [String.toList_append, List.flatMap_append, flatMap_value_plain, hcommand]
    cases hd : dir.toList with
    | nil =>
      obtain rfl : dir = "" := by simpa using hd
      simpa [inDirectory] using hline
    | cons x xs =>
      obtain ⟨hx, hxquote, _⟩ := hdir x (by simp [hd])
      have hxquote' : x ≠ '\'' := fun h => hstart (by simp [hd, h])
      have htext : trimStart (dir ++ line).toList = x :: (xs ++ c :: cs) := by
        rw [String.toList_append, hd, hl, List.cons_append, trimStart_cons hx]
      rw [hd] at hreads
      exact (tokenize_unquoted_eq_ok_iff htext hxquote hxquote').mpr
        ⟨_, rest, hreads, hd ▸ hvalue, harguments⟩

theorem tokenize_quoted_inDirectory {q : Char} {body : List Char}
    (hline : tokenize style line = .ok split) (hl : line.toList = q :: body)
    (hq : q = '"' ∨ q = '\'') (hdir : q ∉ dir.toList) :
    tokenize style (String.ofList (q :: (dir.toList ++ body))) = .ok (split.inDirectory dir) := by
  obtain ⟨command, arguments⟩ := split
  have hblank : isBlank q = false := by rcases hq with rfl | rfl <;> decide
  have htrim : trimStart line.toList = q :: body := by rw [hl, trimStart_cons hblank]
  obtain ⟨hne, rest, hbody, hmem, harguments⟩ := (tokenize_quoted_eq_ok_iff htrim hq).mp hline
  have htext : trimStart (String.ofList (q :: (dir.toList ++ body))).toList =
      q :: (dir.toList ++ body) := by
    rw [String.toList_ofList, trimStart_cons hblank]
  refine (tokenize_quoted_eq_ok_iff htext hq).mpr ⟨?_, rest, ?_, ?_, harguments⟩
  · simp [hne]
  · rw [hbody, String.toList_append, List.append_assoc]
  · simp [hdir, hmem]

end CommandLine

end BuildLog
