import BuildLog.Scan

/-! The lines of a log. A line reaches up to its newline, and a last line without one is a line only
if it has any bytes and reading does not fail behind them. -/

namespace BuildLog.LogSource

variable {line rest : List UInt8}

theorem splitLines_newline (bytes : List UInt8) :
    splitLines (0x0A :: bytes) = [0x0A] :: splitLines bytes := by
  rw [splitLines, List.foldr_cons]
  split
  · rename_i h
    rw [splitLines, h]
  · rename_i h
    rw [if_pos rfl, splitLines, h]

theorem splitLines_cons {b : UInt8} {bytes : List UInt8} {lines : List (List UInt8)}
    (hb : b ≠ 0x0A) (h : splitLines bytes = line :: lines) :
    splitLines (b :: bytes) = (b :: line) :: lines := by
  rw [splitLines] at h
  rw [splitLines, List.foldr_cons, h]
  exact if_neg hb

theorem splitLines_append_newline (h : 0x0A ∉ line) (rest : List UInt8) :
    splitLines (line ++ 0x0A :: rest) = (line ++ [0x0A]) :: splitLines rest := by
  induction line with
  | nil => exact splitLines_newline rest
  | cons b line ih =>
    rw [List.mem_cons, not_or] at h
    exact splitLines_cons (Ne.symm h.1) (ih h.2)

theorem splitLines_last (hne : line ≠ []) (h : 0x0A ∉ line) : splitLines line = [line] := by
  induction line with
  | nil => exact absurd rfl hne
  | cons b line ih =>
    rw [List.mem_cons, not_or] at h
    cases line with
    | nil => rfl
    | cons c line => exact splitLines_cons (Ne.symm h.1) (ih (List.cons_ne_nil c line) h.2)

@[elab_as_elim]
theorem line_induction {motive : List UInt8 → Prop} (bytes : List UInt8) (nil : motive [])
    (last : ∀ line, line ≠ [] → 0x0A ∉ line → motive line)
    (cons : ∀ line rest, 0x0A ∉ line → motive rest → motive (line ++ 0x0A :: rest)) :
    motive bytes := by
  induction hn : bytes.length using Nat.strongRecOn generalizing bytes with
  | ind n ih =>
    subst hn
    by_cases hm : 0x0A ∈ bytes
    · obtain ⟨line, rest, rfl, hline⟩ := List.eq_append_cons_of_mem hm
      exact cons line rest hline (ih rest.length (by simp; omega) rest rfl)
    · cases bytes with
      | nil => exact nil
      | cons b bytes => exact last _ (List.cons_ne_nil b bytes) hm

/-- A line holds a newline at its end at most. -/
theorem exists_body_of_mem_splitLines {bytes : List UInt8} (h : line ∈ splitLines bytes) :
    ∃ body, 0x0A ∉ body ∧ (line = body ∨ line = body ++ [0x0A]) := by
  induction bytes using line_induction with
  | nil => cases h
  | last body hne hbody =>
    rw [splitLines_last hne hbody] at h
    exact ⟨body, hbody, .inl (List.mem_singleton.mp h)⟩
  | cons body rest hbody ih =>
    rw [splitLines_append_newline hbody] at h
    rcases List.mem_cons.mp h with rfl | h
    · exact ⟨body, hbody, .inr rfl⟩
    · exact ih h

section

variable (failure : Option String)

theorem lines_nil : lines ⟨[], failure⟩ = [] := by
  cases failure <;> rfl

theorem lines_last (hne : line ≠ []) (h : 0x0A ∉ line) :
    lines ⟨line, failure⟩ = if failure = none then [line] else [] := by
  rw [lines]
  cases failure with
  | none => exact splitLines_last hne h
  | some reason =>
    have hlast : line.getLast? ≠ some 0x0A := fun hl => h (List.mem_of_getLast? hl)
    simp [splitLines_last hne h, hlast]

theorem lines_append_newline (h : 0x0A ∉ line) (rest : List UInt8) :
    lines ⟨line ++ 0x0A :: rest, failure⟩ = (line ++ [0x0A]) :: lines ⟨rest, failure⟩ := by
  cases failure with
  | none => exact splitLines_append_newline h rest
  | some reason => simp [lines, splitLines_append_newline h]

end

theorem lines_flatMap_append {whole : List (List UInt8)} (h : ∀ line ∈ whole, 0x0A ∉ line)
    (rest : List UInt8) (failure : Option String) :
    lines ⟨whole.flatMap (· ++ [0x0A]) ++ rest, failure⟩ =
      whole.map (· ++ [0x0A]) ++ lines ⟨rest, failure⟩ := by
  induction whole with
  | nil => rfl
  | cons line whole ih =>
    obtain ⟨hline, hwhole⟩ := List.forall_mem_cons.mp h
    rw [List.flatMap_cons, List.append_assoc, List.append_assoc, List.singleton_append,
      lines_append_newline _ hline, ih hwhole]
    rfl

/-- Lines with a newline each are split where they were put together. -/
theorem splitLines_flatMap {lines : List (List UInt8)} (h : ∀ line ∈ lines, 0x0A ∉ line)
    (rest : List UInt8) : splitLines (lines.flatMap (· ++ [0x0A]) ++ rest) =
      lines.map (· ++ [0x0A]) ++ splitLines rest :=
  lines_flatMap_append h rest none

/-- The bytes of a log are cut into these lines, behind each newline. What is left behind the last
newline is a line if it is not empty and reading does not fail behind it. -/
def CutInto (source : LogSource) (lines : List (List UInt8)) : Prop :=
  ∃ (whole : List (List UInt8)) (rest : List UInt8),
    (∀ line ∈ whole, 0x0A ∉ line) ∧ 0x0A ∉ rest ∧
    source.bytes = whole.flatMap (· ++ [0x0A]) ++ rest ∧
    lines = whole.map (· ++ [0x0A]) ++ if rest = [] ∨ source.failure ≠ none then [] else [rest]

theorem CutInto.eq_lines {source : LogSource} {lines : List (List UInt8)}
    (h : source.CutInto lines) : lines = source.lines := by
  obtain ⟨bytes, failure⟩ := source
  obtain ⟨whole, rest, hwhole, hrest, rfl, rfl⟩ := h
  rw [lines_flatMap_append hwhole, List.append_cancel_left_eq]
  by_cases hne : rest = []
  · rw [hne, lines_nil, if_pos (.inl rfl)]
  · rw [lines_last _ hne hrest]
    cases failure <;> simp [hne]

theorem exists_cutInto (source : LogSource) : ∃ lines, source.CutInto lines := by
  obtain ⟨bytes, failure⟩ := source
  induction bytes using line_induction with
  | nil => exact ⟨_, [], [], by simp, by simp, rfl, rfl⟩
  | last line hne hline => exact ⟨_, [], line, by simp, hline, rfl, rfl⟩
  | cons line rest hline ih =>
    obtain ⟨_, whole, last, hwhole, hlast, hrest, _⟩ := ih
    refine ⟨_, line :: whole, last, List.forall_mem_cons.mpr ⟨hline, hwhole⟩, hlast, ?_, rfl⟩
    have hrest : rest = whole.flatMap (· ++ [0x0A]) ++ last := hrest
    simp [hrest]

/-- There is just one way to cut a log into lines. -/
theorem cutInto_iff {source : LogSource} {lines : List (List UInt8)} :
    source.CutInto lines ↔ lines = source.lines := by
  refine ⟨CutInto.eq_lines, fun h => ?_⟩
  obtain ⟨lines', hcut⟩ := exists_cutInto source
  rw [h, ← hcut.eq_lines]
  exact hcut

end BuildLog.LogSource
