import BuildLog.Proofs.Result
import BuildLog.Proofs.Scan.Lines
import BuildLog.Proofs.Text.Replacement
import Mathlib.Data.List.TakeWhile

/-! The two ways to scan lines. Lines that are written to a log, each with one of the line ends, are
scanned like the lines themselves. -/

namespace BuildLog

/-- How a line ends in a log. -/
inductive LineEnd where
  | newline
  | returnNewline
  deriving DecidableEq, Repr

namespace LineEnd

/-- What stands before the newline. -/
def front : LineEnd → List Char
  | newline => []
  | returnNewline => ['\r']

def text (e : LineEnd) : List Char :=
  e.front ++ ['\n']

end LineEnd

/-- Lines with their ends, and possibly a last line without one. -/
structure WrittenLog where
  ended : List (String × LineEnd)
  last : Option String := none
  deriving DecidableEq, Repr

/-- A line that can be told from its ends. -/
def IsLine (line : String) : Prop :=
  '\n' ∉ line.toList ∧ line.toList.getLast? ≠ some '\r'

instance : DecidablePred IsLine :=
  fun _ => inferInstanceAs (Decidable (_ ∧ _))

namespace WrittenLog

/-- The lines with what is written behind each. -/
def pieces (w : WrittenLog) : List (String × List Char) :=
  w.ended.map (fun line => (line.1, line.2.text)) ++ w.last.toList.map fun line => (line, [])

def lines (w : WrittenLog) : List String :=
  w.ended.map Prod.fst ++ w.last.toList

def text (w : WrittenLog) : List Char :=
  w.ended.flatMap (fun line => line.1.toList ++ line.2.text) ++ w.last.elim [] String.toList

def source (w : WrittenLog) : LogSource where
  bytes := Utf8.encode w.text

theorem map_fst_pieces (w : WrittenLog) : w.pieces.map Prod.fst = w.lines := by
  rw [pieces, lines, List.map_append, List.map_map, List.map_map]
  exact congrArg _ (List.map_id _)

end WrittenLog

section

variable {line : String} {e : LineEnd}

theorem splitLines_end (h : IsLine line) (rest : List Char) :
    LogSource.splitLines (Utf8.encode (line.toList ++ e.text ++ rest)) =
      Utf8.encode (line.toList ++ e.text) :: LogSource.splitLines (Utf8.encode rest) := by
  have hfront : 0x0A ∉ Utf8.encode (line.toList ++ e.front) := by
    rw [Utf8.newline_mem_encode_iff, List.mem_append, not_or]
    refine ⟨h.1, ?_⟩
    cases e <;> decide
  rw [LineEnd.text, ← List.append_assoc, List.append_assoc _ ['\n'], Utf8.encode_append _ ['\n'],
    List.singleton_append, Utf8.encode_append _ ('\n' :: rest)]
  exact LogSource.splitLines_append_newline hfront (Utf8.encode rest)

theorem splitLines_last_line (h : IsLine line) (hne : line ≠ "") :
    LogSource.splitLines (Utf8.encode line.toList) = [Utf8.encode line.toList] := by
  refine LogSource.splitLines_last ?_ (by rw [Utf8.newline_mem_encode_iff]; exact h.1)
  rw [Ne, ← Utf8.lossy_eq_nil_iff, Utf8.lossy_encode]
  simpa using hne

/-- Without its end a line is what it was. -/
theorem lineText_encode (h : IsLine line) {ending : List Char}
    (hending : ∀ c ∈ ending, c = '\n' ∨ c = '\r') :
    Scanner.lineText (Utf8.encode (line.toList ++ ending)) = line := by
  have hlast : line.toList.reverse.dropWhile (fun c => c == '\n' || c == '\r') =
      line.toList.reverse := by
    rw [List.dropWhile_eq_self_iff]
    intro hl
    have hc : line.toList.getLast? = some line.toList.reverse[0] := by
      rw [← List.head?_reverse, List.head?_eq_getElem?, List.getElem?_eq_getElem hl]
    have hn : line.toList.reverse[0] ≠ '\n' := fun he => h.1 (he ▸ List.mem_of_getLast? hc)
    have hr : line.toList.reverse[0] ≠ '\r' := fun he => h.2 (he ▸ hc)
    simp only [beq_eq_false_iff_ne.mpr hn, beq_eq_false_iff_ne.mpr hr, Bool.or_self,
      Bool.false_eq_true, not_false_eq_true]
  rw [Scanner.lineText, Utf8.lossy_encode, List.reverse_append, List.dropWhile_append_of_pos, hlast,
    List.reverse_reverse, String.ofList_toList]
  intro c hc
  simpa using hending c (List.mem_reverse.mp hc)

end

namespace WrittenLog

variable {w : WrittenLog}

theorem ending_of_mem {p : String × List Char} (h : p ∈ w.pieces) :
    ∀ c ∈ p.2, c = '\n' ∨ c = '\r' := by
  rcases List.mem_append.mp h with h | h
  · obtain ⟨⟨line, e⟩, -, rfl⟩ := List.mem_map.mp h
    cases e <;> simp [LineEnd.text, LineEnd.front]
  · obtain ⟨line, -, rfl⟩ := List.mem_map.mp h
    simp

/-- The lines of a log are the lines that were written to it with their ends. -/
theorem lines_source (h : ∀ line ∈ w.lines, IsLine line) (hlast : ∀ line ∈ w.last, line ≠ "") :
    w.source.lines = w.pieces.map fun p => Utf8.encode (p.1.toList ++ p.2) := by
  obtain ⟨ended, last⟩ := w
  show LogSource.splitLines (Utf8.encode (text ⟨ended, last⟩)) = _
  induction ended with
  | nil =>
    cases last with
    | none => rfl
    | some line =>
      have hline := h line (by simp [lines])
      simpa [text, pieces] using splitLines_last_line hline (hlast line rfl)
  | cons line ended ih =>
    obtain ⟨hline, hlines⟩ := List.forall_mem_cons.mp h
    have htext : text ⟨line :: ended, last⟩ =
        line.1.toList ++ line.2.text ++ text ⟨ended, last⟩ := by
      simp [text]
    rw [htext, splitLines_end hline, ih hlines hlast]
    rfl

end WrittenLog

namespace Scanner

/-- Lines that are written to a log with any choice of line ends are scanned like the lines
themselves: with the same numbers, outcomes, messages and counts. -/
theorem scanLog_written (s : Scanner) (w : WrittenLog) (h : ∀ line ∈ w.lines, IsLine line)
    (hlast : ∀ line ∈ w.last, line ≠ "") : s.scanLog w.source = s.scanLines w.lines := by
  have hpieces : ∀ p ∈ w.pieces, lineText (Utf8.encode (p.1.toList ++ p.2)) = p.1 := by
    intro p hp
    refine lineText_encode (h p.1 ?_) (w.ending_of_mem hp)
    rw [← w.map_fst_pieces]
    exact List.mem_map_of_mem hp
  rw [scanLog, scanLines, w.lines_source h hlast, ← w.map_fst_pieces, List.zipIdx_map,
    List.zipIdx_map, List.map_map, List.map_map]
  refine congrArg (Scan.mk · none) (List.map_congr_left fun p hp => ?_)
  have hp := hpieces p.1 (List.fst_mem_of_mem_zipIdx hp)
  simp only [Function.comp_apply, Prod.map, hp, Utf8.isValid_encode, id_eq]

theorem scanLog_written_gcc : ∃ s, new {} {} = .ok s ∧
    (s.scanLines ["gcc -c a.c", "", "cl"]).records.toOption.map (·.map Record.line) =
      some [1, 3] ∧
    s.scanLog { bytes := Utf8.encode "gcc -c a.c\r\n\ncl".toList } =
      s.scanLines ["gcc -c a.c", "", "cl"] := by
  have hrecords : (new {} {}).toOption.bind (fun s =>
      (s.scanLines ["gcc -c a.c", "", "cl"]).records.toOption.map (·.map Record.line)) =
        some [1, 3] := by decide +kernel
  obtain ⟨s, hs, hlines⟩ := Option.bind_eq_some_iff.mp hrecords
  exact ⟨s, ok_of_toOption hs, hlines,
    s.scanLog_written ⟨[("gcc -c a.c", .returnNewline), ("", .newline)], some "cl"⟩
      (by decide +kernel) (by decide +kernel)⟩

end Scanner

end BuildLog
