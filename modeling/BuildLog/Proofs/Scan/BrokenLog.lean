import BuildLog.Proofs.Scan.Concatenation
import Mathlib.Logic.Relation

/-! A log that cannot be read to its end. Reading goes on line by line until it fails, and what has
been scanned by then are the whole lines: a last line whose newline was still to come leaves no
trace. -/

namespace BuildLog

namespace LogSource

variable {whole rest : List UInt8}

theorem wholeLines_nil : WholeLines [] :=
  fun _ h => nomatch h

theorem wholeLines_newline (line : List UInt8) : WholeLines (line ++ [0x0A]) := by
  intro b hb
  simpa using hb.symm

theorem WholeLines.append {a b : List UInt8} (ha : WholeLines a) (hb : WholeLines b) :
    WholeLines (a ++ b) := by
  cases b with
  | nil => simpa using ha
  | cons c b =>
    intro x hx
    rw [List.getLast?_append_of_ne_nil _ (List.cons_ne_nil c b)] at hx
    exact hb x hx

/-- Any bytes are whole lines with bytes behind them that no newline ends. -/
theorem exists_wholeLines_append (bytes : List UInt8) :
    ∃ whole rest, bytes = whole ++ rest ∧ WholeLines whole ∧ 0x0A ∉ rest := by
  induction bytes using line_induction with
  | nil => exact ⟨[], [], rfl, wholeLines_nil, List.not_mem_nil⟩
  | last line hne hline => exact ⟨[], line, rfl, wholeLines_nil, hline⟩
  | cons line behind hline ih =>
    obtain ⟨whole, rest, rfl, hwhole, hrest⟩ := ih
    exact ⟨line ++ [0x0A] ++ whole, rest, by simp, (wholeLines_newline line).append hwhole, hrest⟩

/-- Whole lines that a log starts with end before the bytes that no newline ends. -/
theorem WholeLines.prefix_whole {front : List UInt8} (hfront : WholeLines front)
    (h : front <+: whole ++ rest) (hrest : 0x0A ∉ rest) : front <+: whole := by
  rcases List.prefix_or_prefix_of_prefix h (List.prefix_append whole rest) with h | hwhole
  · exact h
  · obtain ⟨part, rfl⟩ := hwhole
    have hpart : part <+: rest := (List.prefix_append_right_inj whole).mp h
    cases hlast : part.getLast? with
    | none =>
      obtain rfl := List.getLast?_eq_none_iff.mp hlast
      exact ⟨[], by simp⟩
    | some b =>
      have hb : b = 0x0A := hfront b (by simp [List.getLast?_append, hlast])
      exact absurd (hpart.subset (hb ▸ List.mem_of_getLast? hlast)) hrest

theorem lines_broken (hwhole : WholeLines whole) (hrest : 0x0A ∉ rest) (reason : String) :
    lines ⟨whole ++ rest, some reason⟩ = lines ⟨whole, none⟩ := by
  rw [lines_append _ hwhole]
  cases rest with
  | nil => rw [lines_nil, List.append_nil]
  | cons b rest =>
    rw [lines_last _ (List.cons_ne_nil b rest) hrest, if_neg (by simp), List.append_nil]

end LogSource

namespace Scanner

variable {whole rest : List UInt8}

/-- What a scan makes of the bytes of a line. -/
def scannedLine (s : Scanner) (number : Nat) (line : List UInt8) : ScannedLine where
  number := number
  isUtf8 := Utf8.isValid line
  outcome := s.outcome (lineText line)

theorem lines_scanLog (s : Scanner) (source : LogSource) :
    (s.scanLog source).lines = source.lines.zipIdx.map fun p => s.scannedLine (p.2 + 1) p.1 :=
  rfl

theorem scanLog_of_wholeLines (s : Scanner) (hwhole : LogSource.WholeLines whole)
    (hrest : 0x0A ∉ rest) (reason : String) : s.scanLog ⟨whole ++ rest, some reason⟩ =
      ⟨(s.scanLog { bytes := whole }).lines, some reason⟩ := by
  rw [scanLog, LogSource.lines_broken hwhole hrest]
  rfl

end Scanner

/-- A scan under way: the lines that have been scanned, and the log that is left to read. -/
structure ScanProgress where
  scanned : List ScannedLine
  left : LogSource

namespace ScanProgress

/-- The next line is read up to its newline, or to the end of the log if that can be read. -/
inductive Step (s : Scanner) : ScanProgress → ScanProgress → Prop where
  | line {scanned : List ScannedLine} {line rest : List UInt8} {failure : Option String}
    (h : 0x0A ∉ line) : Step s ⟨scanned, ⟨line ++ 0x0A :: rest, failure⟩⟩
      ⟨scanned ++ [s.scannedLine (scanned.length + 1) (line ++ [0x0A])], ⟨rest, failure⟩⟩
  | last {scanned : List ScannedLine} {line : List UInt8} (hne : line ≠ []) (h : 0x0A ∉ line) :
    Step s ⟨scanned, ⟨line, none⟩⟩
      ⟨scanned ++ [s.scannedLine (scanned.length + 1) line], ⟨[], none⟩⟩

abbrev Reaches (s : Scanner) : ScanProgress → ScanProgress → Prop :=
  Relation.ReflTransGen (Step s)

/-- There is no further line. -/
def Stops (s : Scanner) (p : ScanProgress) : Prop :=
  ∀ q, ¬ Step s p q

/-- What has been scanned are the lines of the front of a broken log that has been read. -/
structure HasRead (s : Scanner) (bytes : List UInt8) (reason : String) (p : ScanProgress)
    (front : List UInt8) : Prop where
  bytes_eq : bytes = front ++ p.left.bytes
  failure_eq : p.left.failure = some reason
  whole : LogSource.WholeLines front
  scanned_eq : p.scanned = (s.scanLog { bytes := front }).lines

variable {s : Scanner} {bytes front : List UInt8} {reason : String} {p q : ScanProgress}

theorem HasRead.step (h : HasRead s bytes reason p front) (hstep : Step s p q) :
    ∃ front', HasRead s bytes reason q front' := by
  obtain ⟨hbytes, hfailure, hwhole, hscanned⟩ := h
  cases hstep with
  | @line scanned line rest failure hline =>
    have hcount : scanned.length = front.count 0x0A := by
      have hlength := congrArg List.length hscanned
      rwa [Scanner.lines_scanLog, List.length_map, List.length_zipIdx,
        LogSource.length_lines hwhole] at hlength
    have hnext : (s.scanLog { bytes := line ++ [0x0A] }).lines =
        [s.scannedLine 1 (line ++ [0x0A])] := by
      rw [Scanner.lines_scanLog, LogSource.lines_append_newline _ hline, LogSource.lines_nil]
      rfl
    refine ⟨front ++ (line ++ [0x0A]), by simpa using hbytes, hfailure,
      hwhole.append (LogSource.wholeLines_newline line), ?_⟩
    have hread := s.lines_scanLog_append none hwhole (line ++ [0x0A])
    rw [hread, hnext, ← hscanned, ← hcount, Nat.add_comm]
    rfl
  | last => cases hfailure

theorem HasRead.of_reaches (h : Reaches s ⟨[], ⟨bytes, some reason⟩⟩ p) :
    ∃ front, HasRead s bytes reason p front := by
  induction h with
  | refl => exact ⟨[], rfl, rfl, LogSource.wholeLines_nil, rfl⟩
  | tail _ hstep ih =>
    obtain ⟨front, hfront⟩ := ih
    exact hfront.step hstep

theorem stops_iff {scanned : List ScannedLine} {rest : List UInt8} :
    Stops s ⟨scanned, ⟨rest, some reason⟩⟩ ↔ 0x0A ∉ rest := by
  constructor
  · intro h hmem
    obtain ⟨line, behind, rfl, hline⟩ := List.eq_append_cons_of_mem hmem
    exact h _ (.line hline)
  · intro h q hstep
    cases hstep with
    | line => exact h (by simp)

theorem exists_stop (s : Scanner) (reason : String) (scanned : List ScannedLine)
    (bytes : List UInt8) :
    ∃ q, Reaches s ⟨scanned, ⟨bytes, some reason⟩⟩ q ∧ Stops s q := by
  induction bytes using LogSource.line_induction generalizing scanned with
  | nil => exact ⟨_, .refl, stops_iff.mpr List.not_mem_nil⟩
  | last line hne hline => exact ⟨_, .refl, stops_iff.mpr hline⟩
  | cons line rest hline ih =>
    obtain ⟨q, hreaches, hstops⟩ := ih (scanned ++ [s.scannedLine (scanned.length + 1) _])
    exact ⟨q, .head (.line hline) hreaches, hstops⟩

/-- Where reading fails a scan stops behind the whole lines. -/
theorem eq_of_stops {whole rest : List UInt8} (hwhole : LogSource.WholeLines whole)
    (hrest : 0x0A ∉ rest) (h : Reaches s ⟨[], ⟨whole ++ rest, some reason⟩⟩ p)
    (hstops : Stops s p) :
    p = ⟨(s.scanLog { bytes := whole }).lines, ⟨rest, some reason⟩⟩ := by
  obtain ⟨front, hbytes, hfailure, hfront, hscanned⟩ := HasRead.of_reaches h
  obtain ⟨scanned, left, failure⟩ := p
  obtain rfl : failure = some reason := hfailure
  have hleft : 0x0A ∉ left := stops_iff.mp hstops
  have hbytes : whole ++ rest = front ++ left := hbytes
  obtain rfl : front = whole := by
    have hfw := hfront.prefix_whole (hbytes ▸ List.prefix_append front left) hrest
    have hwf := hwhole.prefix_whole (hbytes ▸ List.prefix_append whole rest) hleft
    exact hfw.eq_of_length_le hwf.length_le
  obtain rfl : rest = left := List.append_cancel_left hbytes
  exact congrArg (ScanProgress.mk · _) hscanned

end ScanProgress

namespace Scanner

/-- A log that cannot be read to its end has no records, and all else is as if the log ended behind
its last newline, whatever was read behind that. A scan of it stops there, and wherever it is on its
way the lines before have been scanned as a log of their own. -/
theorem scanLog_broken (s : Scanner) (bytes : List UInt8) (reason : String) :
    let broken : LogSource := ⟨bytes, some reason⟩
    (s.scanLog broken).records = .error (.read reason) ∧
    ∃ whole rest, bytes = whole ++ rest ∧ (whole = [] ∨ whole.getLast? = some 0x0A) ∧
      (∀ front, front <+: bytes → front = [] ∨ front.getLast? = some 0x0A → front <+: whole) ∧
      (s.scanLog broken).messages = (s.scanLog { bytes := whole }).messages ∧
      (s.scanLog broken).statistics = (s.scanLog { bytes := whole }).statistics ∧
      (∀ size calls, s.statistics size (calls ++ [.log broken]) =
        s.statistics size (calls ++ [.log { bytes := whole }])) ∧
      (∀ other, 0x0A ∉ other →
        s.scanLog ⟨whole ++ other, some reason⟩ = s.scanLog broken) ∧
      (∀ p, ScanProgress.Reaches s ⟨[], broken⟩ p →
        ∃ front, ScanProgress.HasRead s bytes reason p front) ∧
      ∀ p, ScanProgress.Reaches s ⟨[], broken⟩ p ∧ ScanProgress.Stops s p ↔
        p = ⟨(s.scanLog broken).lines, ⟨rest, some reason⟩⟩ := by
  intro broken
  obtain ⟨whole, rest, hbytes, hwhole, hrest⟩ := LogSource.exists_wholeLines_append bytes
  have hscan : s.scanLog broken = ⟨(s.scanLog { bytes := whole }).lines, some reason⟩ := by
    rw [← s.scanLog_of_wholeLines hwhole hrest reason, ← hbytes]
  have hstatistics : (s.scanLog broken).statistics = (s.scanLog { bytes := whole }).statistics := by
    rw [hscan]
    rfl
  refine ⟨rfl, whole, rest, hbytes, LogSource.wholeLines_iff.mp hwhole, fun front hfront h => ?_,
    ?_, hstatistics, fun size calls => ?_, fun other hother => ?_,
    fun p hp => ScanProgress.HasRead.of_reaches hp, fun p => ?_⟩
  · exact (LogSource.wholeLines_iff.mpr h).prefix_whole (hbytes ▸ hfront) hrest
  · rw [hscan]
    rfl
  · rw [statistics_append, statistics_append]
    exact congrArg (fun t => Statistics.wrap size (_ + t)) hstatistics
  · rw [s.scanLog_of_wholeLines hwhole hother, hscan]
  · rw [hscan]
    constructor
    · intro h
      exact ScanProgress.eq_of_stops hwhole hrest (hbytes ▸ h.1) h.2
    · intro h
      obtain ⟨q, hreaches, hstops⟩ := ScanProgress.exists_stop s reason [] bytes
      have hq := ScanProgress.eq_of_stops hwhole hrest (hbytes ▸ hreaches) hstops
      rw [h, ← hq]
      exact ⟨hreaches, hstops⟩

theorem scanLog_broken_gcc : ∃ s, new {} {} = .ok s ∧
    (s.scanLog { bytes := Utf8.encode "gcc -c a.c\n".toList }).statistics.detected = 1 ∧
    (s.scanLog ⟨Utf8.encode "gcc -c a.c\ncl".toList, some "gone"⟩).statistics.detected = 1 ∧
    s.scanLog ⟨Utf8.encode "gcc -c a.c\nicc".toList, some "gone"⟩ =
      s.scanLog ⟨Utf8.encode "gcc -c a.c\ncl".toList, some "gone"⟩ ∧
    ∃ p front, ScanProgress.Stops s p ∧ ScanProgress.HasRead s
      (Utf8.encode "gcc -c a.c\ncl".toList) "gone" p front := by
  let s : Scanner := ⟨⟨.posix, Detector.candidatesOf {} none none, []⟩, ⟨[], []⟩⟩
  have hnew : new {} {} = .ok s := new_eq_ok_iff.mpr ⟨Detector.new_default, rfl⟩
  have hdetected : (s.scanLog { bytes := Utf8.encode "gcc -c a.c\n".toList }).statistics.detected =
      1 := by decide +kernel
  obtain ⟨_, whole, rest, hbytes, hwhole, hlongest, _, hstatistics, _, hother, hread, hstops⟩ :=
    s.scanLog_broken (Utf8.encode "gcc -c a.c\ncl".toList) "gone"
  obtain rfl : Utf8.encode "gcc -c a.c\n".toList = whole := by
    have hfront := hlongest (Utf8.encode "gcc -c a.c\n".toList) (by decide +kernel)
      (by decide +kernel)
    have hprefix : whole <+: Utf8.encode "gcc -c a.c\n".toList ++ Utf8.encode "cl".toList :=
      ⟨rest, hbytes.symm⟩
    have hback := (LogSource.wholeLines_iff.mpr hwhole).prefix_whole hprefix (by decide +kernel)
    exact hfront.eq_of_length_le hback.length_le
  obtain ⟨hreaches, hstops⟩ := (hstops _).mpr rfl
  obtain ⟨front, hfront⟩ := hread _ hreaches
  exact ⟨s, hnew, hdetected, hstatistics ▸ hdetected,
    hother (Utf8.encode "icc".toList) (by decide +kernel), _, front, hstops, hfront⟩

end Scanner

end BuildLog
