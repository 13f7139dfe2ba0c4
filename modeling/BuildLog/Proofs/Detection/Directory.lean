import BuildLog.Proofs.CommandLine.Directory
import BuildLog.Proofs.Detection.Expressions

/-! Directories do not matter: a line whose command is looked up in a directory is detected as it is
without the directory. -/

namespace BuildLog

/-- The same detection, of the command in a directory. -/
def Detection.inDirectory (dir : String) (det : Detection) : Detection :=
  { det with commandLine := det.commandLine.inDirectory dir }

namespace Detector

variable {d : Detector} {line dir : String}

theorem detectCommandLine_inDirectory (hdir : d.style.IsDirectory dir) (line : CommandLine) :
    d.detectCommandLine (line.inDirectory dir) =
      (d.detectCommandLine line).map (Detection.inDirectory dir) := by
  have hbasename : d.style.lastComponent (line.inDirectory dir).command.toList =
      d.style.lastComponent line.command.toList := by
    rw [CommandLine.inDirectory, String.toList_append, PathStyle.lastComponent_directory hdir]
  cases hplain : firstMatch d.plain (d.style.lastComponent line.command.toList) with
  | some found =>
    rw [detectCommandLine_of_plain hbasename hplain, detectCommandLine_of_plain rfl hplain]
    rfl
  | none =>
    rw [detectCommandLine_of_plain_eq_none hbasename hplain,
      detectCommandLine_of_plain_eq_none rfl hplain, Option.map_map]
    rfl

theorem detect_inDirectory {text : String} {split : CommandLine} (hdir : d.style.IsDirectory dir)
    (htext : CommandLine.tokenize d.style text = .ok (split.inDirectory dir)) :
    d.detect text = .ok ((d.detectCommandLine split).map (Detection.inDirectory dir)) := by
  rw [detect_of_tokenize_ok htext, detectCommandLine_inDirectory hdir]

/-- A directory in front of the command changes nothing but the command: in front of a line that does
not start with a quote it is made of plain characters, and behind a quote it does not hold that
quote. -/
theorem directories_do_not_matter {split : CommandLine}
    (hline : CommandLine.tokenize d.style line = .ok split) (hdir : d.style.IsDirectory dir) :
    ∃ found, d.detect line = .ok found ∧
      ((∀ c ∈ line.toList.head?, isBlank c = false ∧ c ≠ '"' ∧ c ≠ '\'') →
        (∀ c ∈ dir.toList, (CommandLine.Piece.plain c).Allowed d.style) →
        dir.toList.head? ≠ some '\'' →
          d.detect (dir ++ line) = .ok (found.map (Detection.inDirectory dir))) ∧
      ∀ q body, line.toList = q :: body → q = '"' ∨ q = '\'' → q ∉ dir.toList →
        d.detect (String.ofList (q :: (dir.toList ++ body))) =
          .ok (found.map (Detection.inDirectory dir)) := by
  refine ⟨_, detect_of_tokenize_ok hline, fun hhead hplain hstart => ?_,
    fun q body hl hq hmem => ?_⟩
  · have htext := CommandLine.tokenize_inDirectory hline hhead hplain hstart
    exact detect_inDirectory hdir htext
  · have htext := CommandLine.tokenize_quoted_inDirectory hline hl hq hmem
    exact detect_inDirectory hdir htext

theorem directories_do_not_matter_gcc : ∃ d det, new (anyVersion 4) = .ok d ∧
    d.detect "gcc-9 -c a.c" = .ok (some det) ∧ det.driver = .gnuC "gcc" ∧
    d.detect "/usr/bin/gcc-9 -c a.c" = .ok (some (det.inDirectory "/usr/bin/")) := by
  have hline : CommandLine.tokenize .posix "gcc-9 -c a.c" = .ok ⟨"gcc-9", "-c a.c"⟩ := by rfl
  have hdir : PathStyle.posix.IsDirectory "/usr/bin/" :=
    ⟨"/usr/bin".toList, '/', by decide, rfl⟩
  obtain ⟨d, det, hnew, hdet, hdriver⟩ := exists_detection_anyVersion (.inr rfl) ⟨"gcc-9", "-c a.c"⟩
    (fun det => det.driver = .gnuC "gcc") (by decide +kernel)
  have hstyle : d.style = .posix := (passes_of_new hnew).1
  rw [← hstyle] at hline hdir
  obtain ⟨found, hfound, hfront, _⟩ := directories_do_not_matter hline hdir
  have hsame : d.detect "gcc-9 -c a.c" = .ok (some det) := by
    rw [detect_of_tokenize_ok hline, hdet]
  obtain rfl : found = some det := Except.ok.inj (hfound.symm.trans hsame)
  have hhead : ∀ c ∈ "gcc-9 -c a.c".toList.head?, isBlank c = false ∧ c ≠ '"' ∧ c ≠ '\'' := by
    simp [isBlank]
  have hplain : ∀ c ∈ "/usr/bin/".toList, (CommandLine.Piece.plain c).Allowed d.style := by
    simp [CommandLine.Piece.Allowed, isBlank, hstyle]
  exact ⟨d, det, hnew, hsame, of_decide_eq_true hdriver, hfront hhead hplain (by decide)⟩

end Detector

end BuildLog
