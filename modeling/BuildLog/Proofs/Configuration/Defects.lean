import BuildLog.Configuration.Validation
import BuildLog.Proofs.CommandFilter

/-! The defects that are found in a configuration, each at its place. Settings and patterns are
checked by themselves and their defects are put together, so the verdict is on one flat list. -/

namespace BuildLog.Configuration

/-- The defect of a pattern: one that is empty is not compiled. -/
def patternDefect? (field pattern : String) : Option Defect :=
  if pattern = "" then some (.emptyString field)
  else
    match Pattern.compile pattern with
    | .ok _ => none
    | .error reason => some (.invalidPattern field reason)

/-- The defects of the pattern with an index in a list. -/
def entryDefects (field : String) (patterns : List String) (index : Nat) (pattern : String) :
    List Defect :=
  (patternDefect? (field ++ "[" ++ toString index ++ "]") pattern).toList ++
    if pattern ∈ patterns.take index then [.duplicate field index] else []

/-- A pattern that is there and is one. -/
def IsPattern (pattern : String) : Prop :=
  pattern ≠ "" ∧ ∃ p, Pattern.compile pattern = .ok p

variable {field pattern : String} {patterns : List String}

theorem patternDefects_eq (field pattern : String) :
    patternDefects field pattern = (patternDefect? field pattern).toList := by
  rw [patternDefects, patternDefect?]
  by_cases hempty : pattern = ""
  · rw [if_pos hempty, if_pos hempty]
    rfl
  · rw [if_neg hempty, if_neg hempty]
    cases Pattern.compile pattern <;> rfl

theorem patternDefects_eq_nil_iff : patternDefects field pattern = [] ↔ IsPattern pattern := by
  rw [patternDefects, IsPattern]
  by_cases hempty : pattern = ""
  · simp [hempty]
  · cases hcompile : Pattern.compile pattern <;> simp [hempty]

/-- The list is checked with the patterns in front of each entry in mind, which are those that stand
there in the whole list. -/
theorem listDefectsFrom_eq (field : String) (before patterns : List String) :
    listDefectsFrom field before patterns = (patterns.zipIdx before.length).flatMap fun p =>
      entryDefects field (before ++ patterns) p.2 p.1 := by
  induction patterns generalizing before with
  | nil => rfl
  | cons pattern patterns ih =>
    have hbehind := ih (before ++ [pattern])
    rw [List.append_assoc, List.singleton_append, List.length_append, List.length_singleton]
      at hbehind
    rw [listDefectsFrom, hbehind, patternDefects_eq, List.zipIdx_cons, List.flatMap_cons,
      entryDefects, List.take_left]

theorem listDefects_eq (field : String) (patterns : List String) :
    listDefects field patterns = patterns.zipIdx.flatMap fun p =>
      entryDefects field patterns p.2 p.1 :=
  listDefectsFrom_eq field [] patterns

theorem listDefectsFrom_eq_nil_iff {before : List String} :
    listDefectsFrom field before patterns = [] ↔
      (∀ pattern ∈ patterns, IsPattern pattern) ∧ patterns.Nodup ∧
        ∀ pattern ∈ patterns, pattern ∉ before := by
  induction patterns generalizing before with
  | nil => simp [listDefectsFrom]
  | cons pattern patterns ih =>
    have hduplicate : (if pattern ∈ before then [Defect.duplicate field before.length] else []) = [] ↔
        pattern ∉ before := by
      by_cases h : pattern ∈ before <;> simp [h]
    rw [listDefectsFrom, List.append_eq_nil_iff, List.append_eq_nil_iff, hduplicate,
      patternDefects_eq_nil_iff, ih]
    simp only [List.forall_mem_cons, List.nodup_cons, List.mem_append, List.mem_singleton, not_or]
    constructor
    · rintro ⟨⟨hpattern, hbefore⟩, hpatterns, hnodup, hothers⟩
      exact ⟨⟨hpattern, hpatterns⟩, ⟨fun h => (hothers pattern h).2 rfl, hnodup⟩, hbefore,
        fun other h => (hothers other h).1⟩
    · rintro ⟨⟨hpattern, hpatterns⟩, ⟨hmem, hnodup⟩, hbefore, hothers⟩
      exact ⟨⟨hpattern, hbefore⟩, hpatterns, hnodup,
        fun other h => ⟨hothers other h, fun he => hmem (he ▸ h)⟩⟩

theorem listDefects_eq_nil_iff : listDefects field patterns = [] ↔
    (∀ pattern ∈ patterns, IsPattern pattern) ∧ patterns.Nodup := by
  rw [listDefects, listDefectsFrom_eq_nil_iff]
  simp

theorem commandDefects_eq_nil_iff {c : CommandPatterns} : commandDefects c = [] ↔
    (∀ pattern ∈ c.included ++ c.excluded, IsPattern pattern) ∧
      c.included.Nodup ∧ c.excluded.Nodup := by
  rw [commandDefects, List.append_eq_nil_iff, listDefects_eq_nil_iff, listDefects_eq_nil_iff,
    List.forall_mem_append]
  exact and_and_and_comm

theorem validateCommands_eq_ok_iff {c : CommandPatterns} : validateCommands c = .ok () ↔
    (∃ f, CommandFilter.compile c = .ok f) ∧ (∀ pattern ∈ c.included ++ c.excluded, pattern ≠ "") ∧
      c.included.Nodup ∧ c.excluded.Nodup := by
  rw [validateCommands, verdict_eq_ok_iff, commandDefects_eq_nil_iff,
    CommandFilter.exists_compile_iff]
  constructor
  · intro h
    obtain ⟨hpatterns, hnodup⟩ := h
    exact ⟨fun pattern hp => (hpatterns pattern hp).2, fun pattern hp => (hpatterns pattern hp).1,
      hnodup⟩
  · intro h
    obtain ⟨hcompile, hne, hnodup⟩ := h
    exact ⟨fun pattern hp => ⟨hne pattern hp, hcompile pattern hp⟩, hnodup⟩

theorem detectionDefects_eq (d : DetectionSettings) : detectionDefects d =
    (d.versionSuffix.bind (patternDefect? "detection.version_suffix")).toList ++
      if 8 < d.tripletSegments then
        [.outOfRange "detection.triplet_segments" d.tripletSegments 8]
      else [] := by
  rw [detectionDefects]
  cases d.versionSuffix with
  | none => rfl
  | some pattern =>
    rw [Option.bind_some, ← patternDefects_eq]
    rfl

theorem validate_eq_ok_iff {c : Configuration} : c.validate = .ok () ↔
    (∀ pattern, c.detection.versionSuffix = some pattern → IsPattern pattern) ∧
      c.detection.tripletSegments ≤ maxSegments ∧ commandDefects c.commands = [] := by
  have hsegments : (if maxSegments < c.detection.tripletSegments then
      [Defect.outOfRange "detection.triplet_segments" c.detection.tripletSegments maxSegments]
      else []) = [] ↔ c.detection.tripletSegments ≤ maxSegments := by
    split <;> simp <;> omega
  rw [validate, verdict_eq_ok_iff, defects, List.append_eq_nil_iff, detectionDefects,
    List.append_eq_nil_iff, hsegments, and_assoc]
  refine and_congr_left fun _ => ?_
  cases c.detection.versionSuffix with
  | none => simp
  | some pattern => simp [patternDefects_eq_nil_iff]

theorem verdict_cases (ds : List Defect) :
    verdict ds = .ok () ∧ ds = [] ∨ (∃ d, verdict ds = .error (.single d) ∧ ds = [d]) ∨
      ∃ d e more, verdict ds = .error (.multiple d e more) ∧ ds = d :: e :: more := by
  match ds with
  | [] => exact .inl ⟨rfl, rfl⟩
  | [d] => exact .inr (.inl ⟨d, rfl, rfl⟩)
  | d :: e :: more => exact .inr (.inr ⟨d, e, more, rfl, rfl⟩)

/-- The defects of a configuration are those of the version suffix, the number of segments, and the
patterns that include and exclude, entry by entry. A configuration without defects is valid, a
single defect is the error itself, and more are one flat list, although the detection and the
commands are validated by themselves. The patterns of commands are valid exactly if a filter can be
compiled from them, none is empty and none is repeated in its list. -/
theorem validate_reports (c : Configuration) :
    (∃ ds : List Defect,
      ds = (c.detection.versionSuffix.bind (patternDefect? "detection.version_suffix")).toList ++
        (if 8 < c.detection.tripletSegments then
          [.outOfRange "detection.triplet_segments" c.detection.tripletSegments 8]
        else []) ++
        (c.commands.included.zipIdx.flatMap fun p =>
          entryDefects "commands.include" c.commands.included p.2 p.1) ++
        (c.commands.excluded.zipIdx.flatMap fun p =>
          entryDefects "commands.exclude" c.commands.excluded p.2 p.1) ∧
      (c.validate = .ok () ∧ ds = [] ∨ (∃ d, c.validate = .error (.single d) ∧ ds = [d]) ∨
        ∃ d e more, c.validate = .error (.multiple d e more) ∧ ds = d :: e :: more)) ∧
    c.validate =
      verdict (collected (validateDetection c.detection) ++ collected (validateCommands c.commands)) ∧
    (validateCommands c.commands = .ok () ↔
      (∃ f, CommandFilter.compile c.commands = .ok f) ∧
        (∀ pattern ∈ c.commands.included ++ c.commands.excluded, pattern ≠ "") ∧
        c.commands.included.Nodup ∧ c.commands.excluded.Nodup) := by
  refine ⟨⟨c.defects, ?_, verdict_cases c.defects⟩, ?_, validateCommands_eq_ok_iff⟩
  · rw [defects, detectionDefects_eq, commandDefects, listDefects_eq, listDefects_eq,
      List.append_assoc _ (List.flatMap _ _) (List.flatMap _ _)]
  · rw [validateDetection, validateCommands, collected_verdict, collected_verdict]
    rfl

end BuildLog.Configuration
