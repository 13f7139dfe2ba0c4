import BuildLog.CommandFilter
import BuildLog.Proofs.Result

/-! The commands that a filter lets through, said of the texts of its patterns. -/

namespace BuildLog

/-- The text is a pattern and matches somewhere in the command. -/
def occurs (pattern command : String) : Bool :=
  (Pattern.compile pattern).toOption.any (·.matchesIn command)

/-- No pattern excludes the command, and some pattern includes it unless there is none that
includes. -/
structure CommandPatterns.Accepts (patterns : CommandPatterns) (command : String) : Prop where
  not_excluded : ∀ pattern ∈ patterns.excluded, occurs pattern command = false
  included : patterns.included = [] ∨
    ∃ pattern ∈ patterns.included, occurs pattern command = true

theorem CommandPatterns.accepts_iff {patterns : CommandPatterns} {command : String} :
    patterns.Accepts command ↔ (∀ pattern ∈ patterns.excluded, occurs pattern command = false) ∧
      (patterns.included = [] ∨ ∃ pattern ∈ patterns.included, occurs pattern command = true) :=
  ⟨fun h => ⟨h.1, h.2⟩, fun h => ⟨h.1, h.2⟩⟩

instance (patterns : CommandPatterns) : DecidablePred patterns.Accepts :=
  fun _ => decidable_of_iff' _ CommandPatterns.accepts_iff

namespace CommandPatterns

variable {patterns others : CommandPatterns} {command : String}

theorem accepts_all (command : String) : Accepts {} command :=
  ⟨List.forall_mem_nil _, .inl rfl⟩

/-- Patterns that exclude no more and include no less accept whatever is accepted. The first pattern
that includes takes away from what is accepted, so there has to be one already. -/
theorem Accepts.mono (h : patterns.Accepts command) (hexcluded : others.excluded ⊆ patterns.excluded)
    (hincluded : others.included = [] ∨
      patterns.included ≠ [] ∧ patterns.included ⊆ others.included) : others.Accepts command where
  not_excluded pattern hpattern := h.not_excluded pattern (hexcluded hpattern)
  included := by
    rcases hincluded with hnil | ⟨hne, hsubset⟩
    · exact .inl hnil
    · obtain ⟨pattern, hpattern, hoccurs⟩ := h.included.resolve_left hne
      exact .inr ⟨pattern, hsubset hpattern, hoccurs⟩

/-- The same patterns, in any order and each any number of times. -/
structure Same (patterns others : CommandPatterns) : Prop where
  included : ∀ pattern, pattern ∈ patterns.included ↔ pattern ∈ others.included
  excluded : ∀ pattern, pattern ∈ patterns.excluded ↔ pattern ∈ others.excluded

theorem Same.symm (h : patterns.Same others) : others.Same patterns :=
  ⟨fun pattern => (h.included pattern).symm, fun pattern => (h.excluded pattern).symm⟩

theorem Same.accepts (h : patterns.Same others) (haccepts : patterns.Accepts command) :
    others.Accepts command := by
  refine haccepts.mono (fun pattern hpattern => (h.excluded pattern).mpr hpattern) ?_
  by_cases hnil : patterns.included = []
  · refine .inl (List.eq_nil_iff_forall_not_mem.mpr fun pattern hpattern => ?_)
    have hmem := (h.included pattern).mpr hpattern
    rw [hnil] at hmem
    cases hmem
  · exact .inr ⟨hnil, fun pattern hpattern => (h.included pattern).mp hpattern⟩

theorem Same.accepts_iff (h : patterns.Same others) :
    patterns.Accepts command ↔ others.Accepts command :=
  ⟨h.accepts, h.symm.accepts⟩

end CommandPatterns

namespace CommandFilter

variable {patterns : CommandPatterns} {f : CommandFilter} {texts : List String}
  {compiled : List Pattern} {text command : String} {p : Pattern}

theorem occurs_of_compile (h : Pattern.compile text = .ok p) :
    occurs text command = p.matchesIn command := by
  rw [occurs, h]
  rfl

theorem compile_of_entry {reason : PatternError → CommandPatternError}
    (h : (match Pattern.compile text with
      | .ok p => .ok p
      | .error e => .error (reason e)) = Except.ok p) : Pattern.compile text = .ok p := by
  split at h
  · rename_i hp
    rw [hp, Except.ok.inj h]
  · cases h

theorem any_matchesIn_iff (h : compileAll texts = .ok compiled) :
    compiled.any (·.matchesIn command) = true ↔ ∃ text ∈ texts, occurs text command = true := by
  rw [List.any_eq_true]
  constructor
  · intro hex
    obtain ⟨p, hp, hm⟩ := hex
    obtain ⟨text, htext, hentry⟩ := mem_of_mapM_eq_ok h hp
    refine ⟨text, htext, ?_⟩
    rw [occurs_of_compile (compile_of_entry hentry), hm]
  · intro hex
    obtain ⟨text, htext, hm⟩ := hex
    obtain ⟨p, hp, hentry⟩ := exists_mem_of_mapM_eq_ok h htext
    refine ⟨p, hp, ?_⟩
    rw [← occurs_of_compile (compile_of_entry hentry), hm]

theorem isEmpty_compileAll (h : compileAll texts = .ok compiled) :
    compiled.isEmpty = true ↔ texts = [] := by
  have hmap : compiled.map (·.source) = texts := map_of_mapM_eq_ok h fun text p hp =>
    Pattern.source_of_compile (compile_of_entry hp)
  rw [← hmap, List.isEmpty_iff, List.map_eq_nil_iff]

theorem passes_of_compile (h : compile patterns = .ok f) :
    compileAll patterns.included = .ok f.included ∧
      compileAll patterns.excluded = .ok f.excluded := by
  rw [compile] at h
  obtain ⟨included, hincluded, h⟩ := exists_of_bind_eq_ok h
  obtain ⟨excluded, hexcluded, h⟩ := exists_of_bind_eq_ok h
  cases h
  exact ⟨hincluded, hexcluded⟩

theorem exists_compileAll_iff :
    (∃ compiled, compileAll texts = .ok compiled) ↔
      ∀ text ∈ texts, ∃ p, Pattern.compile text = .ok p := by
  constructor
  · intro h text htext
    obtain ⟨compiled, h⟩ := h
    obtain ⟨p, _, hentry⟩ := exists_mem_of_mapM_eq_ok h htext
    exact ⟨p, compile_of_entry hentry⟩
  · intro h
    refine exists_mapM_eq_ok fun text htext => ?_
    obtain ⟨p, hp⟩ := h text htext
    exact ⟨p, by rw [hp]⟩

/-- Whether patterns can be compiled depends on each of them by itself. -/
theorem exists_compile_iff : (∃ f, compile patterns = .ok f) ↔
    ∀ text ∈ patterns.included ++ patterns.excluded, ∃ p, Pattern.compile text = .ok p := by
  rw [List.forall_mem_append, ← exists_compileAll_iff, ← exists_compileAll_iff]
  constructor
  · intro h
    obtain ⟨f, h⟩ := h
    obtain ⟨hincluded, hexcluded⟩ := passes_of_compile h
    exact ⟨⟨_, hincluded⟩, ⟨_, hexcluded⟩⟩
  · intro h
    obtain ⟨⟨included, hincluded⟩, ⟨excluded, hexcluded⟩⟩ := h
    refine ⟨⟨included, excluded⟩, ?_⟩
    rw [compile, hincluded, hexcluded]
    rfl

theorem exists_compile_of_same {others : CommandPatterns} (hsame : patterns.Same others)
    (h : compile patterns = .ok f) : ∃ g, compile others = .ok g := by
  refine exists_compile_iff.mpr fun text htext => exists_compile_iff.mp ⟨f, h⟩ text ?_
  rw [List.mem_append] at htext ⊢
  exact htext.imp (hsame.included text).mpr (hsame.excluded text).mpr

/-- A filter lets through what the patterns accept that it was compiled from. -/
theorem accepts_iff (h : compile patterns = .ok f) :
    f.accepts command = true ↔ patterns.Accepts command := by
  obtain ⟨hincluded, hexcluded⟩ := passes_of_compile h
  have hnot : (!f.excluded.any (·.matchesIn command)) = true ↔
      ∀ pattern ∈ patterns.excluded, occurs pattern command = false := by
    rw [Bool.not_eq_true', ← Bool.not_eq_true, any_matchesIn_iff hexcluded]
    simp
  rw [accepts, Bool.and_eq_true, Bool.or_eq_true, hnot, isEmpty_compileAll hincluded,
    any_matchesIn_iff hincluded, CommandPatterns.accepts_iff]

end CommandFilter

end BuildLog
