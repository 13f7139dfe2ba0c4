import BuildLog.Proofs.Arguments.Reader

/-! The order of the options does not matter, and a value passes through as it is: a version pattern
may look like any option, and so may a command line behind `--`. -/

namespace BuildLog.Arguments

theorem read_of_given {args lines : List String} {g : Given}
    (h : Reader.read {} args = .ok (g, lines)) (hinput : g.input = none ∨ lines = []) :
    read args = .ok {
      config := g.config
      verbosity := g.verbosity
      versionSuffix := g.versionSuffix
      style := g.style
      format := g.format.getD .text
      input := if lines = [] then g.input.elim .standardInput .file else .lines lines } := by
  have hfree : ¬ (g.input.isSome = true ∧ lines ≠ []) := by
    rintro ⟨hsome, hlines⟩
    rw [hinput.resolve_right hlines] at hsome
    cases hsome
  rw [read, h]
  show (if g.input.isSome = true ∧ lines ≠ [] then _ else _) = _
  rw [if_neg hfree]
  by_cases hlines : lines = [] <;> cases hg : g.input <;> simp [hlines] <;> rfl

theorem read_of_conflict {args lines : List String} {g : Given}
    (h : Reader.read {} args = .ok (g, lines)) (hinput : g.input.isSome = true) (hlines : lines ≠ []) :
    read args = .error .conflict := by
  rw [read, h]
  show (if g.input.isSome = true ∧ lines ≠ [] then _ else _) = _
  rw [if_pos ⟨hinput, hlines⟩]
  rfl

theorem read_of_error {args : List String} {stop : UsageStop}
    (h : Reader.read {} args = .error stop) : read args = .error stop := by
  rw [read, h]
  rfl

/-- The options that name a version pattern, a style and a format once, behind flags. -/
def optionsOf (n : Nat) (x : String) (style : PathStyle) (format : ReportFormat) : List Written :=
  List.replicate n .verbose ++ [.versionSuffix x, .style style, .format format]

section Order

variable (n : Nat) (x : String) (style : PathStyle) (format : ReportFormat)

theorem filterMap_setting?_optionsOf :
    (optionsOf n x style format).filterMap Written.setting? = [.versionSuffix, .style, .format] := by
  have hflags : (List.replicate n Written.verbose).filterMap Written.setting? = [] := by
    rw [List.filterMap_eq_nil_iff]
    intro o ho
    rw [List.eq_of_mem_replicate ho]
    rfl
  rw [optionsOf, List.filterMap_append, hflags]
  rfl

theorem isPlain_of_mem_optionsOf {o : Written} (h : o ∈ optionsOf n x style format) : o.IsPlain := by
  rcases List.mem_append.mp h with h | h
  · rw [List.eq_of_mem_replicate h]
    trivial
  · obtain rfl | rfl | rfl : o = .versionSuffix x ∨ o = .style style ∨ o = .format format := by
      simpa using h
    all_goals trivial

/-- What the options say, in whatever order. -/
def givenBy : Given where
  verbosity := min n maxVerbosity
  versionSuffix := some x
  style := some style
  format := some format

theorem foldl_give_optionsOf :
    (optionsOf n x style format).foldl Written.give {} = givenBy n x style format := by
  rw [optionsOf, List.foldl_append, Written.foldl_give_verbose (Nat.zero_le _)]
  simp [Written.give, givenBy]

theorem foldl_give_input (path : String) :
    (.input path :: optionsOf n x style format).foldl Written.give {} =
      { givenBy n x style format with input := some path } := by
  rw [optionsOf, List.foldl_cons, List.foldl_append, Written.foldl_give_verbose (Nat.zero_le _)]
  simp [Written.give, givenBy]

/-- Options of which none sets what another one sets are taken in, whatever their order. -/
theorem read_options {options listed : List Written} (hperm : options.Perm listed)
    (hplain : ∀ o ∈ listed, o.IsPlain) (hnodup : (listed.filterMap Written.setting?).Nodup)
    (lines : List String) :
    Reader.read {} (options.flatMap Written.args ++ "--" :: lines) =
      .ok (listed.foldl Written.give {}, lines) := by
  have hnodup' := ((hperm.filterMap Written.setting?).nodup_iff).mpr hnodup
  have hplain' : ∀ o ∈ options, o.IsPlain := fun o ho => hplain o (hperm.subset ho)
  have hnew : ∀ o ∈ options, o.IsNew {} := by
    intro o _ s _
    cases s <;> rfl
  obtain ⟨r, hread, hsettles⟩ :=
    Reader.exists_read_options (r := {}) ⟨rfl, rfl⟩ hplain' hnodup' hnew ("--" :: lines)
  rw [hread, Reader.read_end hsettles, Written.foldl_give_perm hperm hnodup']

/-- An option is no file, whatever stands around it. -/
theorem read_input_rejected {options listed : List Written} {path : String}
    (hperm : options.Perm (.input path :: listed)) (hplain : ∀ o ∈ listed, o.IsPlain)
    (hnodup : ((.input path :: listed).filterMap Written.setting?).Nodup)
    (hpath : LooksLikeOption path) (rest : List String) :
    ∃ stop, Reader.read {} (options.flatMap Written.args ++ rest) = .error stop ∧
      stop.exitCode = 2 := by
  obtain ⟨before, after, rfl⟩ := List.append_of_mem (hperm.mem_iff.mpr List.mem_cons_self)
  have hlisted : (before ++ after).Perm listed :=
    List.Perm.cons_inv (List.perm_middle.symm.trans hperm)
  have hbefore : ∀ o ∈ before, o.IsPlain := fun o ho =>
    hplain o (hlisted.subset (List.mem_append_left after ho))
  have hnodup' : (before.filterMap Written.setting?).Nodup := by
    refine (((hperm.filterMap Written.setting?).nodup_iff).mpr hnodup).sublist ?_
    exact (List.sublist_append_left before _).filterMap _
  have hnew : ∀ o ∈ before, o.IsNew {} := by
    intro o _ s _
    cases s <;> rfl
  obtain ⟨r, hread, hsettles⟩ := Reader.exists_read_options (r := {}) ⟨rfl, rfl⟩ hbefore hnodup' hnew
    ("-i" :: path :: (after.flatMap Written.args ++ rest))
  obtain ⟨stop, hstop, hcode⟩ := Reader.read_value_rejected (s := .input)
    (g := before.foldl Written.give {}) rfl hpath (after.flatMap Written.args ++ rest)
  refine ⟨stop, ?_, hcode⟩
  rw [← hstop, ← Reader.read_letter hsettles, ← hread]
  simp [Written.args]

/-- With a file and without one, the order of the options does not matter and values may look like
options. A file cannot be named together with command lines, nor can it look like an option. -/
theorem read_any_order (lines : List String) :
    (∀ options : List Written, options.Perm (optionsOf n x style format) →
      read (options.flatMap Written.args ++ "--" :: lines) = .ok {
        verbosity := min n 255
        versionSuffix := some x
        style := some style
        format := format
        input := if lines = [] then .standardInput else .lines lines }) ∧
    ∀ (path : String) (options : List Written),
      options.Perm (.input path :: optionsOf n x style format) →
      ((∃ stop, read (options.flatMap Written.args ++ "--" :: lines) = .error stop ∧
          stop.exitCode = 2) ↔ lines ≠ [] ∨ LooksLikeOption path) ∧
      (lines = [] → ¬ LooksLikeOption path →
        read (options.flatMap Written.args ++ "--" :: lines) = .ok {
          verbosity := min n 255
          versionSuffix := some x
          style := some style
          format := format
          input := .file path }) := by
  have hplain : ∀ o ∈ optionsOf n x style format, o.IsPlain :=
    fun _ ho => isPlain_of_mem_optionsOf n x style format ho
  have hnodup : ((optionsOf n x style format).filterMap Written.setting?).Nodup := by
    rw [filterMap_setting?_optionsOf]
    decide
  refine ⟨fun options hperm => ?_, fun path options hperm => ?_⟩
  · have hread := read_options hperm hplain hnodup lines
    rw [foldl_give_optionsOf] at hread
    exact read_of_given hread (.inl rfl)
  have hnodup' : ((.input path :: optionsOf n x style format).filterMap Written.setting?).Nodup := by
    show (Setting.input :: (optionsOf n x style format).filterMap Written.setting?).Nodup
    rw [filterMap_setting?_optionsOf]
    decide
  by_cases hpath : LooksLikeOption path
  · obtain ⟨stop, hstop, hcode⟩ :=
      read_input_rejected hperm hplain hnodup' hpath ("--" :: lines)
    refine ⟨iff_of_true ⟨stop, read_of_error hstop, hcode⟩ (.inr hpath), ?_⟩
    exact fun _ hplain => (hplain hpath).elim
  have hread := read_options hperm (List.forall_mem_cons.mpr ⟨hpath, hplain⟩) hnodup' lines
  rw [foldl_give_input] at hread
  by_cases hlines : lines = []
  · have hfile := read_of_given hread (.inr hlines)
    rw [if_pos hlines] at hfile
    refine ⟨iff_of_false ?_ (not_or.mpr ⟨fun hne => hne hlines, hpath⟩), fun _ _ => hfile⟩
    rintro ⟨stop, hstop, -⟩
    rw [hfile] at hstop
    cases hstop
  · refine ⟨iff_of_true ⟨.conflict, read_of_conflict hread rfl hlines, rfl⟩ (.inl hlines), ?_⟩
    exact fun hnil => (hlines hnil).elim

end Order

/-- Here the version pattern is the separator and the command lines are an option and no text. -/
theorem read_any_order_separator :
    let options : List Written :=
      [.format .json, .verbose, .versionSuffix "--", .verbose, .style .windows]
    let withFile : List Written := options ++ [.input "-"]
    read (options.flatMap Written.args ++ ["--", "--style", ""]) = .ok {
      verbosity := 2
      versionSuffix := some "--"
      style := some .windows
      format := .json
      input := .lines ["--style", ""] } ∧
    (∃ stop, read (withFile.flatMap Written.args ++ ["--", "--style", ""]) = .error stop ∧
      stop.exitCode = 2) ∧
    read (withFile.flatMap Written.args ++ ["--"]) = .ok {
      verbosity := 2
      versionSuffix := some "--"
      style := some .windows
      format := .json
      input := .file "-" } := by
  intro options withFile
  have hperm : options.Perm (optionsOf 2 "--" .windows .json) := by decide
  have hwithFile : withFile.Perm (.input "-" :: optionsOf 2 "--" .windows .json) := by decide
  have hlines := read_any_order 2 "--" .windows .json ["--style", ""]
  have hnone := read_any_order 2 "--" .windows .json []
  exact ⟨hlines.1 options hperm, (hlines.2 "-" withFile hwithFile).1.mpr (.inl (by decide)),
    (hnone.2 "-" withFile hwithFile).2 rfl (by decide)⟩

/-- A file whose name looks like an option is rejected without any command line. -/
theorem input_like_option_rejected :
    let options : List Written :=
      [.versionSuffix "-\\d+", .style .posix, .format .text, .input "-build.log"]
    ¬ ((∃ stop, read (options.flatMap Written.args ++ ["--"]) = .error stop ∧ stop.exitCode = 2) ↔
      ([] : List String) ≠ []) := by
  intro options h
  exact h.mp ⟨.unknownArgument, by decide, rfl⟩ rfl

end BuildLog.Arguments
