import BuildLog.Proofs.Arguments.Options

/-! The reader of arguments, option by option. An option that waits for a value takes what does not
look like an option, unless it allows any value. -/

namespace BuildLog.Arguments

namespace Reader

variable {r : Reader} {g : Given} {s : Setting} {rest : List String}

/-- A reader that has taken in what is given and does not wait for a value. -/
structure Settles (r : Reader) (g : Given) : Prop where
  settle : r.settle = .ok g
  waiting : r.waiting = none

theorem settles_value {value : String} {g' : Given} (h : g.set s value = .ok g') :
    Settles ⟨g, some (s, some value)⟩ g' :=
  ⟨h, rfl⟩

theorem act_set (h : r.Settles g) (s : Setting) : r.act (.set s) = .ok ⟨g, some (s, none)⟩ := by
  simp only [act, h.settle]
  rfl

theorem read_of_letters {r' : Reader} {arg : String} {c : Char} {cs : List Char} (h : r.Settles g)
    (harg : arg.toList = '-' :: c :: cs) (hc : c ≠ '-') (hletters : r.readLetters (c :: cs) = .ok r')
    (rest : List String) : read r (arg :: rest) = read r' rest := by
  have hname : arg ≠ "--" := by
    rintro rfl
    exact hc (List.cons_eq_cons.mp (List.cons_eq_cons.mp harg).2).1.symm
  rw [read, h.waiting, harg, if_neg hname]
  simp only [Option.any_none, Bool.false_eq_true, if_false, hletters]

theorem read_verbose (h : r.Settles g) (rest : List String) :
    read r ("-v" :: rest) = read ⟨g.raiseVerbosity, none⟩ rest := by
  have hact : r.act .verbose = .ok ⟨g.raiseVerbosity, none⟩ := by
    simp only [act, h.settle]
    rfl
  have hletters : r.readLetters ['v'] = .ok ⟨g.raiseVerbosity, none⟩ := by
    simp only [readLetters, ofLetter?, hact]
  exact read_of_letters h rfl (by decide) hletters rest

theorem readWord_set (h : r.Settles g) {word : List Char} (hend : word.dropWhile (· != '=') = [])
    (hword : ofWord? (String.ofList (word.takeWhile (· != '='))) = some (.set s)) :
    r.readWord word = .ok ⟨g, some (s, none)⟩ := by
  rw [readWord, hend, hword]
  exact act_set h s

theorem read_word (h : r.Settles g) {word : List Char} {name : String}
    (hname : name.toList = '-' :: '-' :: word) (hne : name ≠ "--")
    (hend : word.dropWhile (· != '=') = [])
    (hword : ofWord? (String.ofList (word.takeWhile (· != '='))) = some (.set s))
    (rest : List String) : read r (name :: rest) = read ⟨g, some (s, none)⟩ rest := by
  rw [read, h.waiting, Option.any_none, if_neg Bool.false_ne_true, if_neg hne, hname]
  simp only [readWord_set h hend hword]

theorem read_letter (h : r.Settles g) (rest : List String) :
    read r ("-i" :: rest) = read ⟨g, some (.input, none)⟩ rest := by
  have hletters : r.readLetters ['i'] = .ok ⟨g, some (.input, none)⟩ := act_set h .input
  exact read_of_letters h rfl (by decide) hletters rest

theorem not_looksLikeOption_of_chars {arg : String} (h : ¬ LooksLikeOption arg) (c : Char)
    (cs : List Char) : arg.toList ≠ '-' :: c :: cs := by
  intro hchars
  exact h ⟨by rw [hchars]; rfl, by rw [hchars]; simp⟩

/-- An argument that is not taken for an option is the value of the option that waits for one. -/
theorem read_value {value : String} (h : s.allowsHyphen = true ∨ ¬ LooksLikeOption value)
    (rest : List String) :
    read ⟨g, some (s, none)⟩ (value :: rest) = read ⟨g, some (s, some value)⟩ rest := by
  have hwaiting : (Reader.mk g (some (s, none))).waiting = some s := rfl
  have hread : (Reader.mk g (some (s, none))).readPlain value = .ok ⟨g, some (s, some value)⟩ := rfl
  by_cases hs : s.allowsHyphen = true
  · rw [read, hwaiting, Option.any_some, if_pos hs, hread]
  · have hplain := not_looksLikeOption_of_chars (h.resolve_left hs)
    have hne : value ≠ "--" := by
      rintro rfl
      exact hplain '-' [] rfl
    rw [read, hwaiting, Option.any_some, if_neg hs, if_neg hne]
    split
    · exact absurd ‹_› (hplain '-' _)
    · exact absurd ‹_› (hplain _ _)
    · simp only [hread]

/-- One option more has been taken in. -/
theorem exists_read_option (h : r.Settles g) {o : Written} (hplain : o.IsPlain) (hnew : o.IsNew g)
    (rest : List String) :
    ∃ r', read r (o.args ++ rest) = read r' rest ∧ r'.Settles (o.give g) := by
  cases o with
  | verbose => exact ⟨⟨g.raiseVerbosity, none⟩, read_verbose h rest, rfl, rfl⟩
  | versionSuffix pattern =>
    have hset : g.set .versionSuffix pattern = .ok { g with versionSuffix := some pattern } := by
      rw [Given.set, hnew .versionSuffix rfl]
      rfl
    exact ⟨_, (read_word h rfl (by decide) rfl rfl _).trans (read_value (.inl rfl) rest),
      settles_value hset⟩
  | style style =>
    have hset : g.set .style style.name = .ok { g with style := some style } := by
      rw [Given.set, hnew .style rfl]
      cases style <;> rfl
    have hname : ¬ LooksLikeOption style.name := by cases style <;> decide
    exact ⟨_, (read_word h rfl (by decide) rfl rfl _).trans (read_value (.inr hname) rest),
      settles_value hset⟩
  | format format =>
    have hset : g.set .format format.name = .ok { g with format := some format } := by
      rw [Given.set, hnew .format rfl]
      cases format <;> rfl
    have hname : ¬ LooksLikeOption format.name := by cases format <;> decide
    exact ⟨_, (read_word h rfl (by decide) rfl rfl _).trans (read_value (.inr hname) rest),
      settles_value hset⟩
  | input path =>
    have hset : g.set .input path = .ok { g with input := some path } := by
      rw [Given.set, hnew .input rfl]
      rfl
    exact ⟨_, (read_letter h _).trans (read_value (.inr hplain) rest), settles_value hset⟩

theorem exists_read_options (h : r.Settles g) {options : List Written}
    (hplain : ∀ o ∈ options, o.IsPlain) (hnodup : (options.filterMap Written.setting?).Nodup)
    (hnew : ∀ o ∈ options, o.IsNew g) (rest : List String) :
    ∃ r', read r (options.flatMap Written.args ++ rest) = read r' rest ∧
      r'.Settles (options.foldl Written.give g) := by
  induction options generalizing r g with
  | nil => exact ⟨r, rfl, h⟩
  | cons o options ih =>
    obtain ⟨hplain, hplains⟩ := List.forall_mem_cons.mp hplain
    obtain ⟨hnew, hnews⟩ := List.forall_mem_cons.mp hnew
    obtain ⟨r₁, hread, h₁⟩ :=
      exists_read_option h hplain hnew (options.flatMap Written.args ++ rest)
    have hother : ∀ p ∈ options, p.IsNew (o.give g) := by
      intro p hp s hs
      rw [Written.has_give, hnews p hp s hs]
      intro ho
      rw [List.filterMap_cons_some ho] at hnodup
      exact (List.nodup_cons.mp hnodup).1 (List.mem_filterMap.mpr ⟨p, hp, hs⟩)
    have hrest : (options.filterMap Written.setting?).Nodup := by
      refine hnodup.sublist ?_
      exact (List.sublist_cons_self o options).filterMap _
    obtain ⟨r₂, hreads, h₂⟩ := ih h₁ hplains hrest hother
    refine ⟨r₂, ?_, h₂⟩
    rw [List.flatMap_cons, List.append_assoc, hread, hreads]

theorem read_end (h : r.Settles g) (lines : List String) :
    read r ("--" :: lines) = .ok (g, lines) := by
  rw [read, h.waiting, Option.any_none, if_neg Bool.false_ne_true, if_pos rfl, h.settle]
  rfl

theorem act_waiting (g : Given) (s : Setting) (a : Action) :
    (Reader.mk g (some (s, none))).act a = .error .invalidValue := by
  cases a <;> rfl

theorem readWord_waiting (g : Given) (s : Setting) (word : List Char) :
    ∃ stop, (Reader.mk g (some (s, none))).readWord word = .error stop ∧ stop.exitCode = 2 := by
  unfold readWord
  split
  · exact ⟨.unknownArgument, rfl, rfl⟩
  · exact ⟨.invalidValue, act_waiting g s _, rfl⟩
  · exact ⟨.invalidValue, rfl, rfl⟩
  · exact ⟨.tooManyValues, rfl, rfl⟩

theorem readLetters_waiting (g : Given) (s : Setting) (c : Char) (cs : List Char) :
    ∃ stop, (Reader.mk g (some (s, none))).readLetters (c :: cs) = .error stop ∧
      stop.exitCode = 2 := by
  unfold readLetters
  split
  · exact ⟨.unknownArgument, rfl, rfl⟩
  · split
    · exact ⟨.invalidValue, act_waiting g s _, rfl⟩
    · exact ⟨.invalidValue, rfl, rfl⟩
    · exact ⟨.invalidValue, rfl, rfl⟩
  · rw [act_waiting]
    exact ⟨.invalidValue, rfl, rfl⟩

/-- An option cannot be the value of another one that allows no hyphens. -/
theorem read_value_rejected {value : String} (hs : s.allowsHyphen = false)
    (h : LooksLikeOption value) (rest : List String) :
    ∃ stop, read ⟨g, some (s, none)⟩ (value :: rest) = .error stop ∧ stop.exitCode = 2 := by
  have hwaiting : (Reader.mk g (some (s, none))).waiting = some s := rfl
  rw [read, hwaiting, Option.any_some, hs, if_neg Bool.false_ne_true]
  split
  · exact ⟨.invalidValue, rfl, rfl⟩
  · split
    · rename_i word _
      obtain ⟨stop, hstop, hcode⟩ := readWord_waiting g s word
      exact ⟨stop, by simp only [hstop], hcode⟩
    · rename_i c letters _ _
      obtain ⟨stop, hstop, hcode⟩ := readLetters_waiting g s c letters
      exact ⟨stop, by simp only [hstop], hcode⟩
    · rename_i hword hletters
      obtain ⟨hhead, hlength⟩ := h
      match hchars : value.toList with
      | [] => simp [hchars] at hhead
      | [c] => simp [hchars] at hlength
      | c :: d :: cs =>
        obtain rfl : c = '-' := by simpa [hchars] using hhead
        exact (hletters d cs hchars).elim

end Reader

end BuildLog.Arguments
