import BuildLog.Proofs.Configuration.Nodes

/-! What is given by the entries of a document: each key has its own kind of value, and what is left
out has a default. -/

namespace BuildLog.Configuration

open Yaml EventStream EventReader

variable {α : Type} {entry : α → String → EventReader α} {all : List Event}

/-- Entries are read one after the other, each by what its key asks for. -/
inductive ReadsEntries (entry : α → String → EventReader α) (all : List Event) :
    α → List Entry → α → Prop
  | nil (value : α) : ReadsEntries entry all value [] value
  | cons {value value' value'' : α} {e : Entry} {es : List Entry}
      (h : ∀ rest, entry value (String.ofList e.key) all (e.events ++ rest) = .ok (value', rest))
      (hs : ReadsEntries entry all value' es value'') : ReadsEntries entry all value (e :: es) value''

theorem ReadsEntries.append {value value' value'' : α} {es es' : List Entry}
    (h : ReadsEntries entry all value es value') (h' : ReadsEntries entry all value' es' value'') :
    ReadsEntries entry all value (es ++ es') value'' := by
  induction h with
  | nil => exact h'
  | cons he _ ih => exact .cons he (ih h')

theorem entries_of_reads {value value' : α} {es : List Entry} {n : Nat}
    (h : ReadsEntries entry all value es value') (hn : es.length ≤ n) (rest : List Event) :
    EventReader.entries entry all n value (es.flatMap Entry.allEvents ++ .mappingEnd :: rest) =
      .ok (value', rest) := by
  induction h generalizing n with
  | nil => cases n <;> rfl
  | @cons value value₁ value₂ e es he _ ih =>
    obtain ⟨n, rfl⟩ : ∃ m, n = m + 1 := ⟨n - 1, by simp at hn; omega⟩
    have hentry := he (es.flatMap Entry.allEvents ++ .mappingEnd :: rest)
    rw [List.flatMap_cons, List.append_assoc, Entry.allEvents, List.cons_append]
    show ((entry value (String.ofList e.key) all (e.events ++ _)).bind fun r =>
      EventReader.entries entry all n r.1 r.2) = _
    rw [hentry]
    exact ih (Nat.le_of_succ_le_succ hn)

theorem length_le_allEvents (es : List Entry) : es.length ≤ (es.flatMap Entry.allEvents).length := by
  induction es with
  | nil => exact Nat.le_refl 0
  | cons e es ih =>
    rw [List.flatMap_cons, List.length_append, List.length_cons, Entry.allEvents, List.length_cons]
    omega

theorem mapping_of_reads {initial value : α} {es : List Entry}
    (h : ReadsEntries entry all initial es value) (rest : List Event) :
    mapping initial entry all (mappingEvents es ++ rest) = .ok (value, rest) := by
  have hevents : mappingEvents es ++ rest =
      .mappingStart :: (es.flatMap Entry.allEvents ++ .mappingEnd :: rest) := by
    simp [mappingEvents]
  have hlength : es.length ≤ (es.flatMap Entry.allEvents ++ .mappingEnd :: rest).length := by
    rw [List.length_append]
    exact Nat.le_add_right_of_le (length_le_allEvents es)
  rw [hevents]
  exact entries_of_reads h hlength rest

theorem isNull_eq_false {cs : List Char} (h : Yaml.Written.isAmbiguous cs = false) :
    (cs.isEmpty || isNull cs) = false := by
  have hempty : cs.isEmpty = false := by
    cases cs with
    | nil => cases h
    | cons c cs => rfl
  have hnull : isNull cs = false := by
    refine Bool.eq_false_iff.mpr fun hnull => ?_
    have hspelled : String.ofList cs ∈ ["null", "Null", "NULL", "~"] := List.contains_iff_mem.mp hnull
    have hspellings : ∀ s ∈ ["null", "Null", "NULL", "~"],
        Yaml.Written.isAmbiguous s.toList = true := by
      decide
    have hambiguous := hspellings _ hspelled
    rw [String.toList_ofList, h] at hambiguous
    cases hambiguous
  rw [hempty, hnull]
  rfl

/-- A text that is written plainly does not spell null. -/
theorem optionalText_styleOf (v : String) (rest : List Event) :
    optionalText all (.scalar v.toList (styleOf v) none :: rest) = .ok (some v, rest) := by
  unfold styleOf Yaml.Written.styleOf
  split
  · rename_i hplain
    have hnull := isNull_eq_false (by simpa using (Bool.and_eq_true_iff.mp hplain).1)
    show Except.ok (if (v.toList.isEmpty || isNull v.toList) = true then none else
      some (String.ofList v.toList), rest) = _
    rw [hnull, String.ofList_toList]
    rfl
  · split <;> exact congrArg (fun v => Except.ok (some v, rest)) String.ofList_toList

theorem natural?_toDigits : ∀ n ≤ maxSegments, natural? (Nat.toDigits 10 n) = some n := by
  decide

theorem items_itemEvents (all : List Event) (items : List (List Char × ScalarStyle)) {n : Nat}
    (hn : items.length ≤ n) (rest : List Event) :
    EventReader.items all n (itemEvents items ++ .sequenceEnd :: rest) =
      .ok (items.map fun i => String.ofList i.1, rest) := by
  induction items generalizing n with
  | nil => cases n <;> rfl
  | cons i items ih =>
    obtain ⟨n, rfl⟩ : ∃ m, n = m + 1 := ⟨n - 1, by simp at hn; omega⟩
    show ((EventReader.items all n (itemEvents items ++ .sequenceEnd :: rest)).bind fun r =>
      .ok (String.ofList i.1 :: r.1, r.2)) = _
    rw [ih (Nat.le_of_succ_le_succ hn)]
    rfl

theorem texts_itemEvents (patterns : List String) (rest : List Event) :
    EventReader.texts all
        (.sequenceStart :: (itemEvents (itemsOf patterns) ++ [.sequenceEnd]) ++ rest) =
      .ok (patterns, rest) := by
  have htexts : (itemsOf patterns).map (fun i => String.ofList i.1) = patterns := by
    simp [itemsOf, Function.comp_def]
  have hlength : (itemsOf patterns).length ≤
      (itemEvents (itemsOf patterns) ++ .sequenceEnd :: rest).length := by
    simp [itemEvents]
  have hitems := items_itemEvents all (itemsOf patterns) hlength rest
  rw [htexts] at hitems
  rw [List.cons_append, List.append_assoc]
  exact hitems

theorem readsEntries_suffix (suffix : Option String) :
    ReadsEntries GivenDetection.entry all {}
      (suffix.toList.map fun v => entryOfText "version_suffix" v.toList (styleOf v))
      { versionSuffix := suffix.map some } := by
  cases suffix with
  | none => exact .nil _
  | some v =>
    refine .cons (fun rest => ?_) (.nil _)
    show (optionalText all (.scalar v.toList (styleOf v) none :: rest)).map _ = _
    rw [optionalText_styleOf]
    rfl

theorem once_none {α β : Type} {read : EventReader α} {set : α → β} {events rest : List Event}
    {value : α} (h : read all events = .ok (value, rest)) :
    once none read set all events = .ok (set value, rest) := by
  show (read all events).map _ = _
  rw [h]
  rfl

theorem style_name (style : PathStyle) (rest : List Event) :
    EventReader.style all (.scalar style.name.toList .plain none :: rest) = .ok (style, rest) := by
  cases style <;> rfl

theorem natural_toDigits {n : Nat} (hn : n ≤ maxSegments) (rest : List Event) :
    natural all (.scalar (Nat.toDigits 10 n) .plain none :: rest) = .ok (n, rest) := by
  simp only [natural, throughAlias, true_or, if_true, natural?_toDigits n hn]

theorem entry_style {g : GivenDetection} (hg : g.style = none) (style : PathStyle)
    (rest : List Event) :
    g.entry "style" all (.scalar style.name.toList .plain none :: rest) =
      .ok ({ g with style := some style }, rest) := by
  simp only [GivenDetection.entry, hg]
  exact once_none (style_name style rest)

theorem entry_tripletSegments {g : GivenDetection} (hg : g.tripletSegments = none) {n : Nat}
    (hn : n ≤ maxSegments) (rest : List Event) :
    g.entry "triplet_segments" all (.scalar (Nat.toDigits 10 n) .plain none :: rest) =
      .ok ({ g with tripletSegments := some n }, rest) := by
  simp only [GivenDetection.entry, hg]
  exact once_none (natural_toDigits hn rest)

/-- What is read of the settings of a detection. -/
def givenDetection (d : DetectionSettings) : GivenDetection where
  versionSuffix := d.versionSuffix.map some
  style := some d.style
  tripletSegments := some d.tripletSegments

theorem readsEntries_detection {d : DetectionSettings} (hsegments : d.tripletSegments ≤ maxSegments) :
    ReadsEntries GivenDetection.entry all {} (entriesOfDetection d) (givenDetection d) :=
  (readsEntries_suffix d.versionSuffix).append
    (.cons (entry_style rfl d.style) (.cons (entry_tripletSegments rfl hsegments) (.nil _)))

theorem entry_included {g : GivenCommands} (hg : g.included = none) (patterns : List String)
    (rest : List Event) :
    g.entry "include" all
        (.sequenceStart :: (itemEvents (itemsOf patterns) ++ [.sequenceEnd]) ++ rest) =
      .ok ({ g with included := some patterns }, rest) := by
  simp only [GivenCommands.entry, hg]
  exact once_none (texts_itemEvents patterns rest)

theorem entry_excluded {g : GivenCommands} (hg : g.excluded = none) (patterns : List String)
    (rest : List Event) :
    g.entry "exclude" all
        (.sequenceStart :: (itemEvents (itemsOf patterns) ++ [.sequenceEnd]) ++ rest) =
      .ok ({ g with excluded := some patterns }, rest) := by
  simp only [GivenCommands.entry, hg]
  exact once_none (texts_itemEvents patterns rest)

/-- What is read of a list of patterns. An empty one is left out. -/
def givenPatterns (patterns : List String) : Option (List String) :=
  if patterns.isEmpty then none else some patterns

def givenCommands (commands : CommandPatterns) : GivenCommands :=
  ⟨givenPatterns commands.included, givenPatterns commands.excluded⟩

theorem getD_givenPatterns (patterns : List String) : (givenPatterns patterns).getD [] = patterns := by
  cases patterns <;> rfl

theorem readsEntries_patterns (commands : CommandPatterns) :
    ReadsEntries GivenCommands.entry all {}
      (entriesOfPatterns "include" commands.included ++ entriesOfPatterns "exclude" commands.excluded)
      (givenCommands commands) := by
  have hincluded : ReadsEntries GivenCommands.entry all {}
      (entriesOfPatterns "include" commands.included) ⟨givenPatterns commands.included, none⟩ := by
    unfold entriesOfPatterns givenPatterns
    split
    · exact .nil _
    · exact .cons (entry_included rfl commands.included) (.nil _)
  refine hincluded.append ?_
  unfold entriesOfPatterns givenCommands
  cases hexcluded : commands.excluded with
  | nil => exact .nil _
  | cons p ps => exact .cons (entry_excluded rfl (p :: ps)) (.nil _)

theorem read_commands (commands : CommandPatterns) (rest : List Event) :
    mapping {} GivenCommands.entry all ((entryOfCommands commands).events ++ rest) =
      .ok (givenCommands commands, rest) := by
  unfold entryOfCommands
  split
  · rename_i h
    rw [Bool.and_eq_true] at h
    rw [givenCommands, givenPatterns, givenPatterns, if_pos h.1, if_pos h.2]
    exact mapping_of_reads (.nil _) rest
  · exact mapping_of_reads (readsEntries_patterns commands) rest

/-- What is read from the document of a configuration. -/
def given (c : Configuration) : Given where
  schema := some c.schema
  detection := some (givenDetection c.detection)
  commands := some (givenCommands c.commands)

theorem configuration_given (c : Configuration) : c.given.configuration = .ok c := by
  obtain ⟨schema, ⟨suffix, style, segments⟩, ⟨included, excluded⟩⟩ := c
  simp only [given, Given.configuration, GivenDetection.settings, GivenCommands.patterns,
    givenDetection, givenCommands, Option.getD_some, getD_givenPatterns]
  cases suffix <;> rfl

theorem entry_schema {g : Given} (hg : g.schema = none) (style : ScalarStyle) (rest : List Event) :
    g.entry "schema" all (.scalar supportedSchema.toList style none :: rest) =
      .ok ({ g with schema := some supportedSchema }, rest) := by
  simp only [Given.entry, hg]
  exact once_none rfl

theorem entry_detection {g : Given} (hg : g.detection = none) {d : DetectionSettings}
    (hsegments : d.tripletSegments ≤ maxSegments) (rest : List Event) :
    g.entry "detection" all (mappingEvents (entriesOfDetection d) ++ rest) =
      .ok ({ g with detection := some (givenDetection d) }, rest) := by
  simp only [Given.entry, hg]
  exact once_none (mapping_of_reads (readsEntries_detection hsegments) rest)

theorem entry_commands {g : Given} (hg : g.commands = none) (commands : CommandPatterns)
    (rest : List Event) :
    g.entry (String.ofList (entryOfCommands commands).key) all
        ((entryOfCommands commands).events ++ rest) =
      .ok ({ g with commands := some (givenCommands commands) }, rest) := by
  have hkey : String.ofList (entryOfCommands commands).key = "commands" := by
    unfold entryOfCommands
    split <;> rfl
  simp only [hkey, Given.entry, hg]
  exact once_none (read_commands commands rest)

theorem readsEntries_entries {c : Configuration} (hschema : c.schema = supportedSchema)
    (hsegments : c.detection.tripletSegments ≤ maxSegments) :
    ReadsEntries Given.entry all {} c.entries c.given := by
  unfold entries given
  rw [hschema]
  exact .cons (entry_schema rfl _) (.cons (entry_detection rfl hsegments)
    (.cons (entry_commands rfl c.commands) (.nil _)))

end BuildLog.Configuration
