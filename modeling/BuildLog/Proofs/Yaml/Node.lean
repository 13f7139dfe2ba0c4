import BuildLog.Yaml.Event

/-! The events of nodes: texts, lists of texts and mappings. What the tokens of a node become does not
depend on what follows them, as long as that does not go on with a list. -/

namespace BuildLog.Yaml.EventStream

open State

variable {s s' s'' : State} {goals : List Goal} {rest : List Token}

def Reads (count : Nat) (s s' : State) : Prop := ∀ n, s.run (n + count) = s'.run n

theorem Reads.trans {j k : Nat} (h : Reads j s s') (h' : Reads k s' s'') : Reads (j + k) s s'' := by
  intro n
  rw [Nat.add_comm j k, ← Nat.add_assoc, h, h']

theorem Reads.of_step {goal : Goal} (hgoals : s.goals = goal :: goals)
    (h : s.step goal goals = some s') : Reads 1 s s' := by
  intro n
  rw [State.run, hgoals]
  simp only [h]

/-- The reader with other goals and tokens, and with more events. -/
def State.past (s : State) (goals : List Goal) (tokens : List Token) (events : List Event) : State :=
  { s with goals, tokens, events := events.reverse ++ s.events }

theorem State.past_past (s : State) (goals goals' : List Goal) (tokens tokens' : List Token)
    (events events' : List Event) : (s.past goals tokens events).past goals' tokens' events' =
      s.past goals' tokens' (events ++ events') := by
  simp [State.past]

/-- Something follows, and it is not an entry of a list. -/
def EndsList (rest : List Token) : Prop :=
  ∃ t more, rest = t :: more ∧ t ≠ .blockEntry

/-- Tokens that make up a node with some events. Each of them takes the reader two steps at most. -/
structure IsNode (entryAllowed : Bool) (tokens : List Token) (events : List Event) : Prop where
  starts : ∃ t ts, tokens = t :: ts ∧ stopsBlockPart t = false ∧ stopsDocument t = false
  reads : ∀ (s : State) (goals : List Goal) (rest : List Token), EndsList rest →
    ∃ count ≤ 2 * tokens.length,
      Reads count (s.past (.node true entryAllowed :: goals) (tokens ++ rest) [])
        (s.past goals rest events)

theorem isNode_scalar (entryAllowed : Bool) (text : List Char) (style : ScalarStyle) :
    IsNode entryAllowed [.scalar text style] [.scalar text style none] where
  starts := ⟨_, _, rfl, rfl, rfl⟩
  reads _ _ _ _ := ⟨1, Nat.le_succ 1, .of_step rfl rfl⟩

theorem isNode_emptyMapping (entryAllowed : Bool) :
    IsNode entryAllowed [.flowMappingStart, .flowMappingEnd] [.mappingStart, .mappingEnd] where
  starts := ⟨_, _, rfl, rfl, rfl⟩
  reads s goals rest _ := by
    have hopen : Reads 1 (s.past (.node true entryAllowed :: goals)
        (.flowMappingStart :: .flowMappingEnd :: rest) [])
        (s.past (.flowKey true :: goals) (.flowMappingEnd :: rest) [.mappingStart]) :=
      .of_step rfl rfl
    have hclose : Reads 1 (s.past (.flowKey true :: goals) (.flowMappingEnd :: rest) [.mappingStart])
        (s.past goals rest [.mappingStart, .mappingEnd]) := .of_step rfl rfl
    exact ⟨2, by decide, hopen.trans hclose⟩

/-- An entry of a mapping: a key with the tokens and the events of its value. -/
structure Entry where
  key : List Char
  tokens : List Token
  events : List Event

namespace Entry

def allTokens (e : Entry) : List Token := .key :: .scalar e.key .plain :: .value :: e.tokens

def allEvents (e : Entry) : List Event := .scalar e.key .plain none :: e.events

end Entry

theorem endsList_entries (entries : List Entry) (rest : List Token) :
    EndsList (entries.flatMap Entry.allTokens ++ .blockEnd :: rest) := by
  cases entries with
  | nil => exact ⟨_, _, rfl, by decide⟩
  | cons e entries => exact ⟨_, _, rfl, by decide⟩

/-- The value of an entry is a node where a list may stand without a block of its own. -/
theorem exists_reads_entry {e : Entry} (h : IsNode true e.tokens e.events) (s : State)
    (goals : List Goal) (hrest : EndsList rest) : ∃ count ≤ 2 * e.allTokens.length,
      Reads count (s.past (.blockKey :: goals) (e.allTokens ++ rest) [])
        (s.past (.blockKey :: goals) rest e.allEvents) := by
  obtain ⟨t, ts, hts, hstop, -⟩ := h.starts
  obtain ⟨count, hcount, hread⟩ := h.reads (s.past [] [] [.scalar e.key .plain none])
    (.blockKey :: goals) rest hrest
  have hkey : Reads 1 (s.past (.blockKey :: goals) (e.allTokens ++ rest) [])
      (s.past (.node true true :: .blockValue :: goals)
        (.scalar e.key .plain :: .value :: (e.tokens ++ rest)) []) := .of_step rfl rfl
  have hscalar : Reads 1
      (s.past (.node true true :: .blockValue :: goals)
        (.scalar e.key .plain :: .value :: (e.tokens ++ rest)) [])
      (s.past (.blockValue :: goals) (.value :: (e.tokens ++ rest)) [.scalar e.key .plain none]) :=
    .of_step rfl rfl
  have hvalue : Reads 1
      (s.past (.blockValue :: goals) (.value :: (e.tokens ++ rest)) [.scalar e.key .plain none])
      (s.past (.node true true :: .blockKey :: goals) (e.tokens ++ rest)
        [.scalar e.key .plain none]) := by
    refine .of_step rfl ?_
    rw [hts]
    show State.nodeBefore _ stopsBlockPart true true (.blockKey :: goals) (t :: (ts ++ rest)) = _
    rw [State.nodeBefore, hstop]
    rfl
  rw [State.past_past, State.past_past] at hread
  refine ⟨1 + (1 + (1 + count)), ?_, hkey.trans (hscalar.trans (hvalue.trans hread))⟩
  simp only [Entry.allTokens, List.length_cons]
  omega

theorem exists_reads_entries {entries : List Entry}
    (h : ∀ e ∈ entries, IsNode true e.tokens e.events) (s : State) (goals : List Goal)
    (rest : List Token) : ∃ count ≤ 2 * (entries.flatMap Entry.allTokens).length,
      Reads count
        (s.past (.blockKey :: goals) (entries.flatMap Entry.allTokens ++ .blockEnd :: rest) [])
        (s.past (.blockKey :: goals) (.blockEnd :: rest) (entries.flatMap Entry.allEvents)) := by
  induction entries generalizing s with
  | nil => exact ⟨0, Nat.zero_le _, fun _ => rfl⟩
  | cons e entries ih =>
    obtain ⟨he, h⟩ := List.forall_mem_cons.mp h
    obtain ⟨count, hcount, hread⟩ :=
      exists_reads_entry he s goals (endsList_entries entries rest)
    obtain ⟨counts, hcounts, hreads⟩ := ih h (s.past [] [] e.allEvents)
    rw [State.past_past, State.past_past] at hreads
    refine ⟨count + counts, ?_, ?_⟩
    · rw [List.flatMap_cons, List.length_append]
      omega
    · rw [List.flatMap_cons, List.flatMap_cons, List.append_assoc]
      rw [List.append_nil] at hreads
      exact hread.trans hreads

def mappingTokens (entries : List Entry) : List Token :=
  .blockMappingStart :: (entries.flatMap Entry.allTokens ++ [.blockEnd])

def mappingEvents (entries : List Entry) : List Event :=
  .mappingStart :: (entries.flatMap Entry.allEvents ++ [.mappingEnd])

theorem isNode_mapping (entryAllowed : Bool) {entries : List Entry}
    (h : ∀ e ∈ entries, IsNode true e.tokens e.events) :
    IsNode entryAllowed (mappingTokens entries) (mappingEvents entries) where
  starts := ⟨_, _, rfl, rfl, rfl⟩
  reads s goals rest _ := by
    obtain ⟨count, hcount, hread⟩ :=
      exists_reads_entries h (s.past [] [] [.mappingStart]) goals rest
    have hopen : Reads 1
        (s.past (.node true entryAllowed :: goals) (mappingTokens entries ++ rest) [])
        (s.past (.blockKey :: goals) (entries.flatMap Entry.allTokens ++ .blockEnd :: rest)
          [.mappingStart]) := by
      refine .of_step rfl ?_
      rw [mappingTokens, List.cons_append, List.append_assoc]
      rfl
    have hclose : Reads 1
        (s.past (.blockKey :: goals) (.blockEnd :: rest)
          (.mappingStart :: entries.flatMap Entry.allEvents))
        (s.past goals rest (mappingEvents entries)) := by
      refine .of_step rfl ?_
      show some _ = some _
      simp [State.past, mappingEvents]
    rw [State.past_past, State.past_past] at hread
    refine ⟨1 + (count + 1), ?_, hopen.trans (hread.trans hclose)⟩
    simp only [mappingTokens, List.length_cons, List.length_append]
    omega

/-- The items of a list of texts, each with its style. -/
def itemTokens (items : List (List Char × ScalarStyle)) : List Token :=
  items.flatMap fun i => [.blockEntry, .scalar i.1 i.2]

def itemEvents (items : List (List Char × ScalarStyle)) : List Event :=
  items.map fun i => .scalar i.1 i.2 none

theorem reads_items (items : List (List Char × ScalarStyle)) (s : State) (goals : List Goal)
    (rest : List Token) :
    Reads (2 * items.length) (s.past (.bareSequence :: goals) (itemTokens items ++ rest) [])
      (s.past (.bareSequence :: goals) rest (itemEvents items)) := by
  induction items generalizing s with
  | nil => exact fun _ => rfl
  | cons i items ih =>
    have hentry : Reads 1
        (s.past (.bareSequence :: goals) (itemTokens (i :: items) ++ rest) [])
        (s.past (.node true false :: .bareSequence :: goals)
          (.scalar i.1 i.2 :: (itemTokens items ++ rest)) []) := .of_step rfl rfl
    have hscalar : Reads 1
        (s.past (.node true false :: .bareSequence :: goals)
          (.scalar i.1 i.2 :: (itemTokens items ++ rest)) [])
        (s.past (.bareSequence :: goals) (itemTokens items ++ rest) [.scalar i.1 i.2 none]) :=
      .of_step rfl rfl
    have hitems := ih (s.past [] [] [.scalar i.1 i.2 none])
    rw [State.past_past, State.past_past] at hitems
    have hcount : 2 * (i :: items).length = 1 + (1 + 2 * items.length) := by
      rw [List.length_cons]
      omega
    rw [hcount]
    exact hentry.trans (hscalar.trans hitems)

theorem length_itemTokens (items : List (List Char × ScalarStyle)) :
    (itemTokens items).length = 2 * items.length := by
  rw [itemTokens, List.length_flatMap]
  simp [List.map_const', Nat.mul_comm]

theorem step_bareSequence {t : Token} (ht : t ≠ .blockEntry) (s : State) (goals : List Goal)
    {more : List Token} (htokens : s.tokens = t :: more) :
    s.step .bareSequence goals = s.emit .sequenceEnd goals (t :: more) := by
  rw [State.step.eq_def, htokens]
  cases t <;> first | rfl | exact absurd rfl ht

/-- A list stands at the column of the key in front of it, without a block of its own. -/
theorem isNode_items {items : List (List Char × ScalarStyle)} (h : items ≠ []) :
    IsNode true (itemTokens items) (.sequenceStart :: (itemEvents items ++ [.sequenceEnd])) where
  starts := by
    obtain ⟨i, items, rfl⟩ := List.exists_cons_of_ne_nil h
    exact ⟨_, _, rfl, rfl, rfl⟩
  reads s goals rest hrest := by
    obtain ⟨i, items, rfl⟩ := List.exists_cons_of_ne_nil h
    obtain ⟨t, more, rfl, ht⟩ := hrest
    have hopen : Reads 1
        (s.past (.node true true :: goals) (itemTokens (i :: items) ++ t :: more) [])
        (s.past (.bareSequence :: goals) (itemTokens (i :: items) ++ t :: more)
          [.sequenceStart]) := .of_step rfl rfl
    have hitems := reads_items (i :: items) (s.past [] [] [.sequenceStart]) goals (t :: more)
    have hclose : Reads 1
        (s.past (.bareSequence :: goals) (t :: more)
          (.sequenceStart :: itemEvents (i :: items)))
        (s.past goals (t :: more)
          (.sequenceStart :: (itemEvents (i :: items) ++ [.sequenceEnd]))) := by
      refine .of_step rfl ((step_bareSequence ht _ goals rfl).trans ?_)
      simp [State.emit, State.past]
    rw [State.past_past, State.past_past] at hitems
    refine ⟨1 + (2 * (i :: items).length + 1), ?_, hopen.trans (hitems.trans hclose)⟩
    rw [length_itemTokens, List.length_cons]
    omega

theorem ofTokens_node {tokens : List Token} {events : List Event} (h : IsNode false tokens events) :
    ofTokens ⟨tokens ++ [.streamEnd], true⟩ = ⟨events, true⟩ := by
  obtain ⟨t, ts, rfl, -, hdocument⟩ := h.starts
  have hstart : start (t :: ts ++ [.streamEnd]) = some (State.past
      { goals := [], tokens := [], shorthands := defaultShorthands } [.node true false]
      (t :: ts ++ [.streamEnd]) []) := by
    cases t <;> first | rfl | cases hdocument
  obtain ⟨count, hcount, hread⟩ := h.reads
    { goals := [], tokens := [], shorthands := defaultShorthands } [] [.streamEnd]
    ⟨_, _, rfl, by decide⟩
  have hfuel : 1 + count ≤ 8 * ((t :: ts ++ [Token.streamEnd]).length + 2) := by
    rw [List.length_append]
    omega
  obtain ⟨n, hn⟩ := Nat.exists_eq_add_of_le' hfuel
  rw [← Nat.add_assoc] at hn
  rw [ofTokens, hstart]
  simp only [hn, hread (n + 1)]
  simp [State.run, State.past, endsStream]

end BuildLog.Yaml.EventStream
