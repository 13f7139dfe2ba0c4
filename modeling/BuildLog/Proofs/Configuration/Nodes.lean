import BuildLog.Proofs.Configuration.Lines
import BuildLog.Proofs.Yaml.Node

/-! The entries of the document of a configuration: the tokens of its lines make up one mapping. -/

namespace BuildLog.Configuration

open Yaml EventStream

def entriesOfPatterns (key : String) (patterns : List String) : List Entry :=
  if patterns.isEmpty then []
  else [⟨key.toList, itemTokens (itemsOf patterns),
    .sequenceStart :: (itemEvents (itemsOf patterns) ++ [.sequenceEnd])⟩]

def entryOfText (key : String) (t : List Char) (style : ScalarStyle) : Entry :=
  ⟨key.toList, [.scalar t style], [.scalar t style none]⟩

def entryOfMapping (key : String) (entries : List Entry) : Entry :=
  ⟨key.toList, mappingTokens entries, mappingEvents entries⟩

def entryOfCommands (commands : CommandPatterns) : Entry :=
  if commands.included.isEmpty && commands.excluded.isEmpty then
    ⟨"commands".toList, [.flowMappingStart, .flowMappingEnd], [.mappingStart, .mappingEnd]⟩
  else entryOfMapping "commands"
    (entriesOfPatterns "include" commands.included ++ entriesOfPatterns "exclude" commands.excluded)

def entriesOfDetection (d : DetectionSettings) : List Entry :=
  (d.versionSuffix.toList.map fun v => entryOfText "version_suffix" v.toList (styleOf v)) ++
    [entryOfText "style" d.style.name.toList .plain,
      entryOfText "triplet_segments" (Nat.toDigits 10 d.tripletSegments) .plain]

/-- The entries of the document of a configuration. -/
def entries (c : Configuration) : List Entry :=
  [entryOfText "schema" c.schema.toList (styleOf c.schema),
    entryOfMapping "detection" (entriesOfDetection c.detection), entryOfCommands c.commands]

theorem foldl_after_items (items : List (List Char × ScalarStyle)) (o : Outline) :
    (items.map fun i => Line.item 2 i.1 i.2).foldl Line.after o =
      ⟨o.blocks, (itemTokens items).reverse ++ o.tokens⟩ := by
  induction items generalizing o with
  | nil => rfl
  | cons i items ih =>
    rw [List.map_cons, List.foldl_cons, ih]
    simp [Line.after, Outline.push, itemTokens]

theorem foldl_after_detection (d : DetectionSettings) (tokens : List Token) :
    (linesOfDetection d).foldl Line.after ⟨[0], tokens⟩ =
      ⟨[2, 0], ((entriesOfDetection d).flatMap Entry.allTokens).reverse ++
        .blockMappingStart :: .value :: .scalar "detection".toList .plain :: .key :: tokens⟩ := by
  unfold linesOfDetection entriesOfDetection
  cases d.versionSuffix with
  | none => rfl
  | some v => rfl

theorem foldl_after_patterns (key : String) (patterns : List String) (tokens : List Token) :
    (linesOfPatterns key patterns).foldl Line.after ⟨[2, 0], tokens⟩ =
      ⟨[2, 0], ((entriesOfPatterns key patterns).flatMap Entry.allTokens).reverse ++ tokens⟩ := by
  unfold linesOfPatterns entriesOfPatterns
  split
  · rfl
  · rw [List.foldl_cons, foldl_after_items]
    simp [Line.after, Outline.atKey, Outline.close, Outline.openMapping,
      TokenStream.State.closeBlocks, Outline.push, Entry.allTokens]

theorem foldl_after_commands {commands : CommandPatterns} (tokens : List Token)
    (h : ¬ (commands.included.isEmpty && commands.excluded.isEmpty) = true) :
    (linesOfPatterns "include" commands.included ++ linesOfPatterns "exclude" commands.excluded).foldl
      Line.after ⟨[0], tokens⟩ =
      ⟨[2, 0], ((entriesOfPatterns "include" commands.included ++
        entriesOfPatterns "exclude" commands.excluded).flatMap Entry.allTokens).reverse ++
          .blockMappingStart :: tokens⟩ := by
  have hopened : (linesOfPatterns "include" commands.included ++
      linesOfPatterns "exclude" commands.excluded).foldl Line.after ⟨[0], tokens⟩ =
        (linesOfPatterns "include" commands.included ++
          linesOfPatterns "exclude" commands.excluded).foldl Line.after
            ⟨[2, 0], .blockMappingStart :: tokens⟩ := by
    cases hincluded : commands.included with
    | cons p ps => rfl
    | nil =>
      cases hexcluded : commands.excluded with
      | cons p ps => rfl
      | nil => simp [hincluded, hexcluded] at h
  rw [hopened, List.foldl_append, foldl_after_patterns, foldl_after_patterns, List.flatMap_append,
    List.reverse_append, List.append_assoc]

theorem finish_commands (commands : CommandPatterns) (tokens : List Token) :
    ((linesOfCommands commands).foldl Line.after ⟨[2, 0], tokens⟩).finish =
      tokens.reverse ++ .blockEnd :: ((entryOfCommands commands).allTokens ++
        [.blockEnd, .streamEnd]) := by
  unfold linesOfCommands entryOfCommands
  split
  · simp [Line.after, Outline.atKey, Outline.close, Outline.openMapping, Outline.finish,
      TokenStream.State.closeBlocks, Outline.push, Entry.allTokens]
  · rename_i h
    have hheader : Line.after ⟨[2, 0], tokens⟩ (.header 0 "commands".toList) =
        ⟨[0], .value :: .scalar "commands".toList .plain :: .key :: .blockEnd :: tokens⟩ := rfl
    rw [List.foldl_cons, hheader, foldl_after_commands _ h]
    simp [Outline.finish, Entry.allTokens, entryOfMapping, mappingTokens]

theorem finish_lines (c : Configuration) :
    (c.lines.foldl Line.after {}).finish = mappingTokens c.entries ++ [.streamEnd] := by
  have hschema : Line.after {} (.field 0 "schema".toList c.schema.toList (styleOf c.schema)) =
      ⟨[0], (entryOfText "schema" c.schema.toList (styleOf c.schema)).allTokens.reverse ++
        [.blockMappingStart]⟩ := rfl
  rw [lines, List.foldl_cons, List.foldl_append, hschema, foldl_after_detection, finish_commands]
  simp [entries, entryOfMapping, mappingTokens, Entry.allTokens]

theorem isNode_entryOfText (key : String) (t : List Char) (style : ScalarStyle) :
    IsNode true (entryOfText key t style).tokens (entryOfText key t style).events :=
  isNode_scalar true t style

theorem isNode_entriesOfPatterns (key : String) (patterns : List String) :
    ∀ e ∈ entriesOfPatterns key patterns, IsNode true e.tokens e.events := by
  unfold entriesOfPatterns
  split
  · exact fun e he => nomatch he
  · rename_i h
    have hitems : itemsOf patterns ≠ [] := by
      simpa [itemsOf] using h
    intro e he
    rw [List.mem_singleton.mp he]
    exact isNode_items hitems

theorem isNode_entryOfCommands (commands : CommandPatterns) :
    IsNode true (entryOfCommands commands).tokens (entryOfCommands commands).events := by
  unfold entryOfCommands
  split
  · exact isNode_emptyMapping true
  · exact isNode_mapping true (List.forall_mem_append.mpr
      ⟨isNode_entriesOfPatterns _ _, isNode_entriesOfPatterns _ _⟩)

theorem isNode_entriesOfDetection (d : DetectionSettings) :
    ∀ e ∈ entriesOfDetection d, IsNode true e.tokens e.events := by
  intro e he
  rcases List.mem_append.mp he with he | he
  · obtain ⟨v, -, rfl⟩ := List.mem_map.mp he
    exact isNode_entryOfText _ _ _
  · rcases List.mem_pair.mp he with rfl | rfl <;> exact isNode_entryOfText _ _ _

theorem isNode_entries (c : Configuration) :
    IsNode false (mappingTokens c.entries) (mappingEvents c.entries) := by
  refine isNode_mapping false (List.forall_mem_cons.mpr ⟨isNode_entryOfText _ _ _, ?_⟩)
  refine List.forall_mem_cons.mpr ⟨isNode_mapping true (isNode_entriesOfDetection _), ?_⟩
  exact List.forall_mem_singleton.mpr (isNode_entryOfCommands _)

end BuildLog.Configuration
