import BuildLog.Configuration.Document
import BuildLog.Configuration.Validation
import BuildLog.Proofs.Yaml.Line
import Mathlib.Data.List.Basic

/-! The document of a configuration, line by line. Its lines fit together if each text of the
configuration is on one line. -/

namespace BuildLog.Configuration

open Yaml

/-- A text without a line break. -/
def OneLine (s : String) : Prop := ∀ c ∈ s.toList, isBreak c = false

instance (s : String) : Decidable (OneLine s) :=
  List.decidableBAll (isBreak · = false) s.toList

/-- The texts of a configuration besides its schema. -/
def texts (c : Configuration) : List String :=
  c.detection.versionSuffix.toList ++ c.commands.included ++ c.commands.excluded

def styleOf (s : String) : ScalarStyle := Yaml.Written.styleOf s.toList

def itemsOf (patterns : List String) : List (List Char × ScalarStyle) :=
  patterns.map fun p => (p.toList, styleOf p)

variable {c : Configuration} {key : String} {patterns : List String} {o : Outline} {xs : List Line}

def linesOfPatterns (key : String) (patterns : List String) : List Line :=
  if patterns.isEmpty then []
  else .header 2 key.toList :: (itemsOf patterns).map fun i => .item 2 i.1 i.2

def linesOfCommands (commands : CommandPatterns) : List Line :=
  if commands.included.isEmpty && commands.excluded.isEmpty then [.empty 0 "commands".toList]
  else .header 0 "commands".toList ::
    (linesOfPatterns "include" commands.included ++ linesOfPatterns "exclude" commands.excluded)

def linesOfSuffix : Option String → List Line
  | some v => [.field 2 "version_suffix".toList v.toList (styleOf v)]
  | none => []

def linesOfDetection (d : DetectionSettings) : List Line :=
  .header 0 "detection".toList :: (linesOfSuffix d.versionSuffix ++
    [.field 2 "style".toList d.style.name.toList .plain,
      .field 2 "triplet_segments".toList (Nat.toDigits 10 d.tripletSegments) .plain])

/-- The lines of the document of a configuration. -/
def lines (c : Configuration) : List Line :=
  .field 0 "schema".toList c.schema.toList (styleOf c.schema) ::
    (linesOfDetection c.detection ++ linesOfCommands c.commands)

theorem patternLines_eq (h : ∀ p ∈ patterns, OneLine p) :
    patternLines key patterns = (linesOfPatterns key patterns).flatMap Line.chars := by
  have hitems : (patterns.flatMap fun p => "  - ".toList ++ Yaml.Written.scalar 4 p.toList) =
      ((itemsOf patterns).map fun i => Line.item 2 i.1 i.2).flatMap Line.chars := by
    rw [itemsOf, List.map_map, List.flatMap_map]
    refine List.flatMap_congr fun p hp => ?_
    rw [Yaml.Written.scalar_eq_inStyle 4 (h p hp)]
    rfl
  unfold patternLines linesOfPatterns
  split
  · rfl
  · rw [hitems, List.flatMap_cons]
    simp [Line.chars, Line.body, Line.column, Yaml.Written.margin]

theorem commandLines_eq {commands : CommandPatterns} (hincluded : ∀ p ∈ commands.included, OneLine p)
    (hexcluded : ∀ p ∈ commands.excluded, OneLine p) :
    commandLines commands = (linesOfCommands commands).flatMap Line.chars := by
  unfold commandLines linesOfCommands
  split
  · rfl
  · rw [patternLines_eq hincluded, patternLines_eq hexcluded, List.flatMap_cons, List.flatMap_append,
      List.append_assoc]
    rfl

/-- No text on one line could go on behind the document. -/
theorem isOpenEnded_eq_false (h : ∀ s ∈ c.texts, OneLine s) : c.isOpenEnded = false := by
  unfold isOpenEnded
  cases hlast : (c.commands.included ++ c.commands.excluded).getLast? with
  | none => rfl
  | some p =>
    have hp : p ∈ c.texts := by
      rw [texts, List.append_assoc]
      exact List.mem_append_right _ (List.mem_of_getLast? hlast)
    have hnewline : p.toList.contains '\n' = false := by
      rw [List.contains_eq_mem, decide_eq_false_iff_not]
      intro hmem
      cases h p hp '\n' hmem
    rw [Option.any_some, Yaml.Written.isOpenEnded, Yaml.Written.isBlock, hnewline]
    rfl

theorem detectionLines_eq {d : DetectionSettings} (h : ∀ v, d.versionSuffix = some v → OneLine v) :
    detectionLines d = (linesOfDetection d).flatMap Line.chars := by
  have hsuffix : detectionLines d = "detection:\n".toList ++
      (linesOfSuffix d.versionSuffix).flatMap Line.chars ++ "  style: ".toList ++
        d.style.name.toList ++ "\n  triplet_segments: ".toList ++ Nat.toDigits 10 d.tripletSegments ++
          ['\n'] := by
    unfold detectionLines
    cases hv : d.versionSuffix with
    | none => rfl
    | some v =>
      simp only [Yaml.Written.scalar_eq_inStyle 4 (h v hv), linesOfSuffix, List.flatMap_singleton]
      rfl
  have hstyle : (Line.field 2 "style".toList d.style.name.toList .plain).chars =
      "  style: ".toList ++ (d.style.name.toList ++ ['\n']) := rfl
  have hsegments : ∀ digits, (Line.field 2 "triplet_segments".toList digits .plain).chars =
      "  triplet_segments: ".toList ++ (digits ++ ['\n']) := fun _ => rfl
  have hheader : (Line.header 0 "detection".toList).chars = "detection:\n".toList := rfl
  have hbreak : "\n  triplet_segments: ".toList = '\n' :: "  triplet_segments: ".toList := rfl
  rw [hsuffix, hbreak, linesOfDetection, List.flatMap_cons, List.flatMap_append, hheader,
    List.flatMap_cons, List.flatMap_cons, List.flatMap_nil, hstyle, hsegments]
  simp only [List.append_assoc, List.cons_append, List.nil_append, List.append_nil]

theorem forall_mem_texts {P : String → Prop} : (∀ s ∈ c.texts, P s) ↔
    (∀ v, c.detection.versionSuffix = some v → P v) ∧ (∀ p ∈ c.commands.included, P p) ∧
      ∀ p ∈ c.commands.excluded, P p := by
  simp only [texts, List.mem_append, Option.mem_toList, or_imp, forall_and, and_assoc]

theorem document_eq (hschema : OneLine c.schema) (h : ∀ s ∈ c.texts, OneLine s) :
    c.document = c.lines.flatMap Line.chars := by
  obtain ⟨hsuffix, hincluded, hexcluded⟩ := forall_mem_texts.mp h
  have hfield : (Line.field 0 "schema".toList c.schema.toList (styleOf c.schema)).chars =
      "schema: ".toList ++ (Yaml.Written.inStyle (Yaml.Written.styleOf c.schema.toList)
        c.schema.toList ++ ['\n']) := rfl
  unfold document
  rw [isOpenEnded_eq_false h, Yaml.Written.scalar_eq_inStyle 2 hschema,
    detectionLines_eq hsuffix, commandLines_eq hincluded hexcluded, lines, List.flatMap_cons,
    List.flatMap_append, hfield]
  simp only [List.append_assoc, Bool.false_eq_true, if_false, List.append_nil]

section Fit

open Line

theorem fit_header {column : Nat} {key : List Char} (hkey : IsKey key) (hxs : ∀ o, Fit o xs)
    (o : Outline) : Fit o (.header column key :: xs) :=
  ⟨hkey, nofun, hxs _⟩

theorem fit_field {column : Nat} {key t : List Char} {style : ScalarStyle} (hkey : IsKey key)
    (ht : Yaml.Written.Allows style t) (hcolumn : columnOf xs ≤ column) (hxs : ∀ o, Fit o xs)
    (o : Outline) : Fit o (.field column key t style :: xs) :=
  ⟨⟨hkey, ht⟩, fun _ => hcolumn, hxs _⟩

theorem fit_items {items : List (List Char × ScalarStyle)} (hblock : o.blocks.head? = some 2)
    (h : ∀ i ∈ items, Yaml.Written.Allows i.2 i.1) (hcolumn : columnOf xs ≤ 2)
    (hxs : ∀ o, Fit o xs) : Fit o ((items.map fun i => .item 2 i.1 i.2) ++ xs) := by
  induction items generalizing o with
  | nil => exact hxs o
  | cons i items ih =>
    obtain ⟨hi, h⟩ := List.forall_mem_cons.mp h
    refine ⟨⟨hblock, hi⟩, fun _ => ?_, ih hblock h⟩
    cases items with
    | nil => exact hcolumn
    | cons j items => exact Nat.le_refl 2

theorem fit_linesOfPatterns (hkey : IsKey key.toList) (h : ∀ p ∈ patterns, OneLine p)
    (hcolumn : columnOf xs ≤ 2) (hxs : ∀ o, Fit o xs) (o : Outline) :
    Fit o (linesOfPatterns key patterns ++ xs) := by
  unfold linesOfPatterns
  split
  · exact hxs o
  · have hallows : ∀ i ∈ itemsOf patterns, Yaml.Written.Allows i.2 i.1 := by
      intro i hi
      obtain ⟨p, hp, rfl⟩ := List.mem_map.mp hi
      exact Yaml.Written.allows_styleOf (h p hp)
    have hblock := Outline.head?_atKey o 2 key.toList
    exact ⟨hkey, nofun, fit_items hblock hallows hcolumn hxs⟩

theorem columnOf_linesOfPatterns_le (key : String) (patterns : List String) :
    columnOf (linesOfPatterns key patterns ++ []) ≤ 2 := by
  unfold linesOfPatterns
  split
  · exact Nat.zero_le 2
  · exact Nat.le_refl 2

theorem fit_linesOfCommands {commands : CommandPatterns}
    (hincluded : ∀ p ∈ commands.included, OneLine p)
    (hexcluded : ∀ p ∈ commands.excluded, OneLine p) (o : Outline) :
    Fit o (linesOfCommands commands) := by
  have hkey : IsKey "commands".toList := by decide
  unfold linesOfCommands
  split
  · exact ⟨hkey, nofun, trivial⟩
  · have hend : ∀ o, Fit o (linesOfPatterns "exclude" commands.excluded ++ []) :=
      fit_linesOfPatterns (by decide) hexcluded (Nat.zero_le 2) fun _ => trivial
    have hall : ∀ o, Fit o (linesOfPatterns "include" commands.included ++
        (linesOfPatterns "exclude" commands.excluded ++ [])) :=
      fit_linesOfPatterns (by decide) hincluded
        (columnOf_linesOfPatterns_le "exclude" commands.excluded) hend
    rw [List.append_nil] at hall
    exact fit_header hkey hall o

theorem columnOf_linesOfCommands (commands : CommandPatterns) :
    columnOf (linesOfCommands commands) = 0 := by
  unfold linesOfCommands
  split <;> rfl

theorem allowsPlain_toDigits : ∀ n ≤ maxSegments,
    Yaml.Written.allowsPlain (Nat.toDigits 10 n) = true := by
  decide

theorem allowsPlain_name : ∀ style : PathStyle,
    Yaml.Written.allowsPlain style.name.toList = true := by
  intro style
  cases style <;> decide

theorem fit_linesOfDetection {d : DetectionSettings}
    (hsuffix : ∀ v, d.versionSuffix = some v → OneLine v) (hsegments : d.tripletSegments ≤ maxSegments)
    (hcolumn : columnOf xs = 0) (hxs : ∀ o, Fit o xs) (o : Outline) :
    Fit o (linesOfDetection d ++ xs) := by
  have hsegment : ∀ o, Fit o (.field 2 "triplet_segments".toList
      (Nat.toDigits 10 d.tripletSegments) .plain :: xs) :=
    fit_field (by decide) (allowsPlain_toDigits _ hsegments)
      (hcolumn.trans_le (Nat.zero_le 2)) hxs
  have hstyle : ∀ o, Fit o (.field 2 "style".toList d.style.name.toList .plain ::
      .field 2 "triplet_segments".toList (Nat.toDigits 10 d.tripletSegments) .plain :: xs) :=
    fit_field (by decide) (allowsPlain_name d.style) (Nat.le_refl 2) hsegment
  refine fit_header (by decide) (fun o => ?_) o
  rw [List.append_eq, List.append_assoc]
  cases hv : d.versionSuffix with
  | none => exact hstyle o
  | some v =>
    exact fit_field (by decide) (Yaml.Written.allows_styleOf (hsuffix v hv))
      (Nat.le_refl 2) hstyle o

theorem fit_lines (hschema : OneLine c.schema) (h : ∀ s ∈ c.texts, OneLine s)
    (hsegments : c.detection.tripletSegments ≤ maxSegments) : Fit {} c.lines := by
  obtain ⟨hsuffix, hincluded, hexcluded⟩ := forall_mem_texts.mp h
  have hdetection : ∀ o, Fit o (linesOfDetection c.detection ++ linesOfCommands c.commands) :=
    fit_linesOfDetection hsuffix hsegments (columnOf_linesOfCommands c.commands)
      (fit_linesOfCommands hincluded hexcluded)
  exact fit_field (by decide) (Yaml.Written.allows_styleOf hschema)
    (Nat.le_refl 0) hdetection {}

end Fit

end BuildLog.Configuration
