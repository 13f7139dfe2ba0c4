import BuildLog.Proofs.Json.Value
import BuildLog.Proofs.Report.Lines
import BuildLog.Proofs.Result

/-! The report in JSON can be read back: a line for each record, and from the line the record. -/

namespace BuildLog

namespace Record

open Json

/-- A member that is left out where there is no value. -/
def optionalMember (key : String) (s : Option String) : List (String × Value) :=
  (s.map fun s => (key, Value.string s)).toList

/-- The object that a record is written as. -/
def value (r : Record) : Value :=
  .object ([("line", .number r.line), ("command", .string r.command),
    ("arguments", .string r.arguments), ("detector", .string r.driver),
    ("language", r.language.elim .null fun language => .string language.key),
    ("syntax", .string r.argumentSyntax.key), ("method", .string r.method.key)] ++
    optionalMember "target" r.target ++ optionalMember "version" r.version ++
    [("language_ids", .object (r.languageIds.map fun entry => (entry.1, .string entry.2)))])

theorem spellsMember (key : String) {ts : List Token} {v : Value} (h : Spells ts v) :
    SpellsMember (key.toList, ts) (key, v) :=
  ⟨rfl, h⟩

theorem spells_optional (key : String) (s : Option String) :
    List.Forall₂ SpellsMember (optionalField key s) (optionalMember key s) := by
  cases s with
  | none => exact .nil
  | some s => exact .cons ⟨rfl, spells_string s⟩ .nil

theorem spells_language (language : Option Language) :
    Spells (match language with
      | some language => jsonString language.key
      | none => [.null]) (language.elim .null fun language => .string language.key) := by
  cases language with
  | none => exact spells_null
  | some language => exact spells_string language.key

theorem spells_languageIds (ids : List (String × String)) :
    Spells (Json.object (ids.map fun entry => (entry.1.toList, jsonString entry.2)))
      (.object (ids.map fun entry => (entry.1, .string entry.2))) := by
  refine Spells.object ?_
  rw [List.forall₂_map_left_iff, List.forall₂_map_right_iff, List.forall₂_same]
  exact fun entry _ => ⟨rfl, spells_string entry.2⟩

theorem spells_fields (r : Record) : Spells (Json.object r.fields) r.value := by
  have hfront := List.Forall₂.cons (spellsMember "line" (spells_number r.line)) <|
    .cons (spellsMember "command" (spells_string r.command)) <|
    .cons (spellsMember "arguments" (spells_string r.arguments)) <|
    .cons (spellsMember "detector" (spells_string r.driver)) <|
    .cons (spellsMember "language" (spells_language r.language)) <|
    .cons (spellsMember "syntax" (spells_string r.argumentSyntax.key)) <|
    .cons (spellsMember "method" (spells_string r.method.key)) .nil
  have hids := List.Forall₂.cons
    (spellsMember "language_ids" (spells_languageIds r.languageIds)) .nil
  have hoptional := List.rel_append (List.rel_append hfront (spells_optional "target" r.target))
    (spells_optional "version" r.version)
  exact Spells.object (List.rel_append hoptional hids)

theorem read?_json (r : Record) : Value.read? r.json.toList = some r.value := by
  rw [json, String.toList_ofList, read?_render r.spells_fields]

end Record

namespace Json.Value

def number? : Value → Option Nat
  | .number n => some n
  | _ => none

def string? : Value → Option String
  | .string s => some s
  | _ => none

def members? : Value → Option (List (String × Value))
  | .object members => some members
  | _ => none

/-- The member of an object with a key. -/
def member? (v : Value) (key : String) : Option Value :=
  v.members?.bind (·.lookup key)

/-- A string that may be left out. -/
def optionalString? (v : Value) (key : String) : Option (Option String) :=
  match v.member? key with
  | none => some none
  | some s => s.string?.map some

end Json.Value

def Language.ofKey? (key : String) : Option Language :=
  [Language.c, .cxx, .cuda].find? (·.key == key)

def ArgumentSyntax.ofKey? (key : String) : Option ArgumentSyntax :=
  [ArgumentSyntax.gcc, .nvcc, .arm, .msvc].find? (·.key == key)

def MatchMethod.ofKey? (key : String) : Option MatchMethod :=
  [MatchMethod.basenameExact, .basenameWithVersion, .targetTripletPrefixed].find? (·.key == key)

theorem Language.ofKey?_key (language : Language) : ofKey? language.key = some language := by
  cases language <;> rfl

theorem ArgumentSyntax.ofKey?_key (argumentSyntax : ArgumentSyntax) :
    ofKey? argumentSyntax.key = some argumentSyntax := by
  cases argumentSyntax <;> rfl

theorem MatchMethod.ofKey?_key (method : MatchMethod) : ofKey? method.key = some method := by
  cases method <;> rfl

namespace Record

open Json

/-- The language in an object, where null stands for none. -/
def language? : Value → Option (Option Language)
  | .null => some none
  | .string key => (Language.ofKey? key).map some
  | _ => none

/-- The entries of an object of strings. -/
def languageIds? (v : Value) : Option (List (String × String)) :=
  v.members?.bind (·.mapM fun member => member.2.string?.map fun id => (member.1, id))

/-- The record that an object stands for, field by field. -/
def ofValue? (v : Value) : Option Record := do
  let line ← (← v.member? "line").number?
  let command ← (← v.member? "command").string?
  let arguments ← (← v.member? "arguments").string?
  let driver ← (← v.member? "detector").string?
  let language ← language? (← v.member? "language")
  let argumentSyntax ← ArgumentSyntax.ofKey? (← (← v.member? "syntax").string?)
  let method ← MatchMethod.ofKey? (← (← v.member? "method").string?)
  let target ← v.optionalString? "target"
  let version ← v.optionalString? "version"
  let languageIds ← languageIds? (← v.member? "language_ids")
  return { line, command, arguments, driver, language, argumentSyntax, method, target, version,
           languageIds }

theorem language?_elim (language : Option Language) :
    language? (language.elim .null fun language => .string language.key) = some language := by
  cases language with
  | none => rfl
  | some language => rw [Option.elim_some, language?, Language.ofKey?_key, Option.map_some]

theorem languageIds?_object (ids : List (String × String)) :
    languageIds? (.object (ids.map fun entry => (entry.1, .string entry.2))) = some ids := by
  rw [languageIds?, Value.members?, Option.bind_some]
  refine mapM_map_of_read (fun entry => ?_) ids
  rfl

theorem lookup_optionalMember (key : String) (s : Option String) :
    (optionalMember key s).lookup key = s.map Value.string := by
  cases s with
  | none => rfl
  | some s => exact List.lookup_cons_self

theorem lookup_optionalMember_of_ne {key key' : String} (h : key' ≠ key) (s : Option String) :
    (optionalMember key s).lookup key' = none := by
  cases s with
  | none => rfl
  | some s =>
    rw [optionalMember, Option.map_some, Option.toList_some, List.lookup_cons,
      beq_eq_false_iff_ne.mpr h]
    rfl

theorem optionalString?_eq {v : Value} {key : String} {s : Option String}
    (h : v.member? key = s.map Value.string) : v.optionalString? key = some s := by
  rw [Value.optionalString?, h]
  cases s <;> rfl

theorem ofValue?_value (r : Record) : ofValue? r.value = some r := by
  have htarget : r.value.optionalString? "target" = some r.target := by
    apply optionalString?_eq
    simp [value, Value.member?, Value.members?, List.lookup_append, List.lookup_cons,
      lookup_optionalMember, lookup_optionalMember_of_ne]
  have hversion : r.value.optionalString? "version" = some r.version := by
    apply optionalString?_eq
    simp [value, Value.member?, Value.members?, List.lookup_append, List.lookup_cons,
      lookup_optionalMember, lookup_optionalMember_of_ne]
  have hids : r.value.member? "language_ids" =
      some (.object (r.languageIds.map fun entry => (entry.1, .string entry.2))) := by
    simp [value, Value.member?, Value.members?, List.lookup_append, List.lookup_cons,
      lookup_optionalMember_of_ne]
  rw [ofValue?, htarget, hversion, hids]
  simp [value, Value.member?, Value.members?, List.lookup_cons, Value.number?, Value.string?,
    language?_elim, ArgumentSyntax.ofKey?_key, MatchMethod.ofKey?_key, languageIds?_object]

end Record

namespace Report

theorem accepted_json (records : List Record) : (write {} .json records).accepted =
    records.flatMap fun r => Utf8.encode r.json.toList ++ [0x0A] := by
  rw [write_eq, lines, entries, List.flatMap_map]

theorem newline_notMem_json (r : Record) : 0x0A ∉ Utf8.encode r.json.toList := by
  rw [Utf8.newline_mem_encode_iff, Record.json, String.toList_ofList]
  exact Json.newline_notMem_render _

/-- The record that a line stands for. -/
def record? (line : List UInt8) : Option Record :=
  ((Utf8.decode? line).bind Json.Value.read?).bind Record.ofValue?

/-- The records of a report in JSON, one for each line without its newline. -/
def records? (bytes : List UInt8) : Option (List Record) :=
  (LogSource.splitLines bytes).mapM fun line => record? line.dropLast

theorem record?_json (r : Record) : record? (Utf8.encode r.json.toList) = some r := by
  rw [record?, Utf8.decode?_encode, Option.bind_some, r.read?_json, Option.bind_some,
    r.ofValue?_value]

/-- A report in JSON gives back its records. -/
theorem records?_write (records : List Record) :
    records? (write {} .json records).accepted = some records := by
  have hlines : ∀ entry ∈ entries .json records, 0x0A ∉ Utf8.encode entry.toList :=
    List.forall_mem_map.mpr fun r _ => newline_notMem_json r
  rw [records?, write_eq, splitLines_lines hlines, entries, List.map_map]
  refine mapM_map_of_read (fun r => ?_) records
  rw [Function.comp_apply, List.dropLast_concat, record?_json]

/-- A report in JSON has a line for each record, and nothing that the record holds can break the
line or be lost in it. So different records are reported differently. -/
theorem write_json : (∀ records, ∃ lines : List String,
    write {} .json records =
      ⟨lines.flatMap fun line => Utf8.encode line.toList ++ [0x0A], .ok records.length⟩ ∧
    lines.length = records.length ∧ (∀ line ∈ lines, 0x0A ∉ Utf8.encode line.toList) ∧
    lines.map (fun line => Json.Value.read? line.toList) = records.map (fun r => some r.value) ∧
    records? (write {} .json records).accepted = some records) ∧
    Function.Injective fun records => (write {} .json records).accepted := by
  constructor
  · intro records
    refine ⟨records.map Record.json, ?_, List.length_map _, ?_, ?_, records?_write records⟩
    · rw [List.flatMap_map, ← accepted_json]
      exact congrArg (Outcome.mk _) (congrArg Except.ok (List.length_map _))
    · exact List.forall_mem_map.mpr fun r _ => newline_notMem_json r
    · rw [List.map_map]
      exact List.map_congr_left fun r _ => r.read?_json
  · intro records others h
    have hread : records? _ = records? _ := congrArg records? h
    rw [records?_write, records?_write] at hread
    exact Option.some.inj hread

end Report

end BuildLog
