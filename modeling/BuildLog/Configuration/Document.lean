import BuildLog.Configuration.Basic
import BuildLog.Yaml.Event

/-! Reading a configuration from a YAML document. The document is read as far as it goes, so that a
schema that is not supported is reported even if the document is damaged behind it. -/

namespace BuildLog

inductive DocumentError where
  | malformed
  | unsupportedSchema (schema : String)
  deriving DecidableEq, Repr

/-- The explanation of the error, which for a document that cannot be read is not given. -/
def DocumentError.message : DocumentError → String
  | .malformed => ""
  | .unsupportedSchema schema =>
    "Unsupported schema version: " ++ schema ++ ". Expected: " ++ Configuration.supportedSchema

namespace Configuration

open Yaml

/-- Reads a value at the front of some events, the first argument being all events of the document,
and gives what follows. -/
abbrev EventReader (α : Type) := List Event → List Event → Except DocumentError (α × List Event)

namespace EventReader

/-- Reads a value that may be given by an alias. -/
def throughAlias {α : Type} (read : EventReader α) : EventReader α := fun all events =>
  match events with
  | .alias target :: rest => (read all (all.drop target)).map fun r => (r.1, rest)
  | events => read all events

/-- Any scalar as text, whatever it looks like. -/
def text : EventReader String :=
  throughAlias fun _ events =>
    match events with
    | .scalar cs _ _ :: rest => .ok (String.ofList cs, rest)
    | _ => .error .malformed

def nullTag : List Char := "tag:yaml.org,2002:null".toList
def intTag : List Char := "tag:yaml.org,2002:int".toList

def isNull (cs : List Char) : Bool :=
  ["null", "Null", "NULL", "~"].contains (String.ofList cs)

/-- A text that is absent if a plain scalar is empty or spells null. -/
def optionalText : EventReader (Option String) :=
  throughAlias fun _ events =>
    match events with
    | .scalar cs .plain none :: rest =>
      .ok (if cs.isEmpty || isNull cs then none else some (String.ofList cs), rest)
    | .scalar cs .plain (some tag) :: rest =>
      if tag ≠ nullTag then .ok (some (String.ofList cs), rest)
      else if isNull cs then .ok (none, rest)
      else .error .malformed
    | .scalar cs _ _ :: rest => .ok (some (String.ofList cs), rest)
    | _ => .error .malformed

def styleNamed (cs : List Char) : Except DocumentError PathStyle :=
  match PathStyle.ofName? (String.ofList cs) with
  | some style => .ok style
  | none => .error .malformed

/-- A style by its name, or by a tag with nothing behind it. -/
def style : EventReader PathStyle :=
  throughAlias fun _ events =>
    match events with
    | .scalar cs _ none :: rest => (styleNamed cs).map fun s => (s, rest)
    | .scalar cs kind (some tag) :: rest =>
      let name := if tag.head? = some '!' then tag.drop 1 else tag
      if kind = .plain ∧ (cs.isEmpty || isNull cs) = true then
        (styleNamed name).map fun s => (s, rest)
      else .error .malformed
    | _ => .error .malformed

def digit? (radix : Nat) (c : Char) : Option Nat :=
  (Scalar.hexDigit? c).filter (· < radix)

/-- The value of some digits, of which there is one at least. -/
def digits? (radix : Nat) (cs : List Char) : Option Nat :=
  if cs.isEmpty then none
  else cs.foldlM (fun n c => (digit? radix c).map (radix * n + ·)) 0

/-- A natural number in decimal, hexadecimal, octal or binary notation. Only zero itself is written in
decimal notation with a zero in front. -/
def natural? (cs : List Char) : Option Nat :=
  let unsigned := if cs.head? = some '+' then cs.drop 1 else cs
  let number :=
    match unsigned with
    | '0' :: 'x' :: cs => digits? 16 cs
    | '0' :: 'o' :: cs => digits? 8 cs
    | '0' :: 'b' :: cs => digits? 2 cs
    | '0' :: _ :: _ => none
    | cs => digits? 10 cs
  number.filter (· < UInt64.size)

/-- A number that fits into sixty-four bits. It is written plainly, or as a block with the tag of an
integer. -/
def natural : EventReader Nat :=
  throughAlias fun _ events =>
    match events with
    | .scalar cs kind tag :: rest =>
      if kind = .plain ∨ (kind = .literal ∧ tag = some intTag) then
        match natural? cs with
        | some n => .ok (n, rest)
        | none => .error .malformed
      else .error .malformed
    | _ => .error .malformed

/-- Reads at most `n` texts up to the end of a sequence. -/
def items (all : List Event) : Nat → List Event → Except DocumentError (List String × List Event)
  | _, .sequenceEnd :: rest => .ok ([], rest)
  | 0, _ => .error .malformed
  | n + 1, events => do
    let (item, events) ← text all events
    let (more, events) ← items all n events
    return (item :: more, events)

/-- A list of texts. An empty plain scalar is an empty list. -/
def texts : EventReader (List String) :=
  throughAlias fun all events =>
    match events with
    | .sequenceStart :: rest => items all rest.length rest
    | .scalar [] .plain _ :: rest => .ok ([], rest)
    | _ => .error .malformed

/-- Passes over a node, `depth` being the number of collections that are open. -/
def skip (depth : Nat) : List Event → Except DocumentError (List Event)
  | [] => .error .malformed
  | e :: rest =>
    let depth :=
      match e with
      | .sequenceStart | .mappingStart => depth + 1
      | .sequenceEnd | .mappingEnd => depth - 1
      | _ => depth
    if depth = 0 then .ok rest else skip depth rest

/-- Reads at most `n` entries up to the end of a mapping. An entry changes what was read so far. -/
def entries {α : Type} (entry : α → String → EventReader α) (all : List Event) :
    Nat → α → List Event → Except DocumentError (α × List Event)
  | _, value, .mappingEnd :: rest => .ok (value, rest)
  | 0, _, _ => .error .malformed
  | n + 1, value, events => do
    let (key, events) ← text all events
    let (value, events) ← entry value key all events
    entries entry all n value events

/-- A mapping. An empty plain scalar is an empty mapping. -/
def mapping {α : Type} (initial : α) (entry : α → String → EventReader α) : EventReader α :=
  throughAlias fun all events =>
    match events with
    | .mappingStart :: rest => entries entry all rest.length initial rest
    | .scalar [] .plain _ :: rest => .ok (initial, rest)
    | _ => .error .malformed

/-- Reads the value of a key that may stand only once. -/
def once {α β : Type} (given : Option α) (read : EventReader α) (set : α → β) : EventReader β :=
  fun all events =>
    if given.isSome then .error .malformed else (read all events).map fun r => (set r.1, r.2)

/-- Leaves out the value of an unknown key. -/
def ignore {α : Type} (value : α) : EventReader α := fun _ events =>
  (skip 0 events).map fun rest => (value, rest)

end EventReader

structure GivenDetection where
  versionSuffix : Option (Option String) := none
  style : Option PathStyle := none
  tripletSegments : Option Nat := none
  deriving DecidableEq, Repr

def GivenDetection.entry (g : GivenDetection) (key : String) : EventReader GivenDetection :=
  match key with
  | "version_suffix" =>
    .once g.versionSuffix .optionalText fun v => { g with versionSuffix := some v }
  | "style" => .once g.style .style fun s => { g with style := some s }
  | "triplet_segments" =>
    .once g.tripletSegments .natural fun n => { g with tripletSegments := some n }
  | _ => .ignore g

def GivenDetection.settings (g : GivenDetection) : DetectionSettings where
  versionSuffix := g.versionSuffix.join
  style := g.style.getD .posix
  tripletSegments := g.tripletSegments.getD BasenamePattern.defaultSegments

structure GivenCommands where
  included : Option (List String) := none
  excluded : Option (List String) := none
  deriving DecidableEq, Repr

def GivenCommands.entry (g : GivenCommands) (key : String) : EventReader GivenCommands :=
  match key with
  | "include" => .once g.included .texts fun ps => { g with included := some ps }
  | "exclude" => .once g.excluded .texts fun ps => { g with excluded := some ps }
  | _ => .ignore g

def GivenCommands.patterns (g : GivenCommands) : CommandPatterns where
  included := g.included.getD []
  excluded := g.excluded.getD []

structure Given where
  schema : Option String := none
  detection : Option GivenDetection := none
  commands : Option GivenCommands := none
  deriving DecidableEq, Repr

/-- The schema, which has to be the supported one. -/
def schemaReader : EventReader String := fun all events => do
  let (schema, rest) ← EventReader.text all events
  if schema = supportedSchema then return (schema, rest)
  else throw (.unsupportedSchema schema)

def Given.entry (g : Given) (key : String) : EventReader Given :=
  match key with
  | "schema" => .once g.schema schemaReader fun s => { g with schema := some s }
  | "detection" =>
    .once g.detection (.mapping {} GivenDetection.entry) fun d => { g with detection := some d }
  | "commands" =>
    .once g.commands (.mapping {} GivenCommands.entry) fun c => { g with commands := some c }
  | _ => .ignore g

/-- The configuration that is given. Only the schema has to be. -/
def Given.configuration (g : Given) : Except DocumentError Configuration :=
  match g.schema with
  | none => .error .malformed
  | some schema =>
    .ok { schema
          detection := (g.detection.getD {}).settings
          commands := (g.commands.getD {}).patterns }

def ofEvents (stream : EventStream) : Except DocumentError Configuration := do
  let (given, _) ← EventReader.mapping {} Given.entry stream.events stream.events
  let configuration ← given.configuration
  if stream.complete then return configuration else throw .malformed

/-- The configuration of a document that is the whole of some bytes. -/
def ofBytes (bytes : List UInt8) : Except DocumentError Configuration :=
  ofEvents (EventStream.ofBytes bytes)

end Configuration

end BuildLog
