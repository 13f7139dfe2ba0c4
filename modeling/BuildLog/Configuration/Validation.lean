import BuildLog.Configuration.Basic

/-! What may be wrong with the values of a configuration. All defects are found, in the order of the
fields. -/

namespace BuildLog

/-- A single defect of a configuration. -/
inductive Defect where
  | emptyString (field : String)
  | invalidPattern (field : String) (reason : PatternError)
  | outOfRange (field : String) (value limit : Nat)
  | duplicate (field : String) (index : Nat)
  deriving DecidableEq, Repr

namespace Defect

/-- What is wrong, up to the explanation of what is wrong with a pattern. -/
def context : Defect → String
  | .emptyString field => "Empty string value for field '" ++ field ++ "'"
  | .invalidPattern field _ => "Invalid regular expression for field '" ++ field ++ "': "
  | .outOfRange field value limit =>
    "Value " ++ toString value ++ " of field '" ++ field ++ "' is above the limit " ++ toString limit
  | .duplicate field index => "Duplicate " ++ field ++ " entry at: " ++ toString index

def message (d : Defect) : String :=
  match d with
  | .invalidPattern _ reason => d.context ++ reason.message
  | _ => d.context

/-- A text in double quotes. -/
def quoted (s : String) : String :=
  "\"" ++ String.ofList (s.toList.flatMap fun c =>
    if c = '"' ∨ c = '\\' then ['\\', c] else if c = '\n' then ['\\', 'n'] else [c]) ++ "\""

/-- The defect as an item of a list of defects. -/
def item : Defect → String
  | .emptyString field => "EmptyString \x7b field: " ++ quoted field ++ " \x7d"
  | .invalidPattern field reason =>
    "InvalidPattern \x7b field: " ++ quoted field ++ ", message: " ++ quoted reason.message ++ " \x7d"
  | .outOfRange field value limit =>
    "OutOfRange \x7b field: " ++ quoted field ++ ", value: " ++ toString value ++ ", max: " ++
      toString limit ++ " \x7d"
  | .duplicate field index =>
    "DuplicateEntry \x7b field: " ++ quoted field ++ ", idx: " ++ toString index ++ " \x7d"

end Defect

inductive ValidationError where
  | single (d : Defect)
  | multiple (first second : Defect) (more : List Defect)
  deriving DecidableEq, Repr

namespace ValidationError

def ofDefects? : List Defect → Option ValidationError
  | [] => none
  | [d] => some (.single d)
  | d :: e :: more => some (.multiple d e more)

def defects : ValidationError → List Defect
  | .single d => [d]
  | .multiple d e more => d :: e :: more

theorem ofDefects?_defects (e : ValidationError) : ofDefects? e.defects = some e := by
  cases e <;> rfl

theorem defects_of_ofDefects? {ds : List Defect} {e : ValidationError}
    (h : ofDefects? ds = some e) : e.defects = ds := by
  match ds with
  | [] => simp [ofDefects?] at h
  | [d] => simp [ofDefects?] at h; simp [← h, defects]
  | d :: f :: more => simp [ofDefects?] at h; simp [← h, defects]

def message : ValidationError → String
  | .single d => d.message
  | .multiple d e more =>
    "Multiple validation errors: [" ++ ", ".intercalate ((d :: e :: more).map Defect.item) ++ "]"

end ValidationError

namespace Configuration

def maxSegments : Nat := 8

/-- A pattern has to be there and to be one. -/
def patternDefects (field pattern : String) : List Defect :=
  if pattern = "" then [.emptyString field]
  else
    match Pattern.compile pattern with
    | .ok _ => []
    | .error reason => [.invalidPattern field reason]

def detectionDefects (d : DetectionSettings) : List Defect :=
  (match d.versionSuffix with
    | some pattern => patternDefects "detection.version_suffix" pattern
    | none => []) ++
  if maxSegments < d.tripletSegments then
    [.outOfRange "detection.triplet_segments" d.tripletSegments maxSegments]
  else []

/-- The defects of a list of patterns behind the patterns in `before`. -/
def listDefectsFrom (field : String) (before : List String) : List String → List Defect
  | [] => []
  | pattern :: patterns =>
    let index := before.length
    patternDefects (field ++ "[" ++ toString index ++ "]") pattern ++
      (if pattern ∈ before then [.duplicate field index] else []) ++
      listDefectsFrom field (before ++ [pattern]) patterns

def listDefects (field : String) (patterns : List String) : List Defect :=
  listDefectsFrom field [] patterns

def commandDefects (c : CommandPatterns) : List Defect :=
  listDefects "commands.include" c.included ++ listDefects "commands.exclude" c.excluded

def defects (c : Configuration) : List Defect :=
  detectionDefects c.detection ++ commandDefects c.commands

/-- The error that reports some defects, if there are any. -/
def verdict (ds : List Defect) : Except ValidationError Unit :=
  match ValidationError.ofDefects? ds with
  | none => .ok ()
  | some e => .error e

def validate (c : Configuration) : Except ValidationError Unit :=
  verdict c.defects

/-- The settings of the detection checked by themselves. -/
def validateDetection (d : DetectionSettings) : Except ValidationError Unit :=
  verdict (detectionDefects d)

/-- The patterns of commands checked by themselves. -/
def validateCommands (c : CommandPatterns) : Except ValidationError Unit :=
  verdict (commandDefects c)

/-- What the verdict on a part adds to the defects of the whole. -/
def collected : Except ValidationError Unit → List Defect
  | .ok () => []
  | .error e => e.defects

theorem collected_verdict (ds : List Defect) : collected (verdict ds) = ds := by
  match ds with
  | [] => rfl
  | [_] => rfl
  | _ :: _ :: _ => rfl

theorem verdict_eq_ok_iff {ds : List Defect} : verdict ds = .ok () ↔ ds = [] := by
  match ds with
  | [] => simp [verdict, ValidationError.ofDefects?]
  | [_] => simp [verdict, ValidationError.ofDefects?]
  | _ :: _ :: _ => simp [verdict, ValidationError.ofDefects?]

end Configuration

end BuildLog
