import BuildLog.Regex.Ast
import BuildLog.Regex.Property.Age
import BuildLog.Regex.Property.Binary
import BuildLog.Regex.Property.Break
import BuildLog.Regex.Property.GeneralCategory
import BuildLog.Regex.Property.Script
import BuildLog.Regex.Property.ScriptExtension

/-! The characters that a property class asks for, as Unicode 15.0 has them. Names are compared
without regard to case, blanks, underscores and hyphens, and a leading `is` does not count. -/

namespace BuildLog.Regex

/-- The form in which names are compared. -/
def looseName (name : String) : String :=
  let cs := name.toList
  let isMarked := (cs.take 2).map Char.toLower == ['i', 's']
  let body := if isMarked then cs.drop 2 else cs
  let kept := (body.filter fun c => c.toNat < 0x80 && c != ' ' && c != '_' && c != '-').map
    Char.toLower
  if isMarked && kept == ['c'] then "isc" else String.ofList kept

def categoryParts : List (List String × List String) :=
  [(["l", "letter"], ["lu", "ll", "lt", "lm", "lo"]),
   (["lc", "casedletter"], ["lu", "ll", "lt"]),
   (["m", "mark", "combiningmark"], ["mn", "mc", "me"]),
   (["n", "number"], ["nd", "nl", "no"]),
   (["p", "punctuation", "punct"], ["pc", "pd", "ps", "pe", "pi", "pf", "po"]),
   (["s", "symbol"], ["sm", "sc", "sk", "so"]),
   (["z", "separator"], ["zs", "zl", "zp"]),
   (["c", "other"], ["cc", "cf", "cn", "co"])]

def category? (name : String) : Option CharSet :=
  match name with
  | "any" => some .all
  | "ascii" => some (.ofPairs [(0, 0x7F)])
  | "assigned" => (NamedSet.find? generalCategories "cn").map CharSet.compl
  | name =>
    match categoryParts.find? fun c => c.1.contains name with
    | some (_, parts) =>
      some (parts.foldl (fun s part =>
        s.union ((NamedSet.find? generalCategories part).getD .empty)) .empty)
    | none => NamedSet.find? generalCategories name

/-- Properties that are not a matter of yes or no, and so cannot stand alone. -/
def valuedProperties : List String :=
  ["age", "blk", "block", "bc", "bidiclass", "ccc", "canonicalcombiningclass", "dt",
   "decompositiontype", "ea", "eastasianwidth", "gc", "generalcategory", "gcb",
   "graphemeclusterbreak", "hst", "hangulsyllabletype", "insc", "inpc", "jg", "joininggroup", "jt",
   "joiningtype", "lb", "linebreak", "na", "name", "nt", "numerictype", "nv", "numericvalue", "sb",
   "sentencebreak", "script", "scx", "scriptextensions", "vo", "verticalorientation", "wb",
   "wordbreak"]

/-- The characters of a binary property, a general category or a script, tried in this order; three
short names belong to general categories although they are short for a property too. -/
def named? (name : String) : Option CharSet :=
  let isShort := name == "cf" || name == "sc" || name == "lc"
  let binary := if isShort then none else NamedSet.find? binaryProperties name
  if !isShort && valuedProperties.contains name then none
  else binary.or ((category? name).or (NamedSet.find? scripts name))

/-- The characters that a version of Unicode has: those that it added and those before it. -/
def age? (version : String) : Option CharSet :=
  let before := ages.takeWhile fun s => !s.names.contains version
  (NamedSet.find? ages version).map fun added =>
    before.foldl (fun s t => s.union t.chars) added

/-- The characters with a value of a property. -/
def valued? (property value : String) : Option CharSet :=
  match property with
  | "gc" | "generalcategory" => category? value
  | "sc" | "script" => NamedSet.find? scripts value
  | "scx" | "scriptextensions" =>
    (NamedSet.find? scriptExtensions value).or (NamedSet.find? scripts value)
  | "age" => age? value
  | "gcb" | "graphemeclusterbreak" => NamedSet.find? graphemeBreaks value
  | "wb" | "wordbreak" => NamedSet.find? wordBreaks value
  | "sb" | "sentencebreak" => NamedSet.find? sentenceBreaks value
  | _ => none

def PropertyQuery.chars? : PropertyQuery → Option CharSet
  | .named name => named? (looseName name)
  | .valued property value => valued? (looseName property) (looseName value)

end BuildLog.Regex
