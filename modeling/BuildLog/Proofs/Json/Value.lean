import BuildLog.Proofs.Json.Tokens
import Mathlib.Data.List.Forall2

/-! Values of JSON, as far as records have them, and a reader for them. An object is read as its
members in their order. -/

namespace BuildLog.Json

inductive Value where
  | null
  | number (n : Nat)
  | string (s : String)
  | object (members : List (String × Value))

/-- An object that is not closed yet: its members so far and the key of the next. -/
structure Open where
  members : List (String × Value)
  key : String

/-- Where the reader stands, inside the objects around it: at a value, behind an opening brace, at a
key, behind a key, behind a member or at the end. -/
inductive Reader where
  | atValue (around : List Open)
  | behindOpening (around : List Open)
  | atKey (members : List (String × Value)) (around : List Open)
  | behindKey (inner : Open) (around : List Open)
  | behindMember (members : List (String × Value)) (around : List Open)
  | atEnd (v : Value)

namespace Reader

/-- A value that was read is the next member of the object around it, or all there is. -/
def complete (v : Value) : List Open → Reader
  | [] => .atEnd v
  | inner :: around => .behindMember (inner.members ++ [(inner.key, v)]) around

def step? : Reader → Token → Option Reader
  | .atValue around, .null => some (complete .null around)
  | .atValue around, .number n => some (complete (.number n) around)
  | .atValue around, .string cs => some (complete (.string (String.ofList cs)) around)
  | .atValue around, .opening => some (.behindOpening around)
  | .behindOpening around, .closing => some (complete (.object []) around)
  | .behindOpening around, .string cs => some (.behindKey ⟨[], String.ofList cs⟩ around)
  | .atKey members around, .string cs => some (.behindKey ⟨members, String.ofList cs⟩ around)
  | .behindKey inner around, .colon => some (.atValue (inner :: around))
  | .behindMember members around, .comma => some (.atKey members around)
  | .behindMember members around, .closing => some (complete (.object members) around)
  | _, _ => none

def value? : Reader → Option Value
  | .atEnd v => some v
  | _ => none

end Reader

/-- The value that a text stands for. -/
def Value.read? (cs : List Char) : Option Value :=
  (tokens? cs).bind fun ts => (ts.foldlM Reader.step? (.atValue [])).bind Reader.value?

/-- Tokens that are read as they were written, and as a value. -/
structure Spells (ts : List Token) (v : Value) : Prop where
  readsBack : ReadsBack ts
  value : ∀ around, ts.foldlM Reader.step? (.atValue around) = some (Reader.complete v around)

theorem spells_null : Spells [.null] .null :=
  ⟨readsBack_singleton _, fun _ => rfl⟩

theorem spells_number (n : Nat) : Spells [.number n] (.number n) :=
  ⟨readsBack_singleton _, fun _ => rfl⟩

theorem spells_string (s : String) : Spells [.string s.toList] (.string s) :=
  ⟨readsBack_singleton _, fun around => by simp [Reader.step?, String.ofList_toList]⟩

/-- A member of an object and the tokens of its key and value. -/
def SpellsMember (field : List Char × List Token) (member : String × Value) : Prop :=
  field.1 = member.1.toList ∧ Spells field.2 member.2

variable {fields : List (List Char × List Token)} {ms : List (String × Value)}

theorem foldlM_member {field : List Char × List Token} {member : String × Value}
    (h : SpellsMember field member) (front : List (String × Value)) (around : List Open)
    (ts : List Token) :
    (.string field.1 :: .colon :: (field.2 ++ ts)).foldlM Reader.step? (.atKey front around) =
      ts.foldlM Reader.step? (.behindMember (front ++ [member]) around) := by
  obtain ⟨key, value⟩ := field
  obtain ⟨name, v⟩ := member
  obtain ⟨rfl, hvalue⟩ := h
  show (value ++ ts).foldlM Reader.step?
    (.atValue (⟨front, String.ofList name.toList⟩ :: around)) = _
  rw [List.foldlM_append, hvalue.value, String.ofList_toList]
  rfl

/-- The members of an object are read one by one, behind those that were read. -/
theorem foldlM_members (h : List.Forall₂ SpellsMember fields ms) (hne : fields ≠ [])
    (front : List (String × Value)) (around : List Open) :
    (members fields ++ [Token.closing]).foldlM Reader.step? (.atKey front around) =
      some (Reader.complete (.object (front ++ ms)) around) := by
  induction h generalizing front with
  | nil => exact absurd rfl hne
  | @cons field member fields ms hfield h ih =>
    obtain ⟨key, value⟩ := field
    cases fields with
    | nil =>
      cases h
      exact foldlM_member hfield front around [Token.closing]
    | cons next fields =>
      have hfirst := foldlM_member hfield front around
        (Token.comma :: (members (next :: fields) ++ [.closing]))
      have hrest := ih (List.cons_ne_nil next fields) (front ++ [member])
      rw [List.append_assoc, List.singleton_append] at hrest
      simp only [members, List.cons_append, List.append_assoc]
      exact hfirst.trans hrest

theorem readsBack_of_mem (h : List.Forall₂ SpellsMember fields ms) :
    ∀ field ∈ fields, ReadsBack field.2 := by
  induction h with
  | nil => exact List.forall_mem_nil _
  | cons hfield _ ih => exact List.forall_mem_cons.mpr ⟨hfield.2.readsBack, ih⟩

/-- An object is read from its members, and each of these from its key and value. -/
theorem Spells.object (h : List.Forall₂ SpellsMember fields ms) :
    Spells (object fields) (.object ms) where
  readsBack := ReadsBack.object (readsBack_of_mem h)
  value := by
    intro around
    cases fields with
    | nil =>
      cases h
      rfl
    | cons field fields =>
      have hkey : ∃ ts, members (field :: fields) = .string field.1 :: ts := by
        cases fields <;> exact ⟨_, rfl⟩
      obtain ⟨ts, hts⟩ := hkey
      have hmembers := foldlM_members h (List.cons_ne_nil field fields) [] around
      rw [List.nil_append] at hmembers
      rw [← hmembers, Json.object, hts]
      rfl

theorem read?_render {ts : List Token} {v : Value} (h : Spells ts v) :
    Value.read? (render ts) = some v := by
  rw [Value.read?, tokens?_render h.readsBack, Option.bind_some, h.value]
  rfl

end BuildLog.Json
