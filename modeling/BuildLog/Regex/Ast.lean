import BuildLog.Regex.Expr

/-! Regular expressions as they are written: the tree before flags are applied to it. -/

namespace BuildLog.Regex

/-- A flag that changes how what follows it is read or matched. -/
inductive Flag where
  | ignoreCase
  | multiLine
  | dotAll
  | swapGreed
  | unicode
  | crlf
  | verbose
  deriving DecidableEq, Repr

/-- The flags that a pattern switches on or off in one place. -/
abbrev FlagChange := List (Flag × Bool)

/-- The classes with a letter of their own. -/
inductive PerlClass where
  | digit
  | blank
  | word
  deriving DecidableEq, Repr

/-- A property of characters: a name, or a property with one of its values. -/
inductive PropertyQuery where
  | named (name : String)
  | valued (property value : String)
  deriving DecidableEq, Repr

/-- The operations between the halves of a bracketed class. -/
inductive SetOp where
  | inter
  | diff
  | symmDiff
  deriving DecidableEq, Repr

/-- What a class of characters is made of. -/
inductive ClassTree where
  | empty
  | char (c : Char)
  | range (lo hi : Char)
  | posix (chars : List (Char × Char)) (negated : Bool)
  | perl (kind : PerlClass) (negated : Bool)
  | property (query : PropertyQuery) (negated : Bool)
  | bracket (negated : Bool) (body : ClassTree)
  | both (first second : ClassTree)
  | op (o : SetOp) (first second : ClassTree)
  deriving DecidableEq, Repr

inductive Assertion where
  | caret
  | dollar
  | textStart
  | textEnd
  | word (kind : WordLook)
  deriving DecidableEq, Repr

inductive GroupKind where
  | capture (name : Option String)
  | plain (flags : FlagChange)
  deriving DecidableEq, Repr

/-- A pattern as it is written. `byte` marks a character that was written as two hexadecimal
digits; a sequence or an alternation of more than two parts leans to the right. -/
inductive Ast where
  | empty
  | flags (change : FlagChange)
  | char (c : Char) (byte : Bool)
  | dot
  | assertion (a : Assertion)
  | cls (tree : ClassTree)
  | group (kind : GroupKind) (body : Ast)
  | rep (body : Ast) (min : Nat) (max : Option Nat) (greedy : Bool)
  | seq (first second : Ast)
  | alt (first second : Ast)
  deriving DecidableEq, Repr

namespace ClassTree

/-- How deeply a class is nested. The members of one union count together, so the parts of a union
are measured apart from it. -/
def depthIn (inUnion : Bool) : ClassTree → Nat
  | .bracket _ body => body.depthIn false + 1
  | .both a b => (if inUnion then 0 else 1) + max (a.depthIn true) (b.depthIn true)
  | .op _ a b => max (a.depthIn false) (b.depthIn false) + 1
  | _ => 0

def depth (t : ClassTree) : Nat := t.depthIn false

end ClassTree

namespace Ast

def ofParts : List Ast → Ast
  | [] => .empty
  | [a] => a
  | a :: as => .seq a (ofParts as)

def ofBranches (first : Ast) : List Ast → Ast
  | [] => first
  | b :: bs => .alt first (ofBranches b bs)

/-- Whether a part stands in a sequence or an alternation, which are counted once. -/
inductive Chain where
  | none
  | seq
  | alt
  deriving DecidableEq

/-- How deeply a pattern is nested: classes, repetitions, groups, alternations and sequences each
add one level. -/
def depthIn : Chain → Ast → Nat
  | _, .cls t => t.depth
  | _, .group _ body => depthIn .none body + 1
  | _, .rep body _ _ _ => depthIn .none body + 1
  | chain, .seq a b =>
    (if chain = .seq then 0 else 1) + max (depthIn .none a) (depthIn .seq b)
  | chain, .alt a b =>
    (if chain = .alt then 0 else 1) + max (depthIn .none a) (depthIn .alt b)
  | _, _ => 0

def depth (a : Ast) : Nat := a.depthIn .none

/-- The names of the groups in the order of their parentheses. -/
def groupNames : Ast → List String
  | .group (.capture (some name)) body => name :: body.groupNames
  | .group _ body => body.groupNames
  | .rep body _ _ _ => body.groupNames
  | .seq a b => a.groupNames ++ b.groupNames
  | .alt a b => a.groupNames ++ b.groupNames
  | _ => []

end Ast

end BuildLog.Regex
