import BuildLog.Proofs.BasenamePattern.Language
import BuildLog.Proofs.BasenamePattern.Reading
import BuildLog.Proofs.Regex.Sequence

/-! The expression that the pattern of a basename stands for. Only the flag for the case is set, and
none of the parts changes it for those behind. -/

namespace BuildLog.BasenamePattern

open Regex

/-- The flags in force behind the front of the pattern. -/
def flags (style : PathStyle) : Flags :=
  { ignoreCase := style == .windows }

/-- The expression of a version pattern on its own, under the flag for the case on Windows. -/
def versionExpr? (style : PathStyle) (pattern : String) : Option Expr :=
  (Ast.read? pattern.toList).bind fun a => (a.resolve (flags style)).map (·.1)

def charExpr (style : PathStyle) (c : Char) : Expr :=
  .set ((flags style).close (.single c))

def segmentSet : CharSet :=
  (CharSet.ofRange 'A' 'Z').union ((CharSet.ofRange 'a' 'z').union
    ((CharSet.ofRange '0' '9').union ((CharSet.single '_').union (.single '.'))))

def segmentExpr (style : PathStyle) : Expr :=
  .seq (.rep (.set ((flags style).close segmentSet)) 1 none true) (charExpr style '-')

def targetExpr (style : PathStyle) (n : Nat) : Expr :=
  .rep (.group (some targetGroup) ((segmentExpr style).repeated 1 (some n) true)) 0 (some 1) true

def extensionExpr (style : PathStyle) : Expr :=
  .rep (.group (some extensionGroup) (.chain (exe.map (charExpr style)))) 0 (some 1) true

def targetExprs (style : PathStyle) (n : Nat) : List Expr :=
  if n = 0 then [] else [targetExpr style n]

def versionExprs (version : Option Expr) : List Expr :=
  version.toList.map (.group (some versionGroup))

def restExprs (style : PathStyle) (name : List Char) (version : Option Expr) : List Expr :=
  name.map (charExpr style) ++ (versionExprs version ++
    [extensionExpr style, .look .textEnd])

def leadExprs : PathStyle → List Expr
  | .posix => [.look .textStart]
  | .windows => [.empty, .look .textStart]

def expr (style : PathStyle) (n : Nat) (name : List Char) (version : Option Expr) : Expr :=
  .chain (leadExprs style ++ (targetExprs style n ++ restExprs style name version))

variable {style : PathStyle} {n : Nat} {name : List Char}

theorem isEmptyOnly_segmentExpr (style : PathStyle) : (segmentExpr style).isEmptyOnly = false :=
  rfl

theorem resolve_char (style : PathStyle) (c : Char) :
    (Ast.char c false).resolve (flags style) = some (charExpr style c, flags style) :=
  Ast.resolve_char c

theorem resolve_chars (style : PathStyle) (cs : List Char) :
    Ast.resolveAll (flags style) (cs.map (.char · false)) =
      some (cs.map (charExpr style), flags style) := by
  induction cs with
  | nil => rfl
  | cons c cs ih =>
    rw [List.map_cons, Ast.resolveAll, resolve_char, Option.bind_some, ih]
    rfl

theorem chars?_segment {f : Flags} (hf : f.unicode = true) :
    ClassTree.chars? f (.bracket false (.both (.range 'A' 'Z') (.both (.range 'a' 'z')
      (.both (.range '0' '9') (.both (.char '_') (.char '.')))))) = some (f.close segmentSet) := by
  have hallow : ∀ s, f.allow? s = some s := fun s => if_pos (.inl hf)
  simp only [ClassTree.chars?, hallow]
  rfl

theorem resolve_segmentTree (style : PathStyle) :
    segmentTree.resolve (flags style) = some (segmentExpr style, flags style) := by
  have hset := chars?_segment (f := flags style) rfl
  have hset' : (Ast.rep (.cls (.bracket false (.both (.range 'A' 'Z') (.both (.range 'a' 'z')
      (.both (.range '0' '9') (.both (.char '_') (.char '.'))))))) 1 none true).resolve
        (flags style) = some (.rep (.set ((flags style).close segmentSet)) 1 none true,
          flags style) := by
    rw [Ast.resolve_rep, Ast.resolve_cls, hset]
    rfl
  rw [segmentTree, Ast.resolve_seq, hset', Option.bind_some, resolve_char]
  rfl

theorem isEmptyOnly_repeated {e : Expr} (he : e.isEmptyOnly = false) (hn : n ≠ 0) :
    (e.repeated 1 (some n) true).isEmptyOnly = false := by
  have hn' : (some n : Option Nat) ≠ some 0 := by simpa using hn
  simp only [Expr.repeated, he, Bool.false_eq_true, if_false]
  rw [if_neg hn']
  by_cases h1 : n = 1
  · subst h1
    exact he
  · rw [if_neg (by simpa using h1)]
    simp [Expr.isEmptyOnly, he, hn]

theorem repeated_optional {e : Expr} (he : e.isEmptyOnly = false) :
    e.repeated 0 (some 1) true = .rep e 0 (some 1) true := by
  simp only [Expr.repeated, he, Bool.false_eq_true, if_false]
  rfl

theorem resolve_targetTree (style : PathStyle) (hn : n ≠ 0) :
    (targetTree n).resolve (flags style) = some (targetExpr style n, flags style) := by
  have hempty : (Expr.group (some targetGroup)
      ((segmentExpr style).repeated 1 (some n) true)).isEmptyOnly = false :=
    isEmptyOnly_repeated (isEmptyOnly_segmentExpr style) hn
  have hflags : (flags style).apply [] = flags style := rfl
  rw [targetTree, targetExpr, ← repeated_optional hempty]
  simp only [Ast.resolve_rep, Ast.resolve_capture, Ast.resolve_plain, hflags, resolve_segmentTree,
    Option.map_some]
  rfl

theorem resolve_extensionTree (style : PathStyle) :
    extensionTree.resolve (flags style) = some (extensionExpr style, flags style) := by
  have hbody : (Ast.ofParts [.char '.' false, .char 'e' false, .char 'x' false,
      .char 'e' false]).resolve (flags style) = some (.chain (exe.map (charExpr style)),
        flags style) := by
    rw [Ast.resolve_ofParts]
    exact congrArg (Option.map _) (resolve_chars style exe)
  have hempty : (Expr.group (some extensionGroup)
      (.chain (exe.map (charExpr style)))).isEmptyOnly = false := rfl
  rw [extensionTree, extensionExpr, ← repeated_optional hempty]
  simp only [Ast.resolve_rep, Ast.resolve_capture, hbody, Option.map_some]
  rfl

/-- The version stands for what it stands for on its own. -/
theorem resolve_version (style : PathStyle) (v : Option Ast) :
    Ast.resolveAll (flags style) (v.toList.map (.group (.capture (some versionGroup)))) =
      (v.mapM fun a : Ast => (a.resolve (flags style)).map (·.1)).map fun version =>
        (versionExprs version, flags style) := by
  cases v with
  | none => rfl
  | some a =>
    show (Ast.resolve (flags style) (.group (.capture (some versionGroup)) a)).bind _ =
      (((a.resolve (flags style)).map (·.1)).map some).map _
    rw [Ast.resolve_capture]
    cases a.resolve (flags style) <;> rfl

theorem resolve_target (style : PathStyle) (n : Nat) :
    Ast.resolveAll (flags style) (if n = 0 then [] else [targetTree n]) =
      some (targetExprs style n, flags style) := by
  by_cases hn : n = 0
  · rw [targetExprs, if_pos hn, if_pos hn]
    rfl
  · rw [targetExprs, if_neg hn, if_neg hn, Ast.resolveAll, resolve_targetTree style hn]
    rfl

theorem resolve_lead (style : PathStyle) :
    Ast.resolveAll {} (leadParts style) = some (leadExprs style, flags style) := by
  cases style <;> rfl

theorem expr?_parts (style : PathStyle) (n : Nat) (name : List Char) (v : Option Ast) :
    (Ast.ofParts (parts style n name v)).expr? =
      (v.mapM fun a : Ast => (a.resolve (flags style)).map (·.1)).map (expr style n name) := by
  have hend : Ast.resolveAll (flags style) [extensionTree, .assertion .dollar] =
      some ([extensionExpr style, .look .textEnd], flags style) := by
    simp only [Ast.resolveAll, resolve_extensionTree, Option.bind_some]
    rfl
  rw [Ast.expr?, Ast.resolve_ofParts, parts]
  simp only [Ast.resolveAll_append, resolve_lead, resolve_target, resolve_chars, resolve_version,
    Option.bind_some]
  cases v.mapM fun a : Ast => (a.resolve (flags style)).map (·.1) with
  | none => rfl
  | some version =>
    simp only [Option.map_some, Option.bind_some, hend]
    rfl

theorem expr_of_compile {segments : Nat} {name : String} {version : Option String} {p : Pattern}
    {v : Option Ast} (hv : version.mapM (fun p => Ast.read? p.toList) = some v)
    (h : compile style segments name version = .ok p) :
    (∃ e, v.mapM (fun a : Ast => (a.resolve (flags style)).map (·.1)) = some e ∧
      p.expr = expr style segments name.toList e) ∧
    (Ast.ofParts (parts style segments name.toList v)).groupNames.Nodup := by
  obtain ⟨b, hb, he⟩ := Pattern.compile_eq_ok h
  obtain ⟨rfl, hnames⟩ := read_source hv hb
  rw [expr?_parts, Option.map_eq_some_iff] at he
  obtain ⟨e, hr, he⟩ := he
  exact ⟨⟨e, hr, he.symm⟩, hnames⟩

/-- A pattern of a basename that can be read compiles unless it is too big. -/
theorem compile_of_read {segments : Nat} {name : String} {version : Option String} {e : Option Expr}
    (he : version.mapM (versionExpr? style) = some e)
    (hread : (Ast.read? (source style segments name version).toList).isSome = true) :
    compile style segments name version =
      if (expr style segments name.toList e).isTooBig then .error .tooBig
      else .ok ⟨source style segments name version, expr style segments name.toList e⟩ := by
  have htree : ∃ v, version.mapM (fun p => Ast.read? p.toList) = some v ∧
      v.mapM (fun a : Ast => (a.resolve (flags style)).map (·.1)) = some e := by
    cases version with
    | none => exact ⟨none, rfl, he⟩
    | some pattern =>
      obtain ⟨e', he', rfl⟩ := Option.map_eq_some_iff.mp he
      obtain ⟨a, ha, hr⟩ := Option.bind_eq_some_iff.mp he'
      exact ⟨some a, congrArg (Option.map some) ha, congrArg (Option.map some) hr⟩
  obtain ⟨v, hv, hr⟩ := htree
  obtain ⟨b, hb⟩ := Option.isSome_iff_exists.mp hread
  obtain ⟨rfl, _⟩ := read_source hv hb
  have hexpr := expr?_parts style segments name.toList v
  rw [hr, Option.map_some] at hexpr
  simp [compile, Pattern.compile, hb, hexpr]

theorem exists_compile {segments : Nat} {name : String} {version : Option String} {e : Option Expr}
    (he : version.mapM (versionExpr? style) = some e)
    (hread : (Ast.read? (source style segments name version).toList).isSome = true)
    (hsize : (expr style segments name.toList e).isTooBig = false) :
    ∃ p, compile style segments name version = .ok p := by
  rw [compile_of_read he hread, hsize]
  exact ⟨_, rfl⟩

end BuildLog.BasenamePattern
