import BuildLog.Proofs.BasenamePattern.Captures
import BuildLog.Proofs.BasenamePattern.Exclusion

/-! The version pattern that the documentation gives. It takes the same texts in both styles:
numbers with dots between them, behind a hyphen or not. -/

namespace BuildLog.BasenamePattern

open Regex

def documentedVersion : String := "-?\\d+(\\.\\d+)*"

def IsNumber (w : List Char) : Prop :=
  w ≠ [] ∧ ∀ c ∈ w, digitChars.contains c = true

/-- Numbers with dots between them, with or without a hyphen in front of the first one. -/
def IsDottedVersion (w : List Char) : Prop :=
  ∃ hyphen number more, (hyphen = [] ∨ hyphen = ['-']) ∧ IsNumber number ∧
    (∃ k, Repeated (fun w => ∃ u, IsNumber u ∧ w = '.' :: u) k more) ∧
      w = hyphen ++ (number ++ more)

def numberTree : Ast := .rep (.cls (.perl .digit false)) 1 none true

def dottedTree : Ast :=
  .seq (.rep (.char '-' false) 0 (some 1) true)
    (.seq numberTree
      (.rep (.group (.capture none) (.seq (.char '.' false) numberTree)) 0 none true))

def numberExpr : Expr := .rep (.set digitChars) 1 none true

def dottedExpr (style : PathStyle) : Expr :=
  .seq (.rep (charExpr style '-') 0 (some 1) true)
    (.seq numberExpr
      (.rep (.group none (.seq (charExpr style '.') numberExpr)) 0 none true))

variable {style : PathStyle} {w : List Char}

theorem read?_documentedVersion : Ast.read? documentedVersion.toList = some dottedTree := by
  decide +kernel

theorem resolve_dottedTree (style : PathStyle) :
    dottedTree.resolve (flags style) = some (dottedExpr style, flags style) := by
  rw [dottedTree, numberTree]
  rfl

theorem expr?_dottedTree : dottedTree.expr? = some (dottedExpr .posix) :=
  congrArg (Option.map Prod.fst) (resolve_dottedTree .posix)

theorem versionExpr?_documentedVersion (style : PathStyle) :
    versionExpr? style documentedVersion = some (dottedExpr style) := by
  rw [versionExpr?, read?_documentedVersion, Option.bind_some, resolve_dottedTree]
  rfl

theorem takes_exactly {style : PathStyle} {c : Char}
    (hc : ∀ d, letter style d = letter style c → d = c) :
    (charExpr style c).Takes fun w => w = [c] := by
  refine (takes_char style c).congr fun w => ?_
  constructor
  · intro h
    obtain ⟨d, rfl⟩ := List.length_eq_one_iff.mp h.length
    rw [hc d (sameText_cons.mp h).1]
  · intro h
    rw [h]
    rfl

theorem takes_hyphen (style : PathStyle) :
    (Expr.rep (charExpr style '-') 0 (some 1) true).Takes fun w => w = [] ∨ w = ['-'] := by
  refine ((takes_exactly fun d => letter_hyphen).rep 0 (some 1) true).congr fun w => ?_
  constructor
  · intro h
    obtain ⟨k, hk, h⟩ := h
    have hle : k ≤ 1 := hk 1 rfl
    rw [Nat.zero_add] at h
    match k, hle with
    | 0, _ => exact .inl h
    | 1, _ =>
      obtain ⟨u, v, rfl, rfl, rfl⟩ := h
      exact .inr rfl
  · intro h
    rcases h with rfl | rfl
    · exact ⟨0, by simp, rfl⟩
    · exact ⟨1, by simp, ['-'], [], rfl, rfl, rfl⟩

theorem takes_more (style : PathStyle) :
    (Expr.rep (.group none (.seq (charExpr style '.') numberExpr)) 0 none true).Takes fun w =>
      ∃ k, Repeated (fun w => ∃ u, IsNumber u ∧ w = '.' :: u) k w := by
  have hnumber : numberExpr.Takes IsNumber := Expr.takes_oneOrMore digitChars
  have hdot : (Expr.group none (.seq (charExpr style '.') numberExpr)).Takes
      fun w => ∃ u, IsNumber u ∧ w = '.' :: u := by
    refine ((takes_exactly fun d => letter_dot).seq hnumber).congr fun w => ?_
    simp
  refine (hdot.rep 0 none true).congr fun w => ?_
  simp

theorem takes_dottedExpr (style : PathStyle) : (dottedExpr style).Takes IsDottedVersion := by
  have hnumber : numberExpr.Takes IsNumber := Expr.takes_oneOrMore digitChars
  refine ((takes_hyphen style).seq (hnumber.seq (takes_more style))).congr fun w => ?_
  constructor
  · intro h
    obtain ⟨hyphen, _, hhyphen, ⟨number, more, hnumber, hmore, rfl⟩, rfl⟩ := h
    exact ⟨hyphen, number, more, hhyphen, hnumber, hmore, rfl⟩
  · intro h
    obtain ⟨hyphen, number, more, hhyphen, hnumber, hmore, rfl⟩ := h
    exact ⟨hyphen, _, hhyphen, ⟨number, more, hnumber, hmore, rfl⟩, rfl⟩

theorem groupNames_dottedExpr (style : PathStyle) : (dottedExpr style).groupNames = [] := rfl

theorem numeric_of_digit {c : Char} (h : digitChars.contains c = true) :
    numericChars.contains c = true := by
  simp [numericChars, CharSet.contains_union, h]

namespace IsDottedVersion

theorem ne_nil (h : IsDottedVersion w) : w ≠ [] := by
  obtain ⟨hyphen, number, more, _, hnumber, _, rfl⟩ := h
  simp [hnumber.1]

theorem numeric (h : IsDottedVersion w) : ∀ c ∈ w, numericChars.contains c = true := by
  obtain ⟨hyphen, number, more, hhyphen, hnumber, ⟨k, hmore⟩, rfl⟩ := h
  have hpart : ∀ u : List Char, (∃ v, IsNumber v ∧ u = '.' :: v) →
      ∀ c ∈ u, numericChars.contains c = true := by
    intro u hu c hc
    obtain ⟨v, hv, rfl⟩ := hu
    rcases List.mem_cons.mp hc with rfl | hc
    · decide +kernel
    · exact numeric_of_digit (hv.2 c hc)
  intro c hc
  rcases List.mem_append.mp hc with hc | hc
  · rcases hhyphen with rfl | rfl
    · cases hc
    · obtain rfl := List.mem_singleton.mp hc
      decide +kernel
  · rcases List.mem_append.mp hc with hc | hc
    · exact numeric_of_digit (hnumber.2 c hc)
    · exact hmore.forall_mem hpart c hc

end IsDottedVersion

theorem Basename.versionFits_dotted {b : Basename} :
    b.VersionFits (some (dottedExpr style)) ↔ IsDottedVersion b.version := by
  have hspans := (takes_dottedExpr style).spans_append_iff (b.target ++ b.name) b.version
    b.extension
  rw [VersionFits, ← hspans]
  simp [text, nameEnd, versionEnd]

theorem Basename.Fits.numericOf_of_dotted {n : Nat} {d : Driver} {b : Basename}
    (h : b.Fits style n d.name.toList (some (dottedExpr style))) : b.NumericOf style d :=
  h.numericOf (versionFits_dotted.mp h.version).numeric

theorem spans_documentedVersion_iff {p : Pattern} (hp : Pattern.compile documentedVersion = .ok p) :
    p.expr.Spans w.toArray 0 w.length ↔ IsDottedVersion w := by
  obtain ⟨a, ha, he⟩ := Pattern.compile_eq_ok hp
  rw [read?_documentedVersion] at ha
  obtain rfl := Option.some.inj ha
  rw [expr?_dottedTree] at he
  rw [← Option.some.inj he]
  have hspans := (takes_dottedExpr .posix).spans_append_iff [] w []
  simpa using hspans

end BuildLog.BasenamePattern
