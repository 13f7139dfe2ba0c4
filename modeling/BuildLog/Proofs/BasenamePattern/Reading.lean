import BuildLog.BasenamePattern
import BuildLog.Proofs.Regex.Embedding

/-! Reading the pattern of a basename. Whatever the name and the version pattern hold, a pattern
that can be read is the sequence of its parts: an anchor, the optional target, the name character
by character, the version in a group of its own, the optional extension and an anchor. -/

namespace BuildLog.Regex.Token

theorem isBlank_of_isDigit {c : Char} (h : c.isDigit = true) : isBlank c = false := by
  have h' : 48 ≤ c.toNat ∧ c.toNat ≤ 57 := by
    simp only [Char.isDigit, Bool.and_eq_true, decide_eq_true_eq] at h
    exact h
  simp only [isBlank, Bool.or_eq_false_iff, Bool.and_eq_false_iff, decide_eq_false_iff_not,
    beq_eq_false_iff_ne]
  omega

theorem trimStart_eq_self {cs : List Char} (h : ∀ c ∈ cs, isBlank c = false) :
    trimStart cs = cs := by
  cases cs with
  | nil => rfl
  | cons c cs => exact trimStart_cons (h c List.mem_cons_self) cs

theorem trim_eq_self {cs : List Char} (h : ∀ c ∈ cs, isBlank c = false) : trim cs = cs := by
  rw [trim, trimStart_eq_self h, trimStart_eq_self, List.reverse_reverse]
  intro c hc
  exact h c (List.mem_reverse.mp hc)

/-- A count is read as it is written, unless it is too large to be one. -/
theorem count?_toDigits (n : Nat) :
    count? (Nat.toDigits 10 n) = if n < UInt32.size then some n else none := by
  have hdigit : ∀ c ∈ Nat.toDigits 10 n, c.isDigit = true := fun c hc =>
    Nat.isDigit_of_mem_toDigits (by decide) (by decide) hc
  have htrim : trim (Nat.toDigits 10 n) = Nat.toDigits 10 n :=
    trim_eq_self fun c hc => isBlank_of_isDigit (hdigit c hc)
  have hfold : (Nat.toDigits 10 n).foldl (fun n c => 10 * n + (c.toNat - 0x30)) 0 = n :=
    Nat.ofDigitChars_ten_toDigits
  have hne : (Nat.toDigits 10 n).isEmpty = false := by
    simp [Nat.toDigits_ne_nil]
  have hall : (Nat.toDigits 10 n).all Char.isDigit = true := List.all_eq_true.mpr hdigit
  simp only [count?, htrim, hne, hall, hfold, Bool.not_true, Bool.or_self, Bool.false_eq_true,
    if_false]

theorem bracedFrom_of_notMem {body : List Char} (h : '\x7d' ∉ body) (rest : List Char) :
    bracedFrom false false (body ++ '\x7d' :: rest) = some (body, rest) := by
  induction body with
  | nil => rfl
  | cons c cs ih =>
    rw [List.mem_cons, not_or] at h
    simp [bracedFrom, Ne.symm h.1, ih h.2]

theorem bounds?_one_to {n : Nat} (hn : 0 < n) :
    bounds? ('1' :: ',' :: Nat.toDigits 10 n) = if n < UInt32.size then some (1, some n) else none := by
  have h1 : count? ['1'] = some 1 := by decide
  have hc := count?_toDigits n
  obtain ⟨d, ds, hd⟩ := List.exists_cons_of_ne_nil (Nat.toDigits_ne_nil (n := n) (b := 10))
  rw [hd] at hc ⊢
  have hb : bounds? ('1' :: ',' :: d :: ds) = (count? ['1']).bind fun lo =>
      (count? (d :: ds)).bind fun hi => if lo ≤ hi then some (lo, some hi) else none := rfl
  rw [hb, h1, hc, Option.bind_some]
  by_cases h : n < UInt32.size
  · rw [if_pos h, if_pos h, Option.bind_some]
    exact if_pos hn
  · rw [if_neg h, if_neg h, Option.bind_none]

end BuildLog.Regex.Token

namespace BuildLog.BasenamePattern

open Regex

def segmentTree : Ast :=
  .seq (.rep (.cls (.bracket false (.both (.range 'A' 'Z') (.both (.range 'a' 'z')
    (.both (.range '0' '9') (.both (.char '_') (.char '.'))))))) 1 none true) (.char '-' false)

def targetTree (segments : Nat) : Ast :=
  .rep (.group (.capture (some targetGroup))
    (.rep (.group (.plain []) segmentTree) 1 (some segments) true)) 0 (some 1) true

def extensionTree : Ast :=
  .rep (.group (.capture (some extensionGroup))
    (.ofParts [.char '.' false, .char 'e' false, .char 'x' false, .char 'e' false])) 0 (some 1) true

def leadParts : PathStyle → List Ast
  | .posix => [.assertion .caret]
  | .windows => [.flags [(.ignoreCase, true)], .assertion .caret]

def parts (style : PathStyle) (segments : Nat) (name : List Char) (version : Option Ast) :
    List Ast :=
  leadParts style ++ ((if segments = 0 then [] else [targetTree segments]) ++
  (name.map (.char · false) ++
  (version.toList.map (.group (.capture (some versionGroup))) ++
  [extensionTree, .assertion .dollar])))

def addAll (l : Level) (as : List Ast) : Level :=
  as.foldl Level.add l

theorem parts_addAll (l : Level) (as : List Ast) :
    addAll l as = ⟨l.branches, as.reverse ++ l.parts⟩ := by
  induction as generalizing l with
  | nil => rfl
  | cons a as ih =>
    rw [addAll, List.foldl_cons]
    exact (ih (l.add a)).trans (by simp [Level.add])

section

variable {modes : List Bool} {l : Level} {outer : List (GroupKind × Level)} {rest : List Char}

theorem readFrom_cons {c : Char} {cs : List Char} {t : Token} {g : Grouping}
    (h : Token.next false c cs = some (t, rest)) :
    Ast.readFrom false modes g (c :: cs) = (g.step t).bind fun g =>
      Ast.readFrom (Token.modeAfter false modes t).1 (Token.modeAfter false modes t).2 g rest :=
  Ast.readFrom_of_next rfl h

theorem bracketClass_segment (rest : List Char) :
    Token.bracketClass false ("A-Za-z0-9_.]".toList ++ rest) =
      some (.bracket false (.both (.range 'A' 'Z') (.both (.range 'a' 'z') (.both (.range '0' '9')
        (.both (.char '_') (.char '.'))))), rest) := by
  rw [Token.bracketClass]
  rw [Token.classBody_of_more (rfl : Token.classStep false _ _ = some (.more _ _))]
  rw [Token.classBody_of_more (rfl : Token.classStep false _ _ = some (.more _ _))]
  rw [Token.classBody_of_more (rfl : Token.classStep false _ _ = some (.more _ _))]
  rw [Token.classBody_of_more (rfl : Token.classStep false _ _ = some (.more _ _))]
  rw [Token.classBody_of_more (rfl : Token.classStep false _ _ = some (.more _ _))]
  exact Token.classBody_of_done rfl

theorem readFrom_segment (modes : List Bool) (l : Level) (outer : List (GroupKind × Level))
    (rest : List Char) :
    Ast.readFrom false modes ⟨l, outer⟩ ("(?:[A-Za-z0-9_.]+-)".toList ++ rest) =
      Ast.readFrom false modes ⟨l.add (.group (.plain []) segmentTree), outer⟩ rest := by
  have hopen : Token.next false '(' ("?:[A-Za-z0-9_.]+-)".toList ++ rest) =
      some (.opening (.plain []), "[A-Za-z0-9_.]+-)".toList ++ rest) := rfl
  have hclass : Token.next false '[' ("A-Za-z0-9_.]".toList ++ ("+-)".toList ++ rest)) =
      some (.part (.cls (.bracket false (.both (.range 'A' 'Z') (.both (.range 'a' 'z')
        (.both (.range '0' '9') (.both (.char '_') (.char '.'))))))), "+-)".toList ++ rest) := by
    show Option.map _ (Token.bracketClass false _) = _
    rw [bracketClass_segment]
    rfl
  refine (readFrom_cons hopen).trans ((readFrom_cons hclass).trans ?_)
  refine (readFrom_cons (c := '+') rfl).trans ((readFrom_cons (c := '-') rfl).trans ?_)
  exact readFrom_cons (c := ')') rfl

theorem readFrom_option {a : Ast} {parts : List Ast} (ha : ∀ change, a ≠ .flags change)
    (hrest : rest.head? ≠ some '?') :
    Ast.readFrom false modes ⟨⟨l.branches, a :: parts⟩, outer⟩ ('?' :: rest) =
      Ast.readFrom false modes ⟨⟨l.branches, .rep a 0 (some 1) true :: parts⟩, outer⟩ rest := by
  have hrep : Token.repToken 0 (some 1) rest = (.rep 0 (some 1) true, rest) := by
    unfold Token.repToken
    split
    · exact absurd rfl hrest
    · rfl
  refine (readFrom_cons (c := '?') (congrArg some hrep)).trans ?_
  cases a with
  | flags change => exact absurd rfl (ha change)
  | _ => rfl

/-- The target with the question mark behind it. Too many segments cannot be asked for. -/
theorem readFrom_target {n : Nat} (hn : 0 < n) (hrest : rest.head? ≠ some '?') :
    Ast.readFrom false modes ⟨l, outer⟩
        ("(?P<target>".toList ++ ("(?:[A-Za-z0-9_.]+-)".toList ++
          ("\x7b1,".toList ++ (Nat.toDigits 10 n ++ ("\x7d)?".toList ++ rest))))) =
      if n < UInt32.size then Ast.readFrom false modes ⟨l.add (targetTree n), outer⟩ rest
      else none := by
  have hbody : '\x7d' ∉ '1' :: ',' :: Nat.toDigits 10 n := by
    have hdigits : '\x7d' ∉ Nat.toDigits 10 n := fun h =>
      absurd (Nat.isDigit_of_mem_toDigits (by decide) (by decide) h) (by decide)
    simp [hdigits]
  have hcounted : Token.next false '\x7b' ("1,".toList ++ (Nat.toDigits 10 n ++
      ("\x7d)?".toList ++ rest))) =
        if n < UInt32.size then some (.rep 1 (some n) true, ")?".toList ++ rest) else none := by
    show Token.countedRep false ('1' :: ',' :: Nat.toDigits 10 n ++ '\x7d' ::
      (")?".toList ++ rest)) = _
    rw [Token.countedRep, Token.braced, Token.bracedFrom_of_notMem hbody]
    show (Token.bounds? ('1' :: ',' :: Nat.toDigits 10 n)).bind _ = _
    rw [Token.bounds?_one_to hn]
    by_cases h : n < UInt32.size
    · rw [if_pos h, if_pos h]
      rfl
    · rw [if_neg h, if_neg h]
      rfl
  have hopen : Token.next false '(' ("?P<target>".toList ++ ("(?:[A-Za-z0-9_.]+-)".toList ++
      ("\x7b1,".toList ++ (Nat.toDigits 10 n ++ ("\x7d)?".toList ++ rest))))) =
        some (.opening (.capture (some targetGroup)), "(?:[A-Za-z0-9_.]+-)".toList ++
          ("\x7b1,".toList ++ (Nat.toDigits 10 n ++ ("\x7d)?".toList ++ rest)))) := rfl
  refine (readFrom_cons hopen).trans ((readFrom_segment _ _ _ _).trans ?_)
  by_cases h : n < UInt32.size
  · rw [if_pos h] at hcounted ⊢
    refine (readFrom_cons hcounted).trans ((readFrom_cons (c := ')') rfl).trans ?_)
    exact readFrom_option (l := l) (by simp) hrest
  · rw [if_neg h] at hcounted ⊢
    exact Ast.readFrom_of_next_eq_none rfl hcounted

theorem next_of_isMeta {c : Char} (h : Token.isMeta c = true) (rest : List Char) :
    Token.next false '\\' (c :: rest) = some (.part (.char c false), rest) := by
  simp [Token.isMeta] at h
  rcases h with rfl | rfl | rfl | rfl | rfl | rfl | rfl | rfl | rfl | rfl | rfl | rfl | rfl | rfl |
    rfl | rfl | rfl | rfl
  all_goals rfl

theorem next_of_not_isMeta {c : Char} (h : Token.isMeta c = false) (rest : List Char) :
    Token.next false c rest = some (.part (.char c false), rest) := by
  unfold Token.next
  split
  all_goals first | rfl | exact absurd h (by decide)

theorem readFrom_escape (name : List Char) :
    Ast.readFrom false modes ⟨l, outer⟩ (escape name ++ rest) =
      Ast.readFrom false modes ⟨addAll l (name.map (.char · false)), outer⟩ rest := by
  induction name generalizing l with
  | nil => rfl
  | cons c name ih =>
    rw [escape, List.flatMap_cons, ← escape]
    by_cases h : Token.isMeta c = true
    · rw [if_pos h]
      exact (readFrom_cons (next_of_isMeta h _)).trans ih
    · rw [if_neg h]
      exact (readFrom_cons (next_of_not_isMeta (by simpa using h) _)).trans ih

theorem readFrom_extension :
    Ast.readFrom false modes ⟨l, outer⟩ "(?P<extension>\\.exe)?$".toList =
      Grouping.tree? ⟨addAll l [extensionTree, .assertion .dollar], outer⟩ := by
  have hopen : Token.next false '(' "?P<extension>\\.exe)?$".toList =
      some (.opening (.capture (some extensionGroup)), "\\.exe)?$".toList) := rfl
  refine (readFrom_cons hopen).trans ((readFrom_cons (c := '\\') rfl).trans ?_)
  refine (readFrom_cons (c := 'e') rfl).trans ((readFrom_cons (c := 'x') rfl).trans ?_)
  refine (readFrom_cons (c := 'e') rfl).trans ((readFrom_cons (c := ')') rfl).trans ?_)
  refine (readFrom_cons (c := '?') rfl).trans ((readFrom_cons (c := '$') rfl).trans ?_)
  exact Ast.readFrom_of_nil rfl

theorem head?_escape_append (name : List Char) (hrest : rest.head? ≠ some '?') :
    (escape name ++ rest).head? ≠ some '?' := by
  cases name with
  | nil => exact hrest
  | cons c name =>
    rw [escape, List.flatMap_cons]
    by_cases h : Token.isMeta c = true
    · rw [if_pos h]
      simp
    · rw [if_neg h]
      intro he
      obtain rfl : c = '?' := Option.some.inj he
      exact h rfl

def ending (version : Option String) : String :=
  (match version with
    | some pattern => named versionGroup pattern
    | none => "") ++
  named extensionGroup extension ++ "?$"

theorem toList_ending_none : (ending none).toList = "(?P<extension>\\.exe)?$".toList := rfl

theorem toList_ending_some (pattern : String) :
    (ending (some pattern)).toList = "(?P<version>".toList ++ (pattern.toList ++
      ')' :: "(?P<extension>\\.exe)?$".toList) := by
  show (named versionGroup pattern ++ named extensionGroup extension ++ "?$").toList = _
  simp [named, versionGroup, extensionGroup, extension]

theorem inert_extension : Token.Inert "(?P<extension>\\.exe)?$".toList :=
  ⟨by decide, by decide⟩

theorem readFrom_ending_none : Ast.readFrom false [] ⟨l, []⟩ (ending none).toList =
    some (addAll l [extensionTree, .assertion .dollar]).tree := by
  rw [toList_ending_none]
  exact readFrom_extension

theorem readFrom_ending_some (pattern : String) :
    Ast.readFrom false [] ⟨l, []⟩ (ending (some pattern)).toList =
      Ast.readFrom false [false] ⟨.start, [(.capture (some versionGroup), l)]⟩
        (pattern.toList ++ ')' :: "(?P<extension>\\.exe)?$".toList) := by
  rw [toList_ending_some]
  have hopen : Token.next false '(' ("?P<version>".toList ++ (pattern.toList ++
      ')' :: "(?P<extension>\\.exe)?$".toList)) = some (.opening (.capture (some versionGroup)),
        pattern.toList ++ ')' :: "(?P<extension>\\.exe)?$".toList) := rfl
  exact readFrom_cons hopen

/-- A version pattern that can be in a group leaves the extension to be read behind it. -/
theorem readFrom_ending_of_fillsGroup {pattern : String} {b : Ast}
    (h : Ast.FillsGroup pattern.toList b) :
    Ast.readFrom false [] ⟨l, []⟩ (ending (some pattern)).toList =
      some (addAll l [.group (.capture (some versionGroup)) b, extensionTree,
        .assertion .dollar]).tree := by
  rw [readFrom_ending_some, h _ _ _ _ _ _ inert_extension]
  exact readFrom_extension

theorem readFrom_ending {version : Option String} {v : Option Ast} {a : Ast}
    (hv : version.mapM (fun p => Ast.read? p.toList) = some v)
    (h : Ast.readFrom false [] ⟨l, []⟩ (ending version).toList = some a) :
    a = (addAll l (v.toList.map (.group (.capture (some versionGroup))) ++
      [extensionTree, .assertion .dollar])).tree := by
  cases version with
  | none =>
    obtain rfl : none = v := Option.some.inj hv
    exact Option.some.inj (h.symm.trans readFrom_ending_none)
  | some pattern =>
    obtain ⟨b, hb, rfl⟩ := Option.map_eq_some_iff.mp hv
    rcases Ast.fillsGroup_or_swallowsGroup (Ast.read?_eq_some hb).1 with hg | hg
    · exact Option.some.inj (h.symm.trans (readFrom_ending_of_fillsGroup hg))
    · rw [readFrom_ending_some, hg _ _ _ _ _ _ inert_extension] at h
      cases h

theorem head?_ending (version : Option String) : (ending version).toList.head? ≠ some '?' := by
  cases version with
  | none =>
    rw [toList_ending_none]
    decide
  | some pattern =>
    rw [toList_ending_some]
    exact fun h => nomatch h

end

theorem toList_target (n : Nat) (rest : List Char) :
    (named targetGroup ("(?:" ++ segment ++ ")\x7b1," ++ toString n ++ "\x7d") ++ "?").toList ++
      rest = "(?P<target>".toList ++ ("(?:[A-Za-z0-9_.]+-)".toList ++
        ("\x7b1,".toList ++ (Nat.toDigits 10 n ++ ("\x7d)?".toList ++ rest)))) := by
  simp [named, targetGroup, segment]

theorem toList_source (style : PathStyle) (n : Nat) (name : String) (version : Option String) :
    (source style n name version).toList =
      (match style with
        | .posix => "^".toList
        | .windows => "(?i)^".toList) ++
      ((if n = 0 then []
        else (named targetGroup ("(?:" ++ segment ++ ")\x7b1," ++ toString n ++ "\x7d") ++
          "?").toList) ++
      (escape name.toList ++ (ending version).toList)) := by
  cases style <;> by_cases hn : n = 0
  all_goals simp only [source, ending, hn, if_true, if_false, String.toList_append,
    String.toList_ofList, List.append_assoc]
  all_goals rfl

theorem addAll_append (l : Level) (as bs : List Ast) :
    addAll l (as ++ bs) = addAll (addAll l as) bs :=
  List.foldl_append

theorem tree_addAll (as : List Ast) : (addAll .start as).tree = .ofParts as := by
  rw [parts_addAll]
  simp [Level.tree, Level.branch, Level.start, Ast.ofBranches]

/-- The parts in front of the version. -/
def frontParts (style : PathStyle) (segments : Nat) (name : List Char) : List Ast :=
  leadParts style ++ ((if segments = 0 then [] else [targetTree segments]) ++
    name.map (.char · false))

theorem readFrom_body {n : Nat} {l : Level} (name : String) (version : Option String) :
    Ast.readFrom false [] ⟨l, []⟩ ((if n = 0 then []
        else (named targetGroup ("(?:" ++ segment ++ ")\x7b1," ++ toString n ++ "\x7d") ++
          "?").toList) ++ (escape name.toList ++ (ending version).toList)) =
      if n < UInt32.size then
        Ast.readFrom false [] ⟨addAll l ((if n = 0 then [] else [targetTree n]) ++
          name.toList.map (.char · false)), []⟩ (ending version).toList
      else none := by
  by_cases hn : n = 0
  · rw [if_pos hn, if_pos hn, if_pos (by rw [hn]; decide)]
    exact readFrom_escape name.toList
  · rw [if_neg hn, if_neg hn, toList_target, readFrom_target (Nat.pos_of_ne_zero hn)
      (head?_escape_append _ (head?_ending version)), readFrom_escape, addAll_append]
    rfl

/-- The pattern of a basename is read up to the version, unless it asks for too many segments. -/
theorem readFrom_source (style : PathStyle) (n : Nat) (name : String) (version : Option String) :
    Ast.readFrom false [] .start (source style n name version).toList =
      if n < UInt32.size then
        Ast.readFrom false [] ⟨addAll .start (frontParts style n name.toList), []⟩
          (ending version).toList
      else none := by
  rw [toList_source, frontParts, addAll_append]
  cases style with
  | posix => exact (readFrom_cons (c := '^') rfl).trans (readFrom_body name version)
  | windows =>
    have hopen : Token.next false '(' ("?i)".toList ++ ('^' :: ((if n = 0 then []
        else (named targetGroup ("(?:" ++ segment ++ ")\x7b1," ++ toString n ++ "\x7d") ++
          "?").toList) ++ (escape name.toList ++ (ending version).toList)))) =
      some (.flags [(.ignoreCase, true)], '^' :: ((if n = 0 then []
        else (named targetGroup ("(?:" ++ segment ++ ")\x7b1," ++ toString n ++ "\x7d") ++
          "?").toList) ++ (escape name.toList ++ (ending version).toList))) := rfl
    exact (readFrom_cons hopen).trans
      ((readFrom_cons (c := '^') rfl).trans (readFrom_body name version))

/-- A pattern of a basename that can be read is the sequence of its parts. -/
theorem read_source {style : PathStyle} {n : Nat} {name : String} {version : Option String}
    {v : Option Ast} {b : Ast} (hv : version.mapM (fun p => Ast.read? p.toList) = some v)
    (h : Ast.read? (source style n name version).toList = some b) :
    b = .ofParts (parts style n name.toList v) ∧ b.groupNames.Nodup := by
  obtain ⟨hread, _, hnames⟩ := Ast.read?_eq_some h
  refine ⟨?_, hnames⟩
  rw [readFrom_source] at hread
  by_cases hn : n < UInt32.size
  · rw [if_pos hn] at hread
    rw [readFrom_ending hv hread, ← addAll_append, tree_addAll]
    simp only [frontParts, parts, List.append_assoc]
  · rw [if_neg hn] at hread
    cases hread

end BuildLog.BasenamePattern
