import BuildLog.Proofs.Regex.Behind.Token
import BuildLog.Regex.Pattern

/-! A pattern that can be read by itself is read the same between the parentheses of a group: the
tree of the group is the tree that the pattern has alone, whatever alternations, groups, flags and
comments it holds. -/

namespace BuildLog.Regex

namespace Token

variable {verbose : Bool} {modes : List Bool} {cs rest : List Char}

theorem skipSpace_nil (verbose : Bool) : skipSpace verbose [] = [] := by
  cases verbose <;> rfl

theorem read_of_nil (h : skipSpace verbose cs = []) : read verbose modes cs = some [] := by
  rw [read]
  split <;> simp_all

theorem read_of_next {c : Char} {cs' : List Char} {t : Token}
    (hs : skipSpace verbose cs = c :: cs') (hn : next verbose c cs' = some (t, rest)) :
    read verbose modes cs = (read (modeAfter verbose modes t).1 (modeAfter verbose modes t).2
      rest).map (t :: ·) := by
  rw [read]
  split
  · simp_all
  · rename_i he
    rw [hs] at he
    cases he
    split
    · simp_all
    · simp_all

theorem read_of_next_eq_none {c : Char} {cs' : List Char} (hs : skipSpace verbose cs = c :: cs')
    (hn : next verbose c cs' = none) : read verbose modes cs = none := by
  rw [read]
  split
  · simp_all
  · rename_i he
    rw [hs] at he
    cases he
    split <;> simp_all

theorem read_of_skipSpace_eq {cs' : List Char} (h : skipSpace verbose cs = skipSpace verbose cs') :
    read verbose modes cs = read verbose modes cs' := by
  cases hs : skipSpace verbose cs' with
  | nil => rw [read_of_nil hs, read_of_nil (h.trans hs)]
  | cons c cs'' =>
    cases hn : next verbose c cs'' with
    | none => rw [read_of_next_eq_none hs hn, read_of_next_eq_none (h.trans hs) hn]
    | some r => rw [read_of_next hs hn, read_of_next (h.trans hs) hn]

end Token

namespace Grouping

def under (g : Grouping) (outer : List (GroupKind × Level)) : Grouping :=
  ⟨g.level, g.outer ++ outer⟩

theorem step_under {g g' : Grouping} {t : Token} (h : g.step t = some g')
    (outer : List (GroupKind × Level)) : (g.under outer).step t = some (g'.under outer) := by
  cases t with
  | part a =>
    cases h
    rfl
  | flags change =>
    cases h
    rfl
  | opening kind =>
    cases h
    rfl
  | closing =>
    obtain ⟨level, around⟩ := g
    cases around with
    | nil => cases h
    | cons o os =>
      cases h
      rfl
  | bar =>
    cases h
    rfl
  | rep min max greedy =>
    obtain ⟨l, hl, rfl⟩ := Option.map_eq_some_iff.mp h
    simp only [step, under, hl, Option.map_some]

/-- The levels of parentheses and the modes around them are opened and closed together. -/
theorem length_outer_step {g g' : Grouping} {t : Token} (verbose : Bool) {modes : List Bool}
    (h : g.step t = some g') (hl : g.outer.length = modes.length) :
    g'.outer.length = (Token.modeAfter verbose modes t).2.length := by
  cases t with
  | part a =>
    cases h
    exact hl
  | flags change =>
    cases h
    exact hl
  | opening kind =>
    cases h
    cases kind <;> simp [Token.modeAfter, hl]
  | closing =>
    obtain ⟨level, around⟩ := g
    cases around with
    | nil => cases h
    | cons o os =>
      cases h
      simpa [Token.modeAfter] using Nat.eq_sub_of_add_eq hl
  | bar =>
    cases h
    exact hl
  | rep min max greedy =>
    obtain ⟨l, hl', rfl⟩ := Option.map_eq_some_iff.mp h
    exact hl

theorem modeAfter_append {g g' : Grouping} {t : Token} (verbose : Bool) {modes : List Bool}
    (h : g.step t = some g') (hl : g.outer.length = modes.length) (base : List Bool) :
    Token.modeAfter verbose (modes ++ base) t =
      ((Token.modeAfter verbose modes t).1, (Token.modeAfter verbose modes t).2 ++ base) := by
  cases t with
  | opening kind => cases kind <;> rfl
  | closing =>
    cases modes with
    | nil =>
      obtain ⟨level, around⟩ := g
      obtain rfl : around = [] := List.length_eq_zero_iff.mp hl
      cases h
    | cons m ms => rfl
  | _ => rfl

theorem tree?_eq_some_iff {g : Grouping} {a : Ast} :
    g.tree? = some a ↔ g.outer = [] ∧ g.level.tree = a := by
  obtain ⟨level, outer⟩ := g
  cases outer <;> simp [tree?]

end Grouping

/-- The tree of a text, where a part in front of it is already grouped. -/
def Ast.readFrom (verbose : Bool) (modes : List Bool) (g : Grouping) (cs : List Char) :
    Option Ast :=
  (Token.read verbose modes cs).bind fun ts => (ts.foldlM Grouping.step g).bind Grouping.tree?

namespace Ast

open Token

variable {verbose : Bool} {modes : List Bool} {g g' : Grouping} {cs rest : List Char}

theorem readFrom_of_nil (h : skipSpace verbose cs = []) :
    readFrom verbose modes g cs = g.tree? := by
  simp [readFrom, read_of_nil h]

theorem readFrom_of_skipSpace_eq {cs' : List Char}
    (h : skipSpace verbose cs = skipSpace verbose cs') :
    readFrom verbose modes g cs = readFrom verbose modes g cs' := by
  rw [readFrom, readFrom, read_of_skipSpace_eq h]

theorem readFrom_of_next_eq_none {c : Char} {cs' : List Char}
    (hs : skipSpace verbose cs = c :: cs') (hn : next verbose c cs' = none) :
    readFrom verbose modes g cs = none := by
  rw [readFrom, read_of_next_eq_none hs hn]
  rfl

theorem readFrom_of_next {c : Char} {cs' : List Char} {t : Token}
    (hs : skipSpace verbose cs = c :: cs') (hn : next verbose c cs' = some (t, rest)) :
    readFrom verbose modes g cs = (g.step t).bind fun g =>
      readFrom (modeAfter verbose modes t).1 (modeAfter verbose modes t).2 g rest := by
  rw [readFrom, read_of_next hs hn]
  simp only [readFrom]
  cases read (modeAfter verbose modes t).1 (modeAfter verbose modes t).2 rest with
  | none => cases g.step t <;> rfl
  | some ts => simp [List.foldlM_cons, Option.bind_assoc]

theorem read?_eq_some_iff {a : Ast} : read? cs = some a ↔
    readFrom false [] .start cs = some a ∧ a.depth ≤ maxDepth ∧ a.groupNames.Nodup := by
  have hread : readFrom false [] .start cs = (Token.read false [] cs).bind ofTokens? := rfl
  rw [hread, Option.bind_eq_some_iff]
  simp only [read?, bind, Option.bind_eq_some_iff]
  constructor
  · intro h
    obtain ⟨ts, hts, b, hb, h⟩ := h
    split at h
    · cases h
      exact ⟨⟨ts, hts, hb⟩, ‹_›⟩
    · cases h
  · intro h
    obtain ⟨⟨ts, hts, hb⟩, hbounds⟩ := h
    exact ⟨ts, hts, a, hb, if_pos hbounds⟩

theorem read?_eq_some {a : Ast} (h : read? cs = some a) :
    readFrom false [] .start cs = some a ∧ a.depth ≤ maxDepth ∧ a.groupNames.Nodup :=
  read?_eq_some_iff.mp h

/-- A text that is grouped by itself is grouped the same in front of a closing parenthesis. If it
ends in an open comment the parenthesis is never read, whatever stands around. -/
theorem readFrom_append {a : Ast} (h : readFrom verbose modes g cs = some a)
    (hl : g.outer.length = modes.length) :
    ∃ g' : Grouping, g'.outer = [] ∧ g'.level.tree = a ∧
      ((∀ base outer tail, Inert tail →
          readFrom verbose (modes ++ base) (g.under outer) (cs ++ ')' :: tail) =
            (g'.under outer).tree?) ∨
        ∃ mode, ∀ base outer tail, Inert tail →
          readFrom verbose (modes ++ base) (g.under outer) (cs ++ ')' :: tail) =
            readFrom mode base (g'.under outer) (')' :: tail)) := by
  fun_induction Token.read verbose modes cs generalizing g with
  | case1 verbose modes cs hs =>
    obtain ⟨ho, ht⟩ := Grouping.tree?_eq_some_iff.mp ((readFrom_of_nil hs).symm.trans h)
    rw [ho] at hl
    obtain rfl : modes = [] := List.length_eq_zero_iff.mp hl.symm
    refine ⟨g, ho, ht, ?_⟩
    rcases skipSpace_append_of_nil hs with hr | hr
    · exact .inr ⟨verbose, fun _ _ tail hi =>
        readFrom_of_skipSpace_eq ((hr tail hi).trans (skipSpace_paren _ _).symm)⟩
    · exact .inl fun _ _ tail hi => readFrom_of_nil (hr tail hi)
  | case2 verbose modes cs c cs' hs hx =>
    rw [readFrom_of_next_eq_none hs hx] at h
    cases h
  | case3 =>
    rename_i verbose modes cs c cs' hs t rest hx mode ih
    rw [readFrom_of_next hs hx] at h
    obtain ⟨g1, hg, h⟩ := Option.bind_eq_some_iff.mp h
    have hl1 := Grouping.length_outer_step verbose hg hl
    rcases follows_next verbose c hx with hx1 | ⟨rfl, hx1⟩
    · have hnext : ∀ base outer tail, Inert tail →
          readFrom verbose (modes ++ base) (g.under outer) (cs ++ ')' :: tail) =
            readFrom (modeAfter verbose modes t).1 ((modeAfter verbose modes t).2 ++ base)
              (g1.under outer) (rest ++ ')' :: tail) := by
        intro base outer tail hi
        rw [readFrom_of_next (skipSpace_append hs _) (hx1 tail hi),
          Grouping.step_under hg outer, Grouping.modeAfter_append verbose hg hl base]
        rfl
      obtain ⟨g', ho, ht, hr⟩ := ih h hl1
      refine ⟨g', ho, ht, ?_⟩
      rcases hr with hr | ⟨mode', hr⟩
      · exact .inl fun base outer tail hi => (hnext base outer tail hi).trans (hr base outer tail hi)
      · exact .inr ⟨mode', fun base outer tail hi =>
          (hnext base outer tail hi).trans (hr base outer tail hi)⟩
    · obtain ⟨ho, ht⟩ := Grouping.tree?_eq_some_iff.mp ((readFrom_of_nil (skipSpace_nil _)).symm.trans h)
      refine ⟨g1, ho, ht, .inl fun base outer tail hi => ?_⟩
      rw [readFrom_of_next (skipSpace_append hs _) (hx1 tail hi), Grouping.step_under hg outer]
      exact readFrom_of_nil (skipSpace_nil _)

/-- The text between the parentheses of a group is read as a tree, and what follows the group is read
in the mode that was in force in front of it. -/
def FillsGroup (cs : List Char) (a : Ast) : Prop :=
  ∀ kind level outer mode modes tail, Inert tail →
    readFrom false (mode :: modes) ⟨.start, (kind, level) :: outer⟩ (cs ++ ')' :: tail) =
      readFrom mode modes ⟨level.add (.group kind a), outer⟩ tail

/-- The text leaves no group around it closed. -/
def SwallowsGroup (cs : List Char) : Prop :=
  ∀ kind level outer mode modes tail, Inert tail →
    readFrom false (mode :: modes) ⟨.start, (kind, level) :: outer⟩ (cs ++ ')' :: tail) = none

/-- A pattern that can be read by itself is the same in any group, or it can be in no group since it
ends in an open comment. -/
theorem fillsGroup_or_swallowsGroup {a : Ast} (h : readFrom false [] .start cs = some a) :
    FillsGroup cs a ∨ SwallowsGroup cs := by
  obtain ⟨g', ho, rfl, hr⟩ := readFrom_append h rfl
  have hu : ∀ o, g'.under o = ⟨g'.level, o⟩ := fun o => by rw [Grouping.under, ho, List.nil_append]
  rcases hr with hr | ⟨v, hr⟩
  · refine .inr fun kind level outer mode modes tail hi => ?_
    have hb := hr (mode :: modes) ((kind, level) :: outer) tail hi
    rw [hu] at hb
    exact hb
  · refine .inl fun kind level outer mode modes tail hi => ?_
    have hb := hr (mode :: modes) ((kind, level) :: outer) tail hi
    rw [hu, readFrom_of_next (t := .closing) (skipSpace_paren v tail) rfl] at hb
    exact hb

/-- Whether a pattern can be in a group is seen by putting it in one. -/
theorem fillsGroup_iff {a : Ast} (h : readFrom false [] .start cs = some a) :
    FillsGroup cs a ↔
      (readFrom false [] .start ('(' :: '?' :: ':' :: (cs ++ [')']))).isSome = true := by
  have hopen : readFrom false [] .start ('(' :: '?' :: ':' :: (cs ++ [')'])) =
      readFrom false [false] ⟨.start, [(.plain [], .start)]⟩ (cs ++ [')']) :=
    readFrom_of_next (t := .opening (.plain [])) rfl rfl
  rw [hopen]
  constructor
  · intro hf
    rw [hf _ _ _ _ _ _ inert_nil, readFrom_of_nil (skipSpace_nil _)]
    rfl
  · intro hsome
    refine (fillsGroup_or_swallowsGroup h).resolve_right fun hs => ?_
    rw [hs _ _ _ _ _ _ inert_nil] at hsome
    cases hsome

end Ast

end BuildLog.Regex

namespace BuildLog.Pattern

theorem compile_eq_ok {source : String} {p : Pattern} (h : compile source = .ok p) :
    ∃ a, Regex.Ast.read? source.toList = some a ∧ a.expr? = some p.expr := by
  rw [compile] at h
  split at h
  · cases h
  · rename_i e he
    split at h
    · cases h
    · cases h
      exact Option.bind_eq_some_iff.mp he

end BuildLog.Pattern
