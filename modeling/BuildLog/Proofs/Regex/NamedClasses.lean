import BuildLog.Proofs.Regex.Embedding

/-! The classes with a name between colons stand for characters of ASCII, so they do in every
pattern that can be read. -/

namespace BuildLog.Regex

/-- Whatever the tree names between colons is in ASCII. -/
def ClassTree.NamesAscii : ClassTree → Prop
  | .posix ranges _ => ∀ r ∈ ranges, r.2.toNat < 0x80
  | .bracket _ body => body.NamesAscii
  | .both a b => a.NamesAscii ∧ b.NamesAscii
  | .op _ a b => a.NamesAscii ∧ b.NamesAscii
  | _ => True

def Ast.NamesAscii : Ast → Prop
  | .cls t => t.NamesAscii
  | .group _ body => body.NamesAscii
  | .rep body _ _ _ => body.NamesAscii
  | .seq a b => a.NamesAscii ∧ b.NamesAscii
  | .alt a b => a.NamesAscii ∧ b.NamesAscii
  | _ => True

namespace Token

def NamesAscii : Token → Prop
  | .part a => a.NamesAscii
  | _ => True

variable {verbose : Bool} {cs rest : List Char} {t : ClassTree} {a : Ast}

theorem posixRanges?_ascii {name : String} {ranges : List (Char × Char)}
    (h : posixRanges? name = some ranges) : ∀ r ∈ ranges, r.2.toNat < 0x80 := by
  unfold posixRanges? at h
  split at h
  all_goals cases h
  all_goals decide

theorem namesAscii_posixClass? (h : posixClass? cs = some (t, rest)) : t.NamesAscii := by
  unfold posixClass? at h
  split at h
  · simp only at h
    split at h
    · obtain ⟨ranges, hranges, hr⟩ := Option.map_eq_some_iff.mp h
      cases hr
      exact posixRanges?_ascii hranges
    · cases h
  · cases h

theorem namesAscii_hexEscape {digits : Nat} (h : hexEscape verbose digits cs = some (a, rest)) :
    a.NamesAscii := by
  simp only [hexEscape] at h
  split at h <;> simp only [bind, Option.bind_eq_some_iff, pure, Option.some.injEq,
    Prod.mk.injEq, Prod.exists] at h
  · obtain ⟨_, _, _, _, _, _, _, rfl, _⟩ := h
    trivial
  · obtain ⟨_, _, _, _, _, rfl, _⟩ := h
    trivial

theorem namesAscii_propertyEscape {negated : Bool}
    (h : propertyEscape verbose negated cs = some (a, rest)) : a.NamesAscii := by
  simp only [propertyEscape] at h
  split at h
  · cases h
  · split at h
    · simp only [bind, Option.bind_eq_some_iff, pure, Option.some.injEq, Prod.mk.injEq,
        Prod.exists] at h
      obtain ⟨_, _, _, rfl, _⟩ := h
      trivial
    · split at h <;> cases h
      trivial

theorem namesAscii_boundaryEscape (h : boundaryEscape verbose cs = some (a, rest)) :
    a.NamesAscii := by
  unfold boundaryEscape at h
  split at h
  · split at h
    · cases h
    · split at h
      · simp only [bind, Option.bind_eq_some_iff, pure, Option.some.injEq, Prod.mk.injEq,
          Prod.exists] at h
        obtain ⟨_, _, _, _, _, rfl, _⟩ := h
        trivial
      · cases h
        trivial
  · cases h
    trivial

theorem namesAscii_escape (h : escape verbose cs = some (a, rest)) : a.NamesAscii := by
  unfold escape at h
  split at h
  · cases h
  · split at h
    any_goals exact namesAscii_hexEscape h
    any_goals exact namesAscii_propertyEscape h
    any_goals exact namesAscii_boundaryEscape h
    any_goals
      cases h
      trivial
    split at h <;> cases h
    trivial

theorem namesAscii_classFront (verbose : Bool) (cs : List Char) :
    ∀ t ∈ (classFront verbose cs).2.1, t.NamesAscii := by
  intro t ht
  unfold classFront at ht
  simp only at ht
  split at ht
  · obtain rfl := List.mem_singleton.mp ht
    trivial
  · obtain ⟨_, rfl⟩ := List.mem_replicate.mp ht
    trivial

theorem namesAscii_classMember (h : classMember verbose cs = some (t, rest)) : t.NamesAscii := by
  unfold classMember at h
  split at h
  · cases h
  · split at h
    · cases h
      trivial
    · rename_i hescape
      cases h
      exact namesAscii_escape hescape
    · cases h
  · cases h
    trivial

theorem namesAscii_classRange (h : classRange verbose cs = some (t, rest)) : t.NamesAscii := by
  simp only [classRange, bind, Option.bind_eq_some_iff, Prod.exists] at h
  obtain ⟨first, mid, hfirst, h⟩ := h
  split at h
  · cases h
  · split at h
    · cases h
      exact namesAscii_classMember hfirst
    · cases h
      exact namesAscii_classMember hfirst
    · simp only [Option.bind_eq_some_iff, Prod.exists] at h
      obtain ⟨last, tail, _, h⟩ := h
      split at h
      · split at h <;> cases h
        trivial
      · cases h
  · cases h
    exact namesAscii_classMember hfirst

theorem namesAscii_unionOf {ts : List ClassTree} (h : ∀ t ∈ ts, t.NamesAscii) :
    (unionOf ts).NamesAscii := by
  induction ts with
  | nil => trivial
  | cons t ts ih =>
    obtain ⟨ht, hts⟩ := List.forall_mem_cons.mp h
    cases ts with
    | nil => exact ht
    | cons u us => exact ⟨ht, ih hts⟩

def OpenClass.NamesAscii : OpenClass → Prop
  | .bracket outer _ => ∀ t ∈ outer, t.NamesAscii
  | .op _ first => first.NamesAscii

structure ClassState.NamesAscii (s : ClassState) : Prop where
  stack : ∀ o ∈ s.stack, o.NamesAscii
  members : ∀ t ∈ s.members, t.NamesAscii

def ClassStep.NamesAscii : ClassStep → Prop
  | .done t _ => t.NamesAscii
  | .more s _ => s.NamesAscii

namespace ClassState

variable {s : ClassState}

theorem NamesAscii.add (h : s.NamesAscii) (ht : t.NamesAscii) : (s.add t).NamesAscii :=
  ⟨h.stack, List.forall_mem_cons.mpr ⟨ht, h.members⟩⟩

theorem NamesAscii.operand (h : s.NamesAscii) :
    s.operand.1.NamesAscii ∧ ∀ o ∈ s.operand.2, o.NamesAscii := by
  have hunion : (unionOf s.members.reverse).NamesAscii :=
    namesAscii_unionOf fun t ht => h.members t (List.mem_reverse.mp ht)
  obtain ⟨stack, members⟩ := s
  unfold ClassState.operand
  split
  · rename_i hstack
    obtain ⟨hop, hbelow⟩ := List.forall_mem_cons.mp (hstack ▸ h.stack)
    exact ⟨⟨hop, hunion⟩, hbelow⟩
  · exact ⟨hunion, h.stack⟩

theorem NamesAscii.startOp (h : s.NamesAscii) (o : SetOp) : (s.startOp o).NamesAscii :=
  ⟨List.forall_mem_cons.mpr ⟨h.operand.1, h.operand.2⟩, List.forall_mem_nil _⟩

end ClassState

theorem namesAscii_classStep {s : ClassState} {r : ClassStep} (hs : s.NamesAscii)
    (h : classStep verbose s cs = some r) : r.NamesAscii := by
  unfold classStep at h
  split at h
  · cases h
  · split at h
    · rename_i hposix
      cases h
      exact hs.add (namesAscii_posixClass? hposix)
    · cases h
      exact ⟨List.forall_mem_cons.mpr ⟨hs.members, hs.stack⟩, namesAscii_classFront verbose _⟩
  · obtain ⟨hoperand, hstack⟩ := hs.operand
    split at h
    · rename_i heq
      cases h
      rw [heq] at hoperand
      exact hoperand
    · rename_i heq
      cases h
      rw [heq] at hoperand hstack
      obtain ⟨houter, hbelow⟩ := List.forall_mem_cons.mp hstack
      exact ⟨hbelow, List.forall_mem_cons.mpr ⟨hoperand, houter⟩⟩
    · cases h
  · cases h
    exact hs.startOp .inter
  · cases h
    exact hs.startOp .diff
  · cases h
    exact hs.startOp .symmDiff
  · obtain ⟨⟨t, rest⟩, hrange, rfl⟩ := Option.map_eq_some_iff.mp h
    exact hs.add (namesAscii_classRange hrange)

theorem namesAscii_classBody {s : ClassState} (hs : s.NamesAscii)
    (h : classBody verbose s cs = some (t, rest)) : t.NamesAscii := by
  fun_induction classBody verbose s cs with
  | case1 => cases h
  | case2 _ _ _ _ hstep =>
    cases h
    exact namesAscii_classStep hs hstep
  | case3 _ _ _ _ hstep ih => exact ih (namesAscii_classStep hs hstep) h

theorem namesAscii_bracketClass (h : bracketClass verbose cs = some (t, rest)) : t.NamesAscii := by
  refine namesAscii_classBody ⟨?_, namesAscii_classFront verbose cs⟩ h
  intro o ho
  obtain rfl := List.mem_singleton.mp ho
  exact List.forall_mem_nil _

theorem namesAscii_repToken (min : Nat) (max : Option Nat) (cs : List Char) :
    (repToken min max cs).1.NamesAscii := by
  unfold repToken
  split <;> trivial

theorem namesAscii_groupFront {token : Token} (h : groupFront verbose cs = some (token, rest)) :
    token.NamesAscii := by
  unfold groupFront at h
  split at h
  any_goals cases h
  · obtain ⟨_, _, hr⟩ := Option.map_eq_some_iff.mp h
    cases hr
    trivial
  · obtain ⟨_, _, hr⟩ := Option.map_eq_some_iff.mp h
    cases hr
    trivial
  · split at h
    · split at h
      · cases h
      · split at h
        · cases h
          trivial
        · split at h <;> cases h
          trivial
    · cases h
  · trivial

theorem namesAscii_next {c : Char} {token : Token} (h : next verbose c cs = some (token, rest)) :
    token.NamesAscii := by
  have hrep : ∀ {min max cs'}, repToken min max cs' = (token, rest) → token.NamesAscii :=
    fun {min max cs'} hr => by
      have := namesAscii_repToken min max cs'
      rwa [hr] at this
  unfold next at h
  split at h
  · exact namesAscii_groupFront h
  · cases h
    trivial
  · cases h
    trivial
  · obtain ⟨_, hclass, hr⟩ := Option.map_eq_some_iff.mp h
    cases hr
    exact namesAscii_bracketClass hclass
  · exact hrep (Option.some.inj h)
  · exact hrep (Option.some.inj h)
  · exact hrep (Option.some.inj h)
  · simp only [countedRep, bind, Option.bind_eq_some_iff, pure, Option.some.injEq,
      Prod.exists] at h
    obtain ⟨_, _, _, _, _, _, h⟩ := h
    exact hrep h
  · obtain ⟨_, hescape, hr⟩ := Option.map_eq_some_iff.mp h
    cases hr
    exact namesAscii_escape hescape
  all_goals
    cases h
    trivial

end Token

theorem Ast.namesAscii_ofParts {as : List Ast} (h : ∀ a ∈ as, a.NamesAscii) :
    (ofParts as).NamesAscii := by
  induction as with
  | nil => trivial
  | cons a as ih =>
    obtain ⟨ha, has⟩ := List.forall_mem_cons.mp h
    cases as with
    | nil => exact ha
    | cons b bs => exact ⟨ha, ih has⟩

theorem Ast.namesAscii_ofBranches {a : Ast} {as : List Ast} (ha : a.NamesAscii)
    (h : ∀ a ∈ as, a.NamesAscii) : (ofBranches a as).NamesAscii := by
  induction as generalizing a with
  | nil => exact ha
  | cons b bs ih =>
    obtain ⟨hb, hbs⟩ := List.forall_mem_cons.mp h
    exact ⟨ha, ih hb hbs⟩

structure Level.NamesAscii (l : Level) : Prop where
  branches : ∀ a ∈ l.branches, a.NamesAscii
  parts : ∀ a ∈ l.parts, a.NamesAscii

namespace Level

variable {l l' : Level} {a : Ast}

theorem NamesAscii.add (h : l.NamesAscii) (ha : a.NamesAscii) : (l.add a).NamesAscii :=
  ⟨h.branches, List.forall_mem_cons.mpr ⟨ha, h.parts⟩⟩

theorem NamesAscii.branch (h : l.NamesAscii) : l.branch.NamesAscii :=
  Ast.namesAscii_ofParts fun a ha => h.parts a (List.mem_reverse.mp ha)

theorem NamesAscii.endBranch (h : l.NamesAscii) : l.endBranch.NamesAscii :=
  ⟨List.forall_mem_cons.mpr ⟨h.branch, h.branches⟩, List.forall_mem_nil _⟩

theorem NamesAscii.tree (h : l.NamesAscii) : l.tree.NamesAscii := by
  have hall : ∀ a ∈ (l.branch :: l.branches).reverse, a.NamesAscii := fun a ha =>
    List.forall_mem_cons.mpr ⟨h.branch, h.branches⟩ a (List.mem_reverse.mp ha)
  unfold Level.tree
  split
  · trivial
  · rename_i heq
    rw [heq] at hall
    obtain ⟨ha, has⟩ := List.forall_mem_cons.mp hall
    exact Ast.namesAscii_ofBranches ha has

theorem NamesAscii.repeatLast {min : Nat} {max : Option Nat} {greedy : Bool} (h : l.NamesAscii)
    (hl : l.repeatLast min max greedy = some l') : l'.NamesAscii := by
  unfold Level.repeatLast at hl
  split at hl
  · cases hl
  · cases hl
  · rename_i heq
    cases hl
    obtain ⟨ha, has⟩ := List.forall_mem_cons.mp (heq ▸ h.parts)
    exact ⟨h.branches, List.forall_mem_cons.mpr ⟨ha, has⟩⟩

end Level

structure Grouping.NamesAscii (g : Grouping) : Prop where
  level : g.level.NamesAscii
  outer : ∀ o ∈ g.outer, o.2.NamesAscii

theorem Grouping.namesAscii_start : Grouping.start.NamesAscii :=
  ⟨⟨List.forall_mem_nil _, List.forall_mem_nil _⟩, List.forall_mem_nil _⟩

theorem Grouping.NamesAscii.step {g g' : Grouping} {t : Token} (h : g.NamesAscii)
    (ht : t.NamesAscii) (hg : g.step t = some g') : g'.NamesAscii := by
  cases t with
  | part a =>
    cases hg
    exact ⟨h.level.add ht, h.outer⟩
  | flags change =>
    cases hg
    exact ⟨h.level.add trivial, h.outer⟩
  | opening kind =>
    cases hg
    exact ⟨⟨List.forall_mem_nil _, List.forall_mem_nil _⟩,
      List.forall_mem_cons.mpr ⟨h.level, h.outer⟩⟩
  | closing =>
    obtain ⟨level, around⟩ := g
    cases around with
    | nil => cases hg
    | cons o os =>
      cases hg
      obtain ⟨ho, hos⟩ := List.forall_mem_cons.mp h.outer
      exact ⟨ho.add h.level.tree, hos⟩
  | bar =>
    cases hg
    exact ⟨h.level.endBranch, h.outer⟩
  | rep min max greedy =>
    obtain ⟨l, hl, rfl⟩ := Option.map_eq_some_iff.mp hg
    exact ⟨h.level.repeatLast hl, h.outer⟩

theorem Ast.namesAscii_readFrom {verbose : Bool} {modes : List Bool} {g : Grouping}
    {cs : List Char} {a : Ast} (hg : g.NamesAscii) (h : readFrom verbose modes g cs = some a) :
    a.NamesAscii := by
  fun_induction Token.read verbose modes cs generalizing g with
  | case1 verbose modes cs hs =>
    obtain ⟨_, rfl⟩ := Grouping.tree?_eq_some_iff.mp ((readFrom_of_nil hs).symm.trans h)
    exact hg.level.tree
  | case2 verbose modes cs c cs' hs hx =>
    rw [readFrom_of_next_eq_none hs hx] at h
    cases h
  | case3 =>
    rename_i hs t rest hx mode ih
    rw [readFrom_of_next hs hx] at h
    obtain ⟨g', hg', h⟩ := Option.bind_eq_some_iff.mp h
    exact ih (hg.step (Token.namesAscii_next hx) hg') h

theorem Ast.namesAscii_read? {cs : List Char} {a : Ast} (h : read? cs = some a) : a.NamesAscii :=
  namesAscii_readFrom Grouping.namesAscii_start (read?_eq_some h).1

end BuildLog.Regex
