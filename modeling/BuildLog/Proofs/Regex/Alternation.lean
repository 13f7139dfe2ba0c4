import BuildLog.Proofs.Regex.Sequence
import Mathlib.Data.List.SplitBy

/-! What an alternation reaches. Merging characters into a class and putting what all branches begin
with in front of them changes the order of the matches at most: an alternation reaches what one of
its branches reaches. -/

namespace BuildLog.Regex

namespace Expr

variable {text : Array Char} {i : Nat} {a : Arrival} {e : Expr} {es : List Expr}

theorem common_prefix_left (ps qs : List (List Expr)) : common ps qs <+: ps := by
  induction ps generalizing qs with
  | nil => exact List.nil_prefix
  | cons p ps ih =>
    cases qs with
    | nil => exact List.nil_prefix
    | cons q qs =>
      rw [common]
      split
      · exact (List.prefix_cons_inj p).mpr (ih qs)
      · exact List.nil_prefix

theorem common_prefix_right (ps qs : List (List Expr)) : common ps qs <+: qs := by
  induction ps generalizing qs with
  | nil => exact List.nil_prefix
  | cons p ps ih =>
    cases qs with
    | nil => exact List.nil_prefix
    | cons q qs =>
      rw [common]
      split
      · rename_i h
        rw [h.1]
        exact (List.prefix_cons_inj q).mpr (ih qs)
      · exact List.nil_prefix

theorem foldl_common_prefix (ps : List (List Expr)) (rest : List (List (List Expr))) :
    ∀ qs ∈ ps :: rest, rest.foldl common ps <+: qs := by
  induction rest generalizing ps with
  | nil =>
    intro qs hqs
    obtain rfl := List.mem_singleton.mp hqs
    exact List.prefix_rfl
  | cons rs rest ih =>
    obtain ⟨hcommon, hrest⟩ := List.forall_mem_cons.mp (ih (common ps rs))
    have hps := hcommon.trans (common_prefix_left ps rs)
    have hrs := hcommon.trans (common_prefix_right ps rs)
    exact List.forall_mem_cons.mpr ⟨hps, List.forall_mem_cons.mpr ⟨hrs, hrest⟩⟩

theorem beginning_prefix (he : e ∈ es) : beginning es <+: e.pieces := by
  have hmem : e.pieces ∈ es.map pieces := List.mem_map_of_mem he
  rw [beginning]
  cases hes : es.map pieces with
  | nil => exact List.nil_prefix
  | cons ps rest =>
    simp only
    split
    · exact foldl_common_prefix ps rest e.pieces (hes ▸ hmem)
    · exact List.nil_prefix

/-- Every branch is what all begin with and then what is left of it. -/
theorem parts_eq_beginning_append (he : e ∈ es) :
    e.parts = (beginning es).flatten ++ (e.pieces.drop (beginning es).length).flatten := by
  obtain ⟨tail, htail⟩ := beginning_prefix he
  have hparts : e.pieces.flatten = e.parts := List.flatten_splitBy _ _
  rw [← hparts, ← htail, List.drop_left, List.flatten_append]

theorem reaches_parts : (chain e.parts).Reaches text i a ↔ e.Reaches text i a := by
  induction e generalizing i a with
  | empty => exact Iff.rfl
  | set s => exact Iff.rfl
  | look l => exact Iff.rfl
  | seq x y ihx ihy =>
    rw [parts, reaches_chain_append]
    simp only [ihx, ihy]
    exact Iff.rfl
  | alt x y => exact Iff.rfl
  | group name x => exact Iff.rfl
  | rep x min max greedy => exact Iff.rfl

theorem exists_mem_branches : (∃ b ∈ e.branches, b.Reaches text i a) ↔ e.Reaches text i a := by
  induction e with
  | alt x y ihx ihy =>
    simp only [branches, List.mem_append, or_and_right, exists_or, ihx, ihy]
    exact Iff.rfl
  | _ => simp [branches]

theorem exists_mem_flatMap_branches (f : Expr → Expr) :
    (∃ b ∈ (es.map f).flatMap branches, b.Reaches text i a) ↔
      ∃ e ∈ es, (f e).Reaches text i a := by
  simp only [List.mem_flatMap, List.mem_map]
  constructor
  · intro h
    obtain ⟨b, ⟨_, ⟨e, he, rfl⟩, hb⟩, h⟩ := h
    exact ⟨e, he, exists_mem_branches.mp ⟨b, hb, h⟩⟩
  · intro h
    obtain ⟨e, he, h⟩ := h
    obtain ⟨b, hb, h⟩ := exists_mem_branches.mpr h
    exact ⟨b, ⟨_, ⟨e, he, rfl⟩, hb⟩, h⟩

theorem reaches_alternation : (alternation es).Reaches text i a ↔ ∃ e ∈ es, e.Reaches text i a := by
  induction es with
  | nil => simp [alternation, Reaches]
  | cons e es ih =>
    cases es with
    | nil => simp [alternation]
    | cons e' es =>
      rw [alternation, Reaches, ih]
      exact (List.exists_mem_cons_iff (fun x : Expr => x.Reaches text i a) e (e' :: es)).symm

theorem contains_foldl_union (sets : List CharSet) (s : CharSet) (c : Char) :
    (sets.foldl .union s).contains c = (s.contains c || sets.any (·.contains c)) := by
  induction sets generalizing s with
  | nil => simp
  | cons t sets ih => rw [List.foldl_cons, ih, CharSet.contains_union, List.any_cons, Bool.or_assoc]

/-- Sets that a choice is between are one set. -/
theorem reaches_union (hes : ∀ e ∈ es, e = .set e.chars) :
    (Expr.set ((es.map chars).foldl .union .empty)).Reaches text i a ↔
      ∃ e ∈ es, e.Reaches text i a := by
  have hcontains : ∀ c, ((es.map chars).foldl .union CharSet.empty).contains c = true ↔
      ∃ e ∈ es, e.chars.contains c = true := by
    intro c
    rw [contains_foldl_union]
    simp
  constructor
  · intro h
    obtain ⟨⟨c, hc, hset⟩, rfl⟩ := h
    obtain ⟨e, he, hchars⟩ := (hcontains c).mp hset
    refine ⟨e, he, ?_⟩
    rw [hes e he]
    exact ⟨⟨c, hc, hchars⟩, rfl⟩
  · intro h
    obtain ⟨e, he, h⟩ := h
    rw [hes e he] at h
    obtain ⟨⟨c, hc, hset⟩, rfl⟩ := h
    exact ⟨⟨c, hc, (hcontains c).mpr ⟨e, he, hset⟩⟩, rfl⟩

theorem eq_set_of_isChar_or_isClass (h : e.isChar = true ∨ e.isClass = true) :
    e = .set e.chars := by
  cases e with
  | set s => rfl
  | _ => rcases h with h | h <;> cases h

theorem reaches_choice : (choice es).Reaches text i a ↔ ∃ e ∈ es, e.Reaches text i a := by
  rw [choice]
  split
  · rename_i h
    rcases Bool.or_eq_true_iff.mp h with h | h
    · exact reaches_union fun e he =>
        eq_set_of_isChar_or_isClass (.inl (List.all_eq_true.mp h e he))
    · exact reaches_union fun e he =>
        eq_set_of_isChar_or_isClass (.inr (List.all_eq_true.mp h e he))
  · exact reaches_alternation

/-- A branch goes on with what is left of it from where what all begin with arrives. -/
theorem reaches_iff_beginning (he : e ∈ es) : e.Reaches text i a ↔
    ∃ b c, (chain (beginning es).flatten).Reaches text i b ∧
      (rest (beginning es).length e).Reaches text b.stop c ∧ a = b.after c := by
  rw [← reaches_parts, parts_eq_beginning_append he, reaches_chain_append]
  exact Iff.rfl

theorem reaches_lifted : (lifted es).Reaches text i a ↔ ∃ e ∈ es, e.Reaches text i a := by
  rw [lifted]
  split
  · exact reaches_choice
  · have hrests : ∀ {j c},
        (chain [choice ((es.map (rest (beginning es).length)).flatMap branches)]).Reaches text j c ↔
          ∃ e ∈ es, (rest (beginning es).length e).Reaches text j c := fun {_ _} =>
      reaches_choice.trans (exists_mem_flatMap_branches _)
    rw [reaches_chain_append]
    constructor
    · intro h
      obtain ⟨b, c, hb, hc, rfl⟩ := h
      obtain ⟨e, he, hc⟩ := hrests.mp hc
      exact ⟨e, he, (reaches_iff_beginning he).mpr ⟨b, c, hb, hc, rfl⟩⟩
    · intro h
      obtain ⟨e, he, h⟩ := h
      obtain ⟨b, c, hb, hc, rfl⟩ := (reaches_iff_beginning he).mp h
      exact ⟨b, c, hb, hrests.mpr ⟨e, he, hc⟩, rfl⟩

theorem reaches_canonical (text : Array Char) (e : Expr) :
    e.canonical.Reaches text = e.Reaches text := by
  induction e with
  | empty => rfl
  | set s =>
    funext i a
    simp only [canonical, Reaches, CharSet.contains_normalize]
  | look l => rfl
  | seq x y ihx ihy =>
    funext i a
    refine propext ?_
    rw [canonical, reaches_chain_append]
    simp only [reaches_parts, ihx, ihy]
    exact Iff.rfl
  | alt x y ihx ihy =>
    funext i a
    simp only [canonical, Reaches, ihx, ihy]
  | group name x ih =>
    funext i a
    cases name <;> simp only [canonical, Reaches, ih]
  | rep x min max greedy ih =>
    funext i a
    simp only [canonical, Reaches, ih]

/-- An alternation reaches what one of its branches reaches. -/
theorem reaches_oneOf : (oneOf es).Reaches text i a ↔ ∃ e ∈ es, e.Reaches text i a := by
  have hall : (lifted ((es.map canonical).flatMap branches)).Reaches text i a ↔
      ∃ e ∈ es, e.Reaches text i a := by
    rw [reaches_lifted, exists_mem_flatMap_branches]
    simp only [reaches_canonical]
  match es with
  | [] => exact hall
  | [e] => simp [oneOf]
  | e :: e' :: es => exact hall

/-- What the branches begin with is read before it is decided between them. -/
example :
    let any : Expr := .rep (.set .all) 0 none true
    oneOf [.seq any (.set (.single '9')), .seq any (.set (.single 'e'))] =
      .seq any (.set ⟨[⟨0x39, 0x39⟩, ⟨0x65, 0x65⟩]⟩) := by
  decide +kernel

end Expr

/-- An alternation in a pattern reaches what one of its sides reaches, the second one under the flags
that the first one leaves behind it. -/
theorem Ast.reaches_resolve_alt {f g : Flags} {a b : Ast} {e : Expr} {text : Array Char}
    (h : (Ast.alt a b).resolve f = some (e, g)) : ∃ x y f', a.resolve f = some (x, f') ∧
      b.resolve f' = some (y, g) ∧
      ∀ i r, e.Reaches text i r ↔ x.Reaches text i r ∨ y.Reaches text i r := by
  obtain ⟨⟨es, _⟩, hes, hr⟩ := Option.map_eq_some_iff.mp h
  obtain ⟨⟨as, f'⟩, has, hes⟩ := Option.bind_eq_some_iff.mp hes
  obtain ⟨⟨bs, _⟩, hbs, hes⟩ := Option.bind_eq_some_iff.mp hes
  cases hes
  cases hr
  refine ⟨.oneOf as, .oneOf bs, f', by simp [resolve, has], by simp [resolve, hbs], fun i r => ?_⟩
  rw [Expr.reaches_oneOf, List.exists_mem_cons_iff, ← Expr.reaches_oneOf]

end BuildLog.Regex
