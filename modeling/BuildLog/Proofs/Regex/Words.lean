import BuildLog.Proofs.Regex.Reach

/-! The words that an expression takes, for expressions that neither look around nor hold groups. -/

namespace BuildLog.Regex

/-- So many words of a language, one behind the other. -/
def Repeated (L : List Char → Prop) : Nat → List Char → Prop
  | 0, w => w = []
  | k + 1, w => ∃ u v, L u ∧ Repeated L k v ∧ w = u ++ v

/-- Words of one character each spell a text. -/
theorem repeated_singleton {p : Char → Prop} {k : Nat} {w : List Char} :
    Repeated (fun w => ∃ c, p c ∧ w = [c]) k w ↔ w.length = k ∧ ∀ c ∈ w, p c := by
  induction k generalizing w with
  | zero =>
    constructor
    · intro h
      obtain rfl : w = [] := h
      exact ⟨rfl, fun c hc => nomatch hc⟩
    · intro h
      obtain ⟨h, _⟩ := h
      exact List.length_eq_zero_iff.mp h
  | succ k ih =>
    constructor
    · intro h
      obtain ⟨u, v, ⟨c, hc, rfl⟩, hv, rfl⟩ := h
      obtain ⟨hl, hall⟩ := ih.mp hv
      exact ⟨congrArg Nat.succ hl, List.forall_mem_cons.mpr ⟨hc, hall⟩⟩
    · intro h
      obtain ⟨hl, hall⟩ := h
      cases w with
      | nil => cases hl
      | cons c v =>
        obtain ⟨hc, hv⟩ := List.forall_mem_cons.mp hall
        exact ⟨[c], v, ⟨c, hc, rfl⟩, ih.mpr ⟨Nat.succ.inj hl, hv⟩, rfl⟩

theorem Repeated.imp {L L' : List Char → Prop} (h : ∀ u, L u → L' u) {k : Nat} {w : List Char}
    (hw : Repeated L k w) : Repeated L' k w := by
  induction k generalizing w with
  | zero => exact hw
  | succ k ih =>
    obtain ⟨u, v, hu, hv, rfl⟩ := hw
    exact ⟨u, v, h u hu, ih hv, rfl⟩

/-- What holds of the characters of each word holds of all characters. -/
theorem Repeated.forall_mem {L : List Char → Prop} {P : Char → Prop}
    (h : ∀ u, L u → ∀ c ∈ u, P c) {k : Nat} {w : List Char} (hw : Repeated L k w) :
    ∀ c ∈ w, P c := by
  induction k generalizing w with
  | zero =>
    obtain rfl : w = [] := hw
    simp
  | succ k ih =>
    obtain ⟨u, v, hu, hv, rfl⟩ := hw
    intro c hc
    rcases List.mem_append.mp hc with hc | hc
    · exact h u hu c hc
    · exact ih hv c hc

theorem prefix_drop_append {u v text : List Char} {i : Nat} :
    u ++ v <+: text.drop i ↔ u <+: text.drop i ∧ v <+: text.drop (i + u.length) := by
  constructor
  · intro h
    obtain ⟨rest, h⟩ := h
    have hd := congrArg (List.drop u.length) h
    rw [List.append_assoc, List.drop_left, List.drop_drop] at hd
    exact ⟨⟨v ++ rest, by rw [← h, List.append_assoc]⟩, ⟨rest, hd⟩⟩
  · intro h
    obtain ⟨⟨rest, h⟩, hv⟩ := h
    have hd := congrArg (List.drop u.length) h
    rw [List.drop_left, List.drop_drop] at hd
    rw [← hd] at hv
    rw [← h]
    exact (List.prefix_append_right_inj u).mpr hv

theorem singleton_prefix_drop {c : Char} {text : List Char} {i : Nat} :
    [c] <+: text.drop i ↔ text[i]? = some c := by
  rw [← List.head?_drop]
  cases text.drop i with
  | nil => simp
  | cons d ds => simp [List.cons_prefix_cons, eq_comm]

/-- A step goes on by the words of a language, whatever follows them. -/
def Steps (text : List Char) (step : Nat → Arrival → Prop) (L : List Char → Prop) : Prop :=
  ∀ i a, step i a ↔ ∃ w, L w ∧ w <+: text.drop i ∧ a = ⟨i + w.length, []⟩

namespace Steps

variable {text : List Char} {p q : Nat → Arrival → Prop} {L M : List Char → Prop}

theorem stay (text : List Char) : Steps text (fun i a => a = ⟨i, []⟩) fun w => w = [] := by
  intro i a
  constructor
  · intro h
    subst h
    exact ⟨[], rfl, List.nil_prefix, rfl⟩
  · intro h
    obtain ⟨w, rfl, _, rfl⟩ := h
    rfl

theorem onward (hp : Steps text p L) (hq : Steps text q M) :
    Steps text (fun i a => ∃ b c, p i b ∧ q b.stop c ∧ a = b.after c)
      fun w => ∃ u v, L u ∧ M v ∧ w = u ++ v := by
  intro i a
  constructor
  · intro h
    obtain ⟨b, c, hb, hc, rfl⟩ := h
    obtain ⟨u, hu, hup, rfl⟩ := (hp i b).mp hb
    obtain ⟨v, hv, hvp, rfl⟩ := (hq (i + u.length) c).mp hc
    refine ⟨u ++ v, ⟨u, v, hu, hv, rfl⟩, prefix_drop_append.mpr ⟨hup, hvp⟩, ?_⟩
    rw [List.length_append, ← Nat.add_assoc]
    rfl
  · intro h
    obtain ⟨w, ⟨u, v, hu, hv, rfl⟩, hw, rfl⟩ := h
    obtain ⟨hup, hvp⟩ := prefix_drop_append.mp hw
    refine ⟨⟨i + u.length, []⟩, ⟨i + u.length + v.length, []⟩, ?_, ?_, ?_⟩
    · exact (hp i _).mpr ⟨u, hu, hup, rfl⟩
    · exact (hq _ _).mpr ⟨v, hv, hvp, rfl⟩
    · rw [List.length_append, ← Nat.add_assoc]
      rfl

theorem rounds (hp : Steps text p L) (k : Nat) : Steps text (Rounds p k) (Repeated L k) := by
  induction k with
  | zero => exact stay text
  | succ k ih => exact hp.onward ih

end Steps

namespace Expr

/-- The expression matches the words of a language, wherever it stands and whatever follows. -/
def Takes (e : Expr) (L : List Char → Prop) : Prop :=
  ∀ text : List Char, Steps text (e.Reaches text.toArray) L

variable {x y : Expr} {L M : List Char → Prop}

theorem Takes.congr (hx : x.Takes L) (h : ∀ w, L w ↔ M w) : x.Takes M := by
  obtain rfl : L = M := funext fun w => propext (h w)
  exact hx

theorem takes_empty : empty.Takes fun w => w = [] :=
  Steps.stay

theorem takes_set (s : CharSet) : (set s).Takes fun w => ∃ c, s.contains c = true ∧ w = [c] := by
  intro text i a
  constructor
  · intro h
    obtain ⟨⟨c, hc, hs⟩, rfl⟩ := h
    refine ⟨[c], ⟨c, hs, rfl⟩, singleton_prefix_drop.mpr ?_, rfl⟩
    simpa using hc
  · intro h
    obtain ⟨w, ⟨c, hs, rfl⟩, hw, rfl⟩ := h
    refine ⟨⟨c, ?_, hs⟩, rfl⟩
    simpa using singleton_prefix_drop.mp hw

theorem Takes.seq (hx : x.Takes L) (hy : y.Takes M) :
    (seq x y).Takes fun w => ∃ u v, L u ∧ M v ∧ w = u ++ v :=
  fun text => (hx text).onward (hy text)

theorem Takes.rep (hx : x.Takes L) (min : Nat) (max : Option Nat) (greedy : Bool) :
    (rep x min max greedy).Takes fun w =>
      ∃ k, (∀ m, max = some m → k ≤ m - min) ∧ Repeated L (min + k) w := by
  intro text i a
  constructor
  · intro h
    obtain ⟨k, hk, h⟩ := h
    obtain ⟨w, hw, hp, rfl⟩ := ((hx text).rounds (min + k) i a).mp h
    exact ⟨w, ⟨k, hk, hw⟩, hp, rfl⟩
  · intro h
    obtain ⟨w, ⟨k, hk, hw⟩, hp, rfl⟩ := h
    exact ⟨k, hk, ((hx text).rounds (min + k) i _).mpr ⟨w, hw, hp, rfl⟩⟩

/-- One character or more of a set. -/
theorem takes_oneOrMore (s : CharSet) :
    (rep (set s) 1 none true).Takes fun w => w ≠ [] ∧ ∀ c ∈ w, s.contains c = true := by
  refine ((takes_set s).rep 1 none true).congr fun w => ?_
  simp only [repeated_singleton]
  constructor
  · intro h
    obtain ⟨k, _, hlen, hall⟩ := h
    refine ⟨?_, hall⟩
    intro h
    simp [h] at hlen
    omega
  · intro h
    obtain ⟨hne, hall⟩ := h
    have hpos := List.length_pos_iff.mpr hne
    exact ⟨w.length - 1, by simp, by omega, hall⟩

/-- An expression spans the words that it takes. -/
theorem Takes.spans_iff (hx : x.Takes L) {text : List Char} {i j : Nat} :
    x.Spans text.toArray i j ↔ ∃ w, L w ∧ w <+: text.drop i ∧ j = i + w.length := by
  constructor
  · intro h
    obtain ⟨groups, h⟩ := h
    obtain ⟨w, hw, hp, hstop⟩ := (hx text i _).mp h
    exact ⟨w, hw, hp, congrArg Arrival.stop hstop⟩
  · intro h
    obtain ⟨w, hw, hp, rfl⟩ := h
    exact ⟨[], (hx text i _).mpr ⟨w, hw, hp, rfl⟩⟩

/-- Of the words in front of a text one has a given length. -/
theorem Takes.spans_append_iff (hx : x.Takes L) (front w rest : List Char) :
    x.Spans (front ++ (w ++ rest)).toArray front.length (front.length + w.length) ↔ L w := by
  rw [hx.spans_iff, List.drop_left]
  constructor
  · intro h
    obtain ⟨u, hu, hp, hlen⟩ := h
    have hprefix : u <+: w := List.prefix_of_prefix_length_le hp ⟨rest, rfl⟩ (by omega)
    have heq : u = w := hprefix.eq_of_length (by omega)
    exact heq ▸ hu
  · intro h
    exact ⟨w, h, ⟨rest, rfl⟩, rfl⟩

/-- An optional group of words that are not empty takes part in the match if it took one. -/
theorem Takes.optional (hx : x.Takes L) (hL : ¬ L []) (name : String) (text : List Char) (i : Nat)
    (a : Arrival) :
    (Expr.rep (.group (some name) x) 0 (some 1) true).Reaches text.toArray i a ↔
      ∃ w, (w = [] ∨ L w) ∧ w <+: text.drop i ∧
        a = ⟨i + w.length, if w = [] then [] else [⟨name, i, i + w.length⟩]⟩ := by
  constructor
  · intro h
    obtain ⟨k, hk, h⟩ := h
    have hle : k ≤ 1 := hk 1 rfl
    rw [Nat.zero_add] at h
    match k, hle with
    | 0, _ =>
      obtain rfl : a = ⟨i, []⟩ := h
      exact ⟨[], .inl rfl, List.nil_prefix, rfl⟩
    | 1, _ =>
      obtain ⟨b, c, ⟨d, hd, rfl⟩, hc, rfl⟩ := h
      obtain ⟨w, hw, hp, rfl⟩ := (hx text i d).mp hd
      obtain rfl : c = ⟨i + w.length, []⟩ := hc
      have hne : w ≠ [] := fun he => hL (he ▸ hw)
      refine ⟨w, .inr hw, hp, ?_⟩
      rw [if_neg hne]
      rfl
  · intro h
    obtain ⟨w, hw, hp, rfl⟩ := h
    by_cases hne : w = []
    · subst hne
      exact ⟨0, fun _ _ => Nat.zero_le _, rfl⟩
    · have hx' := (hx text i ⟨i + w.length, []⟩).mpr ⟨w, hw.resolve_left hne, hp, rfl⟩
      refine ⟨1, fun m hm => Option.some.inj hm ▸ Nat.le_refl 1, ?_⟩
      rw [if_neg hne]
      exact ⟨_, ⟨i + w.length, []⟩, ⟨_, hx', rfl⟩, rfl, rfl⟩

/-- Writing a repetition in a simpler form does not change what it matches. -/
theorem reaches_repeated {text : Array Char} {i : Nat} {a : Arrival} {min : Nat} {max : Option Nat}
    (hx : x.isEmptyOnly = false) (hmax : max ≠ some 0) (greedy : Bool) :
    (x.repeated min max greedy).Reaches text i a ↔ (Expr.rep x min max greedy).Reaches text i a := by
  rw [repeated]
  simp only [hx, Bool.false_eq_true, if_false]
  rw [if_neg hmax]
  by_cases h : min = 1 ∧ max = some 1
  · rw [if_pos h]
    obtain ⟨rfl, rfl⟩ := h
    constructor
    · intro ha
      exact ⟨0, fun _ _ => Nat.zero_le _, a, ⟨a.stop, []⟩, ha, rfl, rfl⟩
    · intro h
      obtain ⟨k, hk, ha⟩ := h
      obtain rfl : k = 0 := Nat.le_zero.mp (hk 1 rfl)
      obtain ⟨b, c, hb, hc, rfl⟩ := ha
      obtain rfl : c = ⟨b.stop, []⟩ := hc
      exact hb
  · rw [if_neg h]

end Expr

end BuildLog.Regex
