/-! Computations that may fail, taken apart at a result. -/

namespace BuildLog

theorem ok_of_toOption {ε α : Type} {r : Except ε α} {a : α} (h : r.toOption = some a) :
    r = .ok a := by
  cases r with
  | error e => cases h
  | ok b => exact congrArg Except.ok (Option.some.inj h)

theorem exists_of_bind_eq_ok {ε α β : Type} {r : Except ε α} {f : α → Except ε β} {b : β}
    (h : r >>= f = .ok b) : ∃ a, r = .ok a ∧ f a = .ok b := by
  cases r with
  | error e => cases h
  | ok a => exact ⟨a, rfl, h⟩

theorem exists_of_map_eq_ok {ε α β : Type} {r : Except ε α} {f : α → β} {b : β}
    (h : r.map f = .ok b) : ∃ a, r = .ok a ∧ f a = b := by
  cases r with
  | error e => cases h
  | ok a => exact ⟨a, rfl, Except.ok.inj h⟩

theorem ok_of_mapError {ε ε' α : Type} {r : Except ε α} {f : ε → ε'} {a : α}
    (h : r.mapError f = .ok a) : r = .ok a := by
  cases r with
  | error e => cases h
  | ok b => exact congrArg Except.ok (Except.ok.inj h)

theorem exists_of_bind_eq_error {ε α β : Type} {r : Except ε α} {f : α → Except ε β} {e : ε}
    (h : r >>= f = .error e) : r = .error e ∨ ∃ a, r = .ok a ∧ f a = .error e := by
  cases r with
  | error e' =>
    obtain rfl : e' = e := Except.error.inj h
    exact .inl rfl
  | ok a => exact .inr ⟨a, rfl, h⟩

theorem exists_of_mapM_eq_error {ε α β : Type} {f : α → Except ε β} {as : List α} {e : ε}
    (h : as.mapM f = .error e) : ∃ a ∈ as, f a = .error e := by
  induction as with
  | nil => cases h
  | cons a as ih =>
    rw [List.mapM_cons] at h
    rcases exists_of_bind_eq_error h with ha | ⟨b, _, h⟩
    · exact ⟨a, List.mem_cons_self, ha⟩
    · rcases exists_of_bind_eq_error h with has | ⟨bs, _, h⟩
      · obtain ⟨x, hx, hfx⟩ := ih has
        exact ⟨x, List.mem_cons_of_mem a hx, hfx⟩
      · cases h

theorem mem_of_mapM_eq_ok {ε α β : Type} {f : α → Except ε β} {as : List α} {bs : List β}
    (h : as.mapM f = .ok bs) {b : β} (hb : b ∈ bs) : ∃ a ∈ as, f a = .ok b := by
  induction as generalizing bs with
  | nil =>
    obtain rfl : [] = bs := Except.ok.inj h
    cases hb
  | cons a as ih =>
    rw [List.mapM_cons] at h
    obtain ⟨c, ha, h⟩ := exists_of_bind_eq_ok h
    obtain ⟨cs, has, h⟩ := exists_of_bind_eq_ok h
    obtain rfl : c :: cs = bs := Except.ok.inj h
    rcases List.mem_cons.mp hb with rfl | hb
    · exact ⟨a, List.mem_cons_self, ha⟩
    · obtain ⟨x, hx, hfx⟩ := ih has hb
      exact ⟨x, List.mem_cons_of_mem a hx, hfx⟩

theorem exists_mem_of_mapM_eq_ok {ε α β : Type} {f : α → Except ε β} {as : List α} {bs : List β}
    (h : as.mapM f = .ok bs) {a : α} (ha : a ∈ as) : ∃ b ∈ bs, f a = .ok b := by
  induction as generalizing bs with
  | nil => cases ha
  | cons x as ih =>
    rw [List.mapM_cons] at h
    obtain ⟨c, hx, h⟩ := exists_of_bind_eq_ok h
    obtain ⟨cs, has, h⟩ := exists_of_bind_eq_ok h
    obtain rfl : c :: cs = bs := Except.ok.inj h
    rcases List.mem_cons.mp ha with rfl | ha
    · exact ⟨c, List.mem_cons_self, hx⟩
    · obtain ⟨b, hb, hfa⟩ := ih has ha
      exact ⟨b, List.mem_cons_of_mem c hb, hfa⟩

/-- The list can be told from the results if each entry can be told from its result. -/
theorem map_of_mapM_eq_ok {ε α β : Type} {f : α → Except ε β} {g : β → α} {as : List α}
    {bs : List β} (h : as.mapM f = .ok bs) (hg : ∀ a b, f a = .ok b → g b = a) :
    bs.map g = as := by
  induction as generalizing bs with
  | nil =>
    obtain rfl : [] = bs := Except.ok.inj h
    rfl
  | cons a as ih =>
    rw [List.mapM_cons] at h
    obtain ⟨b, ha, h⟩ := exists_of_bind_eq_ok h
    obtain ⟨cs, has, h⟩ := exists_of_bind_eq_ok h
    obtain rfl : b :: cs = bs := Except.ok.inj h
    rw [List.map_cons, hg a b ha, ih has]

theorem mapM_cons_eq_ok {ε α β : Type} {f : α → Except ε β} {a : α} {as : List α} {b : β}
    {bs : List β} (ha : f a = .ok b) (has : as.mapM f = .ok bs) :
    (a :: as).mapM f = .ok (b :: bs) := by
  rw [List.mapM_cons, ha, has]
  rfl

theorem exists_mapM_eq_ok {ε α β : Type} {f : α → Except ε β} {as : List α}
    (h : ∀ a ∈ as, ∃ b, f a = .ok b) : ∃ bs, as.mapM f = .ok bs := by
  induction as with
  | nil => exact ⟨[], rfl⟩
  | cons a as ih =>
    obtain ⟨b, hb⟩ := h a List.mem_cons_self
    obtain ⟨bs, hbs⟩ := ih fun x hx => h x (List.mem_cons_of_mem a hx)
    exact ⟨b :: bs, mapM_cons_eq_ok hb hbs⟩

/-- The order of a list decides about the order of the results only. -/
theorem exists_perm_of_mapM_eq_ok {ε α β : Type} {f : α → Except ε β} {as as' : List α}
    {bs : List β} (hp : as.Perm as') (h : as.mapM f = .ok bs) :
    ∃ bs', as'.mapM f = .ok bs' ∧ bs.Perm bs' := by
  induction hp generalizing bs with
  | nil => exact ⟨bs, h, .refl bs⟩
  | cons a _ ih =>
    rw [List.mapM_cons] at h
    obtain ⟨b, ha, h⟩ := exists_of_bind_eq_ok h
    obtain ⟨cs, has, h⟩ := exists_of_bind_eq_ok h
    obtain rfl : b :: cs = bs := Except.ok.inj h
    obtain ⟨cs', has', hcs⟩ := ih has
    exact ⟨b :: cs', mapM_cons_eq_ok ha has', hcs.cons b⟩
  | swap a a' as =>
    rw [List.mapM_cons, List.mapM_cons] at h
    obtain ⟨b', ha', h⟩ := exists_of_bind_eq_ok h
    obtain ⟨cs, hmore, h⟩ := exists_of_bind_eq_ok h
    obtain ⟨b, ha, hmore⟩ := exists_of_bind_eq_ok hmore
    obtain ⟨more, has, hmore⟩ := exists_of_bind_eq_ok hmore
    obtain rfl : b :: more = cs := Except.ok.inj hmore
    obtain rfl : b' :: b :: more = bs := Except.ok.inj h
    exact ⟨b :: b' :: more, mapM_cons_eq_ok ha (mapM_cons_eq_ok ha' has), .swap b b' more⟩
  | trans _ _ ih ih' =>
    obtain ⟨cs, hcs, hp⟩ := ih h
    obtain ⟨cs', hcs', hp'⟩ := ih' hcs
    exact ⟨cs', hcs', hp.trans hp'⟩

/-- A list is read as it was written if each of its entries is. -/
theorem mapM_map_of_read_mem {α β γ : Type} {write : α → β} {read? : β → Option γ} {g : α → γ}
    {as : List α} (h : ∀ a ∈ as, read? (write a) = some (g a)) :
    (as.map write).mapM read? = some (as.map g) := by
  induction as with
  | nil => rfl
  | cons a as ih =>
    obtain ⟨ha, has⟩ := List.forall_mem_cons.mp h
    rw [List.map_cons, List.mapM_cons, ha, ih has]
    rfl

theorem mapM_map_of_read {α β : Type} {write : α → β} {read? : β → Option α}
    (h : ∀ a, read? (write a) = some a) (as : List α) : (as.map write).mapM read? = some as := by
  rw [mapM_map_of_read_mem (g := id) fun a _ => h a, List.map_id]

end BuildLog
