import BuildLog.Proofs.Text.Utf8

/-! What bytes are decoded to, whatever they are. A character is read from its encoding. Where there
is none, the longest start of one is given up, or a byte that starts none. -/

namespace BuildLog.Utf8

/-- Bytes that the encoding of a character starts with. -/
def IsStart (part : List UInt8) : Prop :=
  ∃ c, part <+: String.utf8EncodeChar c

/-- The bytes that are given up in front of others. -/
structure GivenUp (part rest : List UInt8) : Prop where
  unread : ∀ c, ¬ String.utf8EncodeChar c <+: part ++ rest
  longest : ∀ start, start <+: part ++ rest → IsStart start → start.length ≤ part.length
  subpart : IsStart part ∨ part.length = 1
  ne_nil : part ≠ []

/-- A part of the bytes and what is decoded from it. -/
def Stands (part rest : List UInt8) : Option Char → Prop
  | some c => part = String.utf8EncodeChar c
  | none => GivenUp part rest

inductive Decodes : List UInt8 → List (Option Char) → Prop where
  | nil : Decodes [] []
  | cons {part rest : List UInt8} {c : Option Char} {cs : List (Option Char)} :
      Stands part rest c → Decodes rest cs → Decodes (part ++ rest) (c :: cs)

theorem toNat_val_ofNat {n : Nat} (h : n.isValidChar) : (Char.ofNat n).val.toNat = n := by
  rw [Char.ofNat, dif_pos h]
  exact UInt32.toNat_ofNatLT ..

theorem ofNat_eq_of_toNat {n : Nat} {b : UInt8} (h : n = b.toNat) : UInt8.ofNat n = b := by
  rw [h, UInt8.ofNat_toNat]

/-- However the bytes begun are continued within the bounds, the character read is the one that
these bytes encode. -/
def Leads (lowest highest : Nat) : Nat → Nat → List UInt8 → Prop
  | 0, value, begun => ∀ b : UInt8, 0x80 + lowest ≤ b.toNat → b.toNat ≤ 0x80 + highest →
      String.utf8EncodeChar (Char.ofNat (64 * value + (b.toNat - 0x80))) = begun ++ [b]
  | more + 1, value, begun => ∀ b : UInt8, 0x80 + lowest ≤ b.toNat → b.toNat ≤ 0x80 + highest →
      Leads 0 0x3F more (64 * value + (b.toNat - 0x80)) (begun ++ [b])

section

variable {a : UInt8} {lowest highest value : Nat}

theorem encodeChar_ascii (h : a.toNat < 0x80) :
    String.utf8EncodeChar (Char.ofNat a.toNat) = [a] := by
  have hv := toNat_val_ofNat (n := a.toNat) (.inl (by omega))
  simp only [String.utf8EncodeChar, hv]
  rw [if_pos (by omega), UInt8.ofNat_toNat]

theorem leads_two (h : a.toNat = 0xC0 + value ∧ 2 ≤ value ∧ value < 0x20) :
    Leads 0 0x3F 0 value [a] := by
  intro b hb hb'
  generalize hn : 64 * value + (b.toNat - 0x80) = n
  have hv := toNat_val_ofNat (n := n) (.inl (by omega))
  simp only [String.utf8EncodeChar, hv]
  rw [if_neg (by omega), if_pos (by omega)]
  simp only [List.cons_append, List.nil_append, List.cons.injEq, and_true]
  exact ⟨ofNat_eq_of_toNat (by omega), ofNat_eq_of_toNat (by omega)⟩

/-- The bounds keep out what has a shorter encoding, and the surrogates. -/
theorem leads_three (h : a.toNat = 0xE0 + value ∧ value < 0x10 ∧ highest ≤ 0x3F)
    (hbounds : (value = 0 → 0x20 ≤ lowest) ∧ (value = 0xD → highest ≤ 0x1F)) :
    Leads lowest highest 1 value [a] := by
  intro b hb hb' c hc hc'
  generalize hn : 64 * (64 * value + (b.toNat - 0x80)) + (c.toNat - 0x80) = n
  have hv := toNat_val_ofNat (n := n) (show n < 0xD800 ∨ 0xDFFF < n ∧ n < 0x110000 by omega)
  simp only [String.utf8EncodeChar, hv]
  rw [if_neg (by omega), if_neg (by omega), if_pos (by omega)]
  simp only [List.cons_append, List.nil_append, List.cons.injEq, and_true]
  exact ⟨ofNat_eq_of_toNat (by omega), ofNat_eq_of_toNat (by omega), ofNat_eq_of_toNat (by omega)⟩

theorem leads_four (h : a.toNat = 0xF0 + value ∧ value < 5 ∧ highest ≤ 0x3F)
    (hbounds : (value = 0 → 0x10 ≤ lowest) ∧ (value = 4 → highest ≤ 0x0F)) :
    Leads lowest highest 2 value [a] := by
  intro b hb hb' c hc hc' d hd hd'
  generalize hn : 64 * (64 * (64 * value + (b.toNat - 0x80)) + (c.toNat - 0x80)) +
    (d.toNat - 0x80) = n
  have hv := toNat_val_ofNat (n := n) (show n < 0xD800 ∨ 0xDFFF < n ∧ n < 0x110000 by omega)
  simp only [String.utf8EncodeChar, hv]
  rw [if_neg (by omega), if_neg (by omega), if_neg (by omega)]
  simp only [List.cons_append, List.nil_append, List.cons.injEq, and_true]
  exact ⟨ofNat_eq_of_toNat (by omega), ofNat_eq_of_toNat (by omega), ofNat_eq_of_toNat (by omega),
    ofNat_eq_of_toNat (by omega)⟩

end

/-- A byte between two characters is one, cannot be read, or begins one. -/
theorem lead_cases (b : UInt8) :
    (∃ c, lead b = ([some c], .between) ∧ String.utf8EncodeChar c = [b]) ∨
    lead b = ([none], .between) ∨
    ∃ lowest highest more value, lead b = ([], .inside lowest highest more value) ∧
      Leads lowest highest more value [b] ∧ lowest ≤ highest ∧ highest ≤ 0x3F := by
  generalize hr : lead b = r
  simp only [lead] at hr
  repeat' split at hr
  all_goals subst hr
  · exact .inl ⟨_, rfl, encodeChar_ascii (by omega)⟩
  · exact .inr (.inl rfl)
  · exact .inr (.inr ⟨_, _, _, _, rfl, leads_two (by omega), by decide⟩)
  · exact .inr (.inr ⟨_, _, _, _, rfl, leads_three (by omega) (by omega), by decide⟩)
  · exact .inr (.inr ⟨_, _, _, _, rfl, leads_three (by omega) (by omega), by decide⟩)
  · exact .inr (.inr ⟨_, _, _, _, rfl, leads_three (by omega) (by omega), by decide⟩)
  · exact .inr (.inr ⟨_, _, _, _, rfl, leads_four (by omega) (by omega), by decide⟩)
  · exact .inr (.inr ⟨_, _, _, _, rfl, leads_four (by omega) (by omega), by decide⟩)
  · exact .inr (.inr ⟨_, _, _, _, rfl, leads_four (by omega) (by omega), by decide⟩)
  · exact .inr (.inl rfl)

theorem unread_of_decode {bytes : List UInt8} {cs : List (Option Char)}
    (h : decode bytes = none :: cs) (c : Char) : ¬ String.utf8EncodeChar c <+: bytes := by
  intro hc
  obtain ⟨rest, rfl⟩ := hc
  rw [decode_encodeChar] at h
  cases h

theorem IsStart.of_prefix {part start : List UInt8} (h : part <+: start) (hs : IsStart start) :
    IsStart part :=
  hs.imp fun _ hc => h.trans hc

theorem Leads.isStart {lowest highest more value : Nat} {begun : List UInt8}
    (h : Leads lowest highest more value begun) (hle : lowest ≤ highest)
    (hhighest : highest ≤ 0x3F) : IsStart begun := by
  induction more generalizing lowest highest value begun with
  | zero =>
    have hb := toNat_ofNat_lt (n := 0x80 + lowest) (by omega)
    exact ⟨_, _, (h (UInt8.ofNat (0x80 + lowest)) (by omega) (by omega)).symm⟩
  | succ more ih =>
    have hb := toNat_ofNat_lt (n := 0x80 + lowest) (by omega)
    have hnext := ih (h (UInt8.ofNat (0x80 + lowest)) (by omega) (by omega)) (by omega) (by omega)
    exact hnext.of_prefix (List.prefix_append _ _)

/-- The reader inside a character, with the bytes of it that were read. -/
structure Inside (lowest highest more value : Nat) (begun : List UInt8) : Prop where
  leads : Leads lowest highest more value begun
  le : lowest ≤ highest
  highest_le : highest ≤ 0x3F
  ne_nil : begun ≠ []
  reads : ∀ rest, decode (begun ++ rest) = decodeFrom (.inside lowest highest more value) rest

section

variable {lowest highest more value : Nat} {begun bytes : List UInt8} {b : UInt8}

theorem decodeFrom_broken (hb : ¬ (0x80 + lowest ≤ b.toNat ∧ b.toNat ≤ 0x80 + highest)) :
    decodeFrom (.inside lowest highest more value) (b :: bytes) = none :: decode (b :: bytes) := by
  rw [decodeFrom, step, if_neg hb]
  rfl

namespace Inside

theorem isStart (h : Inside lowest highest more value begun) : IsStart begun :=
  h.leads.isStart h.le h.highest_le

theorem onward (h : Inside lowest highest (more + 1) value begun)
    (hb : 0x80 + lowest ≤ b.toNat ∧ b.toNat ≤ 0x80 + highest) :
    Inside 0 0x3F more (64 * value + (b.toNat - 0x80)) (begun ++ [b]) where
  leads := h.leads b hb.1 hb.2
  le := by decide
  highest_le := by decide
  ne_nil := by simp
  reads := by
    intro rest
    rw [List.append_assoc, List.singleton_append, h.reads, decodeFrom_more rest hb]

theorem givenUp_end (h : Inside lowest highest more value begun) : GivenUp begun [] where
  unread := unread_of_decode (h.reads [])
  longest := by
    intro start hs _
    rw [List.append_nil] at hs
    exact hs.length_le
  subpart := .inl h.isStart
  ne_nil := h.ne_nil

/-- No character starts with the bytes begun and one that is out of bounds. -/
theorem not_isStart (h : Inside lowest highest more value begun)
    (hb : ¬ (0x80 + lowest ≤ b.toNat ∧ b.toNat ≤ 0x80 + highest)) : ¬ IsStart (begun ++ [b]) := by
  intro hs
  obtain ⟨c, rest, hc⟩ := hs
  rw [List.append_assoc, List.singleton_append] at hc
  have hbroken := (h.reads (b :: rest)).trans (decodeFrom_broken hb)
  exact unread_of_decode hbroken c (hc ▸ List.prefix_rfl)

theorem givenUp (h : Inside lowest highest more value begun)
    (hb : ¬ (0x80 + lowest ≤ b.toNat ∧ b.toNat ≤ 0x80 + highest)) :
    GivenUp begun (b :: bytes) where
  unread := unread_of_decode ((h.reads _).trans (decodeFrom_broken hb))
  longest := by
    intro start hs hstart
    refine Nat.le_of_not_lt fun hlonger => h.not_isStart hb (hstart.of_prefix ?_)
    have hlength : (begun ++ [b]).length ≤ start.length := by
      rw [List.length_append]
      exact hlonger
    refine List.prefix_of_prefix_length_le ⟨bytes, ?_⟩ hs hlength
    rw [List.append_assoc, List.singleton_append]
  subpart := .inl h.isStart
  ne_nil := h.ne_nil

theorem exists_part (h : Inside lowest highest more value begun) (bytes : List UInt8) :
    ∃ part rest c, begun ++ bytes = part ++ rest ∧ Stands part rest c ∧
      decodeFrom (.inside lowest highest more value) bytes = c :: decode rest := by
  induction bytes generalizing lowest highest more value begun with
  | nil => exact ⟨begun, [], none, rfl, h.givenUp_end, rfl⟩
  | cons b bytes ih =>
    by_cases hb : 0x80 + lowest ≤ b.toNat ∧ b.toNat ≤ 0x80 + highest
    · cases more with
      | zero =>
        exact ⟨begun ++ [b], bytes, some _, by simp, (h.leads b hb.1 hb.2).symm,
          decodeFrom_last bytes hb⟩
      | succ more =>
        obtain ⟨part, rest, c, hpart, hstands, hrest⟩ := ih (h.onward hb)
        rw [List.append_assoc, List.singleton_append] at hpart
        exact ⟨part, rest, c, hpart, hstands, (decodeFrom_more bytes hb).trans hrest⟩
    · exact ⟨begun, b :: bytes, none, rfl, h.givenUp hb, decodeFrom_broken hb⟩

end Inside

theorem decode_of_read {out : Option Char} (h : lead b = ([out], .between)) (bytes : List UInt8) :
    decode (b :: bytes) = out :: decode bytes := by
  rw [decode, decodeFrom, step, h]
  rfl

theorem givenUp_of_lead (h : lead b = ([none], .between)) : GivenUp [b] bytes where
  unread := unread_of_decode (decode_of_read h bytes)
  longest := by
    intro start hs hstart
    cases start with
    | nil => exact Nat.zero_le _
    | cons a start =>
      obtain ⟨rfl, -⟩ := List.cons_prefix_cons.mp hs
      obtain ⟨c, rest, hc⟩ := hstart
      have hread := unread_of_decode (decode_of_read h (start ++ rest)) c
      exact absurd (hc ▸ List.prefix_rfl) hread
  subpart := .inr rfl
  ne_nil := List.cons_ne_nil b []

/-- What is decoded first stands for the bytes in front. -/
theorem exists_part (hne : bytes ≠ []) :
    ∃ part rest c, bytes = part ++ rest ∧ Stands part rest c ∧ decode bytes = c :: decode rest := by
  obtain ⟨b, bytes, rfl⟩ := List.exists_cons_of_ne_nil hne
  rcases lead_cases b with ⟨c, hl, hc⟩ | hl | ⟨lowest, highest, more, value, hl, hleads, hle, hh⟩
  · exact ⟨[b], bytes, some c, rfl, hc.symm, decode_of_read hl bytes⟩
  · exact ⟨[b], bytes, none, rfl, givenUp_of_lead hl, decode_of_read hl bytes⟩
  · have hinside : Inside lowest highest more value [b] :=
      ⟨hleads, hle, hh, List.cons_ne_nil b [], decode_of_lead hl⟩
    rw [decode_of_lead hl]
    exact hinside.exists_part bytes

end

theorem Stands.ne_nil {part rest : List UInt8} {c : Option Char} (h : Stands part rest c) :
    part ≠ [] := by
  cases c with
  | none => exact GivenUp.ne_nil h
  | some c =>
    intro he
    have hd := decode_encodeChar c []
    rw [← show part = String.utf8EncodeChar c from h, he] at hd
    cases hd

theorem decodes_decode (bytes : List UInt8) : Decodes bytes (decode bytes) := by
  induction hn : bytes.length using Nat.strongRecOn generalizing bytes with
  | ind n ih =>
    subst hn
    by_cases hne : bytes = []
    · rw [hne]
      exact .nil
    · obtain ⟨part, rest, c, rfl, hstands, hd⟩ := exists_part hne
      have hpart := List.length_pos_iff.mpr hstands.ne_nil
      rw [hd]
      exact .cons hstands (ih rest.length (by simp; omega) rest rfl)

theorem GivenUp.length_le {part rest part' rest' : List UInt8} (h : GivenUp part rest)
    (h' : GivenUp part' rest') (he : part' ++ rest' = part ++ rest) :
    part'.length ≤ part.length := by
  rcases h'.subpart with hs | hs
  · exact h.longest part' (he ▸ List.prefix_append _ _) hs
  · rw [hs]
    exact List.length_pos_iff.mpr h.ne_nil

theorem GivenUp.decode_append {part rest : List UInt8} (h : GivenUp part rest) :
    decode (part ++ rest) = none :: decode rest := by
  have hne : part ++ rest ≠ [] := by simp [h.ne_nil]
  obtain ⟨part', rest', c, he, hstands, hd⟩ := exists_part hne
  cases c with
  | some c => exact absurd ⟨rest', by rw [he, show part' = _ from hstands]⟩ (h.unread c)
  | none =>
    have hlength := Nat.le_antisymm (h.length_le hstands he.symm) (GivenUp.length_le hstands h he)
    obtain ⟨-, rfl⟩ := List.append_inj he hlength.symm
    exact hd

/-- Bytes are decoded by this rule, and the rule leaves no choice. -/
theorem decodes_iff {bytes : List UInt8} {cs : List (Option Char)} :
    Decodes bytes cs ↔ cs = decode bytes := by
  constructor
  · intro h
    induction h with
    | nil => rfl
    | @cons part rest c cs hstands _ ih =>
      cases c with
      | none => rw [ih, GivenUp.decode_append hstands]
      | some c => rw [ih, show part = _ from hstands, decode_encodeChar]
  · rintro rfl
    exact decodes_decode bytes

/-! Validity. -/

theorem Decodes.exists_encode {bytes : List UInt8} {cs : List (Option Char)}
    (h : Decodes bytes cs) (hvalid : none ∉ cs) : ∃ text, encode text = bytes := by
  induction h with
  | nil => exact ⟨[], rfl⟩
  | @cons part rest c cs hstands _ ih =>
    rw [List.mem_cons, not_or] at hvalid
    cases c with
    | none => exact absurd rfl hvalid.1
    | some c =>
      obtain ⟨text, rfl⟩ := ih hvalid.2
      exact ⟨c :: text, by rw [show part = _ from hstands]; rfl⟩

/-- A text is valid if and only if it is the encoding of some characters. -/
theorem isValid_iff {bytes : List UInt8} : isValid bytes = true ↔ ∃ cs, encode cs = bytes := by
  constructor
  · intro h
    refine (decodes_decode bytes).exists_encode fun hnone => ?_
    exact Bool.false_ne_true (List.all_eq_true.mp h none hnone)
  · intro h
    obtain ⟨cs, rfl⟩ := h
    exact isValid_encode cs

theorem lossy_eq_nil_iff {bytes : List UInt8} : lossy bytes = [] ↔ bytes = [] := by
  constructor
  · intro h
    have hd := decodes_decode bytes
    rw [List.map_eq_nil_iff.mp h] at hd
    cases hd
    rfl
  · intro h
    rw [h]
    rfl

/-! Newlines. -/

theorem decodeFrom_append_newline (s : State) (bytes rest : List UInt8) :
    decodeFrom s (bytes ++ 0x0A :: rest) = decodeFrom s bytes ++ some '\n' :: decode rest := by
  induction bytes generalizing s with
  | nil => exact decodeFrom_newline s rest
  | cons b bytes ih => rw [List.cons_append, decodeFrom, ih, ← List.append_assoc, ← decodeFrom]

theorem lossy_append_newline (bytes rest : List UInt8) :
    lossy (bytes ++ 0x0A :: rest) = lossy bytes ++ '\n' :: lossy rest := by
  rw [lossy, decode, decodeFrom_append_newline, List.map_append, List.map_cons]
  rfl

theorem Decodes.newline_mem {bytes : List UInt8} {cs : List (Option Char)} (h : Decodes bytes cs)
    (hm : some '\n' ∈ cs) : 0x0A ∈ bytes := by
  induction h with
  | nil => cases hm
  | @cons part rest c cs hstands _ ih =>
    rcases List.mem_cons.mp hm with rfl | hm
    · rw [show part = _ from hstands]
      exact List.mem_append_left rest (by decide)
    · exact List.mem_append_right part (ih hm)

theorem newline_mem_lossy_iff {bytes : List UInt8} : '\n' ∈ lossy bytes ↔ 0x0A ∈ bytes := by
  constructor
  · intro h
    obtain ⟨c, hc, hn⟩ := List.mem_map.mp h
    cases c with
    | none => exact absurd hn (by decide)
    | some c =>
      obtain rfl : c = '\n' := hn
      exact (decodes_decode bytes).newline_mem hc
  · intro h
    obtain ⟨front, rest, rfl⟩ := List.append_of_mem h
    rw [lossy_append_newline]
    exact List.mem_append_right _ List.mem_cons_self

theorem newline_mem_encode_iff {cs : List Char} : 0x0A ∈ encode cs ↔ '\n' ∈ cs := by
  rw [← newline_mem_lossy_iff, lossy_encode]

end BuildLog.Utf8
