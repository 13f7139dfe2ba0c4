import BuildLog.Text.Utf8

/-! Decoding undoes encoding. -/

namespace BuildLog.Utf8

section

variable {b : UInt8} {lowest highest more value : Nat} (bytes : List UInt8)

theorem lead_ascii (h : b.toNat < 0x80) : lead b = ([some (Char.ofNat b.toNat)], .between) :=
  if_pos h

theorem lead_two (h : 0xC2 ≤ b.toNat ∧ b.toNat < 0xE0) :
    lead b = ([], .inside 0 0x3F 0 (b.toNat - 0xC0)) := by
  rw [lead, if_neg (by omega), if_neg (by omega), if_pos h.2]

theorem lead_three (h : 0xE0 ≤ b.toNat ∧ b.toNat < 0xF0) :
    lead b = ([], .inside (if b.toNat = 0xE0 then 0x20 else 0)
      (if b.toNat = 0xED then 0x1F else 0x3F) 1 (b.toNat - 0xE0)) := by
  rw [lead, if_neg (by omega), if_neg (by omega), if_neg (by omega)]
  by_cases hshorter : b.toNat = 0xE0
  · simp [hshorter]
  by_cases hsurrogate : b.toNat = 0xED
  · simp [hsurrogate]
  · simp [hshorter, hsurrogate, h.2]

theorem lead_four (h : 0xF0 ≤ b.toNat ∧ b.toNat < 0xF5) :
    lead b = ([], .inside (if b.toNat = 0xF0 then 0x10 else 0)
      (if b.toNat = 0xF4 then 0x0F else 0x3F) 2 (b.toNat - 0xF0)) := by
  rw [lead, if_neg (by omega), if_neg (by omega), if_neg (by omega), if_neg (by omega),
    if_neg (by omega), if_neg (by omega)]
  by_cases hshorter : b.toNat = 0xF0
  · simp [hshorter]
  by_cases hlast : b.toNat = 0xF4
  · simp [hlast]
  · have : b.toNat < 0xF4 := by omega
    simp [hshorter, hlast, this]

theorem decodeFrom_more (h : 0x80 + lowest ≤ b.toNat ∧ b.toNat ≤ 0x80 + highest) :
    decodeFrom (.inside lowest highest (more + 1) value) (b :: bytes) =
      decodeFrom (.inside 0 0x3F more (64 * value + (b.toNat - 0x80))) bytes := by
  rw [decodeFrom, step, if_pos h]
  rfl

theorem decodeFrom_last (h : 0x80 + lowest ≤ b.toNat ∧ b.toNat ≤ 0x80 + highest) :
    decodeFrom (.inside lowest highest 0 value) (b :: bytes) =
      some (Char.ofNat (64 * value + (b.toNat - 0x80))) :: decode bytes := by
  rw [decodeFrom, step, if_pos h]
  rfl

end

theorem decode_of_lead {a : UInt8} {s : State} (h : lead a = ([], s)) (bytes : List UInt8) :
    decode (a :: bytes) = decodeFrom s bytes := by
  rw [decode, decodeFrom, step, h]
  rfl

theorem toNat_ofNat_lt {n : Nat} (h : n < 0x100) : (UInt8.ofNat n).toNat = n := by
  rw [UInt8.toNat_ofNat']
  omega

/-- A character is read from its encoding. -/
theorem decode_encodeChar (c : Char) (bytes : List UInt8) :
    decode (String.utf8EncodeChar c ++ bytes) = some c :: decode bytes := by
  have hvalid : c.val.toNat < 0xD800 ∨ 0xDFFF < c.val.toNat ∧ c.val.toNat < 0x110000 := c.valid
  have hread : ∀ n, n = c.val.toNat →
      some (Char.ofNat n) :: decode bytes = some c :: decode bytes :=
    fun n h => by rw [h, show c.val.toNat = c.toNat from rfl, Char.ofNat_toNat]
  simp only [String.utf8EncodeChar]
  split
  · have ha := toNat_ofNat_lt (n := c.val.toNat) (by omega)
    rw [List.singleton_append, decode, decodeFrom, step, lead_ascii (by omega), ha]
    exact hread _ rfl
  split
  · have ha := toNat_ofNat_lt (n := c.val.toNat / 64 % 32 + 192) (by omega)
    have hb := toNat_ofNat_lt (n := c.val.toNat % 64 + 128) (by omega)
    simp only [List.cons_append, List.nil_append]
    rw [decode_of_lead (lead_two (by omega)), decodeFrom_last _ (by omega)]
    exact hread _ (by omega)
  split
  · have ha := toNat_ofNat_lt (n := c.val.toNat / 4096 % 16 + 224) (by omega)
    have hb := toNat_ofNat_lt (n := c.val.toNat / 64 % 64 + 128) (by omega)
    have hc := toNat_ofNat_lt (n := c.val.toNat % 64 + 128) (by omega)
    simp only [List.cons_append, List.nil_append]
    rw [decode_of_lead (lead_three (by omega)), decodeFrom_more _ (by split <;> split <;> omega),
      decodeFrom_last _ (by omega)]
    exact hread _ (by omega)
  · have ha := toNat_ofNat_lt (n := c.val.toNat / 262144 % 8 + 240) (by omega)
    have hb := toNat_ofNat_lt (n := c.val.toNat / 4096 % 64 + 128) (by omega)
    have hc := toNat_ofNat_lt (n := c.val.toNat / 64 % 64 + 128) (by omega)
    have hd := toNat_ofNat_lt (n := c.val.toNat % 64 + 128) (by omega)
    simp only [List.cons_append, List.nil_append]
    rw [decode_of_lead (lead_four (by omega)), decodeFrom_more _ (by split <;> split <;> omega),
      decodeFrom_more _ (by omega), decodeFrom_last _ (by omega)]
    exact hread _ (by omega)

theorem decode_encode (cs : List Char) : decode (encode cs) = cs.map some := by
  induction cs with
  | nil => rfl
  | cons c cs ih =>
    have h := decode_encodeChar c (encode cs)
    rw [ih] at h
    exact h

@[simp] theorem lossy_encode (cs : List Char) : lossy (encode cs) = cs := by
  rw [lossy, decode_encode, List.map_map]
  exact List.map_id cs

theorem isValid_encode (cs : List Char) : isValid (encode cs) = true := by
  rw [isValid, decode_encode, List.all_map]
  exact List.all_eq_true.mpr fun _ _ => rfl

theorem decode?_encode (cs : List Char) : decode? (encode cs) = some cs := by
  rw [decode?, if_pos (isValid_encode cs), lossy_encode]

end BuildLog.Utf8
