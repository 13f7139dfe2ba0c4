import BuildLog.Json
import BuildLog.Proofs.Text.Digits

/-! Reading JSON tokens undoes writing them, as long as no number is followed by a digit. What is
written holds no newline. -/

namespace BuildLog

namespace Utf16

theorem not_surrogate (c : Char) :
    isHighSurrogate c.toNat = false ∧ isLowSurrogate c.toNat = false := by
  have hc : c.toNat < 0xD800 ∨ 0xDFFF < c.toNat ∧ c.toNat < 0x110000 := c.valid
  constructor
  · simp only [isHighSurrogate, Bool.and_eq_false_iff, decide_eq_false_iff_not]
    omega
  · simp only [isLowSurrogate, Bool.and_eq_false_iff, decide_eq_false_iff_not]
    omega

/-- Codes of characters are read as these characters. -/
theorem decode?_map_toNat (cs : List Char) : decode? (cs.map Char.toNat) = some cs := by
  induction cs with
  | nil => rfl
  | cons c cs ih =>
    obtain ⟨hhigh, hlow⟩ := not_surrogate c
    cases cs with
    | nil => simp [decode?, hhigh, hlow]
    | cons d cs =>
      rw [List.map_cons] at ih
      simp [decode?, hhigh, hlow, ih]

end Utf16

namespace Json

theorem hexValue?_escape :
    ∀ n < 0x20, hexValue? ['0', '0', lowerHexDigit (n / 16), lowerHexDigit (n % 16)] = some n := by
  decide

theorem codes?_plain {c : Char} (hquote : c ≠ '"') (hbackslash : c ≠ '\\') (hc : ¬ c.toNat < 0x20)
    (rest : List Char) :
    codes? (c :: rest) = (codes? rest).map fun r => (c.toNat :: r.1, r.2) := by
  rw [codes?.eq_def]
  simp only [hquote, hbackslash, hc, if_false]

theorem codes?_control {c : Char} (hc : c.toNat < 0x20) (rest : List Char) :
    codes? ('\\' :: 'u' :: '0' :: '0' :: lowerHexDigit (c.toNat / 16) ::
      lowerHexDigit (c.toNat % 16) :: rest) = (codes? rest).map fun r => (c.toNat :: r.1, r.2) := by
  rw [codes?.eq_def]
  simp [hexValue?_escape c.toNat hc]

/-- An escaped character is read as its code. -/
theorem codes?_escape (c : Char) (rest : List Char) :
    codes? (escape c ++ rest) = (codes? rest).map fun r => (c.toNat :: r.1, r.2) := by
  rw [escape]
  iterate 7
    split
    · subst c
      rfl
  split
  · exact codes?_control (by assumption) rest
  · exact codes?_plain (by assumption) (by assumption) (by assumption) rest

theorem codes?_escaped (cs rest : List Char) :
    codes? (cs.flatMap escape ++ '"' :: rest) = some (cs.map Char.toNat, rest) := by
  induction cs with
  | nil =>
    rw [List.flatMap_nil, List.nil_append, codes?.eq_def]
    rfl
  | cons c cs ih =>
    rw [List.flatMap_cons, List.append_assoc, codes?_escape, ih]
    rfl

theorem unquote?_escaped (cs rest : List Char) :
    unquote? (cs.flatMap escape ++ '"' :: rest) = some (cs, rest) := by
  rw [unquote?, codes?_escaped, Option.bind_some, Utf16.decode?_map_toNat]
  rfl

/-- No digit is in front of a text. -/
def NoDigit (cs : List Char) : Prop :=
  ∀ c ∈ cs.head?, c.isDigit = false

theorem token?_digits {c : Char} (cs : List Char) (hc : c.isDigit = true) (hzero : c ≠ '0') :
    token? (c :: cs) = some (.number (digitsValue (c :: cs.takeWhile Char.isDigit)),
      cs.dropWhile Char.isDigit) := by
  rw [token?, if_neg (ne_of_isDigit hc rfl), if_neg (ne_of_isDigit hc rfl),
    if_neg (ne_of_isDigit hc rfl), if_neg (ne_of_isDigit hc rfl), if_neg (ne_of_isDigit hc rfl),
    if_neg hzero, if_pos hc]

theorem token?_number (n : Nat) {rest : List Char} (h : NoDigit rest) :
    token? (Nat.toDigits 10 n ++ rest) = some (.number n, rest) := by
  rcases Nat.eq_zero_or_pos n with rfl | hn
  · rfl
  · have hdigit := isDigit_toDigits n
    have hvalue : digitsValue (Nat.toDigits 10 n) = n := Nat.ofDigitChars_ten_toDigits
    have hhead := head?_toDigits hn
    obtain ⟨d, ds, hd⟩ := List.exists_cons_of_ne_nil (Nat.toDigits_ne_nil (n := n) (b := 10))
    rw [hd] at hdigit hvalue hhead ⊢
    obtain ⟨hc, hcs⟩ := List.forall_mem_cons.mp hdigit
    have hstop : rest.takeWhile Char.isDigit = [] ∧ rest.dropWhile Char.isDigit = rest := by
      cases rest with
      | nil => exact ⟨rfl, rfl⟩
      | cons c cs => simp [h c rfl]
    rw [List.cons_append, token?_digits _ hc fun he => hhead (congrArg some he),
      List.takeWhile_append_of_pos hcs, List.dropWhile_append_of_pos hcs, hstop.1, hstop.2,
      List.append_nil, hvalue]

/-- A token is read from its text, and a number only if no digit follows. -/
theorem token?_text {t : Token} {rest : List Char} (h : ∀ n, t = .number n → NoDigit rest) :
    token? (t.text ++ rest) = some (t, rest) := by
  cases t with
  | number n => exact token?_number n (h n rfl)
  | string cs =>
    rw [Token.text, quote, List.append_assoc, List.cons_append, List.singleton_append]
    show (unquote? _).map _ = _
    rw [unquote?_escaped]
    rfl
  | _ => rfl

theorem isSpace_of_isDigit {c : Char} (h : c.isDigit = true) : isSpace c = false := by
  have hne : ∀ d : Char, d.isDigit = false → c ≠ d := fun _ => ne_of_isDigit h
  simp [isSpace, hne ' ' rfl, hne '\t' rfl, hne '\n' rfl, hne '\r' rfl]

theorem exists_text (t : Token) : ∃ c cs, t.text = c :: cs ∧ isSpace c = false := by
  cases t with
  | number n =>
    obtain ⟨c, cs, h⟩ := List.exists_cons_of_ne_nil (Nat.toDigits_ne_nil (n := n) (b := 10))
    refine ⟨c, cs, h, isSpace_of_isDigit (isDigit_toDigits n c ?_)⟩
    rw [h]
    exact List.mem_cons_self
  | _ => exact ⟨_, _, rfl, rfl⟩

theorem tokens?_of_token? {c : Char} {cs : List Char} {t : Token} {rest : List Char}
    (hc : isSpace c = false) (h : token? (c :: cs) = some (t, rest)) :
    tokens? (c :: cs) = (tokens? rest).map (t :: ·) := by
  rw [tokens?]
  simp only [hc, Bool.false_eq_true, if_false]
  split
  · rename_i hn
    rw [h] at hn
    cases hn
  · rename_i r hr
    rw [h] at hr
    cases hr
    rfl

theorem tokens?_text {t : Token} {rest : List Char} (h : ∀ n, t = .number n → NoDigit rest) :
    tokens? (t.text ++ rest) = (tokens? rest).map (t :: ·) := by
  obtain ⟨c, cs, htext, hc⟩ := exists_text t
  have ht := token?_text h
  rw [htext] at ht ⊢
  exact tokens?_of_token? hc ht

/-- Tokens that are read as they were written wherever no digit follows. -/
def ReadsBack (ts : List Token) : Prop :=
  ∀ rest, NoDigit rest → tokens? (render ts ++ rest) = (tokens? rest).map (ts ++ ·)

variable {ts us : List Token}

theorem readsBack_singleton (t : Token) : ReadsBack [t] := by
  intro rest hrest
  rw [render, List.flatMap_singleton, tokens?_text fun _ _ => hrest]
  rfl

theorem ReadsBack.append (h : ReadsBack ts) (h' : ReadsBack us)
    (hus : ∀ rest, NoDigit rest → NoDigit (render us ++ rest)) : ReadsBack (ts ++ us) := by
  intro rest hrest
  rw [render, List.flatMap_append, List.append_assoc, ← render, ← render, h _ (hus rest hrest),
    h' rest hrest, Option.map_map]
  refine congrArg (Option.map · _) (funext fun vs => ?_)
  exact (List.append_assoc ts us vs).symm

theorem ReadsBack.cons (h : ReadsBack ts) {t : Token} (ht : ∀ n, t ≠ .number n) :
    ReadsBack (t :: ts) := by
  intro rest hrest
  rw [render, List.flatMap_cons, List.append_assoc, ← render,
    tokens?_text fun n hn => absurd hn (ht n), h rest hrest, Option.map_map]
  rfl

theorem noDigit_comma (ts : List Token) (rest : List Char) :
    NoDigit (render (.comma :: ts) ++ rest) := by
  rintro c ⟨⟩
  rfl

theorem noDigit_closing (rest : List Char) : NoDigit (render [.closing] ++ rest) := by
  rintro c ⟨⟩
  rfl

/-- An object is read as it was written if its values are. -/
theorem ReadsBack.object {fields : List (List Char × List Token)}
    (h : ∀ field ∈ fields, ReadsBack field.2) : ReadsBack (object fields) := by
  have hmembers : ReadsBack (members fields ++ [.closing]) := by
    fun_induction members fields with
    | case1 => exact readsBack_singleton .closing
    | case2 key value =>
      have hvalue := (h (key, value) List.mem_cons_self).append (readsBack_singleton .closing)
        fun rest _ => noDigit_closing rest
      exact (hvalue.cons (t := .colon) nofun).cons (t := .string key) nofun
    | case3 key value rest hne ih =>
      obtain ⟨hvalue, hrest⟩ := List.forall_mem_cons.mp h
      have htail := hvalue.append ((ih hrest).cons (t := .comma) nofun)
        fun cs _ => noDigit_comma _ cs
      have hfield := (htail.cons (t := .colon) nofun).cons (t := .string key) nofun
      simpa using hfield
  exact hmembers.cons nofun

theorem tokens?_render (h : ReadsBack ts) : tokens? (render ts) = some ts := by
  have hread := h [] (by rintro c ⟨⟩)
  rw [List.append_nil, show tokens? [] = some [] by rw [tokens?]] at hread
  simpa using hread

/-! No newline is written, so each text is on one line. -/

theorem newline_notMem_control :
    ∀ n < 0x20, '\n' ∉ ['\\', 'u', '0', '0', lowerHexDigit (n / 16), lowerHexDigit (n % 16)] := by
  decide

theorem newline_notMem_escape (c : Char) : '\n' ∉ escape c := by
  rw [escape]
  iterate 4
    split
    · decide
  split
  · decide
  rename_i hnewline
  iterate 2
    split
    · decide
  split
  · exact newline_notMem_control c.toNat (by assumption)
  · exact fun h => hnewline (List.mem_singleton.mp h).symm

theorem newline_notMem_text (t : Token) : '\n' ∉ t.text := by
  cases t with
  | number n => exact notMem_toDigits rfl n
  | string cs =>
    rw [Token.text, quote, List.mem_append, List.mem_cons, List.mem_flatMap]
    rintro ((h | ⟨c, -, h⟩) | h)
    · exact absurd h (by decide)
    · exact newline_notMem_escape c h
    · exact absurd h (by decide)
  | _ => decide

theorem newline_notMem_render (ts : List Token) : '\n' ∉ render ts := by
  intro h
  obtain ⟨t, -, ht⟩ := List.mem_flatMap.mp h
  exact newline_notMem_text t ht

end Json

end BuildLog
