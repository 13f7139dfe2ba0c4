import BuildLog.Proofs.Text.Utf8
import BuildLog.Yaml.Written

/-! The places of characters that are written as they are. They are read back from their bytes, and
each of them takes one column of its line. -/

namespace BuildLog.Yaml

open Source

/-- A character that is written as it is and stays on its line. -/
def isInline (c : Char) : Bool := Written.isPrintable c && !isBreak c

section

variable {c d : Char} {cs : List Char} {index line column : Nat}

theorem isInline_iff : isInline c = true ↔ Written.isPrintable c = true ∧ isBreak c = false := by
  simp [isInline]

theorem ne_of_isPrintable (hc : Written.isPrintable c = true) (hd : Written.isPrintable d = false) :
    c ≠ d := by
  intro h
  rw [h, hd] at hc
  cases hc

theorem eq_space_of_isWhite (hc : isInline c = true) (h : isWhite c = true) : c = ' ' := by
  have htab : c ≠ '\t' := ne_of_isPrintable (isInline_iff.mp hc).1 rfl
  simpa [isWhite, htab] using h

theorem isEnd_of_isInline (hc : isInline c = true) : isEnd c = false := by
  have hmark : c ≠ endMark := ne_of_isPrintable (isInline_iff.mp hc).1 rfl
  simpa [isEnd] using hmark

theorem isAllowed_of_isPrintable (h : Written.isPrintable c = true) : isAllowed c = true := by
  have hvalid : c.toNat < 0xD800 ∨ 0xDFFF < c.toNat ∧ c.toNat < 0x110000 := c.valid
  simp only [Written.isPrintable, Bool.or_eq_true, Bool.and_eq_true, beq_iff_eq, bne_iff_ne,
    decide_eq_true_eq] at h
  simp only [isAllowed, Bool.or_eq_true, Bool.and_eq_true, beq_iff_eq, bne_iff_ne, decide_eq_true_eq]
  omega

theorem place_cons (h : isInline c = true) (cs : List Char) :
    place index line column (c :: cs) =
      ⟨c, index, line, column⟩ :: place (index + 1) line (column + 1) cs := by
  obtain ⟨hprintable, hbreak⟩ := isInline_iff.mp h
  have hreturn : c ≠ '\r' := ne_of_isPrintable hprintable rfl
  have hnewline : ¬ (c = '\n' ∨ c = '\r' ∨ c = '\u0085') := by
    rintro (rfl | rfl | rfl)
    · cases hbreak
    · exact hreturn rfl
    · cases hprintable
  rw [place.eq_3 _ _ _ _ _ fun _ hc _ => hreturn hc, if_neg hnewline, hbreak]
  rfl

theorem place_newline (cs : List Char) : place index line column ('\n' :: cs) =
    ⟨'\n', index, line, column⟩ :: place (index + 1) (line + 1) 0 cs := by
  rw [place.eq_3 _ _ _ _ _ fun _ hc _ => by cases hc]
  rfl

theorem peek_place_inline (h : isInline c = true) (cs : List Char) :
    peek (place index line column (c :: cs)) = c := by
  rw [place_cons h, peek]

theorem length_place (h : ∀ c ∈ cs, Written.isPrintable c = true) :
    (place index line column cs).length = cs.length + 1 := by
  induction cs generalizing index line column with
  | nil => rfl
  | cons c cs ih =>
    obtain ⟨hc, hcs⟩ := List.forall_mem_cons.mp h
    have hreturn : c ≠ '\r' := ne_of_isPrintable hc rfl
    rw [place.eq_3 _ _ _ _ _ fun _ h _ => hreturn h]
    split
    · rw [List.length_cons, ih hcs, List.length_cons]
    · split <;> rw [List.length_cons, ih hcs, List.length_cons]

theorem decode?_of_ascii {b : UInt8} (h : b.toNat < 0x80) (bytes : List UInt8) :
    decode? (b :: bytes) = Utf8.decode? (b :: bytes) := by
  have hne : ∀ d : UInt8, 0x80 ≤ d.toNat → b ≠ d := by
    rintro d hd rfl
    omega
  unfold decode?
  split
  · exact absurd (List.cons_eq_cons.mp ‹_›).1 (hne _ (by decide))
  · exact absurd (List.cons_eq_cons.mp ‹_›).1 (hne _ (by decide))
  · exact absurd (List.cons_eq_cons.mp ‹_›).1 (hne _ (by decide))
  · rfl

/-- What is written as it is, is read back from its bytes. Behind a character of ASCII nothing is
taken for a mark of the byte order. -/
theorem read?_encode (hc : c.toNat < 0x80) (h : ∀ d ∈ c :: cs, Written.isPrintable d = true) :
    read? (Utf8.encode (c :: cs)) = some (place 0 0 0 (c :: cs)) := by
  have hbyte : String.utf8EncodeChar c = [UInt8.ofNat c.toNat] := by
    have hvalue : c.val.toNat ≤ 127 := Nat.le_of_lt_succ hc
    rw [String.utf8EncodeChar, if_pos hvalue]
    rfl
  have hbytes : Utf8.encode (c :: cs) = UInt8.ofNat c.toNat :: Utf8.encode cs := by
    rw [Utf8.encode, List.flatMap_cons, hbyte]
    rfl
  have hdecode : decode? (Utf8.encode (c :: cs)) = some (c :: cs) := by
    rw [hbytes, decode?_of_ascii (by rw [Utf8.toNat_ofNat_lt (by omega)]; exact hc), ← hbytes,
      Utf8.decode?_encode]
  have hallowed : (c :: cs).all isAllowed = true :=
    List.all_eq_true.mpr fun d hd => isAllowed_of_isPrintable (h d hd)
  rw [read?, hdecode, Option.bind_some, if_pos hallowed]

end

end BuildLog.Yaml
