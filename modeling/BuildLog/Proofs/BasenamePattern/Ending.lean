import BuildLog.Proofs.BasenamePattern.Exclusion

/-! How a basename ends. No name of a driver ends in a character of the extension, so the end of a
basename lies in its extension or in its version. -/

namespace BuildLog.BasenamePattern

variable {style : PathStyle} {n : Nat} {e : Option Regex.Expr} {b : Basename} {driver : Driver}

/-- The text ends in the extension of an executable. -/
def EndsInExe (style : PathStyle) (s : List Char) : Prop :=
  exe.map (letter style) <:+ s.map (letter style)

instance (style : PathStyle) (s : List Char) : Decidable (EndsInExe style s) :=
  inferInstanceAs (Decidable (_ <:+ _))

theorem suffix_append_cons_iff {α : Type} {t u w : List α} {c : α} (hc : c ∉ t) :
    t <:+ u ++ c :: w ↔ t <:+ w := by
  constructor
  · intro h
    rcases List.suffix_or_suffix_of_suffix h (List.suffix_append u (c :: w)) with h | h
    · rcases List.suffix_cons_iff.mp h with rfl | h
      · exact absurd List.mem_cons_self hc
      · exact h
    · exact absurd (h.subset List.mem_cons_self) hc
  · intro h
    exact (h.trans (List.suffix_cons c w)).trans (List.suffix_append u (c :: w))

theorem letter_notMem_exe {x : Char} (hx : x ∈ nameEnds) :
    letter style x ∉ exe.map (letter style) := by
  have hall : nameEnds.all (fun x => letter style x ∉ exe.map (letter style)) = true := by
    cases style <;> decide +kernel
  exact of_decide_eq_true (List.all_eq_true.mp hall x hx)

theorem Basename.Fits.endsInExe_iff (h : b.Fits style n driver.name.toList e)
    (hd : driver ∈ Driver.all) :
    EndsInExe style b.text ↔ b.extension ≠ [] ∨ EndsInExe style b.version := by
  obtain ⟨front, c, hname, x, hx, hletter⟩ := exists_last_of_sameText hd h.name
  have hc : letter style c ∉ exe.map (letter style) := by
    rw [hletter]
    exact letter_notMem_exe hx
  have htext : b.text.map (letter style) = (b.target ++ front).map (letter style) ++
      letter style c :: (b.version.map (letter style) ++ b.extension.map (letter style)) := by
    simp [text, hname]
  rw [EndsInExe, htext, suffix_append_cons_iff hc]
  by_cases hext : b.extension = []
  · simp [hext, EndsInExe]
  · have hsame : b.extension.map (letter style) = exe.map (letter style) :=
      h.extension.resolve_left hext
    simp [hext, hsame]

theorem not_endsInExe_nil (style : PathStyle) : ¬ EndsInExe style [] := by
  simp [EndsInExe, exe]

end BuildLog.BasenamePattern
