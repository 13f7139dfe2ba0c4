import BuildLog.Driver
import BuildLog.Proofs.BasenamePattern.PartWords
import Mathlib.Data.List.Nodup

/-! No basename is one of two drivers, as long as its version is made of digits, dots and hyphens.
Such a version starts behind the last character of the name, which is none of these, and the name
starts behind the last hyphen in front of it. -/

namespace BuildLog.BasenamePattern

open Regex

variable {style : PathStyle}

section

variable {p : Char → Prop} {u v u' v' : List Char}

theorem eq_nil_of_last (hv : ∀ c ∈ v, p c) (hu : ∀ c ∈ (u ++ v).getLast?, ¬ p c) : v = [] := by
  by_cases h : v = []
  · exact h
  · have hlast : (u ++ v).getLast? = some (v.getLast h) := by
      simp [List.getLast?_append, List.getLast?_eq_some_getLast h]
    exact absurd (hv _ (List.getLast_mem h)) (hu _ hlast)

/-- A text can be cut in one way only behind the last character that is not of some kind. -/
theorem append_inj_of_last (hv : ∀ c ∈ v, p c) (hv' : ∀ c ∈ v', p c)
    (hu : ∀ c ∈ u.getLast?, ¬ p c) (hu' : ∀ c ∈ u'.getLast?, ¬ p c) (h : u ++ v = u' ++ v') :
    u = u' ∧ v = v' := by
  rcases List.append_eq_append_iff.mp h with ⟨x, rfl, rfl⟩ | ⟨x, rfl, rfl⟩
  · obtain rfl : x = [] := eq_nil_of_last (fun c hc => hv c (by simp [hc])) hu'
    simp
  · obtain rfl : x = [] := eq_nil_of_last (fun c hc => hv' c (by simp [hc])) hu
    simp

end

/-- The characters that the names of the drivers end in. -/
def nameEnds : List Char := ['g', '+', 'c', 'l']

theorem last_name {d : Driver} (hd : d ∈ Driver.all) :
    ∃ c ∈ nameEnds, d.name.toList.getLast? = some c := by
  have hall : (Driver.all.all fun d => nameEnds.any fun c => d.name.toList.getLast? == some c) =
      true := by decide
  simpa using List.all_eq_true.mp hall d hd

theorem exists_last_of_sameText {d : Driver} (hd : d ∈ Driver.all) {u : List Char}
    (h : SameText style u d.name.toList) :
    ∃ front c, u = front ++ [c] ∧ ∃ x ∈ nameEnds, letter style c = letter style x := by
  obtain ⟨x, hx, hlast⟩ := last_name hd
  have hmap := congrArg List.getLast? h
  rw [List.getLast?_map, List.getLast?_map, hlast] at hmap
  obtain ⟨c, hc, hletter⟩ := Option.map_eq_some_iff.mp hmap
  obtain ⟨front, hfront⟩ := List.getLast?_eq_some_iff.mp hc
  exact ⟨front, c, hfront, x, hx, hletter⟩

theorem hyphen_notMem_name : ∀ d ∈ Driver.all, '-' ∉ d.name.toList := by
  decide

theorem letter_name {d : Driver} (hd : d ∈ Driver.all) {c : Char} (hc : c ∈ d.name.toList) :
    letter style c = c.toNat := by
  have hall : (Driver.all.all fun d => d.name.toList.all fun c =>
      c.toNat < 0xB5 && (c.toNat < 0x41 || 0x5A < c.toNat)) = true := by decide
  have hrange := List.all_eq_true.mp (List.all_eq_true.mp hall d hd) c hc
  have hlt : c.toNat < 0xB5 ∧ (c.toNat < 0x41 ∨ 0x5A < c.toNat) := by simpa using hrange
  obtain ⟨hlt, hupper⟩ := hlt
  cases style with
  | posix => rfl
  | windows => exact foldCase_of_lt hlt hupper

theorem map_letter_name {d : Driver} (hd : d ∈ Driver.all) :
    d.name.toList.map (letter style) = d.name.toList.map Char.toNat :=
  List.map_congr_left fun _ hc => letter_name hd hc

/-- No two drivers have the same name, not even where case is disregarded. -/
theorem driver_eq_of_sameText {d d' : Driver} (hd : d ∈ Driver.all) (hd' : d' ∈ Driver.all)
    (h : SameText style d.name.toList d'.name.toList) : d = d' := by
  rw [SameText, map_letter_name hd, map_letter_name hd'] at h
  have hname : d.name.toList = d'.name.toList := sameText_posix.mp h
  have hnodup : (Driver.all.map fun d => d.name.toList).Nodup := by decide
  exact List.inj_on_of_nodup_map hnodup hd hd' hname

/-- The digits of all scripts, the dot and the hyphen. -/
def numericChars : CharSet :=
  digitChars.union ((CharSet.single '.').union (.single '-'))

theorem letter_ne_of_numeric {c x : Char} (hc : numericChars.contains c = true)
    (hx : x ∈ 'e' :: nameEnds) : letter style c ≠ letter style x := by
  have hall : (('e' :: nameEnds).all fun x =>
      (((flags style).close (.single x)).inter numericChars).normalize = .empty) = true := by
    cases style <;> decide +kernel
  have hdisjoint := of_decide_eq_true (List.all_eq_true.mp hall x hx)
  intro h
  have hmem := (contains_char style x c).mpr h
  have hinter : (((flags style).close (.single x)).inter numericChars).contains c = true := by
    rw [CharSet.contains_inter, hmem, hc]
    rfl
  rw [← CharSet.contains_normalize, hdisjoint] at hinter
  cases hinter

theorem letter_e_ne {x : Char} (hx : x ∈ nameEnds) : letter style 'e' ≠ letter style x := by
  have hall : (nameEnds.all fun x => letter style 'e' ≠ letter style x) = true := by
    cases style <;> decide +kernel
  exact of_decide_eq_true (List.all_eq_true.mp hall x hx)

namespace Basename

/-- The basename is one of a driver, with a version of digits, dots and hyphens or with none. -/
structure NumericOf (style : PathStyle) (d : Driver) (b : Basename) : Prop where
  target : ∃ k, IsTriplet style k b.target
  name : SameText style b.name d.name.toList
  version : ∀ c ∈ b.version, numericChars.contains c = true
  extension : b.extension = [] ∨ SameText style b.extension exe

section

variable {n : Nat} {version : Option Expr} {d : Driver} {b : Basename}

theorem Fits.numericOf (h : b.Fits style n d.name.toList version)
    (hv : ∀ c ∈ b.version, numericChars.contains c = true) : b.NumericOf style d := by
  obtain ⟨k, _, hk⟩ := h.target
  exact ⟨⟨k, hk⟩, h.name, hv, h.extension⟩

theorem Fits.numericOf_of_plain (h : b.Fits style n d.name.toList none) : b.NumericOf style d := by
  have hv : b.version = [] := h.version
  exact h.numericOf (by simp [hv])

end

namespace NumericOf

variable {d d' : Driver} {b b' : Basename} {c : Char}

theorem hyphen_notMem (h : b.NumericOf style d) (hd : d ∈ Driver.all) : '-' ∉ b.name := by
  intro hm
  have hmem := List.mem_map_of_mem (f := letter style) hm
  rw [h.name] at hmem
  obtain ⟨x, hx, hletter⟩ := List.mem_map.mp hmem
  obtain rfl : x = '-' := letter_hyphen hletter
  exact hyphen_notMem_name d hd hx

theorem last_target (h : b.NumericOf style d) (hc : c ∈ b.target.getLast?) : c = '-' := by
  obtain ⟨k, hk⟩ := h.target
  by_cases hk0 : k = 0
  · rw [hk.eq_nil_iff.mpr hk0] at hc
    cases hc
  · obtain ⟨u, x, _, hu⟩ := hk.exists_append_hyphen hk0
    simpa [hu, eq_comm] using hc

/-- The name ends as the name of the driver does, so it does not end in a character of a version or
of the extension. -/
theorem last_front (h : b.NumericOf style d) (hd : d ∈ Driver.all)
    (hc : c ∈ (b.target ++ b.name).getLast?) : ∃ x ∈ nameEnds, letter style c = letter style x := by
  obtain ⟨front, y, hname, hy⟩ := exists_last_of_sameText hd h.name
  have hcy : c = y := by simpa [hname, eq_comm] using hc
  rw [hcy]
  exact hy

theorem last_stem (h : b.NumericOf style d) (hd : d ∈ Driver.all)
    (hc : c ∈ (b.target ++ b.name ++ b.version).getLast?) : letter style c ≠ letter style 'e' := by
  by_cases hv : b.version = []
  · rw [hv, List.append_nil] at hc
    obtain ⟨x, hx, hletter⟩ := h.last_front hd hc
    intro he
    exact letter_e_ne hx (he.symm.trans hletter)
  · have hcv : c = b.version.getLast hv := by
      simpa [List.getLast?_append, List.getLast?_eq_some_getLast hv, eq_comm] using hc
    have hnumeric := h.version _ (List.getLast_mem hv)
    rw [hcv]
    exact letter_ne_of_numeric hnumeric List.mem_cons_self

theorem last_extension (h : b.NumericOf style d) (hne : b.extension ≠ []) :
    ∃ c ∈ b.text.getLast?, letter style c = letter style 'e' := by
  have hmap := congrArg List.getLast? (h.extension.resolve_left hne)
  rw [List.getLast?_map, List.getLast?_map, exe] at hmap
  obtain ⟨c, hc, hletter⟩ := Option.map_eq_some_iff.mp hmap
  refine ⟨c, ?_, hletter⟩
  simp [text, List.getLast?_append, hc]

theorem text_eq (b : Basename) : b.text = b.target ++ b.name ++ b.version ++ b.extension := by
  simp [text]

theorem extension_ne_nil (h : b.NumericOf style d) (h' : b'.NumericOf style d')
    (hd' : d' ∈ Driver.all) (heq : b.text = b'.text) (hne : b.extension ≠ []) :
    b'.extension ≠ [] := by
  intro hnil
  obtain ⟨c, hc, hletter⟩ := h.last_extension hne
  rw [heq, text_eq, hnil, List.append_nil] at hc
  exact h'.last_stem hd' hc hletter

theorem length_extension (h : b.NumericOf style d) (h' : b'.NumericOf style d')
    (hd : d ∈ Driver.all) (hd' : d' ∈ Driver.all) (heq : b.text = b'.text) :
    b.extension.length = b'.extension.length := by
  by_cases hne : b.extension = []
  · have hnil : b'.extension = [] := by
      by_contra hne'
      exact extension_ne_nil h' h hd heq.symm hne' hne
    rw [hne, hnil]
  · have hne' := extension_ne_nil h h' hd' heq hne
    rw [(h.extension.resolve_left hne).length, (h'.extension.resolve_left hne').length]

/-- A basename belongs to one driver only and can be cut in one way only. -/
theorem unique (h : b.NumericOf style d) (h' : b'.NumericOf style d') (hd : d ∈ Driver.all)
    (hd' : d' ∈ Driver.all) (heq : b.text = b'.text) : b = b' ∧ d = d' := by
  have hlen := length_extension h h' hd hd' heq
  rw [text_eq, text_eq] at heq
  obtain ⟨hstem, hext⟩ := List.append_inj' heq hlen
  have hfront : ∀ {d : Driver} {b : Basename}, b.NumericOf style d → d ∈ Driver.all →
      ∀ c ∈ (b.target ++ b.name).getLast?, ¬ numericChars.contains c = true := by
    intro d b h hd c hc hnumeric
    obtain ⟨x, hx, hletter⟩ := h.last_front hd hc
    exact letter_ne_of_numeric hnumeric (List.mem_cons_of_mem _ hx) hletter
  obtain ⟨hcut, hversion⟩ :=
    append_inj_of_last h.version h'.version (hfront h hd) (hfront h' hd') hstem
  have hyphen : ∀ {d : Driver} {b : Basename}, b.NumericOf style d → d ∈ Driver.all →
      ∀ c ∈ b.name, c ≠ '-' := by
    intro d b h hd c hc he
    exact h.hyphen_notMem hd (he ▸ hc)
  obtain ⟨htarget, hname⟩ := append_inj_of_last (hyphen h hd) (hyphen h' hd')
    (fun c hc => not_not_intro (h.last_target hc)) (fun c hc => not_not_intro (h'.last_target hc))
    hcut
  constructor
  · cases b
    cases b'
    simp_all
  · have hsame : SameText style d.name.toList d'.name.toList :=
      h.name.symm.trans (hname ▸ h'.name)
    exact driver_eq_of_sameText hd hd' hsame

end NumericOf

end Basename

end BuildLog.BasenamePattern
