import BuildLog.Proofs.Report.Text
import Mathlib.Data.Finset.Card

/-! The compilers that a report for CMake names. Each language is defined once, by the first record
that has it, and a record that comes later changes nothing about the definitions in front. -/

namespace BuildLog

/-- The variable, the type and the value of a definition, which is cut at its first colon and at the
first equals sign behind that. -/
def definitionParts? (cs : List Char) : Option (List Char × List Char × List Char) :=
  match splitFirst ':' 1 cs with
  | ['-' :: 'D' :: name, rest] =>
    match splitFirst '=' 1 rest with
    | [tag, value] => some (name, tag, value)
    | _ => none
  | _ => none

theorem CacheType.definitionParts?_define (t : CacheType) {name : String} (h : ':' ∉ name.toList)
    (value : String) :
    definitionParts? (t.define name value).toList = some (name.toList, t.tag.toList, value.toList) := by
  have hname : ':' ∉ '-' :: 'D' :: name.toList := by simp [h]
  have htag : '=' ∉ t.tag.toList := by cases t <;> decide
  have htext : (t.define name value).toList =
      ('-' :: 'D' :: name.toList) ++ ':' :: (t.tag.toList ++ '=' :: value.toList) := by
    simp [define]
  have hrest : splitFirst '=' 1 (t.tag.toList ++ '=' :: value.toList) =
      [t.tag.toList, value.toList] := splitFirst_append htag 0 _
  rw [definitionParts?, htext, splitFirst_append hname, splitFirst]
  simp only [hrest]

namespace Report

def cmakeName : Language → String
  | .c => "C"
  | .cxx => "CXX"
  | .cuda => "CUDA"

def hasLanguage (language : Language) (r : Record) : Bool :=
  r.language == some language

variable {seen : List Language} {language : Language} {r : Record} {rs : List Record}

theorem hasLanguage_iff : hasLanguage language r = true ↔ r.language = some language :=
  beq_iff_eq

theorem firstPerLanguage_of_none (h : r.language = none) :
    firstPerLanguage seen (r :: rs) = firstPerLanguage seen rs := by
  rw [firstPerLanguage, h]

theorem firstPerLanguage_of_seen (h : r.language = some language) (hs : language ∈ seen) :
    firstPerLanguage seen (r :: rs) = firstPerLanguage seen rs := by
  rw [firstPerLanguage, h]
  exact if_pos hs

theorem firstPerLanguage_of_new (h : r.language = some language) (hs : language ∉ seen) :
    firstPerLanguage seen (r :: rs) =
      (language, r) :: firstPerLanguage (language :: seen) rs := by
  rw [firstPerLanguage, h]
  exact if_neg hs

/-- A record is passed over, or it is the first one of its language. -/
theorem firstPerLanguage_cases (seen : List Language) (r : Record) :
    (∀ rs, firstPerLanguage seen (r :: rs) = firstPerLanguage seen rs) ∧
        (∀ language, r.language = some language → language ∈ seen) ∨
      ∃ language, r.language = some language ∧ language ∉ seen ∧
        ∀ rs, firstPerLanguage seen (r :: rs) =
          (language, r) :: firstPerLanguage (language :: seen) rs := by
  cases hr : r.language with
  | none => exact .inl ⟨fun rs => firstPerLanguage_of_none hr, fun _ h => nomatch h⟩
  | some language =>
    by_cases hs : language ∈ seen
    · refine .inl ⟨fun rs => firstPerLanguage_of_seen hr hs, fun other h => ?_⟩
      obtain rfl := Option.some.inj h
      exact hs
    · exact .inr ⟨language, rfl, hs, fun rs => firstPerLanguage_of_new hr hs⟩

theorem firstPerLanguage_sublist (seen : List Language) (rs : List Record) :
    ((firstPerLanguage seen rs).map Prod.snd).Sublist rs := by
  induction rs generalizing seen with
  | nil => exact .slnil
  | cons r rs ih =>
    rcases firstPerLanguage_cases seen r with ⟨hpass, _⟩ | ⟨language, _, _, hnew⟩
    · rw [hpass]
      exact (ih seen).cons r
    · rw [hnew, List.map_cons]
      exact (ih _).cons_cons r

theorem firstPerLanguage_prefix (seen : List Language) (rs more : List Record) :
    firstPerLanguage seen rs <+: firstPerLanguage seen (rs ++ more) := by
  induction rs generalizing seen with
  | nil => exact List.nil_prefix
  | cons r rs ih =>
    rw [List.cons_append]
    rcases firstPerLanguage_cases seen r with ⟨hpass, _⟩ | ⟨language, _, _, hnew⟩
    · rw [hpass, hpass]
      exact ih seen
    · rw [hnew, hnew]
      exact List.prefix_cons_inj _ |>.mpr (ih _)

theorem firstPerLanguage_filter (seen : List Language) (rs : List Record) :
    firstPerLanguage seen (rs.filter (·.language.isSome)) = firstPerLanguage seen rs := by
  induction rs generalizing seen with
  | nil => rfl
  | cons r rs ih =>
    rw [List.filter_cons]
    by_cases hr : r.language.isSome = true
    · rw [if_pos hr]
      rcases firstPerLanguage_cases seen r with ⟨hpass, _⟩ | ⟨language, _, _, hnew⟩
      · rw [hpass, hpass, ih]
      · rw [hnew, hnew, ih]
    · rw [if_neg hr, ih]
      exact (firstPerLanguage_of_none (Option.not_isSome_iff_eq_none.mp hr)).symm

/-- A record is reported for a language if it is the earliest one that has it. -/
theorem mem_firstPerLanguage_iff : (language, r) ∈ firstPerLanguage seen rs ↔
    language ∉ seen ∧ rs.find? (hasLanguage language) = some r := by
  induction rs generalizing seen with
  | nil => simp [firstPerLanguage]
  | cons first rs ih =>
    rcases firstPerLanguage_cases seen first with ⟨hpass, hseen⟩ | ⟨other, hother, hs, hnew⟩
    · rw [hpass, ih]
      refine and_congr_right fun hlanguage => ?_
      have hfirst : ¬ hasLanguage language first = true := fun h =>
        hlanguage (hseen language (hasLanguage_iff.mp h))
      rw [List.find?_cons_of_neg hfirst]
    · rw [hnew, List.mem_cons, ih]
      by_cases he : language = other
      · subst he
        have hfirst : hasLanguage language first = true := hasLanguage_iff.mpr hother
        rw [List.find?_cons_of_pos hfirst]
        simp [hs, eq_comm]
      · have hfirst : ¬ hasLanguage language first = true := fun h =>
          he (Option.some.inj ((hasLanguage_iff.mp h).symm.trans hother))
        rw [List.find?_cons_of_neg hfirst]
        simp [he]

/-- Languages are reported in the order in which they occur first. -/
theorem pairwise_firstPerLanguage (seen : List Language) (rs : List Record) :
    (firstPerLanguage seen rs).Pairwise fun p q =>
      rs.findIdx (hasLanguage p.1) < rs.findIdx (hasLanguage q.1) := by
  induction rs generalizing seen with
  | nil => exact .nil
  | cons first rs ih =>
    have hbehind : ∀ {seen' : List Language}, (∀ language, first.language = some language →
        language ∈ seen') → ∀ p ∈ firstPerLanguage seen' rs,
          (first :: rs).findIdx (hasLanguage p.1) = rs.findIdx (hasLanguage p.1) + 1 := by
      intro seen' hseen p hp
      have hfirst : hasLanguage p.1 first = false := by
        rw [← Bool.not_eq_true, hasLanguage_iff]
        exact fun h => (mem_firstPerLanguage_iff.mp hp).1 (hseen p.1 h)
      rw [List.findIdx_cons, hfirst, cond_false]
    rcases firstPerLanguage_cases seen first with ⟨hpass, hseen⟩ | ⟨other, hother, hs, hnew⟩
    · rw [hpass]
      refine (ih seen).imp_of_mem fun hp hq hlt => ?_
      rw [hbehind hseen _ hp, hbehind hseen _ hq]
      exact Nat.succ_lt_succ hlt
    · have hseen : ∀ language, first.language = some language → language ∈ other :: seen := by
        intro language h
        obtain rfl := Option.some.inj (hother.symm.trans h)
        exact List.mem_cons_self
      rw [hnew]
      refine List.pairwise_cons.mpr ⟨fun q hq => ?_, (ih _).imp_of_mem fun hp hq hlt => ?_⟩
      · have hfirst : hasLanguage other first = true := hasLanguage_iff.mpr hother
        rw [hbehind hseen q hq, List.findIdx_cons, hfirst, cond_true]
        exact Nat.succ_pos _
      · rw [hbehind hseen _ hp, hbehind hseen _ hq]
        exact Nat.succ_lt_succ hlt

theorem length_firstPerLanguage (rs : List Record) :
    (firstPerLanguage [] rs).length = (rs.filterMap Record.language).toFinset.card := by
  have hnodup : ((firstPerLanguage [] rs).map Prod.fst).Nodup := by
    refine List.pairwise_map.mpr ((pairwise_firstPerLanguage [] rs).imp fun hlt he => ?_)
    rw [he] at hlt
    exact Nat.lt_irrefl _ hlt
  have hlanguages : ((firstPerLanguage [] rs).map Prod.fst).toFinset =
      (rs.filterMap Record.language).toFinset := by
    ext language
    rw [List.mem_toFinset, List.mem_toFinset, List.mem_map, List.mem_filterMap]
    constructor
    · intro h
      obtain ⟨p, hp, rfl⟩ := h
      have hfind := (mem_firstPerLanguage_iff.mp hp).2
      exact ⟨p.2, List.mem_of_find?_eq_some hfind, hasLanguage_iff.mp (List.find?_some hfind)⟩
    · intro h
      obtain ⟨r, hr, hlanguage⟩ := h
      have hsome : (rs.find? (hasLanguage language)).isSome = true :=
        List.find?_isSome.mpr ⟨r, hr, hasLanguage_iff.mpr hlanguage⟩
      obtain ⟨first, hfirst⟩ := Option.isSome_iff_exists.mp hsome
      exact ⟨(language, first), mem_firstPerLanguage_iff.mpr ⟨List.not_mem_nil, hfirst⟩, rfl⟩
  rw [← hlanguages, List.toFinset_card_of_nodup hnodup, List.length_map]

theorem definitionParts?_definition (language : Language) (r : Record) :
    definitionParts? (definition language r).toList =
      some (("CMAKE_" ++ cmakeName language ++ "_COMPILER").toList, "FILEPATH".toList,
        r.command.toList) := by
  have hname : compilerVariable language = "CMAKE_" ++ cmakeName language ++ "_COMPILER" := by
    cases language <;> rfl
  have hcolon : ':' ∉ (compilerVariable language).toList := by cases language <;> decide
  rw [definition, CacheType.definitionParts?_define _ hcolon, hname]
  rfl

/-- A report for CMake has one definition for each language that occurs, in the order in which the
languages occur first, and their number is returned. A definition can be taken apart again, and its
value is the command of the earliest record of the language, whatever is in the command. Records
without a language contribute nothing, and further records only add definitions behind. -/
theorem write_cmake (records : List Record) : ∃ firsts : List (Language × Record),
    (∃ definitions : List String,
      write {} .cmake records =
        ⟨definitions.flatMap fun text => Utf8.encode text.toList ++ [0x0A],
          .ok (records.filterMap Record.language).toFinset.card⟩ ∧
      definitions.map (fun text => definitionParts? text.toList) = firsts.map fun p =>
        some (("CMAKE_" ++ cmakeName p.1 ++ "_COMPILER").toList, "FILEPATH".toList,
          p.2.command.toList)) ∧
    (∀ language r, (language, r) ∈ firsts ↔ records.find? (hasLanguage language) = some r) ∧
    firsts.Pairwise (fun p q =>
      records.findIdx (hasLanguage p.1) < records.findIdx (hasLanguage q.1)) ∧
    write {} .cmake (records.filter (·.language.isSome)) = write {} .cmake records ∧
    ∀ more, (write {} .cmake records).accepted <+: (write {} .cmake (records ++ more)).accepted := by
  have hwrite : write {} .cmake records = ⟨lines (entries .cmake records),
      .ok (records.filterMap Record.language).toFinset.card⟩ := by
    rw [write_eq, ← length_firstPerLanguage, entries, List.length_map]
  refine ⟨firstPerLanguage [] records, ⟨entries .cmake records, hwrite, ?_⟩,
    fun language r => ?_, pairwise_firstPerLanguage [] records, ?_, fun more => ?_⟩
  · rw [entries, List.map_map]
    exact List.map_congr_left fun p _ => definitionParts?_definition p.1 p.2
  · rw [mem_firstPerLanguage_iff]
    exact and_iff_right List.not_mem_nil
  · rw [write_eq, write_eq, entries, firstPerLanguage_filter]
    rfl
  · obtain ⟨behind, hbehind⟩ := firstPerLanguage_prefix [] records more
    rw [write_eq, write_eq, entries, entries, ← hbehind, List.map_append, lines_append]
    exact List.prefix_append _ _

end Report

end BuildLog
