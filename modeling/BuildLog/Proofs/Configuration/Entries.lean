import BuildLog.Configuration.Document
import BuildLog.Proofs.Result

/-! How the entries of a mapping are read, one after the other. What every entry keeps is kept by the
whole mapping, and so a schema that was read is the supported one. -/

namespace BuildLog.Configuration

open Yaml

namespace EventReader

variable {α : Type} {P : α → Prop} {read : EventReader α} {entry : α → String → EventReader α}
  {all events : List Event} {value : α} {r : α × List Event}

theorem throughAlias_keep (hread : ∀ all events r, read all events = .ok r → P r.1)
    (h : throughAlias read all events = .ok r) : P r.1 := by
  unfold throughAlias at h
  split at h
  · obtain ⟨r', hr, rfl⟩ := exists_of_map_eq_ok h
    exact hread _ _ r' hr
  · exact hread _ _ r h

theorem once_keep {β : Type} {Q : β → Prop} {given : Option α} {set : α → β}
    {r : β × List Event} (hread : ∀ r', read all events = .ok r' → Q (set r'.1))
    (h : once given read set all events = .ok r) : Q r.1 := by
  unfold once at h
  split at h
  · cases h
  · obtain ⟨r', hr, rfl⟩ := exists_of_map_eq_ok h
    exact hread r' hr

theorem ignore_keep (hvalue : P value) (h : ignore value all events = .ok r) : P r.1 := by
  obtain ⟨rest, -, rfl⟩ := exists_of_map_eq_ok h
  exact hvalue

/-- What holds of a value in front of the entries, and is kept by each of them, holds behind them. -/
theorem entries_keep
    (hentry : ∀ value key all events r, P value → entry value key all events = .ok r → P r.1)
    {n : Nat} (hvalue : P value) (h : entries entry all n value events = .ok r) : P r.1 := by
  induction n generalizing value events with
  | zero =>
    by_cases hend : ∃ rest, events = .mappingEnd :: rest
    · obtain ⟨rest, rfl⟩ := hend
      cases h
      exact hvalue
    · rw [entries.eq_2 _ _ _ _ fun rest he => hend ⟨rest, he⟩] at h
      cases h
  | succ n ih =>
    by_cases hend : ∃ rest, events = .mappingEnd :: rest
    · obtain ⟨rest, rfl⟩ := hend
      cases h
      exact hvalue
    · rw [entries.eq_3 _ _ _ _ _ fun rest he => hend ⟨rest, he⟩] at h
      obtain ⟨⟨key, events'⟩, -, h⟩ := exists_of_bind_eq_ok h
      obtain ⟨⟨value', events''⟩, hread, h⟩ := exists_of_bind_eq_ok h
      exact ih (hentry value key all events' _ hvalue hread) h

theorem mapping_keep
    (hentry : ∀ value key all events r, P value → entry value key all events = .ok r → P r.1)
    (hvalue : P value) (h : mapping value entry all events = .ok r) : P r.1 := by
  refine throughAlias_keep (fun all events r h => ?_) h
  split at h
  · exact entries_keep hentry hvalue h
  · cases h
    exact hvalue
  · cases h

end EventReader

open EventReader

/-- A schema that is given is the supported one. -/
def Given.Supported (g : Given) : Prop :=
  ∀ schema, g.schema = some schema → schema = supportedSchema

variable {g : Given} {key : String} {all events : List Event}

theorem eq_of_schemaReader {r : String × List Event} (h : schemaReader all events = .ok r) :
    r.1 = supportedSchema := by
  obtain ⟨⟨schema, rest⟩, -, h⟩ := exists_of_bind_eq_ok h
  dsimp only at h
  split at h
  · rename_i heq
    obtain rfl := Except.ok.inj h
    exact heq
  · cases h

theorem Given.Supported.entry {r : Given × List Event} (hg : g.Supported)
    (h : g.entry key all events = .ok r) : r.1.Supported := by
  unfold Given.entry at h
  split at h
  · refine once_keep (fun r' hr schema hs => ?_) h
    rw [← Option.some.inj hs]
    exact eq_of_schemaReader hr
  · exact once_keep (fun _ _ => hg) h
  · exact once_keep (fun _ _ => hg) h
  · exact ignore_keep hg h

theorem schema_of_ofBytes {bytes : List UInt8} {c : Configuration} (h : ofBytes bytes = .ok c) :
    c.schema = supportedSchema := by
  obtain ⟨⟨g, rest⟩, hread, h⟩ := exists_of_bind_eq_ok h
  obtain ⟨c', hc, h⟩ := exists_of_bind_eq_ok h
  have hempty : Given.Supported {} := fun _ hs => nomatch hs
  have hsupported : g.Supported :=
    mapping_keep (fun _ _ _ _ _ hg h => Given.Supported.entry hg h) hempty hread
  have hsame : c' = c := by
    split at h
    · exact Except.ok.inj h
    · cases h
  subst hsame
  unfold Given.configuration at hc
  split at hc
  · cases hc
  · rename_i schema hs
    cases hc
    exact hsupported schema hs

end BuildLog.Configuration
