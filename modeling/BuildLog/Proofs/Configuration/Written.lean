import BuildLog.Configuration.Location
import BuildLog.Proofs.Configuration.Defects
import BuildLog.Proofs.Configuration.Given
import BuildLog.Proofs.Yaml.Lines

/-! A configuration that is written is read back, whatever its texts look like, as long as each of
them is on one line. -/

namespace BuildLog.Configuration

open Yaml EventStream

variable {c : Configuration}

theorem events_document (hschema : OneLine c.schema) (h : ∀ s ∈ c.texts, OneLine s)
    (hsegments : c.detection.tripletSegments ≤ maxSegments) :
    EventStream.ofBytes (Utf8.encode c.document) = ⟨mappingEvents c.entries, true⟩ := by
  have hfit := fit_lines hschema h hsegments
  have hdocument := document_eq hschema h
  have hprintable := Line.isPrintable_of_mem_flatMap hfit
  rw [← hdocument] at hprintable
  obtain ⟨cs, hcs⟩ : ∃ cs, c.document = 's' :: cs := ⟨_, rfl⟩
  have hsource : Source.read? (Utf8.encode c.document) = some (Source.place 0 0 0 c.document) := by
    rw [hcs] at hprintable ⊢
    exact read?_encode (by decide) hprintable
  have htokens : TokenStream.ofSource (Source.place 0 0 0 c.document) =
      ⟨mappingTokens c.entries ++ [.streamEnd], true⟩ := by
    rw [hdocument, Line.ofSource_lines hfit, finish_lines]
  rw [EventStream.ofBytes, hsource]
  show ofTokens (TokenStream.ofSource _) = _
  rw [htokens, ofTokens_node (isNode_entries c)]

theorem ofBytes_document (hschema : c.schema = supportedSchema) (h : ∀ s ∈ c.texts, OneLine s)
    (hsegments : c.detection.tripletSegments ≤ maxSegments) :
    ofBytes (Utf8.encode c.document) = .ok c := by
  have hline : OneLine c.schema := by
    rw [hschema]
    exact decide_eq_true_iff.mp rfl
  have hread : EventReader.mapping {} Given.entry (mappingEvents c.entries) (mappingEvents c.entries) =
      .ok (c.given, []) := by
    have hentries : EventReader.mapping {} Given.entry (mappingEvents c.entries)
        (mappingEvents c.entries ++ []) = .ok (c.given, []) :=
      mapping_of_reads (readsEntries_entries hschema hsegments) []
    rwa [List.append_nil] at hentries
  rw [ofBytes, events_document hline h hsegments, ofEvents, hread]
  show (c.given.configuration >>= fun configuration => _) = _
  rw [configuration_given]
  rfl

/-- A text without its first line. -/
def withoutFirstLine (s : String) : String :=
  String.ofList ((s.toList.dropWhile (· != '\n')).drop 1)

theorem withoutFirstLine_text (c : Configuration) :
    c.text.toList.takeWhile (· != '\n') = "Configuration:".toList ∧
      (withoutFirstLine c.text).toList = c.document := by
  have htext : c.text.toList = "Configuration:".toList ++ '\n' :: c.document := by
    have hdocument : (String.ofList c.document).toList = c.document := String.toList_ofList
    rw [text, String.toList_append, hdocument]
    rfl
  have hfirst : ∀ d ∈ "Configuration:".toList, (d != '\n') = true :=
    List.all_eq_true.mp rfl
  constructor
  · rw [htext, List.takeWhile_append_of_pos hfirst]
    simp
  · rw [withoutFirstLine, String.toList_ofList, htext, List.dropWhile_append_of_pos hfirst]
    simp

/-- What is written of a valid configuration is a configuration file behind its first line, and the
configuration that is loaded from it is the same. Its texts may be any texts on one line. -/
theorem load_written (c : Configuration) (hschema : c.schema = supportedSchema)
    (hvalid : c.validate = .ok ()) (hlines : ∀ s ∈ c.texts, OneLine s)
    (lookup : String → PathTarget) (workingDirectory : String) (configHome : Option String)
    (path : String) (hfile : lookup path = .file (Utf8.encode (withoutFirstLine c.text).toList)) :
    c.text.toList.takeWhile (· != '\n') = "Configuration:".toList ∧
      (load lookup workingDirectory configHome (some path)).result = .ok c := by
  obtain ⟨hfirst, hrest⟩ := withoutFirstLine_text c
  refine ⟨hfirst, ?_⟩
  have hread := ofBytes_document hschema hlines (validate_eq_ok_iff.mp hvalid).2.1
  show ofTarget path (lookup path) = .ok c
  rw [hfile, hrest]
  show ((ofBytes (Utf8.encode c.document)).mapError _ >>= _) = _
  rw [hread]
  show ((c.validate).mapError _ >>= _) = _
  rw [hvalid]
  rfl

/-- The version pattern spells null, and the other patterns start like something else. -/
def misleading : Configuration where
  schema := supportedSchema
  detection := { versionSuffix := some "~", style := .windows, tripletSegments := 0 }
  commands := { included := ["null", "a: b #c", "'\"\t", "- x", " é ", "1.5"] }

/-- The file that holds what is written of a configuration, at every path. -/
def written (c : Configuration) (_ : String) : PathTarget :=
  .file (Utf8.encode (withoutFirstLine c.text).toList)

theorem load_written_misleading : misleading.validate = .ok () ∧
    (∀ s ∈ misleading.texts, OneLine s) ∧
    (load (written misleading) "/work" none (some "saved.yml")).result = .ok misleading := by
  have hvalid : misleading.validate = .ok () := by decide +kernel
  have hlines : ∀ s ∈ misleading.texts, OneLine s := by decide +kernel
  exact ⟨hvalid, hlines,
    (load_written misleading rfl hvalid hlines (written misleading) "/work" none "saved.yml" rfl).2⟩

end BuildLog.Configuration
