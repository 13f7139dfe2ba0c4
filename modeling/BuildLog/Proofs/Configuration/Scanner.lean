import BuildLog.Proofs.Configuration.Defects
import BuildLog.Proofs.Detection.Embeddable
import BuildLog.Scan

/-! What is left to go wrong with a configuration that is valid. The version pattern is checked by
itself, and the patterns of the basenames ask for more than that. -/

namespace BuildLog.Scanner

open BuildLog.Configuration

variable {c : Configuration} {patterns : CommandPatterns} {settings : DetectionSettings}

theorem detector_of_new_eq_error {e : ScanError} (hfilter : ∃ f, CommandFilter.compile patterns = .ok f)
    (h : new settings patterns = .error e) :
    ∃ reason, Detector.new settings = .error reason ∧ e = .detector reason := by
  obtain ⟨f, hfilter⟩ := hfilter
  rw [new, hfilter] at h
  cases hdetector : Detector.new settings with
  | error reason =>
    rw [hdetector] at h
    cases h
    exact ⟨reason, rfl, rfl⟩
  | ok d =>
    rw [hdetector] at h
    cases h

theorem exists_new_iff_of_compile (hfilter : ∃ f, CommandFilter.compile patterns = .ok f) :
    (∃ s, new settings patterns = .ok s) ↔ ∃ d, Detector.new settings = .ok d := by
  obtain ⟨f, hfilter⟩ := hfilter
  constructor
  · intro h
    obtain ⟨s, h⟩ := h
    exact ⟨s.detector, (new_eq_ok_iff.mp h).1⟩
  · intro h
    obtain ⟨d, h⟩ := h
    exact ⟨⟨d, f⟩, new_eq_ok_iff.mpr ⟨h, hfilter⟩⟩

/-- A valid configuration has a scanner unless its version pattern is of no use between a name and an
extension, and then the error says that it is this pattern. -/
theorem new_of_validate (h : c.validate = .ok ()) :
    ((∃ s, new c.detection c.commands = .ok s) ↔
      ∀ pattern, c.detection.versionSuffix = some pattern →
        Detector.Embeddable c.detection pattern) ∧
    ∀ e, new c.detection c.commands = .error e → ∃ pattern reason,
      c.detection.versionSuffix = some pattern ∧ e = .detector (.versionPattern pattern reason) := by
  obtain ⟨hversion, hsegments, hcommands⟩ := validate_eq_ok_iff.mp h
  have hfilter : ∃ f, CommandFilter.compile c.commands = .ok f :=
    (validateCommands_eq_ok_iff.mp (verdict_eq_ok_iff.mpr hcommands)).1
  refine ⟨(exists_new_iff_of_compile hfilter).trans (Detector.exists_new_iff_embeddable hsegments
    fun pattern hp => (hversion pattern hp).2), fun e he => ?_⟩
  obtain ⟨reason, hreason, rfl⟩ := detector_of_new_eq_error hfilter he
  obtain ⟨pattern, reason, hp, rfl⟩ := Detector.versionPattern_of_new_eq_error hsegments hreason
  exact ⟨pattern, reason, hp, rfl⟩

def versionInGroup : Configuration :=
  { schema := supportedSchema, detection := { versionSuffix := some "-(?P<version>[0-9]+)" } }

def versionAlone : Configuration :=
  { schema := supportedSchema, detection := { versionSuffix := some "-[0-9]+" } }

theorem new_versionAlone : versionAlone.validate = .ok () ∧
    ∃ s, new versionAlone.detection versionAlone.commands = .ok s := by
  have hvalid : versionAlone.validate = .ok () := by decide +kernel
  have hembeddable : Detector.Embeddable versionAlone.detection "-[0-9]+" := by decide +kernel
  refine ⟨hvalid, (new_of_validate hvalid).1.mpr fun pattern hp => ?_⟩
  obtain rfl : "-[0-9]+" = pattern := Option.some.inj hp
  exact hembeddable

/-- The group of the version is named twice in the patterns of the basenames, and a pattern may not do
that. -/
theorem validate_versionInGroup : versionInGroup.validate = .ok () ∧
    ∀ s, new versionInGroup.detection versionInGroup.commands ≠ .ok s := by
  have hvalid : versionInGroup.validate = .ok () := by decide +kernel
  have hnot : ¬ Detector.Embeddable versionInGroup.detection "-(?P<version>[0-9]+)" := by
    decide +kernel
  refine ⟨hvalid, fun s hs => hnot ?_⟩
  obtain ⟨hversion, hsegments, _⟩ := validate_eq_ok_iff.mp hvalid
  have hiff := Detector.exists_new_iff_embeddable hsegments fun pattern hp => (hversion pattern hp).2
  exact hiff.mp ⟨s.detector, (new_eq_ok_iff.mp hs).1⟩ "-(?P<version>[0-9]+)" rfl

end BuildLog.Scanner
