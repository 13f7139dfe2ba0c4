import BuildLog.Proofs.Detection.Passes

/-! Which version patterns a detector can be built with. A pattern that can be compiled by itself may
still be of no use in the patterns of the basenames, and nothing else can go wrong with them. -/

namespace BuildLog.Detector

open BasenamePattern Regex

variable {settings : DetectionSettings} {pattern : String} {v : Pattern}

/-- What a version pattern has to be besides a pattern. It can stand in a group, which the text of an
open comment could not; its nesting leaves room for the group and the sequence around it; it names no
group that is there already; and no pattern of a driver gets too big with it. -/
structure Embeddable (settings : DetectionSettings) (pattern : String) : Prop where
  closed : ((Token.read false [] ("(?:" ++ pattern ++ ")").toList).bind Ast.ofTokens?).isSome = true
  nesting : ∀ a, Ast.read? pattern.toList = some a → a.depth + 2 ≤ Ast.maxDepth
  names : ∀ a, Ast.read? pattern.toList = some a →
    a.groupNames.Disjoint (ownGroups settings.tripletSegments)
  size : ∀ e, versionExpr? settings.style pattern = some e → ∀ driver ∈ Driver.all,
    (expr settings.style settings.tripletSegments driver.name.toList (some e)).isTooBig = false

theorem embeddable_iff : Embeddable settings pattern ↔
    ((Token.read false [] ("(?:" ++ pattern ++ ")").toList).bind Ast.ofTokens?).isSome = true ∧
      ((Ast.read? pattern.toList).all fun a => a.depth + 2 ≤ Ast.maxDepth ∧
        ∀ name ∈ a.groupNames, name ∉ ownGroups settings.tripletSegments) = true ∧
      ((versionExpr? settings.style pattern).all fun e => ∀ driver ∈ Driver.all,
        (expr settings.style settings.tripletSegments driver.name.toList (some e)).isTooBig =
          false) = true := by
  simp only [Option.all_eq_true, decide_eq_true_eq]
  constructor
  · intro h
    exact ⟨h.closed, fun a ha => ⟨h.nesting a ha, fun _ hm hown => h.names a ha hm hown⟩, h.size⟩
  · rintro ⟨hclosed, htree, hsize⟩
    exact ⟨hclosed, fun a ha => (htree a ha).1, fun a ha _ hm hown => (htree a ha).2 _ hm hown, hsize⟩

instance (settings : DetectionSettings) (pattern : String) : Decidable (Embeddable settings pattern) :=
  decidable_of_iff' _ embeddable_iff

example : Embeddable {} "(?x)-9 # nine\n" ∧ ¬ Embeddable {} "(?x)-9 # nine" := by
  decide +kernel

theorem closed_iff {a : Ast} (ha : Ast.read? pattern.toList = some a) :
    ((Token.read false [] ("(?:" ++ pattern ++ ")").toList).bind Ast.ofTokens?).isSome = true ↔
      Ast.FillsGroup pattern.toList a := by
  have htext : ("(?:" ++ pattern ++ ")").toList =
      '(' :: '?' :: ':' :: (pattern.toList ++ [')']) := by
    simp
  rw [htext]
  exact (Ast.fillsGroup_iff (Ast.read?_eq_some ha).1).symm

theorem exists_versioned_iff (hv : Pattern.compile pattern = .ok v)
    (hn : settings.tripletSegments < UInt32.size) :
    (∃ cs, candidates settings (some pattern) = .ok cs) ↔ Embeddable settings pattern := by
  obtain ⟨a, ha, _⟩ := Pattern.compile_eq_ok hv
  obtain ⟨e, he⟩ := exists_versionExpr? settings.style hv
  rw [exists_candidates_iff]
  simp only [exists_compile_version_iff hn _ ha he]
  constructor
  · intro h
    have hgcc : Driver.gnuC "gcc" ∈ Driver.all := by decide +kernel
    obtain ⟨hfills, hdepth, hnames⟩ := (h _ hgcc).1
    have htree : ∀ b, Ast.read? pattern.toList = some b → b = a := fun b hb =>
      Option.some.inj (hb.symm.trans ha)
    have hexpr : ∀ e', versionExpr? settings.style pattern = some e' → e' = e := fun e' he' =>
      Option.some.inj (he'.symm.trans he)
    exact ⟨(closed_iff ha).mpr hfills, fun b hb => htree b hb ▸ hdepth,
      fun b hb => htree b hb ▸ hnames, fun e' he' driver hd => hexpr e' he' ▸ (h driver hd).2⟩
  · intro h driver hd
    exact ⟨⟨(closed_iff ha).mp h.closed, h.nesting a ha, h.names a ha⟩, h.size e he driver hd⟩

/-- Up to eight segments, nothing but the version pattern can keep a detector from being built. -/
theorem exists_new_iff_embeddable (hn : settings.tripletSegments ≤ 8)
    (hpattern : ∀ pattern, settings.versionSuffix = some pattern →
      ∃ v, Pattern.compile pattern = .ok v) :
    (∃ d, new settings = .ok d) ↔
      ∀ pattern, settings.versionSuffix = some pattern → Embeddable settings pattern := by
  have hn' : settings.tripletSegments < UInt32.size := Nat.lt_of_le_of_lt hn (by decide)
  rw [exists_new_iff, and_iff_right (exists_candidates_plain hn)]
  refine forall₂_congr fun pattern hs => ?_
  obtain ⟨v, hv⟩ := hpattern pattern hs
  rw [and_iff_right ⟨v, hv⟩, exists_versioned_iff hv hn']

theorem versionPattern_of_new_eq_error {e : DetectionError} (hn : settings.tripletSegments ≤ 8)
    (h : new settings = .error e) :
    ∃ pattern reason, settings.versionSuffix = some pattern ∧ e = .versionPattern pattern reason := by
  obtain ⟨plain, hplain⟩ := exists_candidates_plain hn
  rw [new, hplain] at h
  cases hs : settings.versionSuffix with
  | none =>
    rw [hs] at h
    cases h
  | some pattern =>
    rw [hs] at h
    simp only [bind, Except.bind] at h
    split at h
    · cases h
      exact ⟨pattern, _, rfl, rfl⟩
    · rcases exists_of_bind_eq_error h with h | ⟨_, _, h⟩
      · obtain ⟨driver, _, hdriver⟩ := exists_of_mapM_eq_error h
        split at hdriver
        · cases hdriver
        · cases hdriver
          exact ⟨pattern, _, rfl, rfl⟩
      · cases h

end BuildLog.Detector
