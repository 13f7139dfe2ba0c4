import BuildLog.Configuration.Location
import BuildLog.Proofs.Configuration.Entries
import Mathlib.Data.List.Basic

/-! Where the configuration in use comes from. A file that is given is the only one that counts. Else
the first of the usual places decides where there is something, be it good or bad, and what lies
behind it does not matter. A configuration that is returned is a valid one. -/

namespace BuildLog.Configuration

/-- The usual places in the order in which they count. Two of them may be the same. -/
def places (workingDirectory : String) (configHome : Option String) : List String :=
  joinPath workingDirectory fileName ::
    configHome.toList.flatMap fun home =>
      [joinPath home fileName, joinPath (joinPath home applicationName) fileName]

/-- What the search says when it finds nothing. -/
def fallbackMessage : LogMessage :=
  ⟨.debug, "Configuration file not found. Using the default configuration."⟩

/-- A place where there is something, and nothing at the places before it. -/
structure IsFirst (lookup : String → PathTarget) (before : List String) (path : String) : Prop where
  missing : ∀ p ∈ before, (lookup p).isThere = false
  there : (lookup path).isThere = true

section Search

variable {lookup lookup' : String → PathTarget} {before after paths : List String} {path : String}

theorem search_of_missing (h : (lookup path).isThere = false) (paths : List String) :
    search lookup (path :: paths) =
      { search lookup paths with
        messages := ⟨.debug, "Checking configuration file: " ++ path⟩ ::
          (search lookup paths).messages } := by
  simp [search, h]

theorem search_of_there (h : (lookup path).isThere = true) (paths : List String) :
    search lookup (path :: paths) =
      { loadFile lookup path with
        messages := ⟨.debug, "Checking configuration file: " ++ path⟩ ::
          (loadFile lookup path).messages } := by
  simp [search, h]

theorem fallbackMessage_ne_checking (path : String) :
    fallbackMessage ≠ ⟨.debug, "Checking configuration file: " ++ path⟩ := by
  intro h
  have htext := congrArg (fun m => m.content.toList) h
  simp [fallbackMessage] at htext

theorem fallbackMessage_notMem_loadFile (lookup : String → PathTarget) (path : String) :
    fallbackMessage ∉ (loadFile lookup path).messages := by
  simp [loadFile, fallbackMessage]

theorem search_of_isFirst (hfirst : IsFirst lookup before path) (after : List String) :
    (search lookup (before ++ path :: after)).result = ofTarget path (lookup path) ∧
      fallbackMessage ∉ (search lookup (before ++ path :: after)).messages := by
  obtain ⟨hmissing, hthere⟩ := hfirst
  induction before with
  | nil =>
    rw [List.nil_append, search_of_there hthere]
    refine ⟨rfl, fun h => ?_⟩
    rcases List.mem_cons.mp h with h | h
    · exact fallbackMessage_ne_checking path h
    · exact fallbackMessage_notMem_loadFile lookup path h
  | cons p before ih =>
    obtain ⟨hp, hmissing⟩ := List.forall_mem_cons.mp hmissing
    obtain ⟨hresult, hmessages⟩ := ih hmissing
    rw [List.cons_append, search_of_missing hp]
    refine ⟨hresult, fun h => ?_⟩
    rcases List.mem_cons.mp h with h | h
    · exact fallbackMessage_ne_checking p h
    · exact hmessages h

theorem search_of_forall_missing (h : ∀ p ∈ paths, (lookup p).isThere = false) :
    (search lookup paths).result = .ok standard ∧
      fallbackMessage ∈ (search lookup paths).messages := by
  induction paths with
  | nil => exact ⟨rfl, List.mem_cons_self⟩
  | cons p paths ih =>
    obtain ⟨hp, h⟩ := List.forall_mem_cons.mp h
    rw [search_of_missing hp]
    exact ⟨(ih h).1, List.mem_cons_of_mem _ (ih h).2⟩

/-- The search looks at no place behind the one where it ends. -/
theorem search_congr (hfirst : IsFirst lookup before path)
    (hsame : ∀ p ∈ before ++ [path], lookup' p = lookup p) (after after' : List String) :
    search lookup' (before ++ path :: after') = search lookup (before ++ path :: after) := by
  obtain ⟨hmissing, hthere⟩ := hfirst
  induction before with
  | nil =>
    have hpath : lookup' path = lookup path := hsame path (by simp)
    rw [List.nil_append, List.nil_append, search_of_there hthere,
      search_of_there (hpath ▸ hthere), loadFile, loadFile, hpath]
  | cons p before ih =>
    obtain ⟨hp, hmissing⟩ := List.forall_mem_cons.mp hmissing
    have hsame' : lookup' p = lookup p := hsame p (by simp)
    rw [List.cons_append, List.cons_append, search_of_missing hp, search_of_missing (hsame' ▸ hp),
      ih (fun q hq => hsame q (List.mem_cons_of_mem p hq)) hmissing]

theorem exists_isFirst_or_missing (lookup : String → PathTarget) (paths : List String) :
    (∃ before path after, paths = before ++ path :: after ∧ IsFirst lookup before path) ∨
      ∀ p ∈ paths, (lookup p).isThere = false := by
  induction paths with
  | nil => exact .inr fun p hp => nomatch hp
  | cons p paths ih =>
    by_cases hp : (lookup p).isThere = true
    · exact .inl ⟨[], p, paths, rfl, ⟨by simp, hp⟩⟩
    · have hp : (lookup p).isThere = false := by simpa using hp
      rcases ih with ⟨before, path, after, rfl, hfirst⟩ | hmissing
      · exact .inl ⟨p :: before, path, after, rfl,
          ⟨List.forall_mem_cons.mpr ⟨hp, hfirst.missing⟩, hfirst.there⟩⟩
      · exact .inr (List.forall_mem_cons.mpr ⟨hp, hmissing⟩)

end Search

section Places

variable {name : String → String} {directories before after : List String} {path : String}

theorem dropRepeated_of_short (h : ∀ a b rest, directories = a :: b :: rest → False) :
    dropRepeated directories = directories := by
  unfold dropRepeated
  split
  · exact (h _ _ _ rfl).elim
  · rfl

/-- Leaving out a directory that repeats the one before it puts no other place in front. -/
theorem exists_split_dropRepeated (h : directories.map name = before ++ path :: after) :
    ∃ before' after', (dropRepeated directories).map name = before' ++ path :: after' ∧
      before' ⊆ before := by
  induction directories using dropRepeated.induct generalizing before after with
  | case1 b rest ih =>
    rw [dropRepeated, if_pos rfl]
    cases before with
    | nil =>
      obtain ⟨rfl, -⟩ := List.cons_eq_cons.mp h
      have hfront : (b :: rest).map name = [] ++ name b :: rest.map name := rfl
      exact ih hfront
    | cons p before =>
      obtain ⟨-, htail⟩ := List.cons_eq_cons.mp h
      obtain ⟨before', after', hsplit, hsub⟩ := ih htail
      exact ⟨before', after', hsplit, List.Subset.trans hsub (List.subset_cons_self p before)⟩
  | case2 a b rest hab ih =>
    rw [dropRepeated, if_neg hab, List.map_cons]
    cases before with
    | nil =>
      obtain ⟨rfl, -⟩ := List.cons_eq_cons.mp h
      exact ⟨[], _, rfl, List.Subset.refl _⟩
    | cons p before =>
      obtain ⟨rfl, htail⟩ := List.cons_eq_cons.mp h
      obtain ⟨before', after', hsplit, hsub⟩ := ih htail
      exact ⟨name a :: before', after', by rw [hsplit]; rfl, List.cons_subset_cons _ hsub⟩
  | case3 directories hshort =>
    rw [dropRepeated_of_short hshort]
    exact ⟨before, after, h, List.Subset.refl _⟩

theorem dropRepeated_sublist (directories : List String) :
    (dropRepeated directories).Sublist directories := by
  induction directories using dropRepeated.induct with
  | case1 b rest ih =>
    rw [dropRepeated, if_pos rfl]
    exact ih.cons b
  | case2 a b rest hab ih =>
    rw [dropRepeated, if_neg hab]
    exact ih.cons_cons a
  | case3 directories hshort => rw [dropRepeated_of_short hshort]

theorem exists_directories (workingDirectory : String) (configHome : Option String) :
    ∃ directories : List String,
      places workingDirectory configHome = directories.map (joinPath · fileName) ∧
        locations workingDirectory configHome =
          (dropRepeated directories).map (joinPath · fileName) := by
  cases configHome with
  | none => exact ⟨[workingDirectory], rfl, rfl⟩
  | some home => exact ⟨[workingDirectory, home, joinPath home applicationName], rfl, rfl⟩

end Places

section Load

variable {lookup : String → PathTarget} {workingDirectory : String} {configHome : Option String}
  {before after : List String} {path : String}

theorem load_of_isFirst (hplaces : places workingDirectory configHome = before ++ path :: after)
    (hfirst : IsFirst lookup before path) :
    (load lookup workingDirectory configHome none).result = ofTarget path (lookup path) ∧
      fallbackMessage ∉ (load lookup workingDirectory configHome none).messages ∧
      ∀ lookup', (∀ p ∈ before ++ [path], lookup' p = lookup p) →
        load lookup' workingDirectory configHome none =
          load lookup workingDirectory configHome none := by
  obtain ⟨directories, hall, hlocations⟩ := exists_directories workingDirectory configHome
  rw [hall] at hplaces
  obtain ⟨before', after', hsplit, hsub⟩ := exists_split_dropRepeated hplaces
  have hfirst' : IsFirst lookup before' path :=
    ⟨fun p hp => hfirst.missing p (hsub hp), hfirst.there⟩
  obtain ⟨hresult, hmessages⟩ := search_of_isFirst hfirst' after'
  simp only [load, hlocations, hsplit]
  refine ⟨hresult, hmessages, fun lookup' hsame => search_congr hfirst' (fun p hp => ?_) _ _⟩
  rcases List.mem_append.mp hp with hp | hp
  · exact hsame p (List.mem_append_left _ (hsub hp))
  · exact hsame p (List.mem_append_right _ hp)

theorem load_of_forall_missing
    (h : ∀ p ∈ places workingDirectory configHome, (lookup p).isThere = false) :
    (load lookup workingDirectory configHome none).result = .ok standard ∧
      fallbackMessage ∈ (load lookup workingDirectory configHome none).messages := by
  obtain ⟨directories, hall, hlocations⟩ := exists_directories workingDirectory configHome
  rw [load, hlocations]
  refine search_of_forall_missing fun p hp => h p ?_
  rw [hall]
  exact ((dropRepeated_sublist directories).map _).subset hp

end Load

section Valid

variable {lookup : String → PathTarget} {path : String} {c : Configuration}

theorem isValid_standard : standard.validate = .ok () := rfl

theorem valid_of_ofTarget {target : PathTarget} (h : ofTarget path target = .ok c) :
    c.schema = supportedSchema ∧ c.validate = .ok () := by
  unfold ofTarget at h
  split at h
  · cases h
  · cases h
  · cases h
  · obtain ⟨c', hread, h⟩ := exists_of_bind_eq_ok h
    obtain ⟨u, hvalid, h⟩ := exists_of_bind_eq_ok h
    cases h
    exact ⟨schema_of_ofBytes (ok_of_mapError hread), ok_of_mapError hvalid⟩

theorem valid_of_search {paths : List String} (h : (search lookup paths).result = .ok c) :
    c.schema = supportedSchema ∧ c.validate = .ok () := by
  rcases exists_isFirst_or_missing lookup paths with ⟨before, path, after, rfl, hfirst⟩ | hmissing
  · rw [(search_of_isFirst hfirst after).1] at h
    exact valid_of_ofTarget h
  · rw [(search_of_forall_missing hmissing).1] at h
    cases h
    exact ⟨rfl, isValid_standard⟩

theorem valid_of_load {workingDirectory : String} {configHome file : Option String}
    (h : (load lookup workingDirectory configHome file).result = .ok c) :
    c.schema = supportedSchema ∧ c.validate = .ok () := by
  cases file with
  | none => exact valid_of_search h
  | some path => exact valid_of_ofTarget h

end Valid

/-- A configuration is loaded by strict precedence. A file that is given decides alone, and it is an
error if it cannot be opened. Else the first place decides where there is something, whatever lies
behind it, and the standard configuration is taken if and only if there is no such place. Whatever is
returned has the supported schema and no defects. -/
theorem load_by_precedence (lookup : String → PathTarget) (workingDirectory : String)
    (configHome : Option String) :
    (∀ path, (load lookup workingDirectory configHome (some path)).result =
        ofTarget path (lookup path) ∧
      (∀ reason, lookup path = .missing reason ∨ lookup path = .locked reason →
        (load lookup workingDirectory configHome (some path)).result =
          .error (.access path reason)) ∧
      ∀ lookup' directory' home', lookup' path = lookup path →
        load lookup' directory' home' (some path) =
          load lookup workingDirectory configHome (some path)) ∧
    (∀ before path after, places workingDirectory configHome = before ++ path :: after →
      IsFirst lookup before path →
      (load lookup workingDirectory configHome none).result = ofTarget path (lookup path) ∧
        ∀ lookup', (∀ p ∈ before ++ [path], lookup' p = lookup p) →
          load lookup' workingDirectory configHome none =
            load lookup workingDirectory configHome none) ∧
    (fallbackMessage ∈ (load lookup workingDirectory configHome none).messages ↔
      ∀ p ∈ places workingDirectory configHome, (lookup p).isThere = false) ∧
    (fallbackMessage ∈ (load lookup workingDirectory configHome none).messages →
      (load lookup workingDirectory configHome none).result = .ok standard) ∧
    ∀ file c, (load lookup workingDirectory configHome file).result = .ok c →
      c.schema = supportedSchema ∧ c.validate = .ok () := by
  have hfallback : fallbackMessage ∈ (load lookup workingDirectory configHome none).messages ↔
      ∀ p ∈ places workingDirectory configHome, (lookup p).isThere = false := by
    refine ⟨fun h => ?_, fun h => (load_of_forall_missing h).2⟩
    rcases exists_isFirst_or_missing lookup (places workingDirectory configHome) with
      ⟨before, path, after, hplaces, hfirst⟩ | hmissing
    · exact absurd h (load_of_isFirst hplaces hfirst).2.1
    · exact hmissing
  refine ⟨fun path => ⟨rfl, fun reason h => ?_, fun lookup' _ _ h => ?_⟩,
    fun before path after hplaces hfirst => ?_, hfallback,
    fun h => (load_of_forall_missing (hfallback.mp h)).1, fun file c => valid_of_load⟩
  · rcases h with h | h <;> simp [load, loadFile, h, ofTarget]
  · simp only [load, loadFile, h]
  · obtain ⟨hresult, -, hsame⟩ := load_of_isFirst hplaces hfirst
    exact ⟨hresult, hsame⟩

/-- A damaged file in the working directory and a good one in the user's directory. -/
def damagedFirst (path : String) : PathTarget :=
  if path = "/work/parser-detection.yml" then .file (Utf8.encode "schema: 2.0".toList)
  else if path = "/home/parser-detection.yml" then .file (Utf8.encode "schema: 1.0".toList)
  else .notFound

theorem load_by_precedence_damaged :
    IsFirst damagedFirst [] "/work/parser-detection.yml" ∧
    (damagedFirst "/home/parser-detection.yml").isThere = true ∧
    (load damagedFirst "/work" (some "/home") none).result =
      .error (.document "/work/parser-detection.yml" (.unsupportedSchema "2.0")) ∧
    ∀ lookup', lookup' "/work/parser-detection.yml" = damagedFirst "/work/parser-detection.yml" →
      load lookup' "/work" (some "/home") none = load damagedFirst "/work" (some "/home") none := by
  have hplaces : places "/work" (some "/home") = [] ++ "/work/parser-detection.yml" ::
      ["/home/parser-detection.yml", "/home/parser-detection/parser-detection.yml"] := by
    decide +kernel
  have hfirst : IsFirst damagedFirst [] "/work/parser-detection.yml" := ⟨by simp, rfl⟩
  have hread : ofBytes (Utf8.encode "schema: 2.0".toList) = .error (.unsupportedSchema "2.0") := by
    rfl
  obtain ⟨hresult, hsame⟩ :=
    (load_by_precedence damagedFirst "/work" (some "/home")).2.1 _ _ _ hplaces hfirst
  refine ⟨hfirst, rfl, ?_, fun lookup' h => hsame lookup' (by simpa using h)⟩
  rw [hresult]
  show (ofBytes (Utf8.encode "schema: 2.0".toList)).mapError _ >>= _ = _
  rw [hread]
  rfl
end BuildLog.Configuration
