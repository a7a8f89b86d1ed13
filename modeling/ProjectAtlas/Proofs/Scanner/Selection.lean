import ProjectAtlas.Indexer.Scan
import ProjectAtlas.Proofs.Scanner.Traversal

/-!
Which scanners run. Names that are all known choose exactly their scanners, in the order of the
candidates, and no name is an error.
-/

namespace ProjectAtlas

variable {α : Type}

/-- A candidate that is known to give a scanner. -/
def Candidate.ready (b : String × α) : Candidate α :=
  { name := b.1, build := .ok b.2 }

/-- Of candidates with different names all that are wanted are chosen. -/
theorem firstWanted_eq_filter (wanted : Option (List String)) {cs : List (Candidate α)}
    (hDistinct : (cs.map (·.name)).Nodup) :
    ∀ {taken : List String}, (∀ c ∈ cs, c.name ∉ taken) →
      firstWanted wanted taken cs = cs.filter fun c => wanted.all (·.contains c.name) := by
  induction cs with
  | nil =>
      intro taken hFresh
      rfl
  | cons c cs ih =>
      intro taken hFresh
      rw [List.map_cons, List.nodup_cons] at hDistinct
      have hHead : taken.contains c.name = false := by
        simpa using hFresh c (by simp)
      rw [firstWanted, hHead, List.filter_cons]
      cases hWanted : wanted.all (·.contains c.name) with
      | false =>
          have hRest := ih hDistinct.2 fun a ha => hFresh a (by simp [ha])
          simpa using hRest
      | true =>
          have hLater : ∀ a ∈ cs, a.name ∉ c.name :: taken := by
            intro a ha hTaken
            rcases List.mem_cons.mp hTaken with hSame | hTaken
            · exact hDistinct.1 (hSame ▸ List.mem_map_of_mem ha)
            · exact hFresh a (by simp [ha]) hTaken
          have hRest := ih hDistinct.2 hLater
          simpa using hRest

/-- The scanners of candidates that give one. -/
theorem mapM_build_ready (bs : List (String × α)) :
    (bs.map Candidate.ready).mapM Candidate.build = .ok (bs.map (·.2)) := by
  rw [List.mapM_map]
  exact mapM_eq_ok_map fun b _ => rfl

theorem firstWanted_ready {bs : List (String × α)} (hDistinct : (bs.map (·.1)).Nodup)
    (wanted : Option (List String)) :
    firstWanted wanted [] (bs.map Candidate.ready) =
      (bs.filter fun b => wanted.all (·.contains b.1)).map Candidate.ready := by
  have hNames : ((bs.map Candidate.ready).map (·.name)).Nodup := by
    simpa [Candidate.ready, Function.comp_def] using hDistinct
  rw [firstWanted_eq_filter wanted hNames (by simp), List.filter_map]
  rfl

/-- A wanted name is that of a chosen candidate exactly if it is that of any. -/
theorem unknownNames_ready (wanted : Option (List String)) (bs : List (String × α)) :
    ((wanted.getD []).filter fun n =>
        !((bs.filter fun b => wanted.all (·.contains b.1)).map Candidate.ready).any (·.name == n)) =
      (wanted.getD []).filter fun n => n ∉ bs.map (·.1) := by
  cases wanted with
  | none => rfl
  | some names =>
      refine List.filter_congr fun n hn => ?_
      have hChosen : (((bs.filter fun b => (some names).all (·.contains b.1)).map
          Candidate.ready).any (·.name == n)) = decide (n ∈ bs.map (·.1)) := by
        rw [Bool.eq_iff_iff, List.any_eq_true, decide_eq_true_eq]
        constructor
        · rintro ⟨c, hc, hName⟩
          obtain ⟨b, hb, rfl⟩ := List.mem_map.mp hc
          exact List.mem_map.mpr ⟨b, (List.mem_filter.mp hb).1, beq_iff_eq.mp hName⟩
        · intro hMem
          obtain ⟨b, hb, rfl⟩ := List.mem_map.mp hMem
          exact ⟨Candidate.ready b,
            List.mem_map_of_mem (List.mem_filter.mpr ⟨hb, by simpa using hn⟩), beq_self_eq_true _⟩
      rw [hChosen, decide_not]

theorem mem_sortedNames {names : List String} {n : String} : n ∈ sortedNames names ↔ n ∈ names := by
  rw [sortedNames, List.mem_eraseDups, List.mem_mergeSort]

theorem sortedNames_eq_nil_iff {names : List String} : sortedNames names = [] ↔ names = [] := by
  simp only [List.eq_nil_iff_forall_not_mem, mem_sortedNames]

/-- With candidates of different names, and only their names wanted, the candidates of these names give
the scanners. -/
theorem discover_eq_ok {bs : List (String × α)} (hDistinct : (bs.map (·.1)).Nodup)
    (enabled : Option (List String))
    (hKnown : ∀ names, enabled = some names → ∀ n ∈ names, Text.lower n ∈ bs.map (·.1)) :
    discover enabled (bs.map Candidate.ready) =
      .ok ((bs.filter fun b => (enabled.map (·.map Text.lower)).all (·.contains b.1)).map
        (·.2)) := by
  have hUnknown : ((enabled.map (·.map Text.lower)).getD []).filter
      (fun n => n ∉ bs.map (·.1)) = [] := by
    cases enabled with
    | none => rfl
    | some names =>
        rw [List.filter_eq_nil_iff]
        intro n hn
        obtain ⟨m, hm, rfl⟩ := List.mem_map.mp hn
        simpa using hKnown names rfl m hm
  simp only [discover, firstWanted_ready hDistinct, unknownNames_ready, hUnknown,
    sortedNames_eq_nil_iff.mpr, mapM_build_ready, Except.bind]

/-- A wanted name that no candidate has is an error, which lists all such names. -/
theorem discover_eq_error {bs : List (String × α)} (hDistinct : (bs.map (·.1)).Nodup)
    {names : List String} (hUnknown : ∃ n ∈ names, Text.lower n ∉ bs.map (·.1)) :
    discover (some names) (bs.map Candidate.ready) =
      .error (.unknown
        (sortedNames ((names.map Text.lower).filter fun n => n ∉ bs.map (·.1)))) := by
  have hSome : sortedNames ((names.map Text.lower).filter fun n => n ∉ bs.map (·.1)) ≠ [] := by
    obtain ⟨n, hn, hOther⟩ := hUnknown
    rw [Ne, sortedNames_eq_nil_iff, List.filter_eq_nil_iff]
    exact fun hAll => hAll _ (List.mem_map_of_mem hn) (decide_eq_true hOther)
  have hNames := unknownNames_ready (some (names.map Text.lower)) bs
  rw [Option.getD_some] at hNames
  -- By `hSome` the list of unknown names is not the empty one of the first case.
  simp only [discover, Option.map_some, firstWanted_ready hDistinct, Option.getD_some, hNames,
    mapM_build_ready, Except.bind]

/-- The scanners that are always there, by name. -/
def builtins (config : Config) : List (String × Scanner) :=
  [("source", Source.scanner config), ("assets", assetScanner config),
    ("plugins", pluginScanner config)]

/-- The names of the scanners that are always there. -/
def builtinNames : List String := ["source", "assets", "plugins"]

/-- The settings ask for the scanner of this name. -/
def Config.uses (config : Config) (name : String) : Bool :=
  config.scanners.enabled.isEmpty || (config.scanners.enabled.map Text.lower).contains name

theorem nodup_builtinNames (config : Config) : ((builtins config).map (·.1)).Nodup := by
  show builtinNames.Nodup
  decide

/-- Settings that name only scanners that are always there get the ones they name, or all. -/
theorem enabledScanners_eq_ok {config : Config}
    (hKnown : ∀ n ∈ config.scanners.enabled, Text.lower n ∈ builtinNames) :
    enabledScanners config =
      .ok (((builtins config).filter fun b => config.uses b.1).map (·.2)) := by
  have hDistinct := nodup_builtinNames config
  have hCandidates : builtinScanners config = (builtins config).map Candidate.ready := rfl
  rw [enabledScanners, hCandidates]
  by_cases hAll : config.scanners.enabled.isEmpty = true
  · rw [if_pos hAll, discover_eq_ok hDistinct none (by simp)]
    simp [Config.uses, hAll]
  · rw [if_neg hAll, discover_eq_ok hDistinct (some config.scanners.enabled)]
    · simp [Config.uses, Bool.eq_false_iff.mpr hAll]
    · intro names hSome n hn
      cases hSome
      exact hKnown n hn

/-- Settings that name another scanner get none. -/
theorem enabledScanners_eq_error {config : Config}
    (hUnknown : ∃ n ∈ config.scanners.enabled, Text.lower n ∉ builtinNames) :
    enabledScanners config =
      .error (.unknown (sortedNames
        ((config.scanners.enabled.map Text.lower).filter fun n => n ∉ builtinNames))) := by
  have hSome : config.scanners.enabled.isEmpty ≠ true := by
    obtain ⟨n, hn, -⟩ := hUnknown
    rw [Ne, List.isEmpty_iff]
    exact List.ne_nil_of_mem hn
  have hCandidates : builtinScanners config = (builtins config).map Candidate.ready := rfl
  rw [enabledScanners, hCandidates, if_neg hSome]
  exact discover_eq_error (nodup_builtinNames config) hUnknown

/-- Settings that get scanners name no others. -/
theorem known_of_enabledScanners {config : Config} {scanners : List Scanner}
    (h : enabledScanners config = .ok scanners) :
    ∀ n ∈ config.scanners.enabled, Text.lower n ∈ builtinNames := by
  intro n hn
  refine Decidable.byContradiction fun hOther => ?_
  rw [enabledScanners_eq_error ⟨n, hn, hOther⟩] at h
  cases h

end ProjectAtlas
