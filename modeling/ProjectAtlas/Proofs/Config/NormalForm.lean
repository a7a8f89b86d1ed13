import ProjectAtlas.Proofs.Config.Outcome
import ProjectAtlas.Proofs.Text.Case

/-!
The normal form of settings: bounds that are positive, suffixes as suffixes are compared, which bringing
them to that form once more leaves as they are, and names of directories without slashes around them. All
settings that are loaded have it, the defaults among them.
-/

namespace ProjectAtlas

open Yaml

/-- A number that is set is at least one. -/
theorem positiveOf_pos (v : Option Value) {otherwise : Nat} (h : 0 < otherwise) :
    0 < positiveOf v otherwise := by
  unfold positiveOf
  split
  · exact Nat.lt_of_lt_of_le Nat.one_pos (Nat.le_max_left _ _)
  · rename_i s
    cases Text.readDecimal? s.toList with
    | none => exact h
    | some n => exact Nat.lt_of_lt_of_le Nat.one_pos (Nat.le_max_left _ _)
  · exact h

/-- The four parts of the settings in a mapping. -/
theorem configOf_eq_ok {v : Value} {c : Config} (h : configOf v = .ok c) :
    scannersOf (sectionOf v "analyzers") = .ok c.scanners ∧
      scanOptionsOf (sectionOf v "scan") = .ok c.scan ∧
      directoriesOf (sectionOf v "directories") = .ok c.directories ∧
      textsOf (v.field? "exclude_paths") = .ok c.excludePaths := by
  obtain ⟨_, _, hThree, hExclusions, rfl⟩ := seq_eq_ok_iff.mp h
  obtain ⟨_, _, hTwo, hDirectories, rfl⟩ := seq_eq_ok_iff.mp hThree
  obtain ⟨_, _, hOne, hScan, rfl⟩ := seq_eq_ok_iff.mp hTwo
  obtain ⟨_, hScanners, rfl⟩ := map_eq_ok_iff.mp hOne
  exact ⟨hScanners, hScan, hDirectories, hExclusions⟩

theorem scannersOf_eq_ok {v : Value} {c : ScannerChoice} (h : scannersOf v = .ok c) :
    textsOf (v.field? "enabled") = .ok c.enabled ∧
      textsOf (v.field? "exclude_paths") = .ok c.excludePaths := by
  obtain ⟨_, _, hFirst, hExclusions, rfl⟩ := seq_eq_ok_iff.mp h
  obtain ⟨_, hEnabled, rfl⟩ := map_eq_ok_iff.mp hFirst
  exact ⟨hEnabled, hExclusions⟩

theorem directoriesOf_eq_ok {v : Value} {d : Directories} (h : directoriesOf v = .ok d) :
    directoryOf (v.field? "source") ({} : Directories).source = .ok d.source ∧
      directoryOf (v.field? "content") ({} : Directories).content = .ok d.content ∧
      directoryOf (v.field? "plugins") ({} : Directories).plugins = .ok d.plugins := by
  obtain ⟨_, _, hTwo, hPlugins, rfl⟩ := seq_eq_ok_iff.mp h
  obtain ⟨_, _, hOne, hContent, rfl⟩ := seq_eq_ok_iff.mp hTwo
  obtain ⟨_, hSource, rfl⟩ := map_eq_ok_iff.mp hOne
  exact ⟨hSource, hContent, hPlugins⟩

/-- The text is a suffix as suffixes are compared: in small letters, trimmed, with a dot in front. -/
theorem extensionOf_eq_self {cs : List Char} (hSmall : ∀ c ∈ cs, Text.IsSmall c)
    (hTrimmed : Text.IsTrimmed cs) (hDot : cs.head? = some '.') :
    extensionOf (String.ofList cs) = String.ofList cs := by
  simp only [extensionOf, Text.lower, String.toList_ofList, hTrimmed.trim,
    Text.lowerAfter_eq_self hSmall, hDot, if_true]

/-- What a suffix is made into is a suffix as suffixes are compared. -/
theorem exists_extensionOf (s : String) :
    ∃ cs, extensionOf s = String.ofList cs ∧ (∀ c ∈ cs, Text.IsSmall c) ∧ Text.IsTrimmed cs ∧
      cs.head? = some '.' := by
  have hDot : Text.IsSmall '.' ∧ Text.isBlank '.' = false := by
    decide +kernel
  have hSmall : ∀ c ∈ Text.lowerAfter [] (Text.trim s.toList), Text.IsSmall c :=
    fun c hc => Text.isSmall_of_mem_lowerAfter hc
  have hLast := Text.last_lowerAfter (Text.isTrimmed_trim s.toList).last []
  simp only [extensionOf, Text.lower, String.toList_ofList]
  split
  · rename_i hHead
    refine ⟨_, rfl, hSmall, ⟨?_, hLast⟩, hHead⟩
    intro c hc
    rw [hHead] at hc
    exact Option.some.inj hc ▸ hDot.2
  · refine ⟨'.' :: Text.lowerAfter [] (Text.trim s.toList), ?_, ?_, ⟨?_, ?_⟩, rfl⟩
    · rw [String.ofList_cons]
      rfl
    · simpa using ⟨hDot.1, hSmall⟩
    · simpa using hDot.2
    · intro c hc
      rw [List.getLast?_cons, Option.mem_def, Option.some.injEq] at hc
      cases hEnd : (Text.lowerAfter [] (Text.trim s.toList)).getLast? with
      | none =>
          rw [hEnd] at hc
          exact hc ▸ hDot.2
      | some d =>
          rw [hEnd] at hc
          exact hc ▸ hLast d hEnd

theorem extensionOf_extensionOf (s : String) : extensionOf (extensionOf s) = extensionOf s := by
  obtain ⟨cs, hSame, hSmall, hTrimmed, hDot⟩ := exists_extensionOf s
  rw [hSame]
  exact extensionOf_eq_self hSmall hTrimmed hDot

theorem head?_extensionOf (s : String) : (extensionOf s).toList.head? = some '.' := by
  obtain ⟨cs, hSame, -, -, hDot⟩ := exists_extensionOf s
  rw [hSame, String.toList_ofList, hDot]

/-- Neither end of the text is a slash. -/
def HasNoSlashEnds (s : String) : Prop :=
  s.toList.head? ≠ some '/' ∧ s.toList.getLast? ≠ some '/'

instance (s : String) : Decidable (HasNoSlashEnds s) :=
  inferInstanceAs (Decidable (s.toList.head? ≠ some '/' ∧ s.toList.getLast? ≠ some '/'))

theorem hasNoSlashEnds_trimBoth (cs : List Char) :
    HasNoSlashEnds (String.ofList (Text.trimBoth (· == '/') cs)) := by
  obtain ⟨hFirst, hLast⟩ := Text.ends_trimBoth (· == '/') cs
  rw [HasNoSlashEnds, String.toList_ofList]
  exact ⟨fun h => by simpa using hFirst '/' h, fun h => by simpa using hLast '/' h⟩

/-- The name of a directory has no slashes at its ends if the default has none. -/
theorem hasNoSlashEnds_of_directoryOf {v : Option Value} {otherwise name : String}
    (h : directoryOf v otherwise = .ok name) (hDefault : HasNoSlashEnds otherwise) :
    HasNoSlashEnds name := by
  cases v with
  | none =>
      cases h
      exact hDefault
  | some value =>
      obtain ⟨text, -, hName⟩ := map_eq_ok_iff.mp h
      split at hName
      · exact hName ▸ hDefault
      · exact hName ▸ hDefault
      · exact hName ▸ hasNoSlashEnds_trimBoth _

/-- Settings in normal form. -/
structure Config.IsNormal (c : Config) : Prop where
  workers : 1 ≤ c.scan.maxWorkers
  declaration : 1 ≤ c.scan.windows.declaration
  callable : 1 ≤ c.scan.windows.callable
  enumBody : 1 ≤ c.scan.windows.enumBody
  someExtension : c.scan.extensions ≠ []
  extensions : ∀ e ∈ c.scan.extensions, e.toList.head? = some '.' ∧ extensionOf e = e
  directories : ∀ d ∈ [c.directories.source, c.directories.content, c.directories.plugins],
    HasNoSlashEnds d

/-- The defaults have the normal form. -/
theorem isNormal_default : ({} : Config).IsNormal where
  workers := by decide
  declaration := by decide
  callable := by decide
  enumBody := by decide
  someExtension := by decide
  extensions := by decide +kernel
  directories := by decide

/-- Settings in a mapping have their normal form. -/
theorem isNormal_of_configOf {v : Value} {c : Config} (h : configOf v = .ok c) : c.IsNormal := by
  obtain ⟨-, hScan, hDirectories, -⟩ := configOf_eq_ok h
  obtain ⟨hSource, hContent, hPlugins⟩ := directoriesOf_eq_ok hDirectories
  obtain ⟨extensions, -, hOptions⟩ := map_eq_ok_iff.mp hScan
  constructor
  case workers | declaration | callable | enumBody =>
    rw [← hOptions]
    exact positiveOf_pos _ (by decide)
  case someExtension =>
    rw [← hOptions]
    cases extensions with
    | nil => simp [defaultExtensions]
    | cons text texts => simp
  case extensions =>
    rw [← hOptions]
    by_cases hNone : extensions.isEmpty = true
    · simpa [hNone] using isNormal_default.extensions
    · intro e he
      obtain ⟨text, -, rfl⟩ : ∃ text ∈ extensions, extensionOf text = e := by
        simpa [hNone] using he
      exact ⟨head?_extensionOf text, extensionOf_extensionOf text⟩
  case directories =>
    intro d hd
    simp only [List.mem_cons, List.not_mem_nil, or_false] at hd
    rcases hd with rfl | rfl | rfl
    · exact hasNoSlashEnds_of_directoryOf hSource (by decide)
    · exact hasNoSlashEnds_of_directoryOf hContent (by decide)
    · exact hasNoSlashEnds_of_directoryOf hPlugins (by decide)

/-- All settings that are loaded have the normal form. -/
theorem isNormal_of_loadConfig {v : Volume} {location root : Path} {config : Config}
    (h : loadConfig v location = .ok (root, config)) : config.IsNormal := by
  rcases settings_cases v location with ⟨fault, hLost⟩ | ⟨place, hNone⟩ | ⟨file, hFile⟩
  · rw [hLost.loadConfig.1] at h
    cases h
  · rw [hNone] at h
    cases h
    exact isNormal_default
  · obtain ⟨content, hContent⟩ := exists_holdsSettings v file
    obtain ⟨place, hLoad⟩ := loadConfig_of_holds hFile hContent
    obtain ⟨read, hRead, hSame⟩ := map_eq_ok_iff.mp (hLoad.symm.trans h)
    cases hSame
    rcases settings_eq_ok hRead with rfl | ⟨entries, -, hConfig⟩
    · exact isNormal_default
    · exact isNormal_of_configOf hConfig

end ProjectAtlas
