import ProjectAtlas.Config.Load
import ProjectAtlas.Proofs.Scanner.Traversal

/-!
What can be wrong with settings beside the faults that are reported as such: where their file leads or
that it cannot be looked up, its encoding, a document that nests too deep, a value that has not the form
of its type, and an integer that cannot be written out where a text is called for.
-/

namespace ProjectAtlas

open Yaml

/-- The value is an integer with more digits than may be written. -/
def IsLongInteger (v : Value) : Prop :=
  ∃ n, v = .scalar (.integer n) ∧ Text.isTooLong n = true

/-- The setting is a list with such an integer in it. -/
def ListsLongInteger (setting : Option Value) : Prop :=
  ∃ items, setting = some (.list items) ∧ ∃ item ∈ items, IsLongInteger item

/-- The settings that are lists of texts. -/
def listSettings (v : Value) : List (Option Value) :=
  [(sectionOf v "analyzers").field? "enabled", (sectionOf v "analyzers").field? "exclude_paths",
    (sectionOf v "scan").field? "source_extensions", v.field? "exclude_paths"]

/-- The settings that name a directory. -/
def directorySettings (v : Value) : List (Option Value) :=
  ["source", "content", "plugins"].map (sectionOf v "directories").field?

/-- An integer that cannot be written out stands where a text is called for: for a directory, or in a
list of texts. -/
def HoldsLongSetting (v : Value) : Prop :=
  (∃ s ∈ listSettings v, ListsLongInteger s) ∨
    ∃ s ∈ directorySettings v, ∃ value, s = some value ∧ IsLongInteger value

theorem textOf?_fails_iff {v : Value} : (∃ e, textOf? v = .error e) ↔ IsLongInteger v := by
  cases v with
  | scalar s =>
      cases s with
      | integer n =>
          have hValue : IsLongInteger (.scalar (.integer n)) ↔ Text.isTooLong n = true := by
            simp [IsLongInteger]
          rw [hValue]
          cases hLong : Text.isTooLong n with
          | false => simp [textOf?, integerText, hLong, Except.map]
          | true =>
              refine ⟨fun _ => rfl, fun _ => ⟨.integerUnwritable, ?_⟩⟩
              simp [textOf?, integerText, hLong, Except.map]
      | _ => simp [textOf?, IsLongInteger]
  | _ => simp [textOf?, IsLongInteger]

theorem textsOf_fails_iff {setting : Option Value} :
    (∃ e, textsOf setting = .error e) ↔ ListsLongInteger setting := by
  have hList (items : List Value) : (∃ e, textsOf (some (.list items)) = .error e) ↔
      ∃ item ∈ items, IsLongInteger item := by
    have hAll : (∃ texts, items.mapM textOf? = .ok texts) ↔ ∀ item ∈ items, ∃ text, textOf? item = .ok text :=
      mapM_isOk_iff
    cases hTexts : items.mapM textOf? with
    | error e =>
        obtain ⟨item, hItem, hFault⟩ := exists_error_of_mapM hTexts
        have hLong := textOf?_fails_iff.mp ⟨e, hFault⟩
        simp only [textsOf, hTexts]
        exact ⟨fun _ => ⟨item, hItem, hLong⟩, fun _ => ⟨e, rfl⟩⟩
    | ok texts =>
        simp only [textsOf, hTexts]
        constructor
        · rintro ⟨e, hFault⟩
          cases hFault
        · rintro ⟨item, hItem, hLong⟩
          obtain ⟨e, hFault⟩ := textOf?_fails_iff.mpr hLong
          obtain ⟨text, hText⟩ := hAll.mp ⟨texts, hTexts⟩ item hItem
          rw [hText] at hFault
          cases hFault
  cases setting with
  | none => simp [textsOf, ListsLongInteger]
  | some v =>
      cases v with
      | scalar s => cases s <;> simp [textsOf, ListsLongInteger]
      | list items => simpa [ListsLongInteger] using hList items
      | _ => simp [textsOf, ListsLongInteger]

theorem directoryOf_fails_iff {setting : Option Value} {otherwise : String} :
    (∃ e, directoryOf setting otherwise = .error e) ↔
      ∃ value, setting = some value ∧ IsLongInteger value := by
  cases setting with
  | none => simp [directoryOf]
  | some v =>
      have hText := textOf?_fails_iff (v := v)
      simp only [directoryOf, Option.some.injEq, exists_eq_left']
      rw [← hText]
      exact map_fails_iff

/-- A mapping gives no settings exactly if some integer in it cannot be written out. -/
theorem configOf_fails_iff {v : Value} : (∃ e, configOf v = .error e) ↔ HoldsLongSetting v := by
  have hScan : (∃ e, scanOptionsOf (sectionOf v "scan") = .error e) ↔
      ListsLongInteger ((sectionOf v "scan").field? "source_extensions") := by
    rw [← textsOf_fails_iff]
    exact map_fails_iff
  simp only [configOf, scannersOf, directoriesOf, seq_fails_iff, map_fails_iff, hScan,
    textsOf_fails_iff, directoryOf_fails_iff]
  simp only [HoldsLongSetting, listSettings, directorySettings, List.map_cons, List.map_nil]
  grind

/-- A fault of the settings in a text that is none of those that settings are known to have. -/
inductive UnforeseenInText (host : Host) (text : List Char) : ConfigFault → Prop where
  | scalar {fault : ScalarFault} (hText : text.all Text.isBlank = false)
      (hLoad : host.loadSettings configDepth text = .error (.scalar fault)) :
      UnforeseenInText host text (.malformed (.scalar fault))
  | escape {tooLarge : Bool} (hText : text.all Text.isBlank = false)
      (hLoad : host.loadSettings configDepth text = .error (.escapeOutOfRange tooLarge)) :
      UnforeseenInText host text (.malformed (.escapeOutOfRange tooLarge))
  | depth (hText : text.all Text.isBlank = false)
      (hLoad : host.loadSettings configDepth text = .error .tooDeep) :
      UnforeseenInText host text (.malformed .tooDeep)
  | integer {entries : List (Value × Value)} (hText : text.all Text.isBlank = false)
      (hLoad : host.loadSettings configDepth text = .ok (.map entries))
      (hLong : HoldsLongSetting (.map entries)) :
      UnforeseenInText host text .integerUnwritable

theorem readConfig_unforeseen_iff {host : Host} {text : List Char} {fault : ConfigFault} :
    readConfig host text = .error fault ∧ fault.isReported = false ↔
      UnforeseenInText host text fault := by
  constructor
  · rintro ⟨hRead, hKnown⟩
    unfold readConfig at hRead
    split at hRead
    case isTrue => cases hRead
    case isFalse hSome =>
      have hText : text.all Text.isBlank = false := Bool.eq_false_iff.mpr hSome
      cases hLoad : host.loadSettings configDepth text with
      | error found =>
          rw [hLoad] at hRead
          cases hRead
          cases found with
          | scalar fault => exact .scalar hText hLoad
          | escapeOutOfRange tooLarge => exact .escape hText hLoad
          | tooDeep => exact .depth hText hLoad
          | _ => cases hKnown
      | ok value =>
          rw [hLoad] at hRead
          cases value with
          | map entries =>
              obtain ⟨e, hConfig, rfl⟩ := mapError_eq_error_iff.mp hRead
              exact .integer hText hLoad (configOf_fails_iff.mp ⟨e, hConfig⟩)
          | _ =>
              simp only at hRead
              split at hRead
              · cases hRead
              · cases hRead
                cases hKnown
  · intro h
    cases h with
    | scalar hText hLoad | escape hText hLoad | depth hText hLoad =>
        refine ⟨?_, rfl⟩
        simp only [readConfig, hText, Bool.false_eq_true, if_false, hLoad]
    | integer hText hLoad hLong =>
        refine ⟨?_, rfl⟩
        obtain ⟨e, hConfig⟩ := configOf_fails_iff.mpr hLong
        simp only [readConfig, hText, Bool.false_eq_true, if_false, hLoad, hConfig]
        rfl

/-- The file that holds the settings for a place is there. -/
structure IsSettingsFile (v : Volume) (place file : Path) : Prop where
  located : locateConfig v place = .ok file
  parent : ∃ root, v.canonical file.parent = .ok root
  isFile : v.isFile file = .ok true

/-- Why it cannot be told whether there is a file with settings for a place: the place has an unknown
home or cannot be looked up, links lead in a circle or too deep, or the file cannot be looked up. -/
inductive LosesSettings (v : Volume) (place : Path) : ConfigFault → Prop where
  | home {fault : RootFault} (hHome : v.expandHome place = .error fault) :
      LosesSettings v place (.root fault)
  | place {location : Path} {fault : FileFault} (hHome : v.expandHome place = .ok location)
      (hPlace : v.isDir location = .error fault) : LosesSettings v place (.unreachable fault)
  | links {location file : Path} {fault : RootFault} (hHome : v.expandHome place = .ok location)
      (hFile : configFile v location = .ok file) (hLinks : v.resolve file = .error fault) :
      LosesSettings v place (.root fault)
  | parent {file : Path} {fault : RootFault} (hFile : locateConfig v place = .ok file)
      (hParent : v.canonical file.parent = .error fault) : LosesSettings v place (.root fault)
  | file {file root : Path} {fault : FileFault} (hFile : locateConfig v place = .ok file)
      (hParent : v.canonical file.parent = .ok root) (hIs : v.isFile file = .error fault) :
      LosesSettings v place (.unreachable fault)

theorem losesSettings_of_locateConfig {v : Volume} {place : Path} {fault : ConfigFault}
    (h : locateConfig v place = .error fault) : LosesSettings v place fault := by
  unfold locateConfig at h
  cases hHome : v.expandHome place with
  | error found =>
      rw [hHome] at h
      cases h
      exact .home hHome
  | ok location =>
      cases hFile : configFile v location with
      | error found =>
          simp only [hHome, hFile] at h
          cases h
          exact .place hHome (map_eq_error_iff.mp hFile)
      | ok file =>
          simp only [hHome, hFile] at h
          obtain ⟨found, hLinks, rfl⟩ := mapError_eq_error_iff.mp h
          exact .links hHome hFile hLinks

/-- Settings that are lost are not loaded, for that fault. -/
theorem LosesSettings.loadConfig {v : Volume} {place : Path} {fault : ConfigFault}
    (h : LosesSettings v place fault) :
    loadConfig v place = .error fault ∧ fault.isReported = false := by
  cases h with
  | home hHome => exact ⟨by simp only [ProjectAtlas.loadConfig, locateConfig, hHome], rfl⟩
  | place hHome hPlace =>
      refine ⟨?_, rfl⟩
      simp only [ProjectAtlas.loadConfig, locateConfig, hHome, configFile, hPlace, Except.map]
  | links hHome hFile hLinks =>
      refine ⟨?_, rfl⟩
      simp only [ProjectAtlas.loadConfig, locateConfig, hHome, hFile, hLinks]
      rfl
  | parent hFile hParent => exact ⟨by simp only [ProjectAtlas.loadConfig, hFile, hParent], rfl⟩
  | file hFile hParent hIs => exact ⟨by simp only [ProjectAtlas.loadConfig, hFile, hParent, hIs], rfl⟩

/-- A place loses its settings, or has none, or has a file that holds them. -/
theorem settings_cases (v : Volume) (place : Path) :
    (∃ fault, LosesSettings v place fault) ∨ (∃ root, loadConfig v place = .ok (root, {})) ∨
      ∃ file, IsSettingsFile v place file := by
  cases hFile : locateConfig v place with
  | error fault => exact .inl ⟨fault, losesSettings_of_locateConfig hFile⟩
  | ok file =>
      cases hParent : v.canonical file.parent with
      | error fault => exact .inl ⟨_, .parent hFile hParent⟩
      | ok root =>
          cases hIs : v.isFile file with
          | error fault => exact .inl ⟨_, .file hFile hParent hIs⟩
          | ok isFile =>
              cases isFile with
              | false =>
                  refine .inr (.inl ⟨root, ?_⟩)
                  simp only [loadConfig, hFile, hParent, hIs]
              | true => exact .inr (.inr ⟨file, hFile, ⟨root, hParent⟩, hIs⟩)

/-- The settings of a place are those in its file. -/
theorem IsSettingsFile.loadConfig_eq {v : Volume} {place file : Path}
    (h : IsSettingsFile v place file) :
    ∃ root, loadConfig v place = (readConfigFile v file).map fun config => (root, config) := by
  obtain ⟨hFile, ⟨root, hParent⟩, hIs⟩ := h
  exact ⟨root, by simp only [loadConfig, hFile, hParent, hIs]⟩

/-- A fault of the settings for a place that is none of those that settings are known to have. -/
inductive UnforeseenInSettings (v : Volume) (place : Path) : ConfigFault → Prop where
  | lost {fault : ConfigFault} (hLost : LosesSettings v place fault) :
      UnforeseenInSettings v place fault
  | undecodable {file : Path} {bytes : List UInt8} {fault : Text.Utf8Fault}
      (hFile : IsSettingsFile v place file) (hRead : v.read file = .ok bytes)
      (hDecode : Text.decodeStrict bytes = .error fault) :
      UnforeseenInSettings v place (.undecodable fault)
  | text {file : Path} {bytes : List UInt8} {text : List Char} {fault : ConfigFault}
      (hFile : IsSettingsFile v place file) (hRead : v.read file = .ok bytes)
      (hDecode : Text.decodeStrict bytes = .ok text)
      (hText : UnforeseenInText v.host (Text.unifyLineEnds text) fault) :
      UnforeseenInSettings v place fault

/-- Loading the settings for a place fails with a fault that is not reported exactly if there is such a
fault in them. -/
theorem loadConfig_unforeseen_iff {v : Volume} {place : Path} {fault : ConfigFault} :
    loadConfig v place = .error fault ∧ fault.isReported = false ↔
      UnforeseenInSettings v place fault := by
  constructor
  · rintro ⟨hLoad, hKnown⟩
    rcases settings_cases v place with ⟨found, hLost⟩ | ⟨root, hNone⟩ | ⟨file, hFile⟩
    · obtain rfl := Except.error.inj (hLost.loadConfig.1.symm.trans hLoad)
      exact .lost hLost
    · rw [hNone] at hLoad
      cases hLoad
    · obtain ⟨root, hSettings⟩ := hFile.loadConfig_eq
      have hFails := map_eq_error_iff.mp (hSettings.symm.trans hLoad)
      cases hRead : v.read file with
      | error f =>
          simp only [readConfigFile, hRead] at hFails
          cases hFails
          cases hKnown
      | ok bytes =>
          cases hDecode : Text.decodeStrict bytes with
          | error f =>
              simp only [readConfigFile, hRead, hDecode] at hFails
              cases hFails
              exact .undecodable hFile hRead hDecode
          | ok text =>
              simp only [readConfigFile, hRead, hDecode] at hFails
              exact .text hFile hRead hDecode (readConfig_unforeseen_iff.mp ⟨hFails, hKnown⟩)
  · intro h
    cases h with
    | lost hLost => exact hLost.loadConfig
    | undecodable hFile hRead hDecode =>
        obtain ⟨root, hSettings⟩ := hFile.loadConfig_eq
        refine ⟨?_, rfl⟩
        rw [hSettings, readConfigFile, hRead]
        simp only [hDecode, Except.map]
    | text hFile hRead hDecode hText =>
        obtain ⟨root, hSettings⟩ := hFile.loadConfig_eq
        obtain ⟨hConfig, hKnown⟩ := readConfig_unforeseen_iff.mpr hText
        refine ⟨?_, hKnown⟩
        rw [hSettings, readConfigFile, hRead]
        simp only [hDecode, hConfig, Except.map]

end ProjectAtlas
