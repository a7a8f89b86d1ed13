import ProjectAtlas.Proofs.Config.NormalForm

/-!
The settings one by one. Each is read from the value at its own keys and from nothing else, and is the
default if that value is of no use for it.
-/

namespace ProjectAtlas

open Yaml

/-- One of the settings. -/
inductive Setting
  | enabled
  | scannerExclusions
  | maxWorkers
  | declarationWindow
  | callableWindow
  | enumBodyWindow
  | extensions
  | source
  | content
  | plugins
  | exclusions
deriving DecidableEq

/-- What a setting is made of. -/
inductive SettingKind
  | texts
  | number
  | directory
deriving DecidableEq

/-- What a setting is set to. -/
inductive SettingValue
  | texts (ts : List String)
  | number (n : Nat)
  | directory (name : String)
deriving DecidableEq

namespace Setting

/-- The keys that lead to the value of a setting. -/
def keys : Setting → List String
  | .enabled => ["analyzers", "enabled"]
  | .scannerExclusions => ["analyzers", "exclude_paths"]
  | .maxWorkers => ["scan", "max_workers"]
  | .declarationWindow => ["scan", "declaration_lookahead"]
  | .callableWindow => ["scan", "callable_lookahead"]
  | .enumBodyWindow => ["scan", "enum_body_window"]
  | .extensions => ["scan", "source_extensions"]
  | .source => ["directories", "source"]
  | .content => ["directories", "content"]
  | .plugins => ["directories", "plugins"]
  | .exclusions => ["exclude_paths"]

/-- What the setting is made of. -/
def kind : Setting → SettingKind
  | .enabled | .scannerExclusions | .extensions | .exclusions => .texts
  | .maxWorkers | .declarationWindow | .callableWindow | .enumBodyWindow => .number
  | .source | .content | .plugins => .directory

/-- What the setting is set to. -/
def get (c : Config) : Setting → SettingValue
  | .enabled => .texts c.scanners.enabled
  | .scannerExclusions => .texts c.scanners.excludePaths
  | .maxWorkers => .number c.scan.maxWorkers
  | .declarationWindow => .number c.scan.windows.declaration
  | .callableWindow => .number c.scan.windows.callable
  | .enumBodyWindow => .number c.scan.windows.enumBody
  | .extensions => .texts c.scan.extensions
  | .source => .directory c.directories.source
  | .content => .directory c.directories.content
  | .plugins => .directory c.directories.plugins
  | .exclusions => .texts c.excludePaths

/-- What the setting is set to unless a value says otherwise. -/
def default (s : Setting) : SettingValue :=
  s.get {}

/-- What the value at the keys of the setting sets it to. -/
def read (v : Option Value) : Setting → Except TextFault SettingValue
  | .enabled | .scannerExclusions | .exclusions => (textsOf v).map .texts
  | .maxWorkers => .ok (.number (positiveOf v ({} : ScanOptions).maxWorkers))
  | .declarationWindow => .ok (.number (positiveOf v ({} : Source.Windows).declaration))
  | .callableWindow => .ok (.number (positiveOf v ({} : Source.Windows).callable))
  | .enumBodyWindow => .ok (.number (positiveOf v ({} : Source.Windows).enumBody))
  | .extensions => (textsOf v).map fun ts =>
      .texts (if ts.isEmpty then defaultExtensions else ts.map extensionOf)
  | .source => (directoryOf v ({} : Directories).source).map .directory
  | .content => (directoryOf v ({} : Directories).content).map .directory
  | .plugins => (directoryOf v ({} : Directories).plugins).map .directory

end Setting

/-- The value that keys lead to, through mappings in one another. -/
def valueAt : List String → Value → Option Value
  | [], v => some v
  | key :: keys, v => (v.field? key).bind (valueAt keys)

/-- A section holds what the keys through it lead to. -/
theorem valueAt_cons_cons (key inner : String) (keys : List String) (v : Value) :
    valueAt (key :: inner :: keys) v = valueAt (inner :: keys) (sectionOf v key) := by
  simp only [valueAt, sectionOf]
  cases hField : v.field? key with
  | none => simp [Value.field?]
  | some w =>
      cases w with
      | map entries => rfl
      | _ => simp [Value.field?]

theorem field?_sectionOf (key inner : String) (v : Value) :
    (sectionOf v key).field? inner = valueAt [key, inner] v := by
  rw [valueAt_cons_cons, valueAt]
  simp [valueAt]

/-- Each setting is what is read from the value at its keys. -/
theorem read_of_configOf {v : Value} {c : Config} (h : configOf v = .ok c) (s : Setting) :
    s.read (valueAt s.keys v) = .ok (s.get c) := by
  obtain ⟨hScanners, hScan, hDirectories, hExclusions⟩ := configOf_eq_ok h
  obtain ⟨hEnabled, hExcluded⟩ := scannersOf_eq_ok hScanners
  obtain ⟨hSource, hContent, hPlugins⟩ := directoriesOf_eq_ok hDirectories
  obtain ⟨extensions, hExtensions, hOptions⟩ := map_eq_ok_iff.mp hScan
  have hTop : valueAt ["exclude_paths"] v = v.field? "exclude_paths" := by
    simp [valueAt]
  cases s <;> simp only [Setting.read, Setting.keys, Setting.get, hTop, ← field?_sectionOf,
    hEnabled, hExcluded, hExclusions, hExtensions, hSource, hContent, hPlugins, ← hOptions] <;> rfl

/-- A text or a number. -/
inductive IsWritten : Value → Prop where
  | text {s : String} : IsWritten (.scalar (.text s))
  | integer {n : Int} : IsWritten (.scalar (.integer n))
  | float {x : Float} : IsWritten (.scalar (.float x))

/-- Values that are of use for settings: a text, or a list with any texts or numbers in it; an integer, also
as a text; a text or a number that names a directory. -/
inductive CanUse : SettingKind → Value → Prop where
  | text {s : String} : CanUse .texts (.scalar (.text s))
  | bytes {bs : List UInt8} (hSome : bs ≠ []) : CanUse .texts (.scalar (.bytes bs))
  | list {items : List Value} {item : Value} (hItem : item ∈ items) (hWritten : IsWritten item) :
      CanUse .texts (.list items)
  | integer {n : Int} : CanUse .number (.scalar (.integer n))
  | numeral {s : String} {n : Int} (hNumeral : Text.readDecimal? s.toList = some n) :
      CanUse .number (.scalar (.text s))
  | directory {v : Value} (hWritten : IsWritten v) (hSome : v ≠ .scalar (.text "")) :
      CanUse .directory v

/-- No value of use for settings of this kind. -/
def IsUseless (kind : SettingKind) (v : Option Value) : Prop :=
  ∀ value, v = some value → ¬CanUse kind value

theorem textOf?_of_not_isWritten {v : Value} (h : ¬IsWritten v) : textOf? v = .ok none := by
  cases v with
  | scalar x =>
      cases x with
      | text t => exact absurd .text h
      | integer n => exact absurd .integer h
      | float y => exact absurd .float h
      | _ => rfl
  | _ => rfl

theorem mapM_textOf? {items : List Value} (h : ∀ item ∈ items, ¬IsWritten item) :
    items.mapM textOf? = .ok (items.map fun _ => none) := by
  induction items with
  | nil => rfl
  | cons item items ih =>
      rw [List.mapM_cons, textOf?_of_not_isWritten (h item (by simp)),
        ih fun other hOther => h other (List.mem_cons_of_mem item hOther)]
      rfl

theorem textsOf_of_isUseless {v : Option Value} (h : IsUseless .texts v) : textsOf v = .ok [] := by
  cases v with
  | none => rfl
  | some value =>
      cases value with
      | scalar x =>
          cases x with
          | text t => exact absurd .text (h _ rfl)
          | bytes bs =>
              cases bs with
              | nil => rfl
              | cons b bs => exact absurd (.bytes (by simp)) (h _ rfl)
          | _ => rfl
      | list items =>
          have hNone : ∀ item ∈ items, ¬IsWritten item :=
            fun item hItem hWritten => h _ rfl (.list hItem hWritten)
          rw [textsOf, mapM_textOf? hNone]
          simp [Except.map]
      | _ => rfl

theorem positiveOf_of_isUseless {v : Option Value} (h : IsUseless .number v) (otherwise : Nat) :
    positiveOf v otherwise = otherwise := by
  cases v with
  | none => rfl
  | some value =>
      cases value with
      | scalar x =>
          cases x with
          | integer n => exact absurd .integer (h _ rfl)
          | text t =>
              cases hRead : Text.readDecimal? t.toList with
              | none => simp [positiveOf, hRead]
              | some n => exact absurd (.numeral hRead) (h _ rfl)
          | _ => rfl
      | _ => rfl

theorem directoryOf_of_isUseless {v : Option Value} (h : IsUseless .directory v)
    (otherwise : String) : directoryOf v otherwise = .ok otherwise := by
  cases v with
  | none => rfl
  | some value =>
      by_cases hEmpty : value = .scalar (.text "")
      · subst hEmpty
        rfl
      · have hUnwritten : ¬IsWritten value := fun hWritten => h _ rfl (.directory hWritten hEmpty)
        simp only [directoryOf, textOf?_of_not_isWritten hUnwritten]
        rfl

/-- A setting whose value is of no use is the default. -/
theorem read_of_isUseless {s : Setting} {v : Option Value} (h : IsUseless s.kind v) :
    s.read v = .ok s.default := by
  cases s with
  | enabled | scannerExclusions | extensions | exclusions =>
      simp only [Setting.read, textsOf_of_isUseless h]
      rfl
  | maxWorkers | declarationWindow | callableWindow | enumBodyWindow =>
      simp only [Setting.read, positiveOf_of_isUseless h]
      rfl
  | source | content | plugins =>
      simp only [Setting.read, directoryOf_of_isUseless h]
      rfl

/-- The entries of a mapping with another key. -/
def otherEntries (key : String) : Value → List (Value × Value)
  | .map entries => entries.filter fun e => !e.1.isText key
  | _ => []

/-- Two documents that differ at most in the value that these keys lead to: it can be another one, or be
there in one of them only. A section that is not there, or is no mapping, counts as empty. -/
inductive ChangedAt : List String → Value → Value → Prop where
  | value {v w : Value} : ChangedAt [] v w
  | entry {key : String} {keys : List String} {v w : Value}
      (hOthers : otherEntries key v = otherEntries key w)
      (hBelow : ChangedAt keys (sectionOf v key) (sectionOf w key)) : ChangedAt (key :: keys) v w

theorem isText_of_ne {key other : String} (hOther : other ≠ key) {v : Value}
    (h : v.isText other = true) : v.isText key = false := by
  cases v with
  | scalar x =>
      cases x with
      | text t =>
          obtain rfl : t = other := by simpa [Value.isText] using h
          simpa [Value.isText] using hOther
      | _ => cases h
  | _ => cases h

/-- The value of a key is among the entries with another key than a different one. -/
theorem field?_otherEntries {key other : String} (hOther : other ≠ key) (v : Value) :
    (Value.map (otherEntries key v)).field? other = v.field? other := by
  cases v with
  | map entries =>
      have hKept : (fun e : Value × Value => decide ((!e.1.isText key) = true ∧ e.1.isText other = true)) =
          fun e => e.1.isText other := by
        funext e
        cases hIs : e.1.isText other with
        | false => simp
        | true => simp [isText_of_ne hOther hIs]
      simp only [otherEntries, Value.field?, ← List.filter_reverse, List.find?_filter]
      rw [hKept]
  | _ => simp [otherEntries, Value.field?]

/-- What other keys lead to is the same in documents that differ at these keys. -/
theorem valueAt_of_changedAt {keys other : List String} {v w : Value} (h : ChangedAt keys v w)
    (hAbove : ¬keys <+: other) (hBelow : ¬other <+: keys) : valueAt other v = valueAt other w := by
  induction h generalizing other with
  | value => exact absurd List.nil_prefix hAbove
  | @entry key keys v w hOthers hSection ih =>
      cases other with
      | nil => exact absurd List.nil_prefix hBelow
      | cons first rest =>
          by_cases hSame : first = key
          · subst hSame
            cases rest with
            | nil => exact absurd (by simp) hBelow
            | cons second rest =>
                rw [valueAt_cons_cons, valueAt_cons_cons]
                apply ih
                · intro hPrefix
                  exact hAbove (List.cons_prefix_cons.mpr ⟨rfl, hPrefix⟩)
                · intro hPrefix
                  exact hBelow (List.cons_prefix_cons.mpr ⟨rfl, hPrefix⟩)
          · have hFields : v.field? first = w.field? first := by
              rw [← field?_otherEntries hSame v, hOthers, field?_otherEntries hSame w]
            rw [valueAt, valueAt, hFields]

/-- Settings that are read from equal values are equal. -/
theorem get_eq_of_valueAt {v w : Value} {c d : Config} (hc : configOf v = .ok c)
    (hd : configOf w = .ok d) {s : Setting} (hValue : valueAt s.keys v = valueAt s.keys w) :
    s.get c = s.get d := by
  have hRead := read_of_configOf hc s
  rw [hValue, read_of_configOf hd s] at hRead
  exact (Except.ok.inj hRead).symm

theorem get_eq_default {v : Value} {c : Config} (hc : configOf v = .ok c) {s : Setting}
    (hUseless : IsUseless s.kind (valueAt s.keys v)) : s.get c = s.default := by
  have hRead := read_of_configOf hc s
  rw [read_of_isUseless hUseless] at hRead
  exact (Except.ok.inj hRead).symm

/-- A mapping without long integers is loaded as the settings in it. -/
theorem loadConfig_of_mapping {v : Volume} {place file : Path} {entries : List (Value × Value)}
    (hFile : IsSettingsFile v place file)
    (hDocument : HoldsSettings v file (.document (.map entries)))
    (hShort : ¬HoldsLongSetting (.map entries)) :
    ∃ root config, loadConfig v place = .ok (root, config) ∧ configOf (.map entries) = .ok config := by
  obtain ⟨root, hLoad⟩ := loadConfig_of_holds hFile hDocument
  cases hConfig : configOf (.map entries) with
  | error e => exact absurd (configOf_fails_iff.mp ⟨e, hConfig⟩) hShort
  | ok config =>
      refine ⟨root, config, ?_, rfl⟩
      rw [hLoad, SettingsContent.settings, hConfig]
      rfl

/-- A mapping, in which every integer that is wanted as a text can be written out, is loaded as settings in
normal form, and a setting whose value is of no use is the default. Beside settings from any other such
mapping, each setting is the same if the values at its keys are; so a change of the value at any keys leaves
the settings with other keys as they are. There are no settings if the loader fails on the text of the
mapping, whatever key the value stands at that makes it fail. -/
theorem loadConfig_settings {v : Volume} {place file : Path} (hFile : IsSettingsFile v place file) :
    (∀ fault, HoldsSettings v file (.unloadable fault) →
      loadConfig v place = .error (.malformed fault)) ∧
    ∀ entries, HoldsSettings v file (.document (.map entries)) → ¬HoldsLongSetting (.map entries) →
      ∃ root config, loadConfig v place = .ok (root, config) ∧ config.IsNormal ∧
        (∀ s : Setting, IsUseless s.kind (valueAt s.keys (.map entries)) → s.get config = s.default) ∧
        ∀ {v' : Volume} {place' file' : Path} {entries' : List (Value × Value)},
          IsSettingsFile v' place' file' →
          HoldsSettings v' file' (.document (.map entries')) →
          ¬HoldsLongSetting (.map entries') →
          ∃ root' config', loadConfig v' place' = .ok (root', config') ∧
            (∀ s : Setting, valueAt s.keys (.map entries) = valueAt s.keys (.map entries') →
              s.get config = s.get config') ∧
            ∀ keys, ChangedAt keys (.map entries) (.map entries') →
              ∀ s : Setting, ¬keys <+: s.keys → ¬s.keys <+: keys → s.get config = s.get config' := by
  constructor
  · intro fault hContent
    obtain ⟨root, hLoad⟩ := loadConfig_of_holds hFile hContent
    rw [hLoad]
    rfl
  intro entries hDocument hShort
  obtain ⟨root, config, hLoad, hConfig⟩ := loadConfig_of_mapping hFile hDocument hShort
  refine ⟨root, config, hLoad, isNormal_of_configOf hConfig, fun s => get_eq_default hConfig, ?_⟩
  intro v' place' file' entries' hFile' hDocument' hShort'
  obtain ⟨root', config', hLoad', hConfig'⟩ := loadConfig_of_mapping hFile' hDocument' hShort'
  refine ⟨root', config', hLoad', fun s => get_eq_of_valueAt hConfig hConfig', ?_⟩
  intro keys hChanged s hAbove hBelow
  exact get_eq_of_valueAt hConfig hConfig' (valueAt_of_changedAt hChanged hAbove hBelow)

/-- Settings that are not the defaults are those in a mapping. -/
theorem exists_mapping_of_loadConfig {v : Volume} {place file root : Path} {config : Config}
    (hFile : IsSettingsFile v place file) (hLoad : loadConfig v place = .ok (root, config))
    (hSet : config ≠ {}) :
    ∃ entries, HoldsSettings v file (.document (.map entries)) ∧
      configOf (.map entries) = .ok config := by
  obtain ⟨content, hContent⟩ := exists_holdsSettings v file
  obtain ⟨root', hSettings⟩ := loadConfig_of_holds hFile hContent
  rw [hLoad] at hSettings
  obtain ⟨read, hRead, hSame⟩ := map_eq_ok_iff.mp hSettings.symm
  obtain rfl : read = config := congrArg Prod.snd hSame
  rcases settings_eq_ok hRead with hDefault | ⟨entries, rfl, hConfig⟩
  · exact absurd hDefault hSet
  · exact ⟨entries, hContent, hConfig⟩

/-- Settings with no workers at all, as they stand in a file. -/
def noWorkers : List UInt8 := Text.encodeUtf8 "scan: \x7bmax_workers: 0\x7d"

/-- No workers count as one. -/
theorem loadConfig_settings_noWorkers :
    ∃ root config, loadConfig (projectWithSettings noWorkers) projectPlace = .ok (root, config) ∧
      config.IsNormal ∧ config.scan.maxWorkers = 1 := by
  have hFile := isSettingsFile_projectPlace noWorkers
  have hOutcome : (loadConfig (projectWithSettings noWorkers) projectPlace).toOption =
      some (projectPlace, { scan := { maxWorkers := 1 } }) := by
    decide +kernel
  cases hLoad : loadConfig (projectWithSettings noWorkers) projectPlace with
  | error fault =>
      rw [hLoad] at hOutcome
      cases hOutcome
  | ok found =>
      rw [hLoad] at hOutcome
      obtain rfl := Option.some.inj hOutcome
      obtain ⟨entries, hDocument, hConfig⟩ := exists_mapping_of_loadConfig hFile hLoad (by decide)
      have hShort : ¬HoldsLongSetting (.map entries) := by
        intro hLong
        obtain ⟨e, hFails⟩ := configOf_fails_iff.mpr hLong
        rw [hConfig] at hFails
        cases hFails
      obtain ⟨root, config, hSame, hNormal, -⟩ := (loadConfig_settings hFile).2 entries hDocument hShort
      rw [hLoad] at hSame
      cases hSame
      exact ⟨_, _, rfl, hNormal, rfl⟩

/-- A day is of no use as a number of workers, so the default is taken; but a day that there is not leaves
no settings at all. -/
theorem impossibleDay_unloaded :
    loadConfig (projectWithSettings (Text.encodeUtf8 "scan: \x7bmax_workers: 2020-12-01\x7d"))
        projectPlace = .ok (projectPlace, {}) ∧
      loadConfig (projectWithSettings (Text.encodeUtf8 "scan: \x7bmax_workers: 2020-13-01\x7d"))
        projectPlace = .error (.malformed (.scalar .monthOutOfRange)) := by
  decide +kernel

end ProjectAtlas
