import ProjectAtlas.Proofs.Config.Faults

/-!
What comes of a file with settings, by what it holds. Settings are promised for a mapping, the defaults for
nothing at all, and a fault that is reported for everything else. The promise is broken where a document
that counts as nothing is taken for an empty one, and where a fault is met that nobody foresees. All this is
said of any loader that gives the value of a document.
-/

namespace ProjectAtlas

open Yaml

/-- What a file with settings holds. -/
inductive SettingsContent where
  | unreadable (fault : FileFault)
  | otherEncoding (fault : Text.Utf8Fault)
  | blank
  | unloadable (fault : Yaml.Fault)
  | document (value : Value)

/-- The file can be read, and this is its text. -/
def HoldsText (v : Volume) (file : Path) (text : List Char) : Prop :=
  ∃ bytes raw, v.read file = .ok bytes ∧ Text.decodeStrict bytes = .ok raw ∧
    Text.unifyLineEnds raw = text

/-- The file holds this content. -/
inductive HoldsSettings (v : Volume) (file : Path) : SettingsContent → Prop where
  | unreadable {fault : FileFault} (hRead : v.read file = .error fault) :
      HoldsSettings v file (.unreadable fault)
  | otherEncoding {bytes : List UInt8} {fault : Text.Utf8Fault} (hRead : v.read file = .ok bytes)
      (hDecode : Text.decodeStrict bytes = .error fault) :
      HoldsSettings v file (.otherEncoding fault)
  | blank {text : List Char} (hText : HoldsText v file text)
      (hBlank : text.all Text.isBlank = true) : HoldsSettings v file .blank
  | unloadable {text : List Char} {fault : Yaml.Fault} (hText : HoldsText v file text)
      (hSome : text.all Text.isBlank = false) (hLoad : v.host.loadSettings configDepth text = .error fault) :
      HoldsSettings v file (.unloadable fault)
  | document {text : List Char} {value : Value} (hText : HoldsText v file text)
      (hSome : text.all Text.isBlank = false) (hLoad : v.host.loadSettings configDepth text = .ok value) :
      HoldsSettings v file (.document value)

/-- The settings, or the fault, that the content of a file of this name gives. -/
def SettingsContent.settings (name : String) : SettingsContent → Except ConfigFault Config
  | .unreadable fault => .error (.unreadable name fault)
  | .otherEncoding fault => .error (.undecodable fault)
  | .blank => .ok {}
  | .unloadable fault => .error (.malformed fault)
  | .document (.map entries) => (configOf (.map entries)).mapError fun _ => .integerUnwritable
  | .document value => if value.isFalsy then .ok {} else .error .notMapping

/-- There is nothing in the file, or as good as nothing. -/
def SettingsContent.IsVoid (content : SettingsContent) : Prop :=
  content = .blank ∨ content = .document (.scalar .null)

/-- There is a mapping in the file. -/
def SettingsContent.IsMapping (content : SettingsContent) : Prop :=
  ∃ entries, content = .document (.map entries)

/-- What is promised of the settings in a file: the defaults if nothing is in it, some settings for a
mapping, and else a fault that is reported. -/
structure KeepsPromise (content : SettingsContent) (outcome : Except ConfigFault Config) : Prop where
  void : content.IsVoid → outcome = .ok {}
  mapping : content.IsMapping → ∃ config, outcome = .ok config
  other : ¬content.IsVoid → ¬content.IsMapping →
    ∃ fault, outcome = .error fault ∧ fault.isReported = true

/-- Contents for which the promise is not kept, with what they give instead: the defaults for a document
that counts as nothing, or a fault that is not reported. -/
inductive Misread : SettingsContent → Except ConfigFault Config → Prop where
  | encoding {fault : Text.Utf8Fault} : Misread (.otherEncoding fault) (.error (.undecodable fault))
  | scalar {fault : ScalarFault} :
      Misread (.unloadable (.scalar fault)) (.error (.malformed (.scalar fault)))
  | escape {tooLarge : Bool} : Misread (.unloadable (.escapeOutOfRange tooLarge))
      (.error (.malformed (.escapeOutOfRange tooLarge)))
  | depth : Misread (.unloadable .tooDeep) (.error (.malformed .tooDeep))
  | falsy {value : Value} (hFalsy : value.isFalsy = true) (hNull : value ≠ .scalar .null)
      (hMap : ∀ entries, value ≠ .map entries) : Misread (.document value) (.ok {})
  | integer {entries : List (Value × Value)} (hLong : HoldsLongSetting (.map entries)) :
      Misread (.document (.map entries)) (.error .integerUnwritable)

/-- Every file holds one of the contents. -/
theorem exists_holdsSettings (v : Volume) (file : Path) : ∃ content, HoldsSettings v file content := by
  cases hRead : v.read file with
  | error fault => exact ⟨_, .unreadable hRead⟩
  | ok bytes =>
      cases hDecode : Text.decodeStrict bytes with
      | error fault => exact ⟨_, .otherEncoding hRead hDecode⟩
      | ok raw =>
          have hText : HoldsText v file (Text.unifyLineEnds raw) := ⟨bytes, raw, hRead, hDecode, rfl⟩
          cases hBlank : (Text.unifyLineEnds raw).all Text.isBlank with
          | true => exact ⟨_, .blank hText hBlank⟩
          | false =>
              cases hLoad : v.host.loadSettings configDepth (Text.unifyLineEnds raw) with
              | error fault => exact ⟨_, .unloadable hText hBlank hLoad⟩
              | ok value => exact ⟨_, .document hText hBlank hLoad⟩

theorem readConfigFile_of_text {v : Volume} {file : Path} {text : List Char}
    (hText : HoldsText v file text) : readConfigFile v file = readConfig v.host text := by
  obtain ⟨bytes, raw, hRead, hDecode, rfl⟩ := hText
  simp only [readConfigFile, hRead, hDecode]

theorem readConfigFile_of_holds {v : Volume} {file : Path} {content : SettingsContent}
    (h : HoldsSettings v file content) : readConfigFile v file = content.settings file.name := by
  cases h with
  | unreadable hRead => simp only [readConfigFile, hRead, SettingsContent.settings]
  | otherEncoding hRead hDecode =>
      simp only [readConfigFile, hRead, hDecode, SettingsContent.settings]
  | blank hText hBlank =>
      rw [readConfigFile_of_text hText, readConfig, if_pos hBlank]
      rfl
  | unloadable hText hSome hLoad =>
      rw [readConfigFile_of_text hText]
      simp only [readConfig, hSome, Bool.false_eq_true, if_false, hLoad, SettingsContent.settings]
  | @document text value hText hSome hLoad =>
      rw [readConfigFile_of_text hText]
      simp only [readConfig, hSome, Bool.false_eq_true, if_false, hLoad]
      cases value <;> rfl

/-- The settings of a place are those in its file. -/
theorem loadConfig_of_holds {v : Volume} {place file : Path} {content : SettingsContent}
    (hFile : IsSettingsFile v place file) (h : HoldsSettings v file content) :
    ∃ root, loadConfig v place = (content.settings file.name).map fun config => (root, config) := by
  obtain ⟨root, hLoad⟩ := hFile.loadConfig_eq
  exact ⟨root, by rw [hLoad, readConfigFile_of_holds h]⟩

/-- A document that is no mapping gives settings exactly if it counts as nothing. -/
theorem settings_of_document {value : Value} (hMap : ∀ entries, value ≠ .map entries) (name : String) :
    (SettingsContent.document value).settings name =
      if value.isFalsy then .ok {} else .error .notMapping := by
  cases value with
  | map entries => exact absurd rfl (hMap entries)
  | _ => rfl

/-- Settings that some content gives are the defaults or those in a mapping. -/
theorem settings_eq_ok {content : SettingsContent} {name : String} {config : Config}
    (h : content.settings name = .ok config) :
    config = {} ∨
      ∃ entries, content = .document (.map entries) ∧ configOf (.map entries) = .ok config := by
  cases content with
  | unreadable fault | otherEncoding fault | unloadable fault => cases h
  | blank =>
      cases h
      exact .inl rfl
  | document value =>
      by_cases hMapping : ∃ entries, value = .map entries
      · obtain ⟨entries, rfl⟩ := hMapping
        rw [SettingsContent.settings] at h
        cases hConfig : configOf (.map entries) with
        | error e =>
            rw [hConfig] at h
            cases h
        | ok found =>
            rw [hConfig] at h
            cases h
            exact .inr ⟨entries, rfl, hConfig⟩
      · rw [settings_of_document fun entries hSame => hMapping ⟨entries, hSame⟩] at h
        split at h
        · cases h
          exact .inl rfl
        · cases h

theorem settings_of_misread {content : SettingsContent} {outcome : Except ConfigFault Config}
    (h : Misread content outcome) (name : String) : content.settings name = outcome := by
  cases h with
  | encoding | scalar | escape | depth => rfl
  | falsy hFalsy hNull hMap => rw [settings_of_document hMap, if_pos hFalsy]
  | integer hLong =>
      obtain ⟨e, hFails⟩ := configOf_fails_iff.mpr hLong
      simp only [SettingsContent.settings, hFails]
      rfl

/-- What is misread is not what was promised. -/
theorem not_keepsPromise_of_misread {content : SettingsContent}
    {outcome : Except ConfigFault Config} (h : Misread content outcome) :
    ¬KeepsPromise content outcome := by
  intro hKeeps
  cases h with
  | encoding | scalar | escape | depth =>
      obtain ⟨fault, hSame, hKnown⟩ :=
        hKeeps.other (by simp [SettingsContent.IsVoid]) (by simp [SettingsContent.IsMapping])
      cases hSame
      cases hKnown
  | @falsy value hFalsy hNull hMap =>
      obtain ⟨fault, hSame, -⟩ :=
        hKeeps.other (by simp [SettingsContent.IsVoid, hNull]) (by simp [SettingsContent.IsMapping, hMap])
      cases hSame
  | integer hLong =>
      obtain ⟨config, hSame⟩ := hKeeps.mapping ⟨_, rfl⟩
      cases hSame

/-- What is neither nothing nor a mapping, and gives a fault that is reported, gives what was promised. -/
theorem keepsPromise_of_other {content : SettingsContent} {outcome : Except ConfigFault Config}
    (hVoid : ¬content.IsVoid) (hMapping : ¬content.IsMapping)
    (hFault : ∃ fault, outcome = .error fault ∧ fault.isReported = true) :
    KeepsPromise content outcome where
  void h := absurd h hVoid
  mapping h := absurd h hMapping
  other _ _ := hFault

theorem keepsPromise_of_void {content : SettingsContent} (hVoid : content.IsVoid) (name : String) :
    KeepsPromise content (content.settings name) := by
  have hMapping : ¬content.IsMapping := by
    rintro ⟨entries, rfl⟩
    simp [SettingsContent.IsVoid] at hVoid
  refine ⟨fun _ => ?_, fun h => absurd h hMapping, fun h => absurd hVoid h⟩
  rcases hVoid with rfl | rfl <;> rfl

/-- A mapping gives settings if every integer in it that is wanted as a text can be written out. -/
theorem keepsPromise_of_mapping {entries : List (Value × Value)}
    (hShort : ¬HoldsLongSetting (.map entries)) (name : String) :
    KeepsPromise (.document (.map entries)) ((SettingsContent.document (.map entries)).settings name) := by
  have hVoid : ¬(SettingsContent.document (.map entries)).IsVoid := by
    simp [SettingsContent.IsVoid]
  refine ⟨fun h => absurd h hVoid, fun _ => ?_, fun _ h => absurd ⟨entries, rfl⟩ h⟩
  cases hConfig : configOf (.map entries) with
  | error e => exact absurd (configOf_fails_iff.mp ⟨e, hConfig⟩) hShort
  | ok config =>
      refine ⟨config, ?_⟩
      simp only [SettingsContent.settings, hConfig]
      rfl

/-- Everything that is not misread gives what was promised. -/
theorem keepsPromise_or_misread (content : SettingsContent) (name : String) :
    KeepsPromise content (content.settings name) ∨ ∃ outcome, Misread content outcome := by
  cases content with
  | unreadable fault =>
      exact .inl (keepsPromise_of_other (by simp [SettingsContent.IsVoid])
        (by simp [SettingsContent.IsMapping]) ⟨_, rfl, rfl⟩)
  | otherEncoding fault => exact .inr ⟨_, .encoding⟩
  | blank => exact .inl (keepsPromise_of_void (.inl rfl) name)
  | unloadable fault =>
      cases fault with
      | scalar fault => exact .inr ⟨_, .scalar⟩
      | escapeOutOfRange tooLarge => exact .inr ⟨_, .escape⟩
      | tooDeep => exact .inr ⟨_, .depth⟩
      | _ =>
          exact .inl (keepsPromise_of_other (by simp [SettingsContent.IsVoid])
            (by simp [SettingsContent.IsMapping]) ⟨_, rfl, rfl⟩)
  | document value =>
      by_cases hNull : value = .scalar .null
      · exact .inl (keepsPromise_of_void (.inr (hNull ▸ rfl)) name)
      by_cases hMapping : ∃ entries, value = .map entries
      · obtain ⟨entries, rfl⟩ := hMapping
        by_cases hLong : HoldsLongSetting (.map entries)
        · exact .inr ⟨_, .integer hLong⟩
        · exact .inl (keepsPromise_of_mapping hLong name)
      · have hMap : ∀ entries, value ≠ .map entries := fun entries h => hMapping ⟨entries, h⟩
        cases hFalsy : value.isFalsy with
        | true => exact .inr ⟨_, .falsy hFalsy hNull hMap⟩
        | false =>
            have hRefused : (SettingsContent.document value).settings name = .error .notMapping := by
              rw [settings_of_document hMap, hFalsy]
              rfl
            exact .inl (keepsPromise_of_other (by simp [SettingsContent.IsVoid, hNull])
              (by simp [SettingsContent.IsMapping, hMap]) ⟨_, hRefused, rfl⟩)

/-- The settings of a place are lost, or there are none and the defaults are given, or there is a file with
them. If they are lost the fault is not reported. A file holds one of the contents, and whichever it is:
what is promised for it comes of it exactly if it is not one of those that are misread; these give what is
said beside them. -/
theorem loadConfig_keepsPromise_iff (v : Volume) (place : Path) :
    ((∃ fault, LosesSettings v place fault) ∨ (∃ root, loadConfig v place = .ok (root, {})) ∨
        ∃ file, IsSettingsFile v place file) ∧
      (∀ fault, LosesSettings v place fault →
        loadConfig v place = .error fault ∧ fault.isReported = false) ∧
      ∀ file, IsSettingsFile v place file →
        (∃ content, HoldsSettings v file content) ∧ ∀ content, HoldsSettings v file content →
          ∃ root outcome, loadConfig v place = outcome.map (fun config => (root, config)) ∧
            (KeepsPromise content outcome ↔ ¬∃ other, Misread content other) ∧
            ∀ other, Misread content other → outcome = other := by
  refine ⟨settings_cases v place, fun fault hLost => hLost.loadConfig, fun file hFile =>
    ⟨exists_holdsSettings v file, fun content hContent => ?_⟩⟩
  obtain ⟨root, hLoad⟩ := loadConfig_of_holds hFile hContent
  refine ⟨root, _, hLoad, ?_, fun other hMisread => settings_of_misread hMisread file.name⟩
  constructor
  · rintro hKeeps ⟨other, hMisread⟩
    rw [settings_of_misread hMisread file.name] at hKeeps
    exact not_keepsPromise_of_misread hMisread hKeeps
  · intro hNone
    exact (keepsPromise_or_misread content file.name).resolve_right hNone

/-- A project whose settings are in a file with these bytes. -/
def projectWithSettings (bytes : List UInt8) : Volume :=
  { root := .dir [("P", .dir [(configName, .file (.bytes bytes) false)] false)] false }

/-- The directory of that project. -/
def projectPlace : Path := ⟨.root, ["P"]⟩

theorem isSettingsFile_projectPlace (bytes : List UInt8) :
    IsSettingsFile (projectWithSettings bytes) projectPlace (projectPlace.entry configName) :=
  ⟨rfl, ⟨projectPlace, rfl⟩, rfl⟩

theorem loadSettings_projectWithSettings (bytes : List UInt8) :
    (projectWithSettings bytes).host.loadSettings = Yaml.load usualRoom := rfl

/-- A mapping with nothing in it. -/
def isEmptyMapping : Value → Bool
  | .map [] => true
  | _ => false

/-- A list with nothing in it. -/
def isEmptyList : Value → Bool
  | .list [] => true
  | _ => false

theorem load_emptyMapping : Yaml.load usualRoom configDepth "\x7b\x7d".toList = .ok (.map []) := by
  have hKind : (Yaml.load usualRoom configDepth "\x7b\x7d".toList).toOption.any isEmptyMapping = true := by
    decide +kernel
  revert hKind
  generalize Yaml.load usualRoom configDepth "\x7b\x7d".toList = loaded
  rcases loaded with fault | (_ | _ | (_ | _) | _ | _) <;> intro hKind <;> cases hKind
  rfl

theorem load_emptyList : Yaml.load usualRoom configDepth "[]".toList = .ok (.list []) := by
  have hKind : (Yaml.load usualRoom configDepth "[]".toList).toOption.any isEmptyList = true := by
    decide +kernel
  revert hKind
  generalize Yaml.load usualRoom configDepth "[]".toList = loaded
  rcases loaded with fault | (_ | (_ | _) | _ | _ | _) <;> intro hKind <;> cases hKind
  rfl

/-- What is promised of a file comes of an empty mapping, and does not come of a byte that is no
text. -/
theorem loadConfig_keepsPromise_projectPlace :
    (∃ root outcome,
      loadConfig (projectWithSettings [123, 125]) projectPlace =
          outcome.map (fun config => (root, config)) ∧
        KeepsPromise (.document (.map [])) outcome) ∧
      ∃ fault root outcome,
        loadConfig (projectWithSettings [0xFF]) projectPlace =
            outcome.map (fun config => (root, config)) ∧
          ¬KeepsPromise (.otherEncoding fault) outcome := by
  constructor
  · have hText : HoldsText (projectWithSettings [123, 125]) (projectPlace.entry configName)
        "\x7b\x7d".toList := ⟨_, "\x7b\x7d".toList, rfl, rfl, rfl⟩
    have hContent := HoldsSettings.document hText (by decide)
      (by rw [loadSettings_projectWithSettings, load_emptyMapping])
    obtain ⟨root, outcome, hLoad, hKeeps, -⟩ :=
      ((loadConfig_keepsPromise_iff _ _).2.2 _ (isSettingsFile_projectPlace _)).2 _ hContent
    refine ⟨root, outcome, hLoad, hKeeps.mpr ?_⟩
    rintro ⟨other, hMisread⟩
    cases hMisread with
    | falsy hFalsy hNull hMap => exact hMap [] rfl
    | integer hLong =>
        obtain ⟨e, hFails⟩ := configOf_fails_iff.mpr hLong
        cases hFails
  · have hContent := HoldsSettings.otherEncoding
      (rfl : (projectWithSettings [0xFF]).read (projectPlace.entry configName) = .ok [0xFF]) rfl
    obtain ⟨root, outcome, hLoad, hKeeps, -⟩ :=
      ((loadConfig_keepsPromise_iff _ _).2.2 _ (isSettingsFile_projectPlace [0xFF])).2 _ hContent
    exact ⟨_, root, outcome, hLoad, fun h => hKeeps.mp h ⟨_, .encoding⟩⟩

/-- An empty list is accepted: it gives the defaults, where a fault that is reported was promised. -/
theorem emptyList_accepted :
    HoldsSettings (projectWithSettings [91, 93]) (projectPlace.entry configName)
        (.document (.list [])) ∧
      (∃ root, loadConfig (projectWithSettings [91, 93]) projectPlace = .ok (root, {})) ∧
      ¬KeepsPromise (.document (.list [])) (.ok {}) := by
  have hText : HoldsText (projectWithSettings [91, 93])
      (projectPlace.entry configName) "[]".toList := ⟨_, "[]".toList, rfl, rfl, rfl⟩
  have hContent := HoldsSettings.document hText (by decide)
    (by rw [loadSettings_projectWithSettings, load_emptyList])
  have hMisread : Misread (.document (.list [])) (.ok {}) := .falsy rfl (by simp) (by simp)
  obtain ⟨root, hLoad⟩ := loadConfig_of_holds (isSettingsFile_projectPlace [91, 93]) hContent
  rw [settings_of_misread hMisread] at hLoad
  exact ⟨hContent, ⟨root, hLoad⟩, not_keepsPromise_of_misread hMisread⟩

end ProjectAtlas
