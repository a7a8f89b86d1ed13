import ProjectAtlas.Manifest.Shape

/-!
The documents that describe projects, plugins and their modules. Keys that a document does not know
are passed over.
-/

namespace ProjectAtlas

structure ModuleDocument where
  name : String
  type : String := "Runtime"
  loadingPhase : String := "Default"
  additionalDependencies : List String := []
deriving DecidableEq, Repr

structure PluginReference where
  name : String
  enabled : Bool := true
  marketplaceUrl : Option String := none
deriving DecidableEq, Repr

structure ProjectDocument where
  fileVersion : Option Int := none
  engineAssociation : String := ""
  category : Option String := none
  description : Option String := none
  modules : List ModuleDocument := []
  plugins : List PluginReference := []
  targetPlatforms : Option (List String) := none
deriving DecidableEq, Repr

/-- The version of a plugin: a number or any text. -/
inductive PluginVersion
  | number (n : Int)
  | text (s : String)
deriving DecidableEq, Repr

def PluginVersion.toText : PluginVersion → String
  | .number n => toString n
  | .text s => s

structure PluginDocument where
  fileVersion : Option Int := none
  version : Option PluginVersion := none
  versionName : Option String := none
  friendlyName : Option String := none
  description : Option String := none
  category : Option String := none
  createdBy : Option String := none
  createdByUrl : Option String := none
  docsUrl : Option String := none
  marketplaceUrl : Option String := none
  supportUrl : Option String := none
  engineVersion : Option String := none
  canContainContent : Bool := false
  isBetaVersion : Bool := false
  isExperimentalVersion : Bool := false
  installed : Bool := true
  enabledByDefault : Option Bool := none
  modules : List ModuleDocument := []
deriving DecidableEq, Repr

def objectRule {α : Type} (r : Rule α) : Rule α
  | .obj fields => r (.obj fields)
  | _ => .fail .notObject

def ModuleDocument.rule : Rule ModuleDocument :=
  objectRule fun v =>
    ModuleDocument.mk
      <$> required "Name" "name" Rule.text v
      <*> optional "Type" "type" "Runtime" Rule.text v
      <*> optional "LoadingPhase" "loading_phase" "Default" Rule.text v
      <*> optional "AdditionalDependencies" "additional_dependencies" []
        (Rule.listOrNull Rule.text) v

def PluginReference.rule : Rule PluginReference :=
  objectRule fun v =>
    PluginReference.mk
      <$> required "Name" "name" Rule.text v
      <*> optional "Enabled" "enabled" true Rule.flag v
      <*> optional "MarketplaceURL" "marketplace_url" none (Rule.nullable Rule.text) v

def ProjectDocument.rule : Rule ProjectDocument :=
  objectRule fun v =>
    ProjectDocument.mk
      <$> optional "FileVersion" "file_version" none (Rule.nullable Rule.integer) v
      <*> optional "EngineAssociation" "engine_association" "" Rule.text v
      <*> optional "Category" "category" none (Rule.nullable Rule.text) v
      <*> optional "Description" "description" none (Rule.nullable Rule.text) v
      <*> optional "Modules" "modules" [] (Rule.listOrNull ModuleDocument.rule) v
      <*> optional "Plugins" "plugins" [] (Rule.listOrNull PluginReference.rule) v
      <*> optional "TargetPlatforms" "target_platforms" none
        (Rule.nullable (Rule.listOf Rule.text)) v

/-- A version is a text, or else an integer; the faults of both readings are reported. -/
def PluginVersion.rule : Rule PluginVersion
  | .str s => .good (.text s)
  | v =>
    match Rule.integer v with
    | .good n => .good (.number n)
    | .bad es => .bad (es.map (fun e => { e with place := "int" :: e.place }) ++
        [⟨["str"], .notText⟩])

def PluginDocument.rule : Rule PluginDocument :=
  let text := Rule.nullable Rule.text
  objectRule fun v =>
    PluginDocument.mk
      <$> optional "FileVersion" "file_version" none (Rule.nullable Rule.integer) v
      <*> optional "Version" "version" none (Rule.nullable PluginVersion.rule) v
      <*> optional "VersionName" "version_name" none text v
      <*> optional "FriendlyName" "friendly_name" none text v
      <*> optional "Description" "description" none text v
      <*> optional "Category" "category" none text v
      <*> optional "CreatedBy" "created_by" none text v
      <*> optional "CreatedByURL" "created_by_url" none text v
      <*> optional "DocsURL" "docs_url" none text v
      <*> optional "MarketplaceURL" "marketplace_url" none text v
      <*> optional "SupportURL" "support_url" none text v
      <*> optional "EngineVersion" "engine_version" none text v
      <*> optional "CanContainContent" "can_contain_content" false Rule.flag v
      <*> optional "IsBetaVersion" "is_beta_version" false Rule.flag v
      <*> optional "IsExperimentalVersion" "is_experimental_version" false Rule.flag v
      <*> optional "Installed" "installed" true Rule.flag v
      <*> optional "EnabledByDefault" "enabled_by_default" none (Rule.nullable Rule.flag) v
      <*> optional "Modules" "modules" [] (Rule.listOrNull ModuleDocument.rule) v

end ProjectAtlas
