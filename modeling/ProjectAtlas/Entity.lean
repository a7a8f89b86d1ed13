/-!
What an index holds: modules, reflected declarations and functions, content files and plugins, and the
things that a scan leaves out.
-/

namespace ProjectAtlas

/-- A code module that a project or a plugin lists. -/
structure ModuleRef where
  name : String
  type : String
  loadingPhase : String
  dependencies : List String := []
  path : Option String := none
  declarations : List String := []
deriving DecidableEq, Repr

/-- A plugin that the project manifest refers to. -/
structure PluginRef where
  name : String
  enabled : Bool
  marketplaceUrl : Option String := none
  installed : Bool := true
  path : Option String := none
deriving DecidableEq, Repr

/-- A way to build the project for a platform. -/
structure BuildConfiguration where
  name : String
  platform : String
  configuration : String
deriving DecidableEq, Repr

structure Project where
  root : String
  name : String
  manifestPath : String
  engineAssociation : String
  modules : List ModuleRef
  plugins : List PluginRef
  targetPlatforms : List String
  buildConfigurations : List BuildConfiguration
  description : Option String := none
  category : Option String := none
deriving DecidableEq, Repr

/-- The kind of a reflected declaration, named by the marker in front of it. Declarations that come
from elsewhere than source text may have a kind of another name. -/
inductive DeclarationKind
  | classType
  | structType
  | enumType
  | interfaceType
  | other (marker : String)
deriving DecidableEq, Repr

def DeclarationKind.marker : DeclarationKind → String
  | .classType => "UCLASS"
  | .structType => "USTRUCT"
  | .enumType => "UENUM"
  | .interfaceType => "UINTERFACE"
  | .other marker => marker

/-- The kinds that source text can declare, in the order of reports. -/
def DeclarationKind.known : List DeclarationKind :=
  [.classType, .structType, .enumType, .interfaceType]

def DeclarationKind.ofMarker? (marker : String) : Option DeclarationKind :=
  DeclarationKind.known.find? fun k => k.marker == marker

def DeclarationKind.ofMarker (marker : String) : DeclarationKind :=
  (DeclarationKind.ofMarker? marker).getD (.other marker)

/-- An entry of an enumeration, with its value if that is written as an integer. -/
structure EnumValue where
  name : String
  value : Option Int := none
deriving DecidableEq, Repr

/-- A reflected type. -/
structure Declaration where
  name : String
  kind : DeclarationKind
  parent : Option String
  specifiers : List String
  file : String
  line : Nat
  module : Option String := none
  blueprintType : Bool := false
  blueprintable : Bool := false
  values : List EnumValue := []
deriving DecidableEq, Repr

/-- A parameter of a function; the name is empty if only a type is written. -/
structure Parameter where
  name : String
  type : String
deriving DecidableEq, Repr

/-- A reflected function. The owner is empty outside of every type. -/
structure Callable where
  name : String
  owner : String
  returnType : String
  parameters : List Parameter
  specifiers : List String
  file : String
  line : Nat
  module : Option String := none
  blueprintCallable : Bool := false
deriving DecidableEq, Repr

structure Asset where
  name : String
  path : String
  type : String
  size : Nat
  dependencies : List String := []
  referencedBy : List String := []
deriving DecidableEq, Repr

structure Plugin where
  name : String
  path : String
  enabled : Bool := true
  installed : Bool := true
  version : Option String := none
  versionName : Option String := none
  friendlyName : Option String := none
  description : Option String := none
  category : Option String := none
  createdBy : Option String := none
  createdByUrl : Option String := none
  docsUrl : Option String := none
  marketplaceUrl : Option String := none
  supportUrl : Option String := none
  engineVersion : Option String := none
  canContainContent : Bool := false
  isBetaVersion : Bool := false
  isExperimentalVersion : Bool := false
  modules : List ModuleRef := []
deriving DecidableEq, Repr

/-- The kinds of skipped items. -/
inductive IssueKind
  | directoryUnreadable
  | fileUnreadable
  | fileUnparseable
  | pluginManifestInvalid
deriving DecidableEq, Repr

def IssueKind.label : IssueKind → String
  | .directoryUnreadable => "directory_unreadable"
  | .fileUnreadable => "file_unreadable"
  | .fileUnparseable => "file_unparseable"
  | .pluginManifestInvalid => "plugin_manifest_invalid"

def IssueKind.all : List IssueKind :=
  [.directoryUnreadable, .fileUnreadable, .fileUnparseable, .pluginManifestInvalid]

def IssueKind.ofLabel? (label : String) : Option IssueKind :=
  IssueKind.all.find? fun k => k.label == label

structure Issue where
  kind : IssueKind
  path : String
  detail : String := ""
deriving DecidableEq, Repr

end ProjectAtlas
