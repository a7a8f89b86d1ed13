import ProjectAtlas.Entity
import ProjectAtlas.Manifest.Load
import ProjectAtlas.Text.Case
import ProjectAtlas.Walk.Basic

/-!
The project at a root directory: its one manifest, what the manifest says, and whether the directories
that it names are there.
-/

namespace ProjectAtlas

/-- The names of a project's directories of sources, content and plugins, relative to its root. -/
structure Directories where
  source : String := "Source"
  content : String := "Content"
  plugins : String := "Plugins"
deriving DecidableEq, Repr

def manifestSuffix : String := ".uproject"

def defaultPlatforms : List String := ["Windows"]

def buildTypes : List String := ["Development", "Shipping", "DebugGame"]

inductive ManifestFault
  | rootNotDirectory (root : String)
  | rootUnlisted (root : String) (fault : FileFault)
  | missing (root : String)
  | ambiguous (root : String) (names : List String)
  | malformed (name : String) (fault : DocumentFault)
deriving DecidableEq, Repr

def ManifestFault.message : ManifestFault → String
  | .rootNotDirectory root => s!"Project path is not a directory: {root}"
  | .rootUnlisted root fault => s!"Cannot list project root {root}: {fault.message}"
  | .missing root => s!"No {manifestSuffix} file found in {root}"
  | .ambiguous root names =>
    s!"Multiple {manifestSuffix} files found in {root}: " ++ ", ".intercalate names
  | .malformed name fault => projectFaultMessage name fault

/-- The names in a directory that pass a test, in their order. If the test of some names fails then the
first of them in that order counts, however the directory is listed. -/
def namesPassing (v : Volume) (directory : Path) (test : String → Except FileFault Bool) :
    Except FileFault (List String) :=
  (v.list directory).bind fun names =>
    match names.filterM test with
    | .ok passing => .ok passing.mergeSort
    | .error _ => names.mergeSort.filterM test

/-- The files of a directory whose suffix is `suffix` up to case, by name. -/
def filesWithSuffix (v : Volume) (directory : Path) (suffix : String) :
    Except FileFault (List String) :=
  namesPassing v directory fun n =>
    if Text.lower (nameSuffix n) == suffix then v.isFile (directory.entry n) else .ok false

def findManifest (v : Volume) (root : Path) : Except ManifestFault Path :=
  match filesWithSuffix v root manifestSuffix with
  | .error fault => .error (.rootUnlisted root.toString fault)
  | .ok [] => .error (.missing root.toString)
  | .ok [name] => .ok (root.entry name)
  | .ok names => .error (.ambiguous root.toString names)

def buildConfigurations (platforms : List String) : List BuildConfiguration :=
  platforms.flatMap fun platform =>
    buildTypes.map fun buildType => ⟨s!"{platform}_{buildType}", platform, buildType⟩

/-- The modules of a document whose sources are below `sourceRoot`. -/
def moduleRefs (documents : List ModuleDocument) (sourceRoot : Path) : List ModuleRef :=
  documents.map fun d =>
    { name := d.name
      type := d.type
      loadingPhase := d.loadingPhase
      dependencies := d.additionalDependencies
      path := some (sourceRoot.child d.name).toString }

def projectOf (directories : Directories) (root manifest : Path) (document : ProjectDocument) :
    Project :=
  let platforms := document.targetPlatforms.getD defaultPlatforms
  let pluginRoot := root.child directories.plugins
  { root := root.toString
    name := manifest.stem
    manifestPath := manifest.toString
    engineAssociation := document.engineAssociation
    modules := moduleRefs document.modules (root.child directories.source)
    plugins := document.plugins.map fun p =>
      { name := p.name
        enabled := p.enabled
        marketplaceUrl := p.marketplaceUrl
        installed := true
        path := some (pluginRoot.child p.name).toString }
    targetPlatforms := platforms
    buildConfigurations := buildConfigurations platforms
    description := document.description
    category := document.category }

/-- Why reading a project ends. A directory that cannot be looked up and a limit of the reader of
manifests are no faults of a manifest. -/
inductive ProjectFault
  | root (fault : RootFault)
  | unreachable (fault : FileFault)
  | manifest (fault : ManifestFault)
  | excess (e : Json.Excess)
deriving DecidableEq, Repr

def ProjectFault.message : ProjectFault → String
  | .root fault => fault.message
  | .unreachable fault => fault.message
  | .manifest fault => fault.message
  | .excess e => e.message

/-- The manifest of the project at a canonical root, and the document in it. -/
def readManifest (v : Volume) (root : Path) : Except ProjectFault (Path × ProjectDocument) :=
  match findManifest v root with
  | .error fault => .error (.manifest fault)
  | .ok manifest =>
    match loadProject v manifest with
    | .error (.document name fault) => .error (.manifest (.malformed name fault))
    | .error (.excess e) => .error (.excess e)
    | .ok document => .ok (manifest, document)

def readProject (v : Volume) (directories : Directories) (given : Path) :
    Except ProjectFault Project :=
  match v.startFrom given with
  | .error fault => .error (.root fault)
  | .ok root =>
    match v.isDir root with
    | .error fault => .error (.unreachable fault)
    | .ok false => .error (.manifest (.rootNotDirectory given.toString))
    | .ok true =>
      (readManifest v root).map fun (manifest, document) =>
        projectOf directories root manifest document

structure LayoutReport where
  valid : Bool
  issues : List String
deriving DecidableEq, Repr

/-- The line about a directory that is to be at a path, unless it is there. -/
def absenceLines (v : Volume) (p : Path) (line : String) : Except FileFault (List String) :=
  (v.isDir p).map fun isDir => if isDir then [] else [line]

/-- The directories that a project with this document is to have, each with the line about it if it is not
there: those of the sources and of the content, and that of every module. -/
def layoutChecks (directories : Directories) (root : Path) (document : ProjectDocument) :
    List (Path × String) :=
  let sourceRoot := root.child directories.source
  [(sourceRoot, s!"{directories.source} directory not found"),
    (root.child directories.content, s!"{directories.content} directory not found")] ++
    document.modules.map fun m =>
      (sourceRoot.child m.name, s!"Module directory not found: {m.name}")

def layoutIssues (v : Volume) (directories : Directories) (root manifest : Path)
    (document : ProjectDocument) : Except FileFault (List String) :=
  ((layoutChecks directories root document).mapM fun c => absenceLines v c.1 c.2).map fun lines =>
    (if document.modules.isEmpty then [s!"No modules defined in {manifest.name}"] else []) ++
      lines.flatten

/-- The report on what reading a manifest gave. -/
def layoutReport (v : Volume) (directories : Directories) (root : Path) :
    Except ProjectFault (Path × ProjectDocument) → Except ProjectFault LayoutReport
  | .error (.manifest fault) => .ok ⟨false, [fault.message]⟩
  | .error fault => .error fault
  | .ok (manifest, document) =>
    match layoutIssues v directories root manifest document with
    | .error fault => .error (.unreachable fault)
    | .ok issues => .ok ⟨issues.isEmpty, issues⟩

/-- Check the manifest and the directories of the project at a root, without a scan. -/
def checkLayout (v : Volume) (directories : Directories) (given : Path) :
    Except ProjectFault LayoutReport :=
  match v.startFrom given with
  | .error fault => .error (.root fault)
  | .ok root => layoutReport v directories root (readManifest v root)

end ProjectAtlas
