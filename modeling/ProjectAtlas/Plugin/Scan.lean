import ProjectAtlas.Config.Basic
import ProjectAtlas.Scanner.Basic

/-!
Scanning the plugin directory. Each of its subdirectories gives on its own a plugin, or an issue, or
nothing; they are taken in the order of their names.
-/

namespace ProjectAtlas

def pluginSuffix : String := ".uplugin"

/-- The manifest in a plugin's directory: the one named for the directory, or else the first by
name. -/
def findPluginManifest (v : Volume) (directory : Path) : Except FileFault (Option Path) :=
  let preferred := directory.child (directory.name ++ pluginSuffix)
  match v.isFile preferred with
  | .error fault => .error fault
  | .ok true => .ok (some preferred)
  | .ok false => (filesWithSuffix v directory pluginSuffix).map fun names =>
    names.head?.map directory.entry

/-- The plugin in a directory. A reference in the project's manifest says whether it is enabled, and
if there is none, the plugin's own manifest does. -/
def pluginOf (sources : String) (directory : Path) (reference : Option Bool)
    (d : PluginDocument) : Plugin :=
  { name := directory.name
    path := directory.toString
    enabled := (reference.or d.enabledByDefault).getD true
    installed := d.installed
    version := d.version.map (·.toText)
    versionName := d.versionName
    friendlyName := d.friendlyName
    description := d.description
    category := d.category
    createdBy := d.createdBy
    createdByUrl := d.createdByUrl
    docsUrl := d.docsUrl
    marketplaceUrl := d.marketplaceUrl
    supportUrl := d.supportUrl
    engineVersion := d.engineVersion
    canContainContent := d.canContainContent
    isBetaVersion := d.isBetaVersion
    isExperimentalVersion := d.isExperimentalVersion
    modules := moduleRefs d.modules (directory.child sources) }

inductive PluginOutcome
  | described (plugin : Plugin)
  | unlisted (path : String) (fault : FileFault)
  | invalid (name path : String) (message : String)
  | bare (path : String)
deriving DecidableEq, Repr

namespace PluginOutcome

def plugin? : PluginOutcome → Option Plugin
  | described plugin => some plugin
  | _ => none

def issue? : PluginOutcome → Option Issue
  | unlisted path fault => some ⟨.directoryUnreadable, path, fault.message⟩
  | invalid _ path message => some ⟨.pluginManifestInvalid, path, message⟩
  | _ => none

def journal : PluginOutcome → List JournalEntry
  | invalid name _ message =>
    [⟨"analyzers.plugins", .warning, s!"Skipping plugin {name}: {message}"⟩]
  | bare path =>
    [⟨"analyzers.plugins", .debug, s!"No {pluginSuffix} file in {path}; skipping"⟩]
  | _ => []

end PluginOutcome

/-- Look at one directory. A manifest that goes beyond a limit of its reader stops the whole scan. -/
def pluginOutcome (v : Volume) (sources : String) (references : List PluginRef)
    (directory : Path) : Except ScanStop PluginOutcome :=
  match findPluginManifest v directory with
  | .error fault => .ok (.unlisted directory.toString fault)
  | .ok none => .ok (.bare directory.toString)
  | .ok (some manifest) =>
    match loadPlugin v manifest with
    | .error (.excess e) => .error (.excess e)
    | .error (.document name fault) =>
      .ok (.invalid directory.name manifest.toString (pluginFaultMessage name fault))
    | .ok document =>
      let reference := (references.reverse.find? (·.name == directory.name)).map (·.enabled)
      .ok (.described (pluginOf sources directory reference document))

def pluginRoot (config : Config) (p : Project) : Path :=
  (Path.ofString p.root).child config.directories.plugins

/-- The subdirectories of a directory, by name. -/
def subdirectories (v : Volume) (directory : Path) : Except FileFault (List Path) :=
  (namesPassing v directory fun n => v.isDir (directory.entry n)).map fun names =>
    names.map directory.entry

/-- The report on the outcomes of all directories below `root`. -/
def pluginReport (root : Path) (outcomes : List PluginOutcome) : Report :=
  let plugins := outcomes.filterMap (·.plugin?)
  { findings := { plugins, issues := outcomes.filterMap (·.issue?) }
    journal := outcomes.flatMap (·.journal) ++
      [⟨"analyzers.plugins", .debug, s!"Found {plugins.length} plugins under {root.toString}"⟩] }

def scanPlugins (config : Config) (v : Volume) (p : Project) : Except ScanStop Report :=
  let root := pluginRoot config p
  match subdirectories v root with
  | .error fault =>
    .ok
      { findings := { issues := [⟨.directoryUnreadable, root.toString, fault.message⟩] }
        journal := [⟨"analyzers.plugins", .debug,
          s!"Cannot list plugin directory {root.toString}: {fault.message}"⟩] }
  | .ok directories =>
    (directories.mapM (pluginOutcome v config.directories.source p.plugins)).map
      (pluginReport root)

def pluginScanner (config : Config) : Scanner where
  title := "PluginScanner"
  supports v p := (v.isDir (pluginRoot config p)).mapError .unreachable
  analyze := scanPlugins config

end ProjectAtlas
