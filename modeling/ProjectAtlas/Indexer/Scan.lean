import ProjectAtlas.Asset.Catalog
import ProjectAtlas.Config.Load
import ProjectAtlas.Index.Basic
import ProjectAtlas.Plugin.Scan
import ProjectAtlas.Scanner.Discovery
import ProjectAtlas.Source.Scan
import ProjectAtlas.Text.Quoted

/-!
Scanning a project: settings, manifest, scanners, index. Faults of the settings and of the manifest
end the scan; what a scanner cannot read is left out.
-/

namespace ProjectAtlas

def builtinScanners (config : Config) : List (Candidate Scanner) :=
  [⟨"source", .ok (Source.scanner config)⟩, ⟨"assets", .ok (assetScanner config)⟩,
    ⟨"plugins", .ok (pluginScanner config)⟩]

/-- The scanners that the settings name; without any name, all of them. -/
def enabledScanners (config : Config) : Except DiscoveryFault (List Scanner) :=
  discover (if config.scanners.enabled.isEmpty then none else some config.scanners.enabled)
    (builtinScanners config)

inductive ScanFault
  | config (fault : ConfigFault)
  | project (fault : ProjectFault)
  | discovery (fault : DiscoveryFault)
  | stopped (stop : ScanStop)
deriving DecidableEq, Repr

def ScanFault.message : ScanFault → String
  | .config fault => fault.message
  | .project fault => fault.message
  | .discovery fault => fault.message
  | .stopped stop => stop.message

/-- The fault lies in the settings or in the manifest, and is reported as such. All other faults are
unforeseen. -/
def ScanFault.isReported : ScanFault → Bool
  | .config fault => fault.isReported
  | .project (.manifest _) => true
  | _ => false

/-- What a scan writes into the journal, and how it ends. -/
structure ScanRun where
  journal : List JournalEntry
  outcome : Except ScanFault Index

/-- The settings to use instead of those in a file, and the scanners to use instead of those that the
settings name. -/
structure Overrides where
  config : Option Config := none
  scanners : Option (List Scanner) := none

def Overrides.configFor (o : Overrides) (v : Volume) (root : Path) :
    Except ConfigFault Config :=
  match o.config with
  | some config => .ok config
  | none => (loadConfig v root).map (·.2)

def Overrides.scannersFor (o : Overrides) (config : Config) :
    Except DiscoveryFault (List Scanner) :=
  match o.scanners with
  | some scanners => .ok scanners
  | none => enabledScanners config

def manifestEntries (p : Project) : List JournalEntry :=
  let name := (Path.ofString p.manifestPath).name
  [⟨"manifest", .debug, s!"Loaded manifest {name} with {p.modules.length} modules"⟩,
    ⟨"engine", .debug, s!"Manifest {name} lists {p.modules.length} modules and " ++
      s!"{p.plugins.length} plugin references"⟩]

/-- The report of one scanner, with a line for the journal that names it. -/
def titledReport (v : Volume) (p : Project) (s : Scanner) : Except ScanStop Report :=
  (s.analyze v p).map fun r =>
    { r with journal := r.journal ++ [⟨"engine", .debug, s!"Merging results from {s.title}"⟩] }

/-- Run the scanners, and put what they find together in their order. -/
def runScanners (v : Volume) (p : Project) (scanners : List Scanner) : Except ScanStop Report :=
  (scanners.mapM (titledReport v p)).map fun reports =>
    { findings := Findings.concat (reports.map (·.findings))
      journal := reports.flatMap (·.journal) }

def pairText (p : String × String) : String :=
  s!"({Text.quoted p.1}, {Text.quoted p.2})"

def duplicateEntries (r : Replaced) : List JournalEntry :=
  let entry (label key : String) : JournalEntry :=
    ⟨"index", .debug, s!"Duplicate {label} key {key}; keeping the later entity"⟩
  r.declarations.map (entry "declarations" ∘ Text.quoted) ++
    r.callables.map (entry "callables" ∘ pairText) ++
    r.assets.map (entry "assets" ∘ Text.quoted) ++
    r.plugins.map (entry "plugins" ∘ Text.quoted)

def indexEntries (ix : Index) : List JournalEntry :=
  duplicateEntries ix.replaced ++
    ((ix.collisions.filter fun c => c.2 != 0).map fun c =>
      ⟨"engine", .warning, s!"{c.2} duplicate {c.1} names; later entries kept"⟩) ++
    issueEntries ix.issues ++
    [⟨"engine", .info, s!"Indexed {ix.declarationTable.size} declarations, " ++
      s!"{ix.callableTable.size} callables, {ix.assetTable.size} assets, " ++
      s!"{ix.pluginTable.size} plugins"⟩]

/-- The report of the scanners on a project whose manifest was read. -/
def reportOn (v : Volume) (o : Overrides) (config : Config) (p : Project) :
    Except ScanFault Report :=
  match o.scannersFor config with
  | .error fault => .error (.discovery fault)
  | .ok scanners =>
    ((scanners.filterM (Scanner.supports · v p)).bind (runScanners v p)).mapError .stopped

/-- The settings and the project at a root. -/
def openProject (v : Volume) (o : Overrides) (root : Path) :
    Except ScanFault (Config × Project) :=
  match o.configFor v root with
  | .error fault => .error (.config fault)
  | .ok config =>
    match readProject v config.directories root with
    | .error fault => .error (.project fault)
    | .ok p => .ok (config, p)

/-- Scan the project at a root. -/
def scan (v : Volume) (o : Overrides) (root : Path) : ScanRun :=
  let start := [⟨"engine", .info, s!"Scanning Unreal project at {root.toString}"⟩]
  match openProject v o root with
  | .error fault => ⟨start, .error fault⟩
  | .ok (config, p) =>
    let start := start ++ manifestEntries p
    match reportOn v o config p with
    | .error fault => ⟨start, .error fault⟩
    | .ok report =>
      let index := Index.build p report.findings
      ⟨start ++ report.journal ++ indexEntries index, .ok index⟩

end ProjectAtlas
