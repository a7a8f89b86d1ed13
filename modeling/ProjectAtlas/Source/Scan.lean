import ProjectAtlas.Config.Basic
import ProjectAtlas.Scanner.Basic
import ProjectAtlas.Text.Utf8

/-!
Scanning the source files of modules. Every file is read on its own: it gives its entities, or one
issue.
-/

namespace ProjectAtlas.Source

/-- What one file gives. -/
inductive FileOutcome
  | classified (declarations : List Declaration) (callables : List Callable)
  | unreadable (path : String) (fault : FileFault)
  | notText (path : String)
deriving DecidableEq, Repr

namespace FileOutcome

def declarations : FileOutcome → List Declaration
  | classified declarations _ => declarations
  | _ => []

def callables : FileOutcome → List Callable
  | classified _ callables => callables
  | _ => []

def issue? : FileOutcome → Option Issue
  | classified _ _ => none
  | unreadable path fault => some ⟨.fileUnreadable, path, fault.message⟩
  | notText path => some ⟨.fileUnparseable, path, "not UTF-8 text"⟩

def journal : FileOutcome → List JournalEntry
  | classified _ _ => []
  | unreadable path fault =>
    [⟨topic, .debug, s!"Skipping unreadable source file {path}: {fault.message}"⟩]
  | notText path => [⟨topic, .debug, s!"Skipping non-UTF-8 source file {path}"⟩]
where
  topic := "analyzers.source"

end FileOutcome

/-- Read one file of a module. A zero byte means that the file is not text; bytes that are not UTF-8
are replaced. -/
def fileOutcome (windows : Windows) (v : Volume) (root : Path) (module : String) (path : Path) :
    FileOutcome :=
  let relative := path.relativeText root
  match v.read path with
  | .error fault => .unreadable relative fault
  | .ok bytes =>
    if bytes.contains 0 then .notText relative
    else
      let text := Text.decodeLenient (Text.dropByteOrderMark bytes)
      let rs := reflected windows ⟨relative, some module⟩ text
      .classified (declarationsOf rs) (callablesOf rs)

/-- What the files of one module give, and the directories that could not be listed. -/
structure ModuleScan where
  name : String
  unlisted : List FileFault := []
  outcomes : List FileOutcome := []
deriving DecidableEq, Repr

namespace ModuleScan

def findings (s : ModuleScan) : Findings :=
  let declarations := s.outcomes.flatMap (·.declarations)
  { declarations
    callables := s.outcomes.flatMap (·.callables)
    moduleDeclarations := [(s.name, declarations.map (·.name))]
    issues := s.unlisted.map unlistedIssue ++ s.outcomes.filterMap (·.issue?) }

def journal (s : ModuleScan) : List JournalEntry :=
  s.unlisted.map unlistedEntry ++ s.outcomes.flatMap (·.journal)

end ModuleScan

/-- The file has one of the suffixes; case does not count. -/
def admits (extensions : List String) (path : Path) : Bool :=
  (extensions.map Text.lower).contains (Text.lower path.suffix)

/-- The walk through the directory of a module of the project at `root`. -/
def moduleWalk (config : Config) (root : Path) (path : String) : Walk :=
  { root := Path.ofString path
    base := root
    rules := config.rules
    admits := admits config.scan.extensions }

def moduleScan (config : Config) (v : Volume) (root : Path) (module : String) (met : List Met) :
    ModuleScan :=
  { name := module
    unlisted := unlistedMet met
    outcomes := (filesMet met).map fun (path, _) =>
      fileOutcome config.scan.windows v root module path }

/-- Scan one module of the project at `root`. A module without a path has no files. For any other the
files are listed first; then a worker is needed, also if there are none. -/
def scanModule (config : Config) (v : Volume) (root : Path) (m : ModuleRef) :
    Except ScanStop ModuleScan :=
  match m.path with
  | none | some "" => .ok { name := m.name }
  | some path =>
    (scanMet v (moduleWalk config root path)).bind fun met =>
      if config.scan.maxWorkers = 0 then .error .noWorkers
      else .ok (moduleScan config v root m.name met)

def scanProject (config : Config) (v : Volume) (p : Project) : Except ScanStop Report :=
  (p.modules.mapM (scanModule config v (Path.ofString p.root))).map fun scans =>
    let findings := Findings.concat (scans.map (·.findings))
    { findings
      journal := scans.flatMap (·.journal) ++
        [⟨"analyzers.source", .debug,
          s!"Classified {findings.declarations.length} declarations and " ++
          s!"{findings.callables.length} callables across {p.modules.length} modules"⟩] }

def scanner (config : Config) : Scanner where
  title := "SourceClassifier"
  supports _ p := .ok !p.modules.isEmpty
  analyze := scanProject config

end ProjectAtlas.Source
