import ProjectAtlas.Command.Task
import ProjectAtlas.Index.Basic
import ProjectAtlas.Indexer.Basic
import ProjectAtlas.Json.Printer
import ProjectAtlas.Render

/-!
Running a command line on a volume of files: what it prints, what it writes into the journal, and the
code that it ends with.
-/

namespace ProjectAtlas.Command

/-- Where a project is to be served, once it was scanned. -/
structure Serving where
  indexer : Indexer
  host : Option String
  port : Option Int

/-- How a command line ends: what is printed, the lines of the journal that are shown, a last message
beside them, and a code, which is zero if nothing went wrong. -/
structure Outcome where
  code : Nat := 0
  output : String := ""
  journal : List JournalEntry := []
  message : Option String := none
  serving : Option Serving := none

/-- Why a command line ends without an outcome. -/
inductive Crash
  | root (fault : RootFault)
  | scan (fault : ScanFault)
  | noPath
  | integerUnwritable
deriving DecidableEq, Repr

/-- The refusal of a place that is none. -/
def noPathMessage : String :=
  "expected str, bytes or os.PathLike object, not list"

/-- The entities that a search finds, in the sections that it looks among. -/
def searchDocument (ix : Index) (query : String) (kind : Option SearchKind) : Json :=
  let among (k : SearchKind) (found : Json) : List (String × Json) :=
    if kind.any fun s => s.covers k then [(k.label, found)] else []
  .obj <|
    among .declarations (Json.list Declaration.toJson (ix.searchDeclarations query)) ++
      among .callables (Json.list Callable.toJson (ix.searchCallables query)) ++
      among .assets (Json.list Asset.toJson (ix.searchAssets query)) ++
      among .plugins (Json.list Plugin.toJson (ix.searchPlugins query))

/-- The plugins of a category, or all of them; an empty category counts as none. -/
def listedPlugins (ix : Index) (category : Option String) (enabledOnly : Bool) : List Plugin :=
  let plugins := match category.filter (· != "") with
    | some c => ix.pluginsByCategory c
    | none => ix.plugins none
  if enabledOnly then plugins.filter (·.enabled) else plugins

/-- What a task prints about an index, or the message that it ends with. -/
def Task.document (t : Task) (ix : Index) : Except String Json :=
  match t with
  | .summary => .ok ix.summary.toJson
  | .search query kind => .ok (searchDocument ix query kind)
  | .hierarchy name =>
    match ix.hierarchy name with
    | [] => .error s!"Declaration not found: {name}"
    | chain => .ok (.obj [("name", .str name), ("hierarchy", Json.texts chain)])
  | .usages name => .ok (ix.usages name).toJson
  | .plugins category enabledOnly =>
    .ok (Json.list Plugin.toJson (listedPlugins ix category enabledOnly))
  | .validate | .serve _ _ => .ok .null

def print (journal : List JournalEntry) (code : Nat) (document : Json) : Except Crash Outcome :=
  match document.indented? with
  | some text => .ok { code, output := text ++ "\n", journal }
  | none => .error .integerUnwritable

def runValidate (v : Volume) (x : Indexer) : Except Crash Outcome :=
  match x.validate v with
  | .ok report => print [] (if report.valid then 0 else 1) report.toJson
  | .error fault =>
    if fault.isReported then .ok { code := 1, message := some fault.message }
    else .error (.scan fault)

def runScan (v : Volume) (x : Indexer) (task : Task) (verbose : Bool) : Except Crash Outcome :=
  let (x, run) := x.scan v
  let journal := written verbose run.journal
  match run.outcome with
  | .error fault =>
    if fault.isReported then
      .ok {
        code := 1
        journal
        message := some s!"{programName} {task.verb.label} failed: {fault.message}" }
    else .error (.scan fault)
  | .ok ix =>
    match task with
    | .serve host port => .ok { journal, serving := some ⟨x, host, port⟩ }
    | task =>
      match task.document ix with
      | .ok document => print journal 0 document
      | .error message => .ok { code := 1, journal, message := some message }

def Invocation.run (v : Volume) (i : Invocation) : Except Crash Outcome :=
  match i.path with
  | none => .error .noPath
  | some path =>
    match Indexer.atPath v (Path.ofString path) {} with
    | .error fault => .error (.root fault)
    | .ok x =>
      match i.task with
      | .validate => runValidate v x
      | task => runScan v x task i.verbose

def Grammar.usage (g : Grammar) : String :=
  let part (s : Switch) : String :=
    "[" ++ s.label ++ (if s.takesValue then " VALUE" else "") ++ "]"
  " ".intercalate (["usage:", g.program] ++ g.switches.map part ++
    (g.argument.map fun a => if g.takesRest then a ++ " ..." else a).toList)

/-- Run a command line. -/
def run (v : Volume) (words : List String) : Except Crash Outcome :=
  match Invocation.ofWords words with
  | .ok invocation => invocation.run v
  | .error (.help g) => .ok { output := g.usage ++ "\n" }
  | .error (.refused program fault) =>
    .ok { code := 2, message := some s!"{program}: error: {fault.message}" }

end ProjectAtlas.Command
