import ProjectAtlas.Indexer.Scan

/-!
An indexer keeps the index of one project. A scan either replaces the whole index, or fails and leaves
none behind; questions are answered from the index of the latest scan.
-/

namespace ProjectAtlas

/-- An indexer for the project at a root. -/
structure Indexer where
  root : Path
  overrides : Overrides := {}
  index : Option Index := none

namespace Indexer

def atPath (v : Volume) (given : Path) (overrides : Overrides) : Except RootFault Indexer :=
  (v.startFrom given).map fun root => { root, overrides }

/-- The indexer after a scan of the files as they are, and what the scan gave. -/
def scan (x : Indexer) (v : Volume) : Indexer × ScanRun :=
  let run := ProjectAtlas.scan v x.overrides x.root
  ({ x with index := run.outcome.toOption }, run)

/-- There is an index. -/
def isReady (x : Indexer) : Bool :=
  x.index.isSome

def notReadyMessage (x : Indexer) : String :=
  s!"No completed scan for {x.root.toString}; call scan() first"

/-- Answer a question from the index, or say why there is no answer. -/
def ask {α : Type} (x : Indexer) (question : Index → α) : Except String α :=
  match x.index with
  | some index => .ok (question index)
  | none => .error x.notReadyMessage

def validate (x : Indexer) (v : Volume) : Except ScanFault LayoutReport :=
  match x.overrides.configFor v x.root with
  | .error fault => .error (.config fault)
  | .ok config => (checkLayout v config.directories x.root).mapError .project

end Indexer

end ProjectAtlas
