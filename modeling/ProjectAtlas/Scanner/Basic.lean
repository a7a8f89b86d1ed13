import ProjectAtlas.Findings
import ProjectAtlas.Json.Reader
import ProjectAtlas.Walk.Basic

/-!
Scanners: each looks at one part of a project. What it cannot read it leaves out and reports, so that
only few things stop it.
-/

namespace ProjectAtlas

/-- What a scanner finds, and what it writes into the journal. -/
structure Report where
  findings : Findings := {}
  journal : List JournalEntry := []
deriving DecidableEq, Repr

/-- Why a scanner stops without a report. -/
inductive ScanStop
  | noWorkers
  | excess (e : Json.Excess)
  | unreachable (fault : FileFault)
  | treeTooDeep
deriving DecidableEq, Repr

def ScanStop.message : ScanStop → String
  | .noWorkers => "max_workers must be greater than 0"
  | .excess e => e.message
  | .unreachable fault => fault.message
  | .treeTooDeep => tooDeepMessage

/-- What is met on a walk; what stops the walk stops its scanner. -/
def scanMet (v : Volume) (w : Walk) : Except ScanStop (List Met) :=
  (w.run v).mapError fun
    | .unreachable fault => .unreachable fault
    | .tooDeep => .treeTooDeep

/-- A scanner. Its title names it in the journal. -/
structure Scanner where
  title : String
  supports : Volume → Project → Except ScanStop Bool
  analyze : Volume → Project → Except ScanStop Report

end ProjectAtlas
