import ProjectAtlas.Entity

/-!
Lines that tell what happens, each with a topic and a severity, and what they say about skipped items.
-/

namespace ProjectAtlas

/-- How much a line matters, from the least to the most. -/
inductive Severity
  | debug
  | info
  | warning
  | error
  | critical
deriving DecidableEq, Repr

namespace Severity

def label : Severity → String
  | .debug => "DEBUG"
  | .info => "INFO"
  | .warning => "WARNING"
  | .error => "ERROR"
  | .critical => "CRITICAL"

/-- The number of a severity: more is worse. -/
def level : Severity → Nat
  | .debug => 10
  | .info => 20
  | .warning => 30
  | .error => 40
  | .critical => 50

end Severity

/-- An entry of the journal. An empty topic stands for the package as a whole. -/
structure JournalEntry where
  topic : String
  severity : Severity
  message : String
deriving DecidableEq, Repr

namespace JournalEntry

/-- The name of a topic in a file. -/
def topicName (topic : String) : String :=
  if topic.isEmpty then "ueindex" else "ueindex." ++ topic

def consoleLine (e : JournalEntry) : String :=
  s!"[ueindex] {e.severity.label} {e.message}"

/-- The line of an entry in a file, behind its time. -/
def fileLine (e : JournalEntry) : String :=
  s!"{e.severity.label} {topicName e.topic}: {e.message}"

end JournalEntry

def leastSeverity (verbose : Bool) : Severity :=
  if verbose then .debug else .info

/-- The entries that are severe enough to be written. -/
def written (verbose : Bool) (es : List JournalEntry) : List JournalEntry :=
  es.filter fun e => (leastSeverity verbose).level ≤ e.severity.level

def IssueKind.spaced (k : IssueKind) : String :=
  String.ofList (k.label.toList.map fun c => if c = '_' then ' ' else c)

def IssueKind.byName : List IssueKind :=
  [.directoryUnreadable, .fileUnparseable, .fileUnreadable, .pluginManifestInvalid]

/-- One line for each kind of issues that occurs, and then one for each issue. -/
def issueEntries (issues : List Issue) : List JournalEntry :=
  let counts := IssueKind.byName.map fun k => (k, (issues.map (·.kind)).count k)
  ((counts.filter fun c => c.2 != 0).map fun c =>
      ⟨"engine", .info, s!"Skipped {c.2} item(s): {c.1.spaced}"⟩) ++
    issues.map fun i => ⟨"engine", .debug, s!"{i.kind.label}: {i.path} {i.detail}"⟩

end ProjectAtlas
