import ProjectAtlas.Json.Basic
import ProjectAtlas.Text.Percent

/-!
Requests to the service, and the routes that they take.
-/

namespace ProjectAtlas.Service

/-- A request: its method, its path without escapes, its parameters, and its body if it has one. -/
structure Request where
  method : String
  path : String
  parameters : List (String × String) := []
  body : Option Json := none

/-- The last value of a parameter; an empty one counts as none. -/
def Request.parameter? (r : Request) (name : String) : Option String :=
  (r.parameters.reverse.lookup name).filter (· != "")

/-- The request for a target: a path with escapes and, behind a question mark, a query. -/
def Request.ofTarget (method target : String) (body : Option Json) : Request :=
  let (path, query) := (Text.cutAt? ['?'] target.toList).getD (target.toList, [])
  { method
    path := String.ofList (Text.decodePercent path)
    parameters := Text.readQuery query
    body }

inductive Route
  | health
  | scan
  | summary
  | declarations
  | hierarchy (name : String)
  | usages (name : String)
  | assets
  | plugins
deriving DecidableEq, Repr

namespace Route

def method : Route → String
  | .scan => "POST"
  | _ => "GET"

def fixed : List (String × Route) :=
  [("/health", .health), ("/scan", .scan), ("/summary", .summary),
    ("/declarations", .declarations), ("/assets", .assets), ("/plugins", .plugins)]

/-- The last part of a path, if it has a single part behind `start`. -/
def lastPart? (start : String) (path : List Char) : Option String :=
  let rest := path.drop start.length
  if start.toList.isPrefixOf path && !rest.isEmpty && !rest.contains '/' then
    some (String.ofList rest)
  else none

def ofTrimmed? (path : List Char) : Option Route :=
  let bare := if path.getLast? = some '\n' then path.dropLast else path
  match fixed.lookup (String.ofList bare) with
  | some route => some route
  | none =>
    match lastPart? "/hierarchy/" path with
    | some name => some (.hierarchy name)
    | none => (lastPart? "/usages/" path).map .usages

/-- The route of a path. A path with slashes at its end leads where it leads without them. -/
def ofPath? (path : String) : Option Route :=
  ofTrimmed? (path.toList.reverse.dropWhile (· == '/')).reverse

end Route

end ProjectAtlas.Service
