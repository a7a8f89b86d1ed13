import ProjectAtlas.Service.Answer

/-!
The service: questions about a project that was scanned before.

A scan is started and finished at different times, and several may be on their way at once. Questions
are answered by the indexer of the scan that was started last, whether it has finished or not.
-/

namespace ProjectAtlas

/-- A service: how many scans were started, and the indexer that answers. -/
structure Service where
  started : Nat := 0
  current : Option Indexer := none

namespace Service

/-- A scan that was started: its number, and its indexer. -/
structure PendingScan where
  number : Nat
  indexer : Indexer

def noIndexerMessage : String :=
  "No project has been scanned yet; POST /scan first"

/-- Start a scan: from now on its indexer answers. -/
def start (s : Service) (x : Indexer) : Service × PendingScan :=
  let number := s.started + 1
  (⟨number, some x⟩, ⟨number, x⟩)

/-- Finish a scan with the files as they are. Its indexer answers only if no other scan was started
since. -/
def finish (s : Service) (p : PendingScan) (v : Volume) : Service × Answer :=
  let (x, run) := p.indexer.scan v
  (if p.number = s.started then { s with current := some x } else s, scanAnswer run.outcome)

/-- Some scan was finished by the indexer that answers. -/
def isReady (s : Service) : Bool :=
  s.current.any Indexer.isReady

/-- The index that questions are answered from, or why there is none. -/
def index (s : Service) : Except String Index :=
  match s.current with
  | none => .error noIndexerMessage
  | some x => x.ask id

def answer (s : Service) (r : Request) (route : Route) : Answer :=
  match route with
  | .health => .send 200 (.obj [("status", .str "ok"), ("scanned", .bool s.isReady)])
  | route =>
    match s.index with
    | .error message => .detail 409 message
    | .ok ix => answerFrom ix r route

def begin (s : Service) (v : Volume) (body : Option Json) : Except Answer (Service × PendingScan) :=
  match scanPath body with
  | .error fault => .error fault.answer
  | .ok path =>
    match Indexer.atPath v (Path.ofString path) {} with
    | .error _ => .error .failure
    | .ok x => .ok (s.start x)

/-- Answer a request; a scan is finished at once. -/
def respond (s : Service) (v : Volume) (r : Request) : Service × Answer :=
  match Route.ofPath? r.path with
  | none => (s, .detail 404 "Not Found")
  | some route =>
    if r.method != route.method then (s, .detail 405 "Method Not Allowed")
    else
      match route with
      | .scan =>
        match s.begin v r.body with
        | .error answer => (s, answer)
        | .ok (s, pending) => s.finish pending v
      | route => (s, s.answer r route)

end Service

end ProjectAtlas
