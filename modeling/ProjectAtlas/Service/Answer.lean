import ProjectAtlas.Index.Basic
import ProjectAtlas.Indexer.Basic
import ProjectAtlas.Json.Printer
import ProjectAtlas.Render
import ProjectAtlas.Service.Request

/-!
What the service answers.
-/

namespace ProjectAtlas.Service

/-- An answer: a status and a document, or the bare notice that something unforeseen went wrong. -/
inductive Answer
  | document (status : Nat) (body : Json)
  | failure

namespace Answer

def send (status : Nat) (body : Json) : Answer :=
  if body.isPlain then .document status body else .failure

def detail (status : Nat) (text : String) : Answer :=
  send status (.obj [("detail", .str text)])

def status : Answer → Nat
  | .document status _ => status
  | .failure => 500

end Answer

def failureText : String := "Internal Server Error"

def assetFields : List String :=
  ["name", "path", "type", "size"]

def moduleFields : List String :=
  ["name", "type", "loading_phase", "dependencies", "path"]

def pluginFields : List String :=
  ["name", "path", "enabled", "installed", "version", "version_name", "friendly_name", "description",
    "category", "created_by", "marketplace_url", "support_url", "engine_version",
    "can_contain_content", "is_beta_version", "is_experimental_version"]

def assetJson (a : Asset) : Json :=
  a.toJson.only assetFields

def moduleJson (m : ModuleRef) : Json :=
  m.toJson.only moduleFields

def pluginJson (p : Plugin) : Json :=
  match p.toJson.only pluginFields with
  | .obj fields => .obj (fields ++ [("modules", Json.list moduleJson p.modules)])
  | v => v

def declarationsFor (ix : Index) (query kind : Option String) : List Declaration :=
  let found := match query with
    | some q => ix.searchDeclarations q
    | none => ix.declarations none
  match kind with
  | some k => found.filter fun d => d.kind.marker == Text.upper k
  | none => found

def assetsFor (ix : Index) (query type : Option String) : List Asset :=
  let found := match query with
    | some q => ix.searchAssets q
    | none => ix.assets none
  match type with
  | some t => found.filter fun a => Text.lower a.type == Text.lower t
  | none => found

def pluginsFor (ix : Index) (category : Option String) : List Plugin :=
  match category with
  | some c => ix.pluginsByCategory c
  | none => ix.plugins none

def answerFrom (ix : Index) (r : Request) : Route → Answer
  | .summary => .send 200 ix.summary.toJson
  | .declarations =>
    .send 200 (Json.list Declaration.toJson
      (declarationsFor ix (r.parameter? "query") (r.parameter? "kind")))
  | .hierarchy name =>
    match ix.hierarchy name with
    | [] => .detail 404 s!"Declaration not found: {name}"
    | chain => .send 200 (.obj [("name", .str name), ("hierarchy", Json.texts chain)])
  | .usages name => .send 200 (ix.usages name).toJsonWithCount
  | .assets =>
    .send 200 (Json.list assetJson (assetsFor ix (r.parameter? "query") (r.parameter? "type")))
  | .plugins => .send 200 (Json.list pluginJson (pluginsFor ix (r.parameter? "category")))
  | .health | .scan => .failure

def scanJson (ix : Index) : Json :=
  .obj [("status", .str "ok"), ("project_name", .str ix.project.name),
    ("declarations", Json.nat ix.declarationTable.size),
    ("callables", Json.nat ix.callableTable.size), ("assets", Json.nat ix.assetTable.size),
    ("plugins", Json.nat ix.pluginTable.size)]

def scanAnswer : Except ScanFault Index → Answer
  | .ok ix => .send 200 (scanJson ix)
  | .error fault => if fault.isReported then .detail 422 fault.message else .failure

inductive BodyFault
  | missing
  | notObject
  | pathMissing
  | pathNotText
deriving DecidableEq, Repr

namespace BodyFault

def place : BodyFault → List String
  | .missing | .notObject => ["body"]
  | .pathMissing | .pathNotText => ["body", "path"]

def label : BodyFault → String
  | .missing | .pathMissing => "missing"
  | .notObject => "model_attributes_type"
  | .pathNotText => "string_type"

def answer (f : BodyFault) : Answer :=
  .send 422 (.obj [("detail", .arr [.obj [("loc", Json.texts f.place), ("type", .str f.label)]])])

end BodyFault

def scanPath : Option Json → Except BodyFault String
  | none | some .null => .error .missing
  | some (.obj fields) =>
    match fields.lookup "path" with
    | none => .error .pathMissing
    | some (.str path) => .ok path
    | some _ => .error .pathNotText
  | some _ => .error .notObject

end ProjectAtlas.Service
