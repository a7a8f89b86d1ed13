import ProjectAtlas.Yaml.Graph.Reader
import ProjectAtlas.Yaml.Scalar
import ProjectAtlas.Yaml.Token.Lexer

/-!
The values of documents.

A document is checked as a whole before it has a value: its nodes are visited level by level, keys
with all that is in them at once, and the first fault counts. A document can be circular, so its value
is unfolded to a limited depth.
-/

namespace ProjectAtlas.Yaml

/-- A value. Below the depth to which a document is unfolded, collections are empty. -/
inductive Value where
  | scalar (s : Scalar)
  | list (items : List Value)
  | map (entries : List (Value × Value))
  | set (members : List Value)
  | pair (key value : Value)

namespace Value

/-- The value counts as nothing: null, false, zero, and all that is empty. -/
def isFalsy : Value → Bool
  | .scalar .null => true
  | .scalar (.flag b) => !b
  | .scalar (.integer n) => n == 0
  | .scalar (.float x) => x == 0.0
  | .scalar (.text s) => s.isEmpty
  | .scalar (.bytes bs) => bs.isEmpty
  | .scalar .moment => false
  | .list items => items.isEmpty
  | .map entries => entries.isEmpty
  | .set members => members.isEmpty
  | .pair _ _ => false

/-- The value is the text `s`. -/
def isText (s : String) : Value → Bool
  | .scalar (.text t) => t == s
  | _ => false

/-- The value of a key of a mapping; of several equal keys the last counts. -/
def field? (key : String) : Value → Option Value
  | .map entries => (entries.reverse.find? fun e => e.1.isText key).map (·.2)
  | _ => none

end Value

def Tag.isCollection : Tag → Bool
  | .sequence | .mapping | .set | .orderedMapping | .pairs => true
  | _ => false

/-- The nodes that have been visited, and those whose contents are yet to be visited, first come first
served. -/
structure Visited where
  done : List NodeId := []
  waiting : List NodeId := []

namespace Graph

/-- The type of a node; that of the sign for values counts as text where the node is a key. -/
def tagAs (g : Graph) (asKey : Bool) (id : NodeId) : Tag :=
  if asKey && g.tag id == .value then .text else g.tag id

/-- The value of a node that is no collection. A mapping that has a text is no date or time. -/
def scalar (g : Graph) (asKey : Bool) (id : NodeId) : Except Fault Scalar :=
  (g.text id).bind fun text =>
    match g.tagAs asKey id, (g.node id).body with
    | .moment, .mapping _ => .error (.scalar .momentNotText)
    | tag, _ => scalarOf tag text

mutual

/-- Visit a node. The contents of a collection are visited now if `deep` holds, and else later.
`active` holds the nodes whose contents are being visited; none of them may be met again. -/
def visit (g : Graph) : Nat → Bool → List NodeId → Bool → NodeId → Visited → Except Fault Visited
  | 0, _, _, _, _, _ => .error .insideItself
  | fuel + 1, deep, active, asKey, id, v =>
    if v.done.contains id then .ok v
    else if active.contains id then .error .insideItself
    else if (g.tag id).isCollection then
      if deep then
        (g.visitContents fuel true (id :: active) id v).map fun v => { v with done := id :: v.done }
      else .ok { done := id :: v.done, waiting := v.waiting ++ [id] }
    else (g.scalar asKey id).map fun _ => { v with done := id :: v.done }

/-- Visit what a collection holds. -/
def visitContents (g : Graph) : Nat → Bool → List NodeId → NodeId → Visited → Except Fault Visited
  | 0, _, _, _, _ => .error .insideItself
  | fuel + 1, deep, active, id, v =>
    let visitEntry (keyed : Bool) (v : Visited) (e : NodeId × NodeId) : Except Fault Visited :=
      (g.visit fuel (keyed || deep) active keyed e.1 v).bind fun v =>
        if keyed && (g.tag e.1).isCollection then .error .keyNotComparable
        else g.visit fuel deep active false e.2 v
    match g.tag id, (g.node id).body with
    | .sequence, .sequence items => items.foldlM (fun v i => g.visit fuel deep active false i v) v
    | .mapping, .mapping _ | .set, .mapping _ =>
      (g.entries id).bind fun entries => entries.foldlM (visitEntry true) v
    | .orderedMapping, .sequence items | .pairs, .sequence items =>
      items.foldlM (fun v i => match (g.node i).body with
        | .mapping [e] => visitEntry false v e
        | _ => .error .wrongKind) v
    | _, _ => .error .wrongKind

end

/-- Visit what the waiting collections hold. -/
def visitWaiting (g : Graph) : Nat → Visited → Except Fault Visited
  | 0, v => .ok v
  | fuel + 1, v =>
    match v.waiting with
    | [] => .ok v
    | id :: rest =>
      (g.visitContents (2 * g.nodes.size + 3) false [] id { v with waiting := rest }).bind
        (g.visitWaiting fuel)

def check (g : Graph) : Except Fault Unit :=
  ((g.visit (2 * g.nodes.size + 4) false [] false g.top {}).bind
    (g.visitWaiting (g.nodes.size + 1))).map fun _ => ()

/-- The value of a node that is no collection, or nothing if it has none. -/
def scalarValue (g : Graph) (id : NodeId) : Value :=
  .scalar ((g.scalar true id).toOption.getD .null)

/-- The value of a node, unfolded through `depth` collections. -/
def valueAt (g : Graph) : Nat → NodeId → Value
  | 0, id =>
    match g.tag id with
    | .sequence | .orderedMapping | .pairs => .list []
    | .mapping => .map []
    | .set => .set []
    | _ => g.scalarValue id
  | depth + 1, id =>
    match g.tag id, (g.node id).body with
    | .sequence, .sequence items => .list (items.map (g.valueAt depth))
    | .mapping, _ =>
      .map (((g.entries id).toOption.getD []).map fun e =>
        (g.valueAt depth e.1, g.valueAt depth e.2))
    | .set, _ => .set (((g.entries id).toOption.getD []).map fun e => g.valueAt depth e.1)
    | .orderedMapping, .sequence items | .pairs, .sequence items =>
      .list (items.flatMap fun i => match (g.node i).body with
        | .mapping entries =>
          entries.map fun e => .pair (g.valueAt depth e.1) (g.valueAt depth e.2)
        | _ => [])
    | _, _ => g.scalarValue id

end Graph

/-- The value of the document in a text, unfolded through `depth` collections, on a stack with room for
`room` collections inside one another. A text without a document has the value null. -/
def load (room depth : Nat) (text : List Char) : Except Fault Value :=
  (graph? room (tokens text)).bind fun g? =>
    match g? with
    | none => .ok (.scalar .null)
    | some g => g.check.map fun _ => g.valueAt depth g.top

end ProjectAtlas.Yaml
