import ProjectAtlas.Yaml.Tag

/-!
A document as a graph of nodes. An alias leads to the node of its anchor, so that a node can be
reached in several ways, also from inside itself.
-/

namespace ProjectAtlas.Yaml

abbrev NodeId := Nat

/-- What a node holds. -/
inductive Body
  | scalar (text : String)
  | sequence (items : List NodeId)
  | mapping (entries : List (NodeId × NodeId))
deriving DecidableEq, Repr

structure Node where
  tag : Tag
  body : Body
deriving DecidableEq, Repr

/-- A document: its nodes, the one at the top, and the room on the stack of its reader. -/
structure Graph where
  nodes : Array Node
  top : NodeId
  room : Nat

namespace Graph

/-- The node of a number. A number that stands for no node counts as nothing. -/
def node (g : Graph) (id : NodeId) : Node :=
  g.nodes[id]?.getD ⟨.null, .scalar ""⟩

def tag (g : Graph) (id : NodeId) : Tag :=
  (g.node id).tag

/-- The entries of each mapping that is merged into another one: those of a mapping itself, or of the
mappings in a sequence, last first. -/
def mergedFrom (g : Graph) (entries : NodeId → Except Fault (List (NodeId × NodeId)))
    (id : NodeId) : Except Fault (List (NodeId × NodeId)) :=
  let ofMapping (id : NodeId) : Except Fault (List (NodeId × NodeId)) :=
    match (g.node id).body with
    | .mapping _ => entries id
    | _ => .error .wrongKind
  match (g.node id).body with
  | .mapping _ => entries id
  | .sequence items => (items.mapM ofMapping).map fun es => es.reverse.flatten
  | .scalar _ => .error .wrongKind

/-- The entries of a mapping, those that are merged into it in front of its own. A mapping that is
merged into itself, directly or not, adds only its own entries there. -/
def entriesFrom (g : Graph) : Nat → List NodeId → NodeId →
    Except Fault (List (NodeId × NodeId))
  | 0, _, _ => .ok []
  | fuel + 1, active, id =>
    match (g.node id).body with
    | .mapping entries =>
      let own := entries.filter fun e => g.tag e.1 != .merge
      let merged := if active.contains id then [] else
        entries.filter fun e => g.tag e.1 == .merge
      (merged.mapM fun e => g.mergedFrom (g.entriesFrom fuel (id :: active)) e.2).map fun es =>
        es.flatten ++ own
    | _ => .error .wrongKind

/-- The entries of a mapping, those that are merged into it in front of its own. -/
def entries (g : Graph) (id : NodeId) : Except Fault (List (NodeId × NodeId)) :=
  g.entriesFrom (g.nodes.size + 1) [] id

/-- The text of a node: that of a scalar, or that of the value of a mapping, which its key of this
type leads to. Such values can lead to one another, in a circle as well. -/
def textFrom (g : Graph) : Nat → NodeId → Except Fault String
  | 0, _ => .error .tooDeep
  | room + 1, id =>
    match (g.node id).body with
    | .scalar text => .ok text
    | .mapping entries =>
      match entries.find? fun e => g.tag e.1 == .value with
      | some e => g.textFrom room e.2
      | none => .error .wrongKind
    | .sequence _ => .error .wrongKind

def text (g : Graph) (id : NodeId) : Except Fault String :=
  g.textFrom (g.room + 1) id

end Graph

end ProjectAtlas.Yaml
