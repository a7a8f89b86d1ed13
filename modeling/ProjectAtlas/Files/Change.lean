import ProjectAtlas.Files.Volume

/-!
Changing a tree of files: putting something at a place, and removing what is there.
-/

namespace ProjectAtlas

/-- Change the entry of a name: `f` gets what is there and says what is to be there. A new entry
comes last. -/
def changeEntry (name : String) (f : Option Node → Option Node) :
    List (String × Node) → List (String × Node)
  | [] =>
    match f none with
    | some node => [(name, node)]
    | none => []
  | (n, node) :: es =>
    if n = name then
      match f (some node) with
      | some node => (n, node) :: es
      | none => es
    else (n, node) :: changeEntry name f es

/-- Change what the names lead to; directories on the way are made. -/
def Node.change (f : Option Node → Option Node) : List String → Option Node → Option Node
  | [], old => f old
  | n :: ns, old =>
    match old with
    | some (.dir entries locked) => some (.dir (changeEntry n (change f ns) entries) locked)
    | _ => some (.dir (changeEntry n (change f ns) []) false)

/-- What stands at a place after `new` is put there: a directory keeps the entries that it has. -/
def Node.replace (new : Node) : Option Node → Option Node
  | some (.dir entries locked) =>
    match new with
    | .dir [] newLocked => some (.dir entries (newLocked || locked))
    | _ => some new
  | _ => some new

namespace Volume

def target (v : Volume) (p : Path) : List String :=
  match v.canonical p with
  | .ok q => q.parts
  | .error (.linksInCircle q) => q.parts
  | .error _ => p.parts

/-- The volume after `f` has changed what stands at the names. -/
def changeAt (v : Volume) (ns : List String) (f : Option Node → Option Node) : Volume :=
  { v with root := (Node.change f ns (some v.root)).getD (.dir [] false) }

/-- Put a node at a path. Links on the way are followed, and so is a link at the end, unless a link
is put there. -/
def put (v : Volume) (p : Path) (node : Node) : Volume :=
  match node with
  | .link _ => v.changeAt (v.target p.parent ++ [p.name]) fun _ => some node
  | _ => v.changeAt (v.target p) node.replace

/-- Remove what stands at a path, a directory with all that it holds. -/
def remove (v : Volume) (p : Path) : Volume :=
  v.changeAt (v.target p.parent ++ [p.name]) fun _ => none

end Volume

end ProjectAtlas
