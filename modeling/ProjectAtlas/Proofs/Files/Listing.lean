import ProjectAtlas.Proofs.Files.Frame

/-!
The same files with every directory listed in another order. Whatever order each directory is given, all
places hold what they held before, but for the order of names.
-/

namespace ProjectAtlas

/-- An order for every directory: how it lists its entries, by its place. -/
abbrev ListingOrder := List String → List (String × Node) → List (String × Node)

namespace Node

mutual

/-- The node with every directory in it listed in the order for its place. -/
def relisted (order : ListingOrder) (place : List String) : Node → Node
  | .dir entries locked => .dir (order place (relistedEach order place entries)) locked
  | node => node

/-- The entries of a directory, each relisted, in the order in which they were. -/
def relistedEach (order : ListingOrder) (place : List String) :
    List (String × Node) → List (String × Node)
  | [] => []
  | (n, child) :: es => (n, relisted order (place ++ [n]) child) :: relistedEach order place es

end

variable {order : ListingOrder}

end Node

namespace Volume

/-- The volumes differ in the order of listings alone. -/
def Relists (v u : Volume) : Prop :=
  AgreeOutside (fun _ => False) v u

/-- The volume with every directory listed in the order for its place. -/
def relisted (v : Volume) (order : ListingOrder) : Volume :=
  { v with root := v.root.relisted order [] }

variable {v u : Volume}

theorem Relists.read_eq (h : v.Relists u) : u.read = v.read :=
  funext fun _ => AgreeOutside.read_eq h fun _ _ => id

theorem Relists.size_eq (h : v.Relists u) : u.size = v.size :=
  funext fun _ => AgreeOutside.size_eq h fun _ _ => id

end Volume

end ProjectAtlas
