/-!
Files, directories and links as one value.
-/

namespace ProjectAtlas

/-- The bytes of a file. A run of zeros is kept as its length. -/
inductive Content
  | bytes (bs : List UInt8)
  | zeros (n : Nat)
deriving DecidableEq, Repr

def Content.size : Content → Nat
  | .bytes bs => bs.length
  | .zeros n => n

def Content.toBytes : Content → List UInt8
  | .bytes bs => bs
  | .zeros n => List.replicate n 0

/-- A file, a directory with its entries in the order in which they are listed, or a link. A locked
file cannot be read and a locked directory cannot be listed, but what it holds can be named. A sealed
directory cannot be passed through either, so that what it holds is out of reach. -/
inductive Node where
  | file (content : Content) (locked : Bool)
  | dir (entries : List (String × Node)) (locked : Bool)
  | sealed
  | link (target : String)
deriving Inhabited

namespace Node

def entry? (name : String) : Node → Option Node
  | .dir entries _ => entries.lookup name
  | _ => none

/-- The node that a sequence of names leads to; links are not followed. -/
def at? : Node → List String → Option Node
  | node, [] => some node
  | node, n :: ns =>
    match node.entry? n with
    | some child => child.at? ns
    | none => none

def isDir : Node → Bool
  | .dir _ _ | .sealed => true
  | _ => false

def isFile : Node → Bool
  | .file _ _ => true
  | _ => false

mutual

def linkCount : Node → Nat
  | .file _ _ | .sealed => 0
  | .dir entries _ => linkCounts entries
  | .link _ => 1

def linkCounts : List (String × Node) → Nat
  | [] => 0
  | (_, child) :: es => child.linkCount + linkCounts es

end

end Node

end ProjectAtlas
