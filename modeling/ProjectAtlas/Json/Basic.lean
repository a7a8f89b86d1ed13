/-!
Values of the data format of manifests.
-/

namespace ProjectAtlas

/-- A value. Integers and other numbers are apart, and the fields of an object keep their order; no
key occurs twice in an object that was read. -/
inductive Json where
  | null
  | bool (b : Bool)
  | int (n : Int)
  | float (x : Float)
  | str (s : String)
  | arr (items : List Json)
  | obj (fields : List (String × Json))
deriving Inhabited

namespace Json

/-- Set a field: a key that is there keeps its place. -/
def setField (key : String) (value : Json) : List (String × Json) → List (String × Json)
  | [] => [(key, value)]
  | (k, v) :: fs => if k = key then (k, value) :: fs else (k, v) :: setField key value fs

def field? (key : String) : Json → Option Json
  | .obj fields => fields.lookup key
  | _ => none

def list {α : Type} (f : α → Json) (xs : List α) : Json :=
  .arr (xs.map f)

/-- A list of texts. -/
def texts (xs : List String) : Json :=
  .arr (xs.map .str)

def opt {α : Type} (f : α → Json) : Option α → Json
  | some a => f a
  | none => .null

def nat (n : Nat) : Json :=
  .int n

end Json

end ProjectAtlas
