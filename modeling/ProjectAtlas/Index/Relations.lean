import ProjectAtlas.Index.Basic
import ProjectAtlas.Text.Pieces

/-!
How the entities of an index refer to each other: chains of parents, and the files that use a name.
-/

namespace ProjectAtlas

/-- How an entity refers to a type. -/
inductive Relation
  | parent
  | returnType
  | parameter
deriving DecidableEq, Repr

def Relation.label : Relation → String
  | .parent => "parent"
  | .returnType => "return_type"
  | .parameter => "parameter"

/-- A reference from an entity to a type, by the texts in a file. -/
structure Edge where
  source : String
  relation : Relation
  target : String
  file : String
deriving DecidableEq, Repr

/-- The parent of a declaration; an empty one counts as none. -/
def Declaration.parent? (d : Declaration) : Option String :=
  d.parent.filter (· != "")

def Declaration.edges (d : Declaration) : List Edge :=
  match d.parent? with
  | some p => [⟨d.name, .parent, p, d.file⟩]
  | none => []

def Callable.edges (c : Callable) : List Edge :=
  ⟨c.name, .returnType, c.returnType, c.file⟩ ::
    c.parameters.map fun p => ⟨c.name, .parameter, p.type, c.file⟩

/-- The reference uses a name: a parent has to be the name itself, any other type has to hold it. -/
def Edge.uses (e : Edge) (name : String) : Bool :=
  match e.relation with
  | .parent => e.target == name
  | _ => Text.contains e.target name

structure Usage where
  name : String
  files : List String
deriving DecidableEq, Repr

namespace Index

/-- All references, those of declarations first. -/
def edges (ix : Index) : List Edge :=
  (ix.declarations none).flatMap Declaration.edges ++ (ix.callables none).flatMap Callable.edges

/-- The declarations from `name` on, each the parent of the one before it, without those in `seen`,
and at most `limit` of them. -/
def chainFrom (ix : Index) (seen : List String) (name : String) : Nat → List String
  | 0 => []
  | limit + 1 =>
    match ix.findDeclaration name with
    | none => []
    | some d =>
      if seen.contains d.name then []
      else
        d.name :: match d.parent? with
          | some p => ix.chainFrom (d.name :: seen) p limit
          | none => []

/-- A declaration, its parent, the parent of that, and so on, up to one that has no parent in the index
or that has been met already. -/
def hierarchy (ix : Index) (name : String) : List String :=
  ix.chainFrom [] name ix.declarationTable.size

/-- The files that use a name, in order. -/
def usages (ix : Index) (name : String) : Usage :=
  ⟨name, firsts (((ix.edges.filter (·.uses name)).map (·.file)).mergeSort)⟩

end Index

end ProjectAtlas
