import ProjectAtlas.Text.Pieces

/-!
Paths, as texts and as sequences of names. Nothing here looks at files.
-/

namespace ProjectAtlas

/-- Where a path starts: at the working directory, or at the root. Exactly two slashes in front of a
path stay two, any other number of them is one. -/
inductive Anchor
  | relative
  | root
  | doubleRoot
deriving DecidableEq, Repr

/-- A path: its start and its names. No name is empty or a single dot; a double dot is kept. -/
structure Path where
  anchor : Anchor := .relative
  parts : List String
deriving DecidableEq, Repr

namespace Path

/-- The names between the slashes of a text, without the empty ones and the single dots. -/
def names (s : String) : List String :=
  ((List.splitOn '/' s.toList).map String.ofList).filter fun n => n != "" && n != "."

def anchorOf (s : String) : Anchor :=
  match (s.toList.takeWhile (· == '/')).length with
  | 0 => .relative
  | 2 => .doubleRoot
  | _ => .root

def ofString (s : String) : Path :=
  ⟨anchorOf s, names s⟩

def Anchor.text : Anchor → String
  | .relative => ""
  | .root => "/"
  | .doubleRoot => "//"

/-- The text of a path; the empty relative path is a single dot. -/
def toString (p : Path) : String :=
  if p.anchor = .relative && p.parts.isEmpty then "."
  else Anchor.text p.anchor ++ "/".intercalate p.parts

/-- The path `q` seen from `p`: a path that starts at the root replaces `p`. -/
def join (p q : Path) : Path :=
  match q.anchor with
  | .relative => ⟨p.anchor, p.parts ++ q.parts⟩
  | _ => q

/-- The path that `s` names, seen from `p`. -/
def child (p : Path) (s : String) : Path :=
  p.join (ofString s)

/-- The path of an entry of the directory `p`. -/
def entry (p : Path) (name : String) : Path :=
  ⟨p.anchor, p.parts ++ [name]⟩

def parent (p : Path) : Path :=
  ⟨p.anchor, p.parts.dropLast⟩

def name (p : Path) : String :=
  p.parts.getLast?.getD ""

/-- The names of `p` below `base`, if `base` is a leading part of it. -/
def below? (p base : Path) : Option (List String) :=
  if p.anchor = base.anchor && base.parts.isPrefixOf p.parts then
    some (p.parts.drop base.parts.length)
  else none

/-- The text of `p` as seen from `base`: empty for `base` itself, and the whole path if it does not
lie below `base`. -/
def relativeText (p base : Path) : String :=
  match p.below? base with
  | some ns => "/".intercalate ns
  | none => p.toString

end Path

/-- The end of a name from its last dot on, unless that dot is its first or last character. -/
def nameSuffix (name : String) : String :=
  let tail := name.toList.reverse.takeWhile (· != '.')
  if tail.isEmpty || name.length ≤ tail.length + 1 then ""
  else String.ofList ('.' :: tail.reverse)

def nameStem (name : String) : String :=
  String.ofList (name.toList.take (name.length - (nameSuffix name).length))

def Path.suffix (p : Path) : String :=
  nameSuffix p.name

def Path.stem (p : Path) : String :=
  nameStem p.name

end ProjectAtlas
