import ProjectAtlas.Source.EnumBody
import ProjectAtlas.Source.Header
import ProjectAtlas.Source.Nesting
import ProjectAtlas.Source.Parameters
import ProjectAtlas.Source.Signature

/-!
The reflected declarations and functions in the lines of a source file.

A marker line opens a window of the following lines, which ends at the next marker. The first line
in the window that reads as a header makes the entity of the marker; a marker without such a line
makes none. Only trimmed lines are looked at.
-/

namespace ProjectAtlas.Source

open ProjectAtlas.Text

/-- How many lines below a marker or a header are looked at. -/
structure Windows where
  declaration : Nat := 10
  callable : Nat := 5
  enumBody : Nat := 50
deriving DecidableEq, Repr

/-- The line is a marker word, alone or with a parenthesis after it. -/
def isMarked (word line : List Char) : Bool :=
  word.isPrefixOf line &&
    match trimStart (line.drop word.length) with
    | [] => true
    | c :: _ => c = '('

def typeMarker? (line : List Char) : Option DeclarationKind :=
  DeclarationKind.known.find? fun k => isMarked k.marker.toList line

def isCallableMarker (line : List Char) : Bool :=
  isMarked "UFUNCTION".toList line

def isMarker (line : List Char) : Bool :=
  (typeMarker? line).isSome || isCallableMarker line

def isComment (line : List Char) : Bool :=
  "//".toList.isPrefixOf line || "/*".toList.isPrefixOf line || "*".toList.isPrefixOf line

/-- A text that may be a header: its line number, the lines below it, and how many of those lie in
the window of its marker. -/
structure Candidate where
  number : Nat
  text : List Char
  below : List (List Char)
  remaining : Nat
deriving DecidableEq, Repr

/-- The lines in a window that may be headers: `number` is the number of the first line, and `window`
lines are looked at. Comment lines are passed over, and a marker ends the window. -/
def candidatesBelow (window number : Nat) : List (List Char) → List Candidate
  | [] => []
  | line :: below =>
    match window with
    | 0 => []
    | w + 1 =>
      if isMarker line then []
      else if isComment line then candidatesBelow w (number + 1) below
      else ⟨number, line, below, w⟩ :: candidatesBelow w (number + 1) below

/-- What may be the header for the marker line with this number: the text behind the marker's own
list, if there is any, and the lines of the window. -/
def candidates (window number : Nat) (marker : List Char) (below : List (List Char)) :
    List Candidate :=
  let behind := (extractSpecifiers marker).2
  let inWindow := candidatesBelow window (number + 1) below
  if behind.isEmpty then inWindow else ⟨number, behind, below, window⟩ :: inWindow

/-- Where entities come from: the file, and the module it belongs to. -/
structure Origin where
  file : String
  module : Option String := none
deriving DecidableEq, Repr

def readDeclaration? (windows : Windows) (origin : Origin) (kind : DeclarationKind) (number : Nat)
    (marker : List Char) (below : List (List Char)) : Option Declaration :=
  let specifiers := (extractSpecifiers marker).1.map String.ofList
  (candidates windows.declaration number marker below).findSome? fun c =>
    (headerOf? kind c.text).map fun (name, parent) =>
      { name := String.ofList name
        kind := kind
        parent := parent.map String.ofList
        specifiers := specifiers
        file := origin.file
        line := c.number
        module := origin.module
        blueprintType := specifiers.contains "BlueprintType"
        blueprintable := specifiers.contains "Blueprintable"
        values :=
          if kind = .enumType then enumEntries windows.enumBody c.text c.below else [] }

/-- The text has an opening parenthesis that nothing closes, quotation marks not regarded. -/
def isOpen (cs : List Char) : Bool :=
  cs.count ')' < cs.count '('

def joinWrapped (cs : List Char) : List (List Char) → List Char
  | [] => cs
  | line :: below => if isOpen cs then joinWrapped (cs ++ ' ' :: line) below else cs

/-- The function that a marker line makes. A header whose parameter list is open goes on over the
lines of the window. -/
def readCallable? (windows : Windows) (origin : Origin) (owner : String) (number : Nat)
    (marker : List Char) (below : List (List Char)) : Option Callable :=
  let specifiers := (extractSpecifiers marker).1.map String.ofList
  (candidates windows.callable number marker below).findSome? fun c =>
    (signatureOf? (joinWrapped c.text (c.below.take c.remaining))).map fun s =>
      { name := String.ofList s.name
        owner := if s.qualifier.isEmpty then owner else String.ofList s.qualifier
        returnType := String.ofList s.returnType
        parameters := parseParameters s.parameters
        specifiers := specifiers
        file := origin.file
        line := c.number
        module := origin.module
        blueprintCallable :=
          specifiers.contains "BlueprintCallable" || specifiers.contains "BlueprintPure" }

/-- What one marker makes. -/
inductive Reflected
  | declaration (d : Declaration)
  | callable (c : Callable)
deriving DecidableEq, Repr

/-- The name that functions below the entity belong to, `owner` being the name above it. An
enumeration owns no functions. -/
def Reflected.ownerBelow (owner : String) : Reflected → String
  | .declaration d => if d.kind = .enumType then owner else d.name
  | .callable _ => owner

/-- The entity of the line with this number, if it is a marker that makes one. -/
def readMarker? (windows : Windows) (origin : Origin) (owner : String) (number : Nat)
    (line : List Char) (below : List (List Char)) : Option Reflected :=
  match typeMarker? line with
  | some kind => (readDeclaration? windows origin kind number line below).map .declaration
  | none =>
    if isCallableMarker line then
      (readCallable? windows origin owner number line below).map .callable
    else none

/-- The entities of trimmed lines, in the order of their markers; the first line has this number. -/
def reflectedFrom (windows : Windows) (origin : Origin) (owner : String) (number : Nat) :
    List (List Char) → List Reflected
  | [] => []
  | line :: below =>
    match readMarker? windows origin owner number line below with
    | some r => r :: reflectedFrom windows origin (r.ownerBelow owner) (number + 1) below
    | none => reflectedFrom windows origin owner (number + 1) below

def reflected (windows : Windows) (origin : Origin) (text : List Char) : List Reflected :=
  reflectedFrom windows origin "" 1 ((lines text).map trim)

def declarationsOf (rs : List Reflected) : List Declaration :=
  rs.filterMap fun
    | .declaration d => some d
    | .callable _ => none

def callablesOf (rs : List Reflected) : List Callable :=
  rs.filterMap fun
    | .callable c => some c
    | .declaration _ => none

end ProjectAtlas.Source
