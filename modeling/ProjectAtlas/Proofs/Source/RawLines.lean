import ProjectAtlas.Proofs.Source.Wrapping

/-!
A reader of lines as they stand in a file. It trims a line only where it looks at it: for the marker test, for
the specifiers, for the place of a header, for the lines joined to a header, and for the lines of a body. Each
part of it is shown to read what the reader of trimmed lines reads, so it does not matter when a line is
trimmed.
-/

namespace ProjectAtlas.Source

open ProjectAtlas.Text

/-- The place with the lines below it trimmed. -/
def Candidate.trimBelow (c : Candidate) : Candidate :=
  { c with below := c.below.map trim }

/-- What the marker of a type makes of the header on this line. -/
def declarationOf (origin : Origin) (kind : DeclarationKind) (marker : List Char) (line : Nat)
    (values : List EnumValue) (header : List Char × Option (List Char)) : Declaration :=
  let specifiers := (extractSpecifiers marker).1.map String.ofList
  { name := String.ofList header.1
    kind := kind
    parent := header.2.map String.ofList
    specifiers := specifiers
    file := origin.file
    line := line
    module := origin.module
    blueprintType := specifiers.contains "BlueprintType"
    blueprintable := specifiers.contains "Blueprintable"
    values := values }

namespace Raw

/-- The lines in a window that may be headers. -/
def candidatesBelow (window number : Nat) : List (List Char) → List Candidate
  | [] => []
  | line :: below =>
    match window with
    | 0 => []
    | w + 1 =>
      if isMarker (trim line) then []
      else if isComment (trim line) then candidatesBelow w (number + 1) below
      else ⟨number, trim line, below, w⟩ :: candidatesBelow w (number + 1) below

/-- What may be the header for the marker line with this number. -/
def candidates (window number : Nat) (marker : List Char) (below : List (List Char)) :
    List Candidate :=
  let behind := (extractSpecifiers (trim marker)).2
  let inWindow := candidatesBelow window (number + 1) below
  if behind.isEmpty then inWindow else ⟨number, behind, below, window⟩ :: inWindow

/-- The entries on the lines of a body. -/
def bodyEntries : List (List Char) → List EnumValue
  | [] => []
  | line :: ls =>
    let stripped := trim line
    match stripped with
    | '}' :: _ => []
    | _ =>
      let line := match stripped with
        | '{' :: r => r
        | l => l
      if line.contains '}' then entriesOn (before ['}'] line)
      else entriesOn line ++ bodyEntries ls

/-- The entries of the enumeration with this header line, followed by the lines `rest`. -/
def enumEntries (window : Nat) (header : List Char) (rest : List (List Char)) : List EnumValue :=
  match cutAt? ['{'] header with
  | none => bodyEntries (rest.take window)
  | some (_, body) =>
    let inline := entriesOn (before ['}'] body)
    if body.contains '}' then inline else inline ++ bodyEntries (rest.take window)

/-- The type that a marker line makes. -/
def readDeclaration? (windows : Windows) (origin : Origin) (kind : DeclarationKind) (number : Nat)
    (marker : List Char) (below : List (List Char)) : Option Declaration :=
  (candidates windows.declaration number marker below).findSome? fun c =>
    (headerOf? kind c.text).map <| declarationOf origin kind (trim marker) c.number <|
      if kind = .enumType then enumEntries windows.enumBody c.text c.below else []

/-- The text with the following lines appended while it is open. -/
def joinWrapped (cs : List Char) : List (List Char) → List Char
  | [] => cs
  | line :: below => if isOpen cs then joinWrapped (cs ++ ' ' :: trim line) below else cs

/-- The function that a marker line makes. -/
def readCallable? (windows : Windows) (origin : Origin) (owner : String) (number : Nat)
    (marker : List Char) (below : List (List Char)) : Option Callable :=
  (candidates windows.callable number marker below).findSome? fun c =>
    (signatureOf? (joinWrapped c.text (c.below.take c.remaining))).map <|
      callableOf origin owner (trim marker) c.number

/-- The entity of the line with this number, if it is a marker that makes one. -/
def readMarker? (windows : Windows) (origin : Origin) (owner : String) (number : Nat)
    (line : List Char) (below : List (List Char)) : Option Reflected :=
  match typeMarker? (trim line) with
  | some kind => (readDeclaration? windows origin kind number line below).map .declaration
  | none =>
    if isCallableMarker (trim line) then
      (readCallable? windows origin owner number line below).map .callable
    else none

/-- The entities of lines, in the order of their markers; the first line has this number. -/
def reflectedFrom (windows : Windows) (origin : Origin) (owner : String) (number : Nat) :
    List (List Char) → List Reflected
  | [] => []
  | line :: below =>
    match readMarker? windows origin owner number line below with
    | some r => r :: reflectedFrom windows origin (r.ownerBelow owner) (number + 1) below
    | none => reflectedFrom windows origin owner (number + 1) below

/-- The entities of a text. -/
def reflected (windows : Windows) (origin : Origin) (text : List Char) : List Reflected :=
  reflectedFrom windows origin "" 1 (lines text)

variable (windows : Windows) (origin : Origin)

theorem candidatesBelow_trim (window number : Nat) (ls : List (List Char)) :
    Source.candidatesBelow window number (ls.map trim) =
      (candidatesBelow window number ls).map Candidate.trimBelow := by
  induction ls generalizing window number with
  | nil => cases window <;> rfl
  | cons line ls ih =>
      cases window with
      | zero => rfl
      | succ w =>
          rw [List.map_cons, Source.candidatesBelow, candidatesBelow, ih w (number + 1)]
          cases isMarker (trim line) with
          | true => rfl
          | false => cases isComment (trim line) <;> rfl

theorem candidates_trim (window number : Nat) (marker : List Char) (below : List (List Char)) :
    Source.candidates window number (trim marker) (below.map trim) =
      (candidates window number marker below).map Candidate.trimBelow := by
  simp only [Source.candidates, candidates, candidatesBelow_trim]
  split <;> rfl

theorem bodyEntries_trim (ls : List (List Char)) :
    Source.bodyEntries (ls.map trim) = bodyEntries ls := by
  induction ls with
  | nil => rfl
  | cons line ls ih =>
      rw [List.map_cons, bodyEntries.eq_def, Source.bodyEntries.eq_def]
      dsimp only
      exact ih ▸ rfl

theorem enumEntries_trim (window : Nat) (header : List Char) (rest : List (List Char)) :
    Source.enumEntries window header (rest.map trim) = enumEntries window header rest := by
  have hBody : Source.bodyEntries ((rest.map trim).take window) = bodyEntries (rest.take window) := by
    rw [← List.map_take, bodyEntries_trim]
  cases hCut : cutAt? ['{'] header <;>
    simp only [Source.enumEntries, enumEntries, hCut, hBody]

theorem joinWrapped_trim (cs : List Char) (ls : List (List Char)) :
    Source.joinWrapped cs (ls.map trim) = joinWrapped cs ls := by
  induction ls generalizing cs with
  | nil => rfl
  | cons line ls ih => rw [List.map_cons, Source.joinWrapped, joinWrapped, ih]

theorem readDeclaration?_trim (kind : DeclarationKind) (number : Nat) (marker : List Char)
    (below : List (List Char)) :
    Source.readDeclaration? windows origin kind number (trim marker) (below.map trim) =
      readDeclaration? windows origin kind number marker below := by
  rw [Source.readDeclaration?, readDeclaration?, candidates_trim, List.findSome?_map]
  congr 1
  funext c
  rw [Function.comp_apply, Candidate.trimBelow, enumEntries_trim]
  rfl

theorem readCallable?_trim (owner : String) (number : Nat) (marker : List Char)
    (below : List (List Char)) :
    Source.readCallable? windows origin owner number (trim marker) (below.map trim) =
      readCallable? windows origin owner number marker below := by
  rw [Source.readCallable?, readCallable?, candidates_trim, List.findSome?_map]
  congr 1
  funext c
  rw [Function.comp_apply, Candidate.trimBelow, ← List.map_take, joinWrapped_trim]
  rfl

theorem readMarker?_trim (owner : String) (number : Nat) (line : List Char)
    (below : List (List Char)) :
    Source.readMarker? windows origin owner number (trim line) (below.map trim) =
      readMarker? windows origin owner number line below := by
  cases hType : typeMarker? (trim line) <;>
    simp only [Source.readMarker?, readMarker?, hType, readDeclaration?_trim, readCallable?_trim]

theorem reflectedFrom_trim (owner : String) (number : Nat) (ls : List (List Char)) :
    Source.reflectedFrom windows origin owner number (ls.map trim) =
      reflectedFrom windows origin owner number ls := by
  induction ls generalizing owner number with
  | nil => rfl
  | cons line ls ih =>
      rw [List.map_cons, Source.reflectedFrom, reflectedFrom, readMarker?_trim]
      cases readMarker? windows origin owner number line ls with
      | none => exact ih owner (number + 1)
      | some r => exact congrArg (r :: ·) (ih (r.ownerBelow owner) (number + 1))

end Raw

end ProjectAtlas.Source
