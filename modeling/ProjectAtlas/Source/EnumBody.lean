import ProjectAtlas.Entity
import ProjectAtlas.Source.Nesting
import ProjectAtlas.Text.Integer

/-!
The entries of an enumeration: on one line, and over the lines of a body.
-/

namespace ProjectAtlas.Source

open ProjectAtlas.Text

/-- The text after an annotation `UMETA( … )` that stands at the head. The annotation ends at the
first closing parenthesis. -/
def afterMeta? (cs : List Char) : Option (List Char) :=
  if "UMETA".toList.isPrefixOf cs then
    match trimStart (cs.drop 5) with
    | '(' :: r =>
      match r.dropWhile (· != ')') with
      | _ :: after => some after
      | [] => none
    | _ => none
  else none

/-- The text without its annotations; `skip` characters belong to the annotation before. -/
def dropMetaFrom (skip : Nat) : List Char → List Char
  | [] => []
  | c :: cs =>
    match skip with
    | k + 1 => dropMetaFrom k cs
    | 0 =>
      match afterMeta? (c :: cs) with
      | some after => dropMetaFrom (cs.length - after.length) cs
      | none => c :: dropMetaFrom 0 cs

/-- The text without its annotations. -/
def dropMeta (cs : List Char) : List Char :=
  dropMetaFrom 0 cs

/-- The entry that a piece of a line declares: a name, alone or with an equals sign and a text on the
same line. The text is the value if it is written as an integer. -/
def entryOf? (piece : List Char) : Option EnumValue :=
  match ident? piece with
  | none => none
  | some (name, rest) =>
    match trimStart rest with
    | [] => some ⟨String.ofList name, none⟩
    | '=' :: r =>
      let value := trimStart r
      if value.isEmpty || value.contains '\n' then none
      else some ⟨String.ofList name, readLiteral? (trim value)⟩
    | _ => none

/-- The entries on one line of a body. A comment ends the line. -/
def entriesOn (line : List Char) : List EnumValue :=
  (splitTopLevel (dropMeta (before ['/', '/'] line))).filterMap entryOf?

/-- The entries on the trimmed lines of a body, up to the line with the closing brace. An opening
brace at the start of a line is passed over. -/
def bodyEntries : List (List Char) → List EnumValue
  | [] => []
  | line :: ls =>
    match line with
    | '}' :: _ => []
    | _ =>
      let line := match line with
        | '{' :: r => r
        | l => l
      if line.contains '}' then entriesOn (before ['}'] line)
      else entriesOn line ++ bodyEntries ls

/-- The entries of the enumeration whose header line is `header`, followed by the trimmed lines
`rest`, of which `window` are looked at. The body may begin on the header line. -/
def enumEntries (window : Nat) (header : List Char) (rest : List (List Char)) : List EnumValue :=
  match cutAt? ['{'] header with
  | none => bodyEntries (rest.take window)
  | some (_, body) =>
    let inline := entriesOn (before ['}'] body)
    if body.contains '}' then inline else inline ++ bodyEntries (rest.take window)

end ProjectAtlas.Source
