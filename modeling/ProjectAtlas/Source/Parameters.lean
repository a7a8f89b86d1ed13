import ProjectAtlas.Entity
import ProjectAtlas.Source.Nesting
import ProjectAtlas.Text.Pieces
import ProjectAtlas.Text.Word

/-!
The parameters in the text of a parameter list.
-/

namespace ProjectAtlas.Source

open ProjectAtlas.Text

/-- The text in front of the identifier it ends with, and that identifier. Digits that a word begins
with do not belong to the identifier. -/
def trailingIdent? (cs : List Char) : Option (List Char × List Char) :=
  let word := (cs.reverse.takeWhile isWord).reverse
  let name := word.dropWhile (!isIdentStart ·)
  if name.isEmpty then none else some (cs.take (cs.length - name.length), name)

/-- The parameter that a piece of the list declares: its last identifier is the name, what precedes
it the type. A piece with nothing in front of that identifier is a type alone, and what follows an
equals sign is a default value. -/
def parameterOf? (piece : List Char) : Option Parameter :=
  let declared := trim (before ['='] piece)
  if declared.isEmpty then none
  else match trailingIdent? declared with
    | some (front, name) =>
      let type := trim front
      if type.isEmpty then some ⟨"", String.ofList declared⟩
      else some ⟨String.ofList name, String.ofList type⟩
    | none => some ⟨"", String.ofList declared⟩

/-- The parameters of a list. The word `void` alone declares none. -/
def parseParameters (cs : List Char) : List Parameter :=
  let body := trim cs
  if body.isEmpty || body = "void".toList then []
  else (splitTopLevel body).filterMap parameterOf?

end ProjectAtlas.Source
