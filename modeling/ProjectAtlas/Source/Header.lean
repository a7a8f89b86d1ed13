import ProjectAtlas.Entity
import ProjectAtlas.Text.Pieces
import ProjectAtlas.Text.Word

/-!
The line that declares a type.

A class, interface or struct is a keyword, an optional export macro, a name, an optional `final` and
an optional colon with access words and a base name. An enumeration is the keyword `enum`, an
optional `class` or `struct` and a name. What follows is not looked at, except that a line that ends
in a semicolon without an opening brace only announces the type.
-/

namespace ProjectAtlas.Source

open ProjectAtlas.Text

/-- The text after a word and at least one blank, without further blanks. -/
def afterWord? (word cs : List Char) : Option (List Char) :=
  if word.isPrefixOf cs then
    match cs.drop word.length with
    | c :: r => if isBlank c then some (trimStart r) else none
    | [] => none
  else none

/-- The text after an export macro: a word of more than four characters that ends in `_API`, and at
least one blank. -/
def afterExport? (cs : List Char) : Option (List Char) :=
  let word := cs.takeWhile isWord
  if "_API".toList.isSuffixOf word && 4 < word.length then afterWord? word cs else none

/-- The text without a `final` after at least one blank. -/
def skipFinal (cs : List Char) : List Char :=
  match cs with
  | c :: r =>
    let t := trimStart r
    if isBlank c && "final".toList.isPrefixOf t then t.drop 5 else cs
  | [] => []

def isAccessWord (w : List Char) : Bool :=
  w = "public".toList || w = "protected".toList || w = "private".toList || w = "virtual".toList

/-- A character of a base name: a word character or a colon. -/
def isBaseChar (c : Char) : Bool :=
  isWord c || c = ':'

/-- The base name among the words after the colon: the first one that is no access word, as far as
its characters go. The last access word stands in if no name follows it. -/
def baseName? : List (List Char) → Option (List Char)
  | [] => none
  | w :: ws =>
    let name := w.takeWhile isBaseChar
    let here := if name.isEmpty then none else some name
    if isAccessWord w then (baseName? ws).or here else here

def baseClause? (cs : List Char) : Option (List Char) :=
  match trimStart (skipFinal cs) with
  | ':' :: r => baseName? (words r)
  | _ => none

/-- The name of a class or struct and the text after it. An export macro counts as the name if no
name follows it. -/
def recordName? (keyword cs : List Char) : Option (List Char × List Char) :=
  (afterWord? keyword cs).bind fun r => ((afterExport? r).bind ident?).or (ident? r)

def enumName? (cs : List Char) : Option (List Char × List Char) :=
  (afterWord? "enum".toList cs).bind fun r =>
    (((afterWord? "class".toList r).or (afterWord? "struct".toList r)).bind ident?).or (ident? r)

/-- The line only announces a type. -/
def isForward (line : List Char) : Bool :=
  (trimEnd line).getLast? == some ';' && !line.contains '{'

def headerOf? (kind : DeclarationKind) (line : List Char) :
    Option (List Char × Option (List Char)) :=
  let found := match kind with
    | .classType | .interfaceType =>
      (recordName? "class".toList line).map fun r => (r.1, baseClause? r.2)
    | .structType => (recordName? "struct".toList line).map fun r => (r.1, baseClause? r.2)
    | .enumType => (enumName? line).map fun r => (r.1, none)
    | .other _ => none
  if isForward line then none else found

end ProjectAtlas.Source
