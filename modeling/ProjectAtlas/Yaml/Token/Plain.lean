import ProjectAtlas.Yaml.Cursor

/-!
Plain scalars: words without quotation marks, over one or more lines.
-/

namespace ProjectAtlas.Yaml

def isFlowMark (c : Char) : Bool :=
  c == ',' || c == '[' || c == ']' || c == '{' || c == '}'

/-- The colon in front of `d` ends a plain scalar. -/
def colonEnds (inFlow : Bool) (d : Option Char) : Bool :=
  endsWord d || (inFlow && d.any isFlowMark)

def plainWord (inFlow : Bool) : List Char → List Char
  | [] => []
  | c :: cs =>
    if isSpace c || isBreak c || (c == ':' && colonEnds inFlow cs.head?) ||
        (inFlow && (c == '?' || isFlowMark c)) then []
    else c :: plainWord inFlow cs

/-- What stands between two words of a plain scalar: the text that is kept for it, where the next word
starts, and whether there is a line end. Without a text the scalar ends. -/
structure Gap where
  kept : List Char
  cursor : Cursor
  crossesLine : Bool

/-- The line ends after the first one, with the spaces between them; nothing if a separator of
documents follows. -/
def furtherBreaks : Nat → Cursor → Option (List Char) × Cursor
  | 0, c => (some [], c)
  | fuel + 1, c =>
    if c.atDocumentEdge then (none, c)
    else
      let c := c.skipSpaces
      match c.peek with
      | some d =>
        if isBreak d then
          let (more, end_) := furtherBreaks fuel c.next
          (more.map (keptBreak d :: ·), end_)
        else (some [], c)
      | none => (some [], c)

/-- The text that is kept for a line end `first` with the line ends `more` after it: a single line
feed becomes a space, and of several the first is dropped. -/
def foldedBreaks (first : Char) (more : List Char) : List Char :=
  if keptBreak first != '\n' then keptBreak first :: more
  else if more.isEmpty then [' ']
  else more

def plainGap (c : Cursor) : Gap :=
  let (spaces, c) := c.span (· == ' ')
  match c.peek with
  | some d =>
    if isBreak d then
      match furtherBreaks c.rest.length c.next with
      | (some more, c) => ⟨foldedBreaks d more, c, true⟩
      | (none, c) => ⟨[], c, true⟩
    else ⟨spaces, c, false⟩
  | none => ⟨spaces, c, false⟩

/-- The rest of a plain scalar after the gap `gap`, where the text ends, and whether a line end is
behind its last word. Lines have to be indented by at least `indent` columns. -/
def plainFrom (inFlow : Bool) (indent : Nat) : Nat → Gap → List Char × Cursor × Bool
  | 0, gap => ([], gap.cursor, gap.crossesLine)
  | fuel + 1, gap =>
    let c := gap.cursor
    let word := plainWord inFlow c.rest
    if c.at? '#' || word.isEmpty then ([], c, gap.crossesLine)
    else
      let after := plainGap (c.skip word.length)
      let text := gap.kept ++ word
      if after.kept.isEmpty || after.cursor.at? '#' ||
          (!inFlow && after.cursor.column < indent) then
        (text, after.cursor, after.crossesLine)
      else
        let (more, end_, crosses) := plainFrom inFlow indent fuel after
        (text ++ more, end_, crosses)

def plainScalar (inFlow : Bool) (indent : Nat) (c : Cursor) : List Char × Cursor × Bool :=
  plainFrom inFlow indent (c.rest.length + 1) ⟨[], c, false⟩

end ProjectAtlas.Yaml
