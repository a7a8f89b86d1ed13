import ProjectAtlas.Yaml.Token.Quoted

/-!
Block scalars: indented lines below a line with a bar or a greater-than sign.
-/

namespace ProjectAtlas.Yaml

/-- What becomes of the line ends at the end of a block scalar. -/
inductive Chomping
  | clip
  | strip
  | keep
deriving DecidableEq, Repr

/-- How a sign chomps. -/
def chompingOf? (c : Char) : Option Chomping :=
  match c with
  | '+' => some .keep
  | '-' => some .strip
  | _ => none

/-- A digit that sets the indentation, zero excepted. -/
def indentDigit? (c : Char) : Option Nat :=
  if '1' ≤ c && c ≤ '9' then some (c.toNat - 48) else none

/-- The sign and the digit in the first line of a block scalar, in either order. -/
def blockHeader (c : Cursor) : Chomping × Option Nat × Cursor :=
  match c.peek.bind chompingOf? with
  | some chomping =>
    match c.next.peek.bind indentDigit? with
    | some n => (chomping, some n, c.next.next)
    | none => (chomping, none, c.next)
  | none =>
    match c.peek.bind indentDigit? with
    | some n =>
      match c.next.peek.bind chompingOf? with
      | some chomping => (chomping, some n, c.next.next)
      | none => (.clip, some n, c.next)
    | none => (.clip, none, c)

def skipLine (c : Cursor) : Except Fault Cursor :=
  let c := c.skipSpaces.skipComment
  if endsLine c.peek then .ok c.next else noTokenAt c

def skipIndent (indent : Nat) (c : Cursor) : Cursor :=
  c.skip (min (indent - c.column) (c.rest.takeWhile (· == ' ')).length)

/-- The empty lines from here on, and the place of the next line behind its indentation. -/
def blockBreaks (indent : Nat) : Nat → Cursor → List Char × Cursor
  | 0, c => ([], c)
  | fuel + 1, c =>
    let c := skipIndent indent c
    match c.peek with
    | some d =>
      if isBreak d then
        let (more, end_) := blockBreaks indent fuel c.next
        (keptBreak d :: more, end_)
      else ([], c)
    | none => ([], c)

/-- The blank lines from here on, and the largest column that their spaces and those of the next line
reach. -/
def blockIndent : Nat → Nat → Cursor → List Char × Nat × Cursor
  | 0, widest, c => ([], widest, c)
  | fuel + 1, widest, c =>
    let start := c
    let c := c.skipSpaces
    let widest := if c.index = start.index then widest else max widest c.column
    match c.peek with
    | some d =>
      if isBreak d then
        let (more, widest, end_) := blockIndent fuel widest c.next
        (keptBreak d :: more, widest, end_)
      else ([], widest, c)
    | none => ([], widest, c)

/-- The next character is neither a space nor a tab. -/
def startsDark (c : Cursor) : Bool :=
  !c.peek.any isSpace

/-- The lines of a block scalar from here on, where its text ends, and the line ends at its end: that
of the last line, and those of empty lines behind it. -/
def blockLines (folded : Bool) (indent : Nat) :
    Nat → Cursor → List Char × List Char × List Char × Cursor
  | 0, c => ([], [], [], c)
  | fuel + 1, c =>
    let (line, after) := c.span (!isBreak ·)
    let lineEnd := (after.peek.map keptBreak).toList
    let (breaks, next) := blockBreaks indent after.rest.length after.next
    if next.column = indent && next.peek.isSome then
      let joint :=
        if folded && lineEnd == ['\n'] && startsDark c && startsDark next then
          if breaks.isEmpty then [' '] else []
        else lineEnd
      let (more, lastEnd, lastBreaks, end_) := blockLines folded indent fuel next
      (line ++ joint ++ breaks ++ more, lastEnd, lastBreaks, end_)
    else (line, lineEnd, breaks, next)

def chomped (chomping : Chomping) (text lastEnd lastBreaks : List Char) : List Char :=
  match chomping with
  | .clip => text ++ lastEnd
  | .strip => text
  | .keep => text ++ lastEnd ++ lastBreaks

/-- The block scalar that starts here, at its sign, inside a collection that is indented up to
`least` columns less one. -/
def blockScalar (folded : Bool) (least : Nat) (c : Cursor) : Except Fault (List Char × Cursor) :=
  let (chomping, digit, header) := blockHeader c.next
  if !endsAtBlank header.peek then noTokenAt header
  else
    (skipLine header).map fun start =>
      let least := max least 1
      let fuel := start.rest.length + 1
      let (breaks, indent, first) :=
        match digit with
        | some n =>
          let (breaks, first) := blockBreaks (least + n - 1) fuel start
          (breaks, least + n - 1, first)
        | none =>
          let (breaks, widest, first) := blockIndent fuel 0 start
          (breaks, max least widest, first)
      if first.column = indent && first.peek.isSome then
        let (text, lastEnd, lastBreaks, end_) := blockLines folded indent fuel first
        (breaks ++ chomped chomping text lastEnd lastBreaks, end_)
      else (chomped chomping [] [] breaks, first)

end ProjectAtlas.Yaml
