/-!
Places in a YAML text, and the classes of characters that its tokens are made of. Line ends are line
feeds, next-line controls, and line and paragraph separators.
-/

namespace ProjectAtlas.Yaml

def isBreak (c : Char) : Bool :=
  c == '\n' || c.toNat == 0x85 || c.toNat == 0x2028 || c.toNat == 0x2029

def isSpace (c : Char) : Bool :=
  c == ' ' || c == '\t'

def endsWord : Option Char → Bool
  | none => true
  | some c => isSpace c || isBreak c

/-- The text or a word ends in front of this character; a tab does not end it. -/
def endsAtBlank : Option Char → Bool
  | none => true
  | some c => c == ' ' || isBreak c

def endsLine : Option Char → Bool
  | none => true
  | some c => isBreak c

/-- A character of the names of anchors, directives and tag handles. -/
def isNameChar (c : Char) : Bool :=
  c.isAlphanum || c == '-' || c == '_'

def isTagChar (c : Char) : Bool :=
  isNameChar c || ";/?:@&=+$,.!~*'()[]".toList.contains c

/-- A character that may stand in a text. -/
def isAllowed (c : Char) : Bool :=
  let n := c.toNat
  n == 9 || n == 10 || n == 13 || (32 ≤ n && n ≤ 126) || n == 0x85 || (0xA0 ≤ n && n ≤ 0xD7FF) ||
    (0xE000 ≤ n && n ≤ 0xFFFD) || 0x10000 ≤ n

/-- The mark of the byte order, which has no width. -/
def isOrderMark (c : Char) : Bool :=
  c.toNat == 0xFEFF

/-- A place in a text: the rest of the text, and the characters and lines in front of it. -/
structure Cursor where
  rest : List Char
  index : Nat := 0
  line : Nat := 0
  column : Nat := 0
deriving DecidableEq, Repr

namespace Cursor

def peek (c : Cursor) : Option Char :=
  c.rest.head?

/-- The character after `n` others. -/
def ahead (c : Cursor) (n : Nat) : Option Char :=
  c.rest[n]?

/-- The next character is `d`. -/
def at? (c : Cursor) (d : Char) : Bool :=
  c.rest.head? == some d

def next (c : Cursor) : Cursor :=
  match c.rest with
  | [] => c
  | d :: ds =>
    if isBreak d then ⟨ds, c.index + 1, c.line + 1, 0⟩
    else ⟨ds, c.index + 1, c.line, if isOrderMark d then c.column else c.column + 1⟩

/-- Go on by `n` characters. -/
def skip (c : Cursor) : Nat → Cursor
  | 0 => c
  | n + 1 => c.next.skip n

/-- The characters up to the first that does not satisfy `p`, and the place of that one. -/
def span (p : Char → Bool) (c : Cursor) : List Char × Cursor :=
  let taken := c.rest.takeWhile p
  (taken, c.skip taken.length)

/-- Go on to the first character that does not satisfy `p`. -/
def skipWhile (p : Char → Bool) (c : Cursor) : Cursor :=
  (c.span p).2

def skipSpaces (c : Cursor) : Cursor :=
  c.skipWhile (· == ' ')

def skipComment (c : Cursor) : Cursor :=
  if c.at? '#' then c.skipWhile (!isBreak ·) else c

/-- The line ends with a separator of documents that starts here: three dashes or three dots. -/
def atSeparator (mark : Char) (c : Cursor) : Bool :=
  c.rest.take 3 == [mark, mark, mark] && endsWord (c.ahead 3)

def atDocumentEdge (c : Cursor) : Bool :=
  c.atSeparator '-' || c.atSeparator '.'

end Cursor

/-- A line end as it is kept in a scalar. -/
def keptBreak (c : Char) : Char :=
  if c.toNat == 0x85 then '\n' else c

end ProjectAtlas.Yaml
