import ProjectAtlas.Yaml.Token.Plain
import ProjectAtlas.Yaml.Token.Tag

/-!
The tokens of a YAML text.

Where a key could start, its place is remembered; a colon that follows on the same line, at most 1024
characters later, puts a key token there, and the token that opens a block mapping if the place is
indented further than what is around it.
-/

namespace ProjectAtlas.Yaml

/-- A place where a key could start: how many tokens are in front of it. A key that starts a line of a
block mapping has to come. -/
structure KeyPlace where
  tokens : Nat
  cursor : Cursor
  required : Bool

/-- What the lexer knows at a place: the columns of the open block collections, innermost first; for
each open flow collection, and last for the block around them, the place of a possible key; whether
a key may start here; and the tokens so far, last first. -/
structure Lexer where
  cursor : Cursor
  indents : List Nat := []
  places : List (Option KeyPlace) := [none]
  keyAllowed : Bool := true
  tokens : List Token := []

namespace Lexer

def inFlow (l : Lexer) : Bool :=
  1 < l.places.length

def push (l : Lexer) (t : Token) : Lexer :=
  { l with tokens := t :: l.tokens }

/-- Add a token and go on to `c`. -/
def emit (l : Lexer) (t : Token) (c : Cursor) : Lexer :=
  { l with tokens := t :: l.tokens, cursor := c }

/-- Close the block collections that are indented further than `least` columns less one. -/
def unwind (l : Lexer) (least : Nat) : Lexer :=
  if l.inFlow then l
  else
    let closed := l.indents.takeWhile (least ≤ ·)
    { l with
      indents := l.indents.drop closed.length
      tokens := List.replicate closed.length .blockEnd ++ l.tokens }

/-- The column is indented further than the innermost block collection. -/
def isDeeper (l : Lexer) (column : Nat) : Bool :=
  l.indents.head?.all (· < column)

/-- Open a block collection at the column, unless one is open there. -/
def openBlock (l : Lexer) (column : Nat) (t : Token) : Lexer :=
  if l.isDeeper column then { l.push t with indents := column :: l.indents } else l

/-- The place of a possible key is out of reach. -/
def isStale (c : Cursor) (k : KeyPlace) : Bool :=
  k.cursor.line != c.line || k.cursor.index + 1024 < c.index

def forgetStale (l : Lexer) : Except Fault Lexer :=
  if l.places.any fun p => p.any fun k => isStale l.cursor k && k.required then noTokenAt l.cursor
  else .ok { l with places := l.places.map fun p => p.filter fun k => !isStale l.cursor k }

/-- Forget the place of a possible key in the innermost collection. -/
def forgetKey (l : Lexer) : Except Fault Lexer :=
  match l.places with
  | some k :: ps => if k.required then noTokenAt l.cursor else .ok { l with places := none :: ps }
  | _ => .ok l

def rememberKey (l : Lexer) : Except Fault Lexer :=
  if l.keyAllowed then
    l.forgetKey.map fun l =>
      let place : KeyPlace :=
        { tokens := l.tokens.length
          cursor := l.cursor
          required := !l.inFlow && l.indents.head? == some l.cursor.column }
      { l with places := some place :: l.places.drop 1 }
  else .ok l

/-- Put tokens behind the first `n`. -/
def insertBehind (l : Lexer) (n : Nat) (ts : List Token) : Lexer :=
  let later := l.tokens.length - n
  { l with tokens := l.tokens.take later ++ ts.reverse ++ l.tokens.drop later }

def skipBlanks : Nat → Lexer → Lexer
  | 0, l => l
  | fuel + 1, l =>
    let c := l.cursor.skipSpaces.skipComment
    match c.peek with
    | some d =>
      if isBreak d then
        skipBlanks fuel { l with cursor := c.next, keyAllowed := l.keyAllowed || !l.inFlow }
      else { l with cursor := c }
    | none => { l with cursor := c }

def openFlow (l : Lexer) (t : Token) : Except Fault Lexer :=
  l.rememberKey.map fun l =>
    { l.emit t l.cursor.next with places := none :: l.places, keyAllowed := true }

def closeFlow (l : Lexer) (t : Token) : Except Fault Lexer :=
  if l.inFlow then
    l.forgetKey.map fun l =>
      { l.emit t l.cursor.next with places := l.places.drop 1, keyAllowed := false }
  else noTokenAt l.cursor

def flowEntry (l : Lexer) : Except Fault Lexer :=
  l.forgetKey.map fun l => { l.emit .flowEntry l.cursor.next with keyAllowed := true }

def blockEntry (l : Lexer) : Except Fault Lexer :=
  if !l.inFlow && !l.keyAllowed then noTokenAt l.cursor
  else
    let l := if l.inFlow then l else l.openBlock l.cursor.column .blockSequenceStart
    l.forgetKey.map fun l => { l.emit .blockEntry l.cursor.next with keyAllowed := true }

def markedKey (l : Lexer) : Except Fault Lexer :=
  if !l.inFlow && !l.keyAllowed then noTokenAt l.cursor
  else
    let l := if l.inFlow then l else l.openBlock l.cursor.column .blockMappingStart
    l.forgetKey.map fun l => { l.emit .key l.cursor.next with keyAllowed := !l.inFlow }

def valueOfKey (l : Lexer) (k : KeyPlace) : Lexer :=
  let opens := !l.inFlow && l.isDeeper k.cursor.column
  let l := l.insertBehind k.tokens (if opens then [.blockMappingStart, .key] else [.key])
  { l.emit .value l.cursor.next with
    indents := if opens then k.cursor.column :: l.indents else l.indents
    places := none :: l.places.drop 1
    keyAllowed := false }

def valueMark (l : Lexer) : Except Fault Lexer :=
  match l.places with
  | some k :: _ => .ok (l.valueOfKey k)
  | _ =>
    if !l.inFlow && !l.keyAllowed then noTokenAt l.cursor
    else
      let l := if l.inFlow then l else l.openBlock l.cursor.column .blockMappingStart
      l.forgetKey.map fun l => { l.emit .value l.cursor.next with keyAllowed := !l.inFlow }

/-- A token that can be or start a key, read by `read`. -/
def node (l : Lexer) (read : Cursor → Except Fault (Token × Cursor)) : Except Fault Lexer :=
  l.rememberKey.bind fun l =>
    (read l.cursor).map fun (t, c) => { l.emit t c with keyAllowed := false }

/-- A plain scalar. Behind a line end a key may start. -/
def plain (l : Lexer) : Except Fault Lexer :=
  l.rememberKey.map fun l =>
    let least := (l.indents.head?.map (· + 1)).getD 0
    let (text, c, crossesLine) := plainScalar l.inFlow least l.cursor
    { l.emit (.scalar (String.ofList text) true) c with keyAllowed := crossesLine }

def block (l : Lexer) (folded : Bool) : Except Fault Lexer :=
  l.forgetKey.bind fun l =>
    let least := (l.indents.head?.map (· + 1)).getD 0
    (blockScalar folded least l.cursor).map fun (text, c) =>
      { l.emit (.scalar (String.ofList text) false) c with keyAllowed := true }

def documentEdge (l : Lexer) (t : Token) : Except Fault Lexer :=
  (l.unwind 0).forgetKey.map fun l => { l.emit t (l.cursor.skip 3) with keyAllowed := false }

def directive (l : Lexer) : Except Fault Lexer :=
  (l.unwind 0).forgetKey.bind fun l =>
    (directiveAt l.cursor).map fun (d, c) => { l.emit (.directive d) c with keyAllowed := false }

def finish (l : Lexer) : Except Fault Lexer :=
  (l.unwind 0).forgetKey

/-- The name of an anchor or an alias that starts here, and the character behind it. -/
def anchorAt (make : String → Token) (c : Cursor) : Except Fault (Token × Cursor) :=
  (nameAt c.next).bind fun (name, c) =>
    if endsWord c.peek || c.peek.any ("?:,]%@\x7d\x60".toList.contains ·) then .ok (make name, c)
    else noTokenAt c

/-- A dash, a question mark or a colon that is an indicator, because a blank follows, or for the
latter two because it stands in a flow collection. -/
def isIndicator (l : Lexer) (c : Char) : Bool :=
  match c with
  | '-' => endsWord (l.cursor.ahead 1)
  | '?' => l.inFlow || endsWord (l.cursor.ahead 1)
  | ':' => l.inFlow || endsWord (l.cursor.ahead 1)
  | _ => false

def startsPlain (l : Lexer) (c : Char) : Bool :=
  if c = '-' then !endsWord (l.cursor.ahead 1)
  else if c = '?' || c = ':' then !l.inFlow && !endsWord (l.cursor.ahead 1)
  else !isSpace c && !isBreak c && !isFlowMark c && !"#&*!|>'\"%@\x60".toList.contains c

/-- Read the token that starts with `c` in the first column, if it is one that only stands there. -/
def edge? (l : Lexer) (c : Char) : Option (Except Fault Lexer) :=
  if l.cursor.column != 0 then none
  else if c = '%' then some l.directive
  else if l.cursor.atSeparator '-' then some (l.documentEdge .documentStart)
  else if l.cursor.atSeparator '.' then some (l.documentEdge .documentEnd)
  else none

def quotedToken (double : Bool) (c : Cursor) : Except Fault (Token × Cursor) :=
  (quotedScalar double c).map fun (text, c) => (.scalar (String.ofList text) false, c)

def tagToken (c : Cursor) : Except Fault (Token × Cursor) :=
  (tagAt c).map fun ((handle, suffix), c) => (.tag handle suffix, c)

/-- Read the token that starts with `c`. -/
def token (l : Lexer) (c : Char) : Except Fault Lexer :=
  match l.edge? c with
  | some r => r
  | none =>
    if c = '[' then l.openFlow .flowSequenceStart
    else if c = '{' then l.openFlow .flowMappingStart
    else if c = ']' then l.closeFlow .flowSequenceEnd
    else if c = '}' then l.closeFlow .flowMappingEnd
    else if c = ',' then l.flowEntry
    else if c = '-' && l.isIndicator c then l.blockEntry
    else if c = '?' && l.isIndicator c then l.markedKey
    else if c = ':' && l.isIndicator c then l.valueMark
    else if c = '*' then l.node (anchorAt .alias)
    else if c = '&' then l.node (anchorAt .anchor)
    else if c = '!' then l.node tagToken
    else if c = '|' && !l.inFlow then l.block false
    else if c = '>' && !l.inFlow then l.block true
    else if c = '\'' then l.node (quotedToken false)
    else if c = '"' then l.node (quotedToken true)
    else if l.startsPlain c then l.plain
    else noTokenAt l.cursor

/-- Read the next token, or finish at the end of the text: the answer tells whether that was reached.
A token takes at least one character. -/
def step (l : Lexer) : Except Fault (Lexer × Bool) :=
  (skipBlanks (l.cursor.rest.length + 1) l).forgetStale.bind fun l =>
    let l := l.unwind (l.cursor.column + 1)
    match l.cursor.peek with
    | none => l.finish.map fun l => (l, true)
    | some c => (l.token c).map fun l => (l, false)

/-- The tokens that nothing can be put in front of any more: those in front of the first place where a
key may turn out to be. -/
def settled (l : Lexer) : List Token :=
  let open_ := l.places.filterMap fun p => p.filter fun k => !isStale l.cursor k
  l.tokens.reverse.take (open_.foldl (fun n k => min n k.tokens) l.tokens.length)

/-- Read the tokens from here on. -/
def run : Nat → Lexer → TokenStream
  | 0, l => ⟨l.tokens.reverse, none⟩
  | fuel + 1, l =>
    match l.step with
    | .error fault => ⟨l.settled, some fault⟩
    | .ok (l, true) => ⟨l.tokens.reverse, none⟩
    | .ok (l, false) => run fuel l

end Lexer

def tokens (text : List Char) : TokenStream :=
  if !text.all isAllowed then ⟨[], some .forbiddenCharacter⟩
  else
    let start : Cursor := { rest := text }
    let start := if start.peek.any isOrderMark then start.next else start
    Lexer.run (text.length + 1) { cursor := start }

end ProjectAtlas.Yaml
