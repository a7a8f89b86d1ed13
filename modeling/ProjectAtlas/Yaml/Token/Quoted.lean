import ProjectAtlas.Text.Integer
import ProjectAtlas.Text.Surrogate
import ProjectAtlas.Yaml.Fault
import ProjectAtlas.Yaml.Token.Plain

/-!
Quoted scalars. Between single marks only the mark itself is doubled; between double marks there are
escapes. Line ends are folded between both.
-/

namespace ProjectAtlas.Yaml

/-- No token can be made of what stands at a place. -/
def noTokenAt {α : Type} (c : Cursor) : Except Fault α :=
  .error (.noToken c.line c.column)

def escapedChar? (c : Char) : Option Char :=
  match c with
  | '0' => some '\x00'
  | 'a' => some '\x07'
  | 'b' => some '\x08'
  | 't' => some '\t'
  | '\t' => some '\t'
  | 'n' => some '\n'
  | 'v' => some '\x0b'
  | 'f' => some '\x0c'
  | 'r' => some '\r'
  | 'e' => some '\x1b'
  | ' ' => some ' '
  | '"' => some '"'
  | '\\' => some '\\'
  | '/' => some '/'
  | 'N' => some (Char.ofNat 0x85)
  | '_' => some (Char.ofNat 0xA0)
  | 'L' => some (Char.ofNat 0x2028)
  | 'P' => some (Char.ofNat 0x2029)
  | _ => none

/-- The number of hexadecimal digits behind the letter of an escape. -/
def escapeWidth? (c : Char) : Option Nat :=
  match c with
  | 'x' => some 2
  | 'u' => some 4
  | 'U' => some 8
  | _ => none

/-- The number that `n` hexadecimal digits in front of a text stand for. -/
def hexNumber? (n : Nat) (cs : List Char) : Option Nat :=
  let ds := cs.take n
  if ds.length = n then
    (ds.mapM fun c => if c.toNat < 128 then Text.digitValue? c else none).map (Text.ofDigits 16)
  else none

/-- The character with this code; a half of a surrogate pair is carried as such. -/
def escapedCode (n : Nat) : Except Fault Char :=
  if 0xD800 ≤ n && n ≤ 0xDFFF then .ok (Text.loneHalf n)
  else if n ≤ 0x10FFFF then .ok (Char.ofNat n)
  else .error (.escapeOutOfRange (0x80000000 ≤ n))

/-- The line ends from here on, with the blanks around them. No separator of documents may stand
among them. -/
def quotedBreaks : Nat → Cursor → Except Fault (List Char × Cursor)
  | 0, c => .ok ([], c)
  | fuel + 1, c =>
    if c.atDocumentEdge then noTokenAt c
    else
      let c := c.skipWhile isSpace
      match c.peek with
      | some d =>
        if isBreak d then
          (quotedBreaks fuel c.next).map fun (more, end_) => (keptBreak d :: more, end_)
        else .ok ([], c)
      | none => .ok ([], c)

def quotedGap (c : Cursor) : Except Fault (List Char × Cursor) :=
  let (blanks, c) := c.span isSpace
  match c.peek with
  | none => noTokenAt c
  | some d =>
    if isBreak d then
      (quotedBreaks c.rest.length c.next).map fun (more, end_) => (foldedBreaks d more, end_)
    else .ok (blanks, c)

def escapeAt (c : Cursor) : Except Fault (List Char × Cursor) :=
  match c.peek with
  | none => noTokenAt c
  | some d =>
    match escapedChar? d, escapeWidth? d with
    | some e, _ => .ok ([e], c.next)
    | none, some width =>
      match hexNumber? width c.next.rest with
      | some n => (escapedCode n).map fun e => ([e], c.next.skip width)
      | none => noTokenAt c
    | none, none =>
      if isBreak d then quotedBreaks c.rest.length c.next else noTokenAt c

def doublePiece (c : Cursor) (d : Char) : Except Fault (List Char × Cursor) :=
  if isSpace d || isBreak d then quotedGap c
  else if d = '\\' then escapeAt c.next
  else .ok ([d], c.next)

def singlePiece (c : Cursor) (d : Char) : Except Fault (List Char × Cursor) :=
  if isSpace d || isBreak d then quotedGap c
  else if d = '\'' then .ok (['\''], c.skip 2)
  else .ok ([d], c.next)

def quotedFrom (double : Bool) : Nat → Cursor → Except Fault (List Char × Cursor)
  | 0, c => noTokenAt c
  | fuel + 1, c =>
    match c.peek with
    | none => noTokenAt c
    | some d =>
      let closes := if double then d == '"' else d == '\'' && c.ahead 1 != some '\''
      if closes then .ok ([], c.next)
      else
        (if double then doublePiece c d else singlePiece c d).bind fun (piece, c) =>
          (quotedFrom double fuel c).map fun (more, end_) => (piece ++ more, end_)

def quotedScalar (double : Bool) (c : Cursor) : Except Fault (List Char × Cursor) :=
  quotedFrom double (c.rest.length + 1) c.next

end ProjectAtlas.Yaml
