/-!
Wildcard patterns over whole texts.

A star stands for any text, a question mark for any one character, and a bracket for one character
of a set; no character is special in the text, a slash included. A bracket without its end is an
ordinary character.
-/

namespace ProjectAtlas.Text

/-- A member of a bracket: all characters from `first` to `last`. -/
structure GlobRange where
  first : Char
  last : Char
deriving DecidableEq, Repr

/-- A part of a pattern. -/
inductive GlobPart
  | anyText
  | anyChar
  | exact (c : Char)
  | oneOf (negated : Bool) (members : List GlobRange)
deriving DecidableEq, Repr

/-- The character is one that the bracket part or single part stands for. -/
def GlobPart.admits : GlobPart → Char → Bool
  | .anyText, _ => false
  | .anyChar, _ => true
  | .exact d, c => c == d
  | .oneOf negated members, c => members.any (fun r => r.first ≤ c && c ≤ r.last) != negated

/-- Some suffix of the text, the text itself and the empty one included, satisfies `q`. -/
def anySuffix (q : List Char → Bool) : List Char → Bool
  | [] => q []
  | c :: cs => q (c :: cs) || anySuffix q cs

def matchParts : List GlobPart → List Char → Bool
  | [], cs => cs.isEmpty
  | .anyText :: ps, cs => anySuffix (matchParts ps) cs
  | p :: ps, c :: cs => p.admits c && matchParts ps cs
  | _ :: _, [] => false

/-- Cut the inside of a bracket at the hyphens that make ranges. At least `keep` characters stand in
front of the next such hyphen; `piece` holds the current piece, latest character first. -/
def cutRanges (keep : Nat) (piece : List Char) : List Char → List (List Char)
  | [] => [piece.reverse]
  | c :: cs =>
    if keep = 0 && c = '-' then piece.reverse :: cutRanges 2 [] cs
    else cutRanges (keep - 1) (c :: piece) cs

/-- A hyphen at the very end makes no range and belongs to the piece in front of it. -/
def mendLast : List (List Char) → List (List Char)
  | [p, []] => [p ++ ['-']]
  | p :: ps => p :: mendLast ps
  | [] => []

/-- Join neighbours whose range would run backwards, dropping both of its ends; the last pair
first. -/
def dropBackward : List (List Char) → List (List Char)
  | [] => []
  | p :: ps =>
    match dropBackward ps with
    | q :: qs =>
      match p.getLast?, q.head? with
      | some a, some b => if b < a then (p.dropLast ++ q.tail) :: qs else p :: q :: qs
      | _, _ => p :: q :: qs
    | [] => [p]

/-- The members that stand for themselves in a piece. -/
def singles (cs : List Char) : List GlobRange :=
  cs.map fun c => ⟨c, c⟩

/-- The members of a bracket given by its pieces: the last character of a piece and the first of the
next are the ends of a range. `start` is the last character of the piece in front. -/
def bracketMembers (start : Option Char) : List (List Char) → List GlobRange
  | [] => []
  | p :: ps =>
    let (range, inner) := match start, p with
      | some a, b :: r => ([GlobRange.mk a b], r)
      | _, _ => ([], p)
    if ps.isEmpty then range ++ singles inner
    else range ++ singles inner.dropLast ++ bracketMembers inner.getLast? ps

/-- The part for a bracket with the given inside. An inside without members admits nothing, and
everything if negated. -/
def bracketPart (inside : List Char) : GlobPart :=
  let keep := if inside.head? = some '!' then 2 else 1
  match dropBackward (mendLast (cutRanges keep [] inside)) with
  | ('!' :: p) :: ps => .oneOf true (bracketMembers none (p :: ps))
  | ps => .oneOf false (bracketMembers none ps)

/-- The inside of a bracket and what follows its end. A closing bracket that comes first, or first
after an exclamation mark, belongs to the inside. -/
def takeBracket? (cs : List Char) : Option (List Char × List Char) :=
  let (bang, cs) := match cs with
    | '!' :: r => (['!'], r)
    | r => ([], r)
  let (first, cs) := match cs with
    | ']' :: r => ([']'], r)
    | r => ([], r)
  match cs.dropWhile (· != ']') with
  | _ :: rest => some (bang ++ first ++ cs.takeWhile (· != ']'), rest)
  | [] => none

/-- The parts of a pattern; `skip` counts characters that an earlier bracket has used up. -/
def globPartsFrom (skip : Nat) : List Char → List GlobPart
  | [] => []
  | c :: cs =>
    match skip with
    | k + 1 => globPartsFrom k cs
    | 0 =>
      if c = '*' then .anyText :: globPartsFrom 0 cs
      else if c = '?' then .anyChar :: globPartsFrom 0 cs
      else if c = '[' then
        match takeBracket? cs with
        | some (inside, rest) => bracketPart inside :: globPartsFrom (cs.length - rest.length) cs
        | none => .exact c :: globPartsFrom 0 cs
      else .exact c :: globPartsFrom 0 cs

def globParts (pattern : List Char) : List GlobPart :=
  globPartsFrom 0 pattern

def globMatch (pattern text : String) : Bool :=
  matchParts (globParts pattern.toList) text.toList

end ProjectAtlas.Text
