import ProjectAtlas.Text.Pieces

/-!
Parentheses and quotation marks: cutting a text at the commas outside of both, the group that a
parenthesis opens, and the specifiers of a marker, which are such a group cut at its commas.
-/

namespace ProjectAtlas.Source

open ProjectAtlas.Text

/-- Where a place lies: inside which kind of quotation marks, and in how many open parentheses. -/
structure Nesting where
  quote : Option Char := none
  depth : Nat := 0
deriving DecidableEq, Repr

def isQuote (c : Char) : Bool :=
  c = '"' || c = '\''

/-- The nesting after a character. Between quotation marks only the same mark counts, and a
parenthesis that closes nothing is passed over. -/
def Nesting.step (s : Nesting) (c : Char) : Nesting :=
  match s.quote with
  | some q => if c = q then { s with quote := none } else s
  | none =>
    if isQuote c then { s with quote := some c }
    else if c = '(' then { s with depth := s.depth + 1 }
    else if c = ')' then { s with depth := s.depth - 1 }
    else s

def Nesting.atTop (s : Nesting) : Bool :=
  s.quote.isNone && s.depth == 0

/-- The pieces between commas at the top, blanks included; there is always at least one. -/
def rawPieces (s : Nesting) : List Char → List (List Char)
  | [] => [[]]
  | c :: cs =>
    if c = ',' && s.atTop then [] :: rawPieces s cs
    else consFirst c (rawPieces (s.step c) cs)

/-- The trimmed pieces between commas outside of parentheses and quotation marks. Angle brackets do
not count, so the arguments of a template are cut apart. A blank text has no pieces. -/
def splitTopLevel (cs : List Char) : List (List Char) :=
  match (rawPieces {} cs).map trim with
  | [[]] => []
  | ps => ps

/-- The inside of a group that is `s` deep, up to the parenthesis that closes it, and what follows
that parenthesis. -/
def closeGroup? (s : Nesting) : List Char → Option (List Char × List Char)
  | [] => none
  | c :: cs =>
    if c = ')' && s.quote.isNone && s.depth == 1 then some ([], cs)
    else (closeGroup? (s.step c) cs).map fun r => (c :: r.1, r.2)

/-- The inside of the group whose opening parenthesis is in front of `cs`, and what follows it. -/
def group? (cs : List Char) : Option (List Char × List Char) :=
  closeGroup? ⟨none, 1⟩ cs

/-- The specifiers in the first parentheses of a line, and what follows them, trimmed. If the
parentheses are not closed the specifiers reach to the end of the line. -/
def extractSpecifiers (line : List Char) : List (List Char) × List Char :=
  match cutAt? ['('] line with
  | none => ([], [])
  | some (_, rest) =>
    match group? rest with
    | some (inside, after) => ((splitTopLevel inside).filter (!·.isEmpty), trim after)
    | none => ((splitTopLevel rest).filter (!·.isEmpty), [])

end ProjectAtlas.Source
