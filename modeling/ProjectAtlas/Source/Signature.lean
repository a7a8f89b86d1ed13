import ProjectAtlas.Source.Nesting
import ProjectAtlas.Text.Pieces
import ProjectAtlas.Text.Word

/-!
The line that declares a function: a return type, a name with optional qualifiers, and a closed
parameter list. Whatever follows the list is not looked at.
-/

namespace ProjectAtlas.Source

open ProjectAtlas.Text

/-- A function's return type, name, qualifier (empty if there is none) and the text of its parameter
list. -/
structure Signature where
  returnType : List Char
  name : List Char
  parameters : List Char
  qualifier : List Char
deriving DecidableEq, Repr

theorem length_lt_of_ident? {cs name rest : List Char} (h : ident? cs = some (name, rest)) :
    rest.length < cs.length := by
  cases cs with
  | nil => simp [ident?] at h
  | cons c cs =>
    simp only [ident?] at h
    split at h
    · simp only [Option.some.injEq, Prod.mk.injEq] at h
      obtain ⟨-, rfl⟩ := h
      exact Nat.lt_succ_of_le (List.dropWhile_suffix isWord).sublist.length_le
    · simp at h

/-- Identifiers joined by double colons at the head of the text and a parenthesis after them, with
blanks allowed in front of it: the identifiers and the text after the parenthesis. -/
def chain? (cs : List Char) : Option (List (List Char) × List Char) :=
  match h : ident? cs with
  | none => none
  | some (name, ':' :: ':' :: rest) =>
    have : rest.length < cs.length := by
      have := length_lt_of_ident? h
      simp only [List.length_cons] at this
      omega
    (chain? rest).map fun r => (name :: r.1, r.2)
  | some (name, rest) =>
    match trimStart rest with
    | '(' :: after => some ([name], after)
    | _ => none
termination_by cs.length

/-- The first place where such a chain begins: the text in front of it, the chain, and the text after
its parenthesis. A chain may begin inside a word. -/
def firstChain? : List Char → Option (List Char × List (List Char) × List Char)
  | [] => none
  | c :: cs =>
    match chain? (c :: cs) with
    | some (names, after) => some ([], names, after)
    | none => (firstChain? cs).map fun r => (c :: r.1, r.2)

/-- Words that may stand in front of a return type and do not belong to it. -/
def leadingQualifiers : List (List Char) :=
  ["virtual", "static", "inline", "explicit", "friend", "constexpr", "FORCEINLINE",
    "FORCENOINLINE"].map String.toList

def statementWords : List (List Char) :=
  ["if", "for", "while", "switch", "return", "sizeof", "catch"].map String.toList

def isTypeChar (c : Char) : Bool :=
  isWord c || isBlank c || c = ':' || c = '<' || c = '>' || c = ',' || c = '*' || c = '&'

/-- The words of a return type: those in front of the name, without leading qualifiers. -/
def returnWords (cs : List Char) : List (List Char) :=
  (words cs).dropWhile leadingQualifiers.contains

def signatureOf? (line : List Char) : Option Signature :=
  match firstChain? line with
  | none => none
  | some (front, names, after) =>
    match names.getLast? with
    | none => none
    | some name =>
      let returnType := [' '].intercalate (returnWords front)
      if statementWords.contains name || returnType.isEmpty || !returnType.all isTypeChar then none
      else (group? after).map fun r =>
        ⟨returnType, name, r.1, [':', ':'].intercalate names.dropLast⟩

end ProjectAtlas.Source
