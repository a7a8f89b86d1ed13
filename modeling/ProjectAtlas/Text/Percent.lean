import ProjectAtlas.Text.Pieces
import ProjectAtlas.Text.Utf8

/-!
Characters that are written by their bytes: a percent sign and two hexadecimal digits stand for one
byte. A percent sign without two digits behind it stands for itself.
-/

namespace ProjectAtlas.Text

def hexByte? (a b : Char) : Option UInt8 :=
  match hexValue? a, hexValue? b with
  | some high, some low => some (high * 16 + low).toUInt8
  | _, _ => none

/-- The bytes of a text; `skip` characters belong to the escape in front of them. -/
def percentBytesFrom (skip : Nat) : List Char → List UInt8
  | [] => []
  | c :: cs =>
    match skip with
    | k + 1 => percentBytesFrom k cs
    | 0 =>
      if c = '%' then
        match cs with
        | a :: b :: _ =>
          match hexByte? a b with
          | some byte => byte :: percentBytesFrom 2 cs
          | none => encodeUtf8 "%" ++ percentBytesFrom 0 cs
        | _ => encodeUtf8 "%" ++ percentBytesFrom 0 cs
      else encodeUtf8 (String.singleton c) ++ percentBytesFrom 0 cs

def decodePercent (cs : List Char) : List Char :=
  decodeLenient (percentBytesFrom 0 cs)

/-- A part of a query: a plus sign stands for a blank. -/
def decodeQueryPart (cs : List Char) : List Char :=
  decodePercent (cs.map fun c => if c = '+' then ' ' else c)

def readQuery (cs : List Char) : List (String × String) :=
  ((List.splitOn '&' cs).filter (!·.isEmpty)).map fun piece =>
    let (name, value) := (cutAt? ['='] piece).getD (piece, [])
    (String.ofList (decodeQueryPart name), String.ofList (decodeQueryPart value))

end ProjectAtlas.Text
