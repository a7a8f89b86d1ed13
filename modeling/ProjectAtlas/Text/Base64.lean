import ProjectAtlas.Text.Integer

/-!
Bytes written with sixty-four characters, four for three bytes. Characters of no meaning are passed
over, and padding ends the bytes.
-/

namespace ProjectAtlas.Text

/-- The six bits of a character. -/
def sextet? (c : Char) : Option Nat :=
  if 'A' ≤ c && c ≤ 'Z' then some (c.toNat - 65)
  else if 'a' ≤ c && c ≤ 'z' then some (c.toNat - 71)
  else if '0' ≤ c && c ≤ '9' then some (c.toNat + 4)
  else if c = '+' then some 62
  else if c = '/' then some 63
  else none

/-- The bytes of a text, after `filled` characters of a group of four whose last bits are `bits`, with
`pads` signs of padding behind them. -/
def decodeBase64From (filled bits pads : Nat) : List Char → Option (List UInt8)
  | [] => if filled = 0 then some [] else none
  | c :: cs =>
    if c = '=' then
      if 2 ≤ filled && 4 ≤ filled + pads + 1 then some []
      else decodeBase64From filled bits (if 2 ≤ filled then pads + 1 else pads) cs
    else
      match sextet? c with
      | none => decodeBase64From filled bits pads cs
      | some n =>
        match filled with
        | 0 => decodeBase64From 1 n 0 cs
        | 1 => (decodeBase64From 2 (n % 16) 0 cs).map ((bits * 4 + n / 16).toUInt8 :: ·)
        | 2 => (decodeBase64From 3 (n % 4) 0 cs).map ((bits * 16 + n / 4).toUInt8 :: ·)
        | _ => (decodeBase64From 0 0 0 cs).map ((bits * 64 + n).toUInt8 :: ·)

def decodeBase64? (cs : List Char) : Option (List UInt8) :=
  decodeBase64From 0 0 0 cs

end ProjectAtlas.Text
