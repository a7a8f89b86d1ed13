/-!
Halves of surrogate pairs that stand alone.

An escaped text can name half of a surrogate pair, which is no character. So that texts stay ordinary
strings, such a half is carried as the code point that lies 0xD0000 above it, in a plane of Unicode
that holds no characters, and is written out again as its escape. A text in which one of these code
points stands for itself is taken for one with the half.
-/

namespace ProjectAtlas.Text

/-- The character that carries the half with code `n`, which lies between D800 and DFFF. -/
def loneHalf (n : Nat) : Char :=
  Char.ofNat (0xD0000 + n)

/-- The code of the half that `c` carries. -/
def halfCode? (c : Char) : Option Nat :=
  if 0xDD800 ≤ c.toNat && c.toNat ≤ 0xDDFFF then some (c.toNat - 0xD0000) else none

/-- The character carries a half that stands for a byte of a name that is not UTF-8. -/
def isByteHalf (c : Char) : Bool :=
  (halfCode? c).any fun n => 0xDC80 ≤ n && n ≤ 0xDCFF

/-- The number of bytes of a text in a name. -/
def byteCount (s : String) : Nat :=
  s.toList.foldr (fun c n => (if isByteHalf c then 1 else c.utf8Size) + n) 0

/-- Does the text hold a lone half? -/
def hasLoneHalf (s : String) : Bool :=
  s.toList.any fun c => (halfCode? c).isSome

/-- Lower-case hexadecimal digits of `n`, at least `width` of them. -/
def hex (width n : Nat) : List Char :=
  let digits := Nat.toDigits 16 n
  List.replicate (width - digits.length) '0' ++ digits

def hexValue? (c : Char) : Option Nat :=
  if '0' ≤ c && c ≤ '9' then some (c.toNat - 48)
  else if 'a' ≤ c && c ≤ 'f' then some (c.toNat - 87)
  else if 'A' ≤ c && c ≤ 'F' then some (c.toNat - 55)
  else none

/-- The text with every lone half spelled as the six characters of its escape. -/
def spellHalves (s : String) : String :=
  if hasLoneHalf s then
    String.ofList <| s.toList.flatMap fun c =>
      match halfCode? c with
      | some n => '\\' :: 'u' :: hex 4 n
      | none => [c]
  else s

end ProjectAtlas.Text
