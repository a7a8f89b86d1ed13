import ProjectAtlas.Text.Pieces
import ProjectAtlas.Text.Word

/-!
Reading integers.

Two notations are read. The decimal notation has an optional sign and digits of any script, with
single underscores between them. The literal notation adds the bases two, eight and sixteen by a
letter after a leading zero, and refuses other leading zeros. Both allow blanks at the ends, and
numbers of more than `maxDecimalDigits` decimal digits are refused.
-/

namespace ProjectAtlas.Text

def maxDecimalDigits : Nat := 4300

/-- The integer has more digits than may be written. -/
def isTooLong (n : Int) : Bool :=
  Nat.pow 10 maxDecimalDigits ≤ n.natAbs

def integerUnreadableMessage (digits : Nat) : String :=
  s!"Exceeds the limit ({maxDecimalDigits} digits) for integer string conversion: value has " ++
    s!"{digits} digits; use sys.set_int_max_str_digits() to increase the limit"

def integerUnwritableMessage : String :=
  s!"Exceeds the limit ({maxDecimalDigits} digits) for integer string conversion; use " ++
    "sys.set_int_max_str_digits() to increase the limit"

/-- Blanks that may stand around a number: the separators U+001C to U+001F are none of them. -/
def isNumberBlank (c : Char) : Bool :=
  isBlank c && !(28 ≤ c.toNat && c.toNat ≤ 31)

def digitValue? (c : Char) : Option Nat :=
  if 'a' ≤ c && c ≤ 'f' then some (c.toNat - 87)
  else if 'A' ≤ c && c ≤ 'F' then some (c.toNat - 55)
  else decimalValue? c

/-- Digits of a base with single underscores between them, most significant first. -/
def digits? (base : Nat) (cs : List Char) : Option (List Nat) :=
  let pieces := List.splitOn '_' cs
  if pieces.any (·.isEmpty) then none
  else pieces.flatten.mapM fun c => (digitValue? c).filter (· < base)

def ofDigits (base : Nat) (ds : List Nat) : Nat :=
  ds.foldl (fun n d => n * base + d) 0

def takeSign : List Char → Bool × List Char
  | '-' :: cs => (true, cs)
  | '+' :: cs => (false, cs)
  | cs => (false, cs)

/-- The number with the given sign and absolute value. -/
def withSign (negative : Bool) (n : Nat) : Int :=
  if negative then -n else n

/-- A decimal integer; leading zeros are allowed. -/
def readDecimal? (cs : List Char) : Option Int :=
  let (negative, body) := takeSign (trimBoth isNumberBlank cs)
  match digits? 10 body with
  | some ds =>
    if ds.length ≤ maxDecimalDigits then some (withSign negative (ofDigits 10 ds)) else none
  | none => none

/-- One underscore may stand between the letter of the base and the digits. -/
def skipUnderscore : List Char → List Char
  | '_' :: cs => cs
  | cs => cs

def readMagnitude? : List Char → Option Nat
  | '0' :: c :: cs =>
    if c = 'x' || c = 'X' then (digits? 16 (skipUnderscore cs)).map (ofDigits 16)
    else if c = 'o' || c = 'O' then (digits? 8 (skipUnderscore cs)).map (ofDigits 8)
    else if c = 'b' || c = 'B' then (digits? 2 (skipUnderscore cs)).map (ofDigits 2)
    else match digits? 10 (c :: cs |> List.cons '0') with
      | some ds => if ds.all (· == 0) && ds.length ≤ maxDecimalDigits then some 0 else none
      | none => none
  | cs =>
    match digits? 10 cs with
    | some ds =>
      if ds.length ≤ maxDecimalDigits && !(1 < ds.length && ds.head? == some 0) then
        some (ofDigits 10 ds)
      else none
    | none => none

/-- The ASCII digit of the same value in place of a decimal digit of another script. -/
def asciiDigit (c : Char) : Char :=
  match decimalValue? c with
  | some n => Char.ofNat (n + 48)
  | none => c

/-- An integer in the literal notation. -/
def readLiteral? (cs : List Char) : Option Int :=
  let (negative, body) := takeSign (trimBoth isNumberBlank cs)
  (readMagnitude? (body.map asciiDigit)).map (withSign negative)

end ProjectAtlas.Text
