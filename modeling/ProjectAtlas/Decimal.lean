/-!
Decimals and floating-point numbers: the number nearest to a decimal, and the text of a number.

The text has the fewest decimal digits that read back as the number.

A finite number is `m · 2 ^ q`. The reals that round to it form an interval around it, whose ends
belong to it exactly if `m` is even. On the decimal grids of one, two, … seventeen digits the two
neighbours of the number are tried; the first grid with a neighbour in the interval gives the digits,
and of two such neighbours the nearer is taken.
-/

namespace ProjectAtlas.Decimal

/-- The number nearest to `m · 10 ^ e`. Exponents far outside the range of the format are settled
before any power is computed. -/
def nearest (m : Nat) (e : Int) : Float :=
  if m = 0 then 0.0
  else
    let magnitude : Int := (Nat.toDigits 10 m).length + e
    if 400 < magnitude then 1.0 / 0.0
    else if magnitude < -400 then 0.0
    else Float.ofScientific m (e < 0) e.natAbs

/-- The nearest number with a sign. -/
def nearestSigned (negative : Bool) (m : Nat) (e : Int) : Float :=
  if negative then -(nearest m e) else nearest m e

/-- A positive finite number `m · 2 ^ q`. The gap to the next smaller number is half the gap to the
next larger one if `narrow` holds. -/
structure Binary where
  m : Nat
  q : Int
  narrow : Bool
deriving DecidableEq, Repr

/-- A number in the format of floating-point arithmetic, sign apart. -/
inductive Magnitude
  | zero
  | finite (b : Binary)
  | infinite
  | undefined
deriving DecidableEq, Repr

def decode (x : Float) : Bool × Magnitude :=
  let bits := x.toBits.toNat
  let negative := bits / Nat.pow 2 63 == 1
  let exponent : Nat := bits / Nat.pow 2 52 % Nat.pow 2 11
  let fraction : Nat := bits % Nat.pow 2 52
  let magnitude :=
    if exponent = 2047 then if fraction = 0 then .infinite else .undefined
    else if exponent = 0 then
      if fraction = 0 then .zero else .finite ⟨fraction, -1074, false⟩
    else .finite ⟨Nat.pow 2 52 + fraction, (exponent : Int) - 1075, fraction = 0 && 1 < exponent⟩
  (negative, magnitude)

def toInt? (x : Float) : Option Int :=
  match decode x with
  | (_, .zero) => some 0
  | (negative, .finite b) =>
    let sign : Int := if negative then -1 else 1
    if 0 ≤ b.q then some (sign * (b.m * Nat.pow 2 b.q.toNat : Nat))
    else
      let unit := Nat.pow 2 (-b.q).toNat
      if b.m % unit = 0 then some (sign * (b.m / unit : Nat)) else none
  | _ => none

/-- `x · 2 ^ s` as a fraction. -/
def scaled (x : Nat) (s : Int) : Nat × Nat :=
  if 0 ≤ s then (x * Nat.pow 2 s.toNat, 1) else (x, Nat.pow 2 (-s).toNat)

/-- The number of decimal places of the integer part of `a / b`; not positive for fractions below
one tenth of the last place. -/
def pointOf (a b : Nat) : Int :=
  let k : Int := (Nat.toDigits 10 a).length - (Nat.toDigits 10 b).length
  let below := if 0 ≤ k then a < b * Nat.pow 10 k.toNat else a * Nat.pow 10 (-k).toNat < b
  if below then k else k + 1

/-- The digits of the first grid of at least `n` digits that has a neighbour of `b` in its
interval. -/
def digitsFrom (b : Binary) (k : Int) (fuel n : Nat) : Nat × Int :=
  let s := b.q - 2
  let unit := k - n
  let up (x : Nat) : Nat × Nat :=
    let (a, d) := scaled x s
    if 0 ≤ unit then (a, d * Nat.pow 10 unit.toNat) else (a * Nat.pow 10 (-unit).toNat, d)
  let (a, d) := up (4 * b.m)
  let (low, _) := up (4 * b.m - if b.narrow then 1 else 2)
  let (high, _) := up (4 * b.m + 2)
  let c := a / d
  let inside (x : Nat) : Bool :=
    if b.m % 2 = 0 then low ≤ x * d && x * d ≤ high else low < x * d && x * d < high
  let lowerIn := inside c
  let upperIn := inside (c + 1)
  let choice :=
    if lowerIn && upperIn then
      let twice := 2 * (a - c * d)
      some (if twice < d || (twice = d && c % 2 = 0) then c else c + 1)
    else if lowerIn then some c
    else if upperIn then some (c + 1)
    else none
  match choice, fuel with
  | some x, _ => (x, unit)
  | none, 0 => (c, unit)
  | none, fuel + 1 => digitsFrom b k fuel (n + 1)

def shortest (b : Binary) : Nat × Int :=
  let (a, d) := scaled b.m b.q
  digitsFrom b (pointOf a d) 17 1

/-- The digits without the zeros they end with, and the place of the point after the first digit
counted from the left. -/
def digitsAndPoint (b : Binary) : List Char × Int :=
  let (n, e) := shortest b
  let ds := Nat.toDigits 10 n
  let kept := (ds.reverse.dropWhile (· == '0')).reverse
  (kept, ds.length + e)

/-- Positional notation from 10 ^ -4 up to below 10 ^ 16, always with a point; else one digit in
front of the point and a signed exponent of at least two digits. -/
def layout (ds : List Char) (point : Int) : String :=
  if -4 < point && point ≤ 16 then
    if point ≤ 0 then
      "0." ++ String.ofList (List.replicate (-point).toNat '0' ++ ds)
    else
      let p := point.toNat
      let whole := ds.take p ++ List.replicate (p - ds.length) '0'
      let fraction := ds.drop p
      String.ofList whole ++ "." ++ (if fraction.isEmpty then "0" else String.ofList fraction)
  else
    let e := point - 1
    let eDigits := Nat.toDigits 10 e.natAbs
    String.ofList (ds.take 1) ++
      (if 1 < ds.length then "." ++ String.ofList (ds.drop 1) else "") ++
      (if e < 0 then "e-" else "e+") ++
      String.ofList (List.replicate (2 - eDigits.length) '0' ++ eDigits)

def text (x : Float) : String :=
  let (negative, magnitude) := decode x
  let sign := if negative then "-" else ""
  match magnitude with
  | .zero => sign ++ "0.0"
  | .finite b => let (ds, point) := digitsAndPoint b; sign ++ layout ds point
  | .infinite => sign ++ "inf"
  | .undefined => "nan"

end ProjectAtlas.Decimal
