import ProjectAtlas.Decimal
import ProjectAtlas.Text.Base64
import ProjectAtlas.Text.Case
import ProjectAtlas.Yaml.Tag

/-!
The values of scalars.
-/

namespace ProjectAtlas.Yaml

/-- The value of a scalar. A date or a time has no value of its own. -/
inductive Scalar
  | null
  | flag (b : Bool)
  | integer (n : Int)
  | float (x : Float)
  | text (s : String)
  | bytes (bs : List UInt8)
  | moment

def dropLines (s : String) : List Char :=
  s.toList.filter (· != '_')

def dropBaseMark (base : Nat) (cs : List Char) : List Char :=
  match cs with
  | '0' :: c :: ds =>
    let named := match c with
      | 'b' | 'B' => 2
      | 'o' | 'O' => 8
      | 'x' | 'X' => 16
      | _ => 0
    if named = base then ds else cs
  | _ => cs

def readInBase (base : Nat) (cs : List Char) : Except ScalarFault Int :=
  let (negative, body) := Text.takeSign (Text.trimBoth Text.isNumberBlank cs)
  match Text.digits? base (dropBaseMark base body) with
  | none => .error (.integerUnread base (String.ofList cs))
  | some ds =>
    if base = 10 && Text.maxDecimalDigits < ds.length then .error (.integerTooLong ds.length)
    else .ok (Text.withSign negative (Text.ofDigits base ds))

/-- The sign in front of a number; only a minus makes it negative. -/
def applySign (negative : Bool) (n : Int) : Int :=
  if negative then -n else n

/-- The integer without its sign. A leading zero means base eight unless a letter follows, and colons
mean base sixty. -/
def unsignedInteger : List Char → Except ScalarFault Int
  | [] => .error .integerEmpty
  | ['0'] => .ok 0
  | '0' :: 'b' :: ds => readInBase 2 ds
  | '0' :: 'x' :: ds => readInBase 16 ds
  | '0' :: ds => readInBase 8 ('0' :: ds)
  | cs =>
    if cs.contains ':' then
      ((List.splitOn ':' cs).mapM (readInBase 10)).map fun ns =>
        ns.foldl (fun total n => total * 60 + n) 0
    else readInBase 10 cs

def integerOf (s : String) : Except ScalarFault Int :=
  let (negative, body) := Text.takeSign (dropLines s)
  (unsignedInteger body).map (applySign negative)

/-- Decimal digits with a point or without, as the number without the point and the count of the
digits behind it. -/
def mantissa? (cs : List Char) : Option (Nat × Nat) :=
  let (whole, fraction) := (Text.cutAt? ['.'] cs).getD (cs, [])
  if whole.isEmpty && fraction.isEmpty then none
  else
    ((whole ++ fraction).mapM Text.decimalValue?).map fun ds =>
      (Text.ofDigits 10 ds, fraction.length)

def exponent? (cs : List Char) : Option Int :=
  let (negative, ds) := Text.takeSign cs
  if ds.isEmpty then none
  else (ds.mapM Text.decimalValue?).map fun ds => Text.withSign negative (Text.ofDigits 10 ds)

/-- The floating-point number that a text in small letters stands for. -/
def readFloat? (cs : List Char) : Option Float :=
  let (negative, body) := Text.takeSign (Text.trimBoth Text.isNumberBlank cs)
  let sign (x : Float) : Float := if negative then -x else x
  match String.ofList body with
  | "inf" | "infinity" => some (sign (1.0 / 0.0))
  | "nan" => some (0.0 / 0.0)
  | _ =>
    match Text.cutAt? ['e'] body with
    | some (digits, exponent) =>
      (mantissa? digits).bind fun (m, places) =>
        (exponent? exponent).map fun e => Decimal.nearestSigned negative m (e - places)
    | none =>
      (mantissa? body).map fun (m, places) => Decimal.nearestSigned negative m (-places)

def readFloat (cs : List Char) : Except ScalarFault Float :=
  match readFloat? cs with
  | some x => .ok x
  | none => .error (.floatUnread (String.ofList cs))

/-- The natural numbers from here on lie beyond the floating-point numbers. -/
def floatBound : Nat := Nat.pow 2 1024 - Nat.pow 2 970

/-- Add digits in base sixty, least significant first, to `total`; the first of them counts `unit`. The
sum is rounded after each digit. -/
def addSixtieths (total : Float) (unit : Nat) : List Float → Except ScalarFault Float
  | [] => .ok total
  | x :: xs =>
    if floatBound ≤ unit then .error .floatTooLarge
    else addSixtieths (total + x * Decimal.nearest unit 0) (unit * 60) xs

/-- The number with these digits in base sixty, least significant first. -/
def sexagesimal (xs : List Float) : Except ScalarFault Float :=
  addSixtieths 0.0 1 xs

def unsignedFloat (cs : List Char) : Except ScalarFault Float :=
  if cs == ['.', 'i', 'n', 'f'] then .ok (1.0 / 0.0)
  else if cs == ['.', 'n', 'a', 'n'] then .ok (0.0 / 0.0)
  else if cs.contains ':' then
    ((List.splitOn ':' cs).mapM readFloat).bind fun xs => sexagesimal xs.reverse
  else readFloat cs

def floatOf (s : String) : Except ScalarFault Float :=
  let cs := (Text.lower (String.ofList (dropLines s))).toList
  if cs.isEmpty then .error .floatEmpty
  else
    let (negative, body) := Text.takeSign cs
    (unsignedFloat body).map fun x => if negative then -x else x

def flagOf (s : String) : Except ScalarFault Bool :=
  let w := Text.lower s
  if ["yes", "true", "on"].contains w then .ok true
  else if ["no", "false", "off"].contains w then .ok false
  else .error (.flagUnread w)

/-- The moment that a text stands for exists. -/
def momentOf (s : String) : Except ScalarFault Unit :=
  let cs := s.toList
  let cs := if cs.getLast? == some '\n' then cs.dropLast else cs
  match readMoment? cs with
  | some m => m.check
  | none => .error .momentUnread

def bytesOf (s : String) : Except Fault (List UInt8) :=
  if s.toList.any fun c => 128 ≤ c.toNat then .error .binaryUnread
  else
    match Text.decodeBase64? s.toList with
    | some bs => .ok bs
    | none => .error .binaryUnread

def scalarOf (tag : Tag) (s : String) : Except Fault Scalar :=
  match tag with
  | .null => .ok .null
  | .flag => ((flagOf s).map .flag).mapError .scalar
  | .integer => ((integerOf s).map .integer).mapError .scalar
  | .float => ((floatOf s).map .float).mapError .scalar
  | .text => .ok (.text s)
  | .binary => (bytesOf s).map .bytes
  | .moment => ((momentOf s).map fun _ => .moment).mapError .scalar
  | _ => .error .unknownTag

end ProjectAtlas.Yaml
