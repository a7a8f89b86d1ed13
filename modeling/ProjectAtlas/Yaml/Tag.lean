import ProjectAtlas.Yaml.Moment

/-!
The types of nodes. A plain scalar without a tag has a type by its form alone.
-/

namespace ProjectAtlas.Yaml

/-- A type. -/
inductive Tag
  | null
  | flag
  | integer
  | float
  | text
  | binary
  | moment
  | sequence
  | mapping
  | set
  | orderedMapping
  | pairs
  | merge
  | value
  | other (name : String)
deriving DecidableEq, Repr

/-- What the names of the standard types start with. -/
def standardStart : String := "tag:yaml.org,2002:"

def standardTags : List (String × Tag) :=
  [("null", .null), ("bool", .flag), ("int", .integer), ("float", .float), ("str", .text),
    ("binary", .binary), ("timestamp", .moment), ("seq", .sequence), ("map", .mapping),
    ("set", .set), ("omap", .orderedMapping), ("pairs", .pairs), ("merge", .merge),
    ("value", .value)]

def Tag.ofName (name : String) : Tag :=
  ((standardTags.find? fun t => standardStart ++ t.1 == name).map (·.2)).getD (.other name)

def flagWords : List String :=
  ["yes", "no", "true", "false", "on", "off"]

/-- A word for a truth value, in small letters, in capitals, or with one capital in front. -/
def isFlag (cs : List Char) : Bool :=
  let w := String.ofList cs
  flagWords.any fun f => w == f || w == f.capitalize || w == f.map Char.toUpper

/-- A word for nothing, or no word at all. -/
def isNull (cs : List Char) : Bool :=
  ["", "~", "null", "Null", "NULL"].contains (String.ofList cs)

def unsigned (cs : List Char) : List Char :=
  (Text.takeSign cs).2

/-- At least one of the characters that `p` allows. -/
def someOf (p : Char → Bool) (cs : List Char) : Bool :=
  !cs.isEmpty && cs.all p

def isDigitOrLine (c : Char) : Bool :=
  c.isDigit || c == '_'

def isDigitsWithLines (cs : List Char) : Bool :=
  cs.head?.any Char.isDigit && cs.all isDigitOrLine

/-- Digits and underscores that start with a digit other than zero. -/
def isLongDecimal (cs : List Char) : Bool :=
  isDigitsWithLines cs && cs.head? != some '0'

/-- A number of at most two digits below sixty. -/
def isSixtieth (cs : List Char) : Bool :=
  match cs with
  | [c] => c.isDigit
  | [c, d] => '0' ≤ c && c ≤ '5' && d.isDigit
  | _ => false

def isBased (cs : List Char) : Bool :=
  match cs with
  | '0' :: 'b' :: ds => someOf (fun c => c == '0' || c == '1' || c == '_') ds
  | '0' :: 'x' :: ds =>
    someOf (fun c => c == '_' || (c.toNat < 128 && (Text.digitValue? c).isSome)) ds
  | '0' :: ds => ds.all fun c => ('0' ≤ c && c ≤ '7') || c == '_'
  | _ => isLongDecimal cs

def isSexagesimal (cs : List Char) : Bool :=
  match List.splitOn ':' cs with
  | first :: second :: rest => isLongDecimal first && (second :: rest).all isSixtieth
  | _ => false

def isInteger (cs : List Char) : Bool :=
  isBased (unsigned cs) || isSexagesimal (unsigned cs)

def isExponent (cs : List Char) : Bool :=
  match cs with
  | [] => true
  | e :: s :: ds => (e == 'e' || e == 'E') && (s == '-' || s == '+') && someOf Char.isDigit ds
  | _ => false

/-- What may follow the point of a number: digits and underscores, and an exponent. -/
def isFraction (cs : List Char) : Bool :=
  isExponent (cs.dropWhile isDigitOrLine)

def isPointed (cs : List Char) : Bool :=
  match Text.cutAt? ['.'] cs with
  | some ([], fraction) => fraction.head?.any Char.isDigit && isFraction fraction
  | some (whole, fraction) => isDigitsWithLines whole && isFraction fraction
  | none => false

def isPointedSexagesimal (cs : List Char) : Bool :=
  match Text.cutAt? ['.'] cs with
  | some (whole, fraction) =>
    (match List.splitOn ':' whole with
      | first :: second :: rest => isDigitsWithLines first && (second :: rest).all isSixtieth
      | _ => false) && fraction.all isDigitOrLine
  | none => false

/-- The form of a floating-point number. Without digits in front of the point there is no sign. -/
def isFloat (cs : List Char) : Bool :=
  let body := unsigned cs
  (isPointed body && (body.head? != some '.' || body == cs)) || isPointedSexagesimal body ||
    [".inf", ".Inf", ".INF"].contains (String.ofList body) ||
    [".nan", ".NaN", ".NAN"].contains (String.ofList cs)

/-- The type of a plain scalar, by its form; one line feed at its end does not count. -/
def implicitTag (s : String) : Tag :=
  let cs := s.toList
  let cs := if cs != ['\n'] && cs.getLast? == some '\n' then cs.dropLast else cs
  if isFlag cs then .flag
  else if isFloat cs then .float
  else if isInteger cs then .integer
  else if cs == ['<', '<'] then .merge
  else if isNull cs then .null
  else if isMoment cs then .moment
  else if cs == ['='] then .value
  else if ["!", "&", "*"].contains (String.ofList cs) then .other (standardStart ++ "yaml")
  else .text

end ProjectAtlas.Yaml
