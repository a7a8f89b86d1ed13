import ProjectAtlas.Decimal
import ProjectAtlas.Json.Basic
import ProjectAtlas.Text.Integer
import ProjectAtlas.Text.Pieces

/-!
Checking the shape of a value: every fault is reported, with the keys and list positions that lead
to it.
-/

namespace ProjectAtlas

/-- What is wrong with a value. -/
inductive ShapeCause
  | missing
  | notText
  | notFlag
  | flagUnread
  | notInteger
  | integerUnread
  | integerOutOfRange
  | fractional
  | notFinite
  | notList
  | notObject
deriving DecidableEq, Repr

def ShapeCause.label : ShapeCause → String
  | .missing => "missing"
  | .notText => "string_type"
  | .notFlag => "bool_type"
  | .flagUnread => "bool_parsing"
  | .notInteger => "int_type"
  | .integerUnread => "int_parsing"
  | .integerOutOfRange => "int_parsing_size"
  | .fractional => "int_from_float"
  | .notFinite => "finite_number"
  | .notList => "list_type"
  | .notObject => "model_type"

/-- A fault and the keys and positions that lead to it. -/
structure ShapeFault where
  place : List String
  cause : ShapeCause
deriving DecidableEq, Repr

/-- The faults of a value that is to have the shape `shape`. -/
def shapeMessage (shape : String) (faults : List ShapeFault) : String :=
  let noun := if faults.length = 1 then "error" else "errors"
  s!"{faults.length} validation {noun} for {shape}: " ++
    "; ".intercalate (faults.map fun f => ".".intercalate f.place ++ "=" ++ f.cause.label)

/-- The outcome of a check: a result, or all faults found. -/
inductive Checked (α : Type)
  | good (a : α)
  | bad (faults : List ShapeFault)

namespace Checked

/-- Apply the result of one check to the result of another; the faults of both are kept. -/
def apply {α β : Type} : Checked (α → β) → Checked α → Checked β
  | .good f, .good a => .good (f a)
  | .good _, .bad es => .bad es
  | .bad es, .good _ => .bad es
  | .bad es, .bad fs => .bad (es ++ fs)

instance : Applicative Checked where
  pure := .good
  seq f a := apply f (a ())

def fail {α : Type} (cause : ShapeCause) : Checked α :=
  .bad [⟨[], cause⟩]

def under {α : Type} (key : String) : Checked α → Checked α
  | .good a => .good a
  | .bad es => .bad (es.map fun e => { e with place := key :: e.place })

def toExcept {α : Type} : Checked α → Except (List ShapeFault) α
  | .good a => .ok a
  | .bad es => .error es

end Checked

abbrev Rule (α : Type) := Json → Checked α

namespace Rule

def text : Rule String
  | .str s => .good s
  | _ => .fail .notText

/-- The words for truth values; their case does not count. -/
def flagWord? (s : String) : Option Bool :=
  let w := String.ofList (s.toList.map Char.toLower)
  if ["1", "t", "y", "on", "yes", "true"].contains w then some true
  else if ["0", "f", "n", "no", "off", "false"].contains w then some false
  else none

/-- The integer fits in a signed word of 64 bits. -/
def fitsWord (n : Int) : Bool :=
  -(Int.pow 2 63) ≤ n && n < Int.pow 2 63

def flag : Rule Bool
  | .bool b => .good b
  | .str s =>
    match flagWord? s with
    | some b => .good b
    | none => .fail .flagUnread
  | .int n =>
    if n = 0 then .good false
    else if n = 1 then .good true
    else if fitsWord n then .fail .flagUnread
    else .fail .notFlag
  | .float x =>
    match Decimal.toInt? x with
    | some 0 => .good false
    | some 1 => .good true
    | _ => .fail .notFlag
  | _ => .fail .notFlag

/-- White space around a number in a text. The four separators U+001C to U+001F do not count. -/
def isMargin (c : Char) : Bool :=
  Text.isNumberBlank c

def dropZeroFraction (cs : List Char) : List Char :=
  match Text.cutAt? ['.'] cs with
  | some (whole, zeros) => if zeros.all (· == '0') then whole else cs
  | none => cs

def dropUnderscores (cs : List Char) : List Char :=
  if (List.splitOn '_' cs).any (·.isEmpty) then cs else cs.filter (· != '_')

/-- The integer in a text: an optional sign and decimal digits, with single underscores and a
fraction of zeros allowed. -/
def integerText (s : String) : Checked Int :=
  let cs := dropUnderscores (dropZeroFraction (Text.trimBoth isMargin s.toList))
  let (negative, ds) := Text.takeSign cs
  if Text.maxDecimalDigits < cs.length then .fail .integerOutOfRange
  else if ds.isEmpty || !ds.all Char.isDigit then .fail .integerUnread
  else .good (Text.withSign negative (Text.ofDigits 10 (ds.map (·.toNat - 48))))

def integer : Rule Int
  | .int n => .good n
  | .bool b => .good (if b then 1 else 0)
  | .float x =>
    match Decimal.toInt? x, Decimal.decode x with
    | some n, _ => if fitsWord n then .good n else .fail .integerOutOfRange
    | none, (_, .finite _) => .fail .fractional
    | none, _ => .fail .notFinite
  | .str s => integerText s
  | _ => .fail .notInteger

def nullable {α : Type} (r : Rule α) : Rule (Option α)
  | .null => .good none
  | v => some <$> r v

/-- Check the items of a list, the first of which is at this position. -/
def itemsFrom {α : Type} (r : Rule α) (position : Nat) : List Json → Checked (List α)
  | [] => .good []
  | v :: vs =>
    List.cons <$> (r v).under (toString position) <*> itemsFrom r (position + 1) vs

def listOf {α : Type} (r : Rule α) : Rule (List α)
  | .arr vs => itemsFrom r 0 vs
  | _ => .fail .notList

/-- A list of values of one shape; null stands for the empty list. -/
def listOrNull {α : Type} (r : Rule α) : Rule (List α)
  | .null => .good []
  | v => listOf r v

end Rule

/-- The value of a field and the key that it is under: the public key counts before the plain
one. -/
def fieldOf? (publicKey plainKey : String) (v : Json) : Option (String × Json) :=
  match v.field? publicKey with
  | some x => some (publicKey, x)
  | none => (v.field? plainKey).map (plainKey, ·)

def required {α : Type} (publicKey plainKey : String) (r : Rule α) (v : Json) : Checked α :=
  match fieldOf? publicKey plainKey v with
  | some (key, x) => (r x).under key
  | none => .bad [⟨[publicKey], .missing⟩]

def optional {α : Type} (publicKey plainKey : String) (absent : α) (r : Rule α) (v : Json) :
    Checked α :=
  match fieldOf? publicKey plainKey v with
  | some (key, x) => (r x).under key
  | none => .good absent

end ProjectAtlas
