import ProjectAtlas.Decimal
import ProjectAtlas.Json.Basic
import ProjectAtlas.Text.Integer
import ProjectAtlas.Text.Quoted
import ProjectAtlas.Text.Surrogate

/-!
Writing JSON text in ASCII, on one line or with every item on a line of its own; values as messages show
them; and the values that can be sent as bytes, where no text holds half of a surrogate pair and no
integer has more digits than may be written.
-/

namespace ProjectAtlas.Json

open ProjectAtlas.Text

/-- The escape of one code unit. -/
def escapeUnit (n : Nat) : List Char :=
  '\\' :: 'u' :: hex 4 n

def escapeChar (c : Char) : List Char :=
  if c = '"' then ['\\', '"']
  else if c = '\\' then ['\\', '\\']
  else if c = '\n' then ['\\', 'n']
  else if c = '\r' then ['\\', 'r']
  else if c = '\t' then ['\\', 't']
  else if c = '\x08' then ['\\', 'b']
  else if c = '\x0c' then ['\\', 'f']
  else if ' ' ≤ c && c ≤ '~' then [c]
  else match halfCode? c with
    | some n => escapeUnit n
    | none =>
      if c.toNat < 0x10000 then escapeUnit c.toNat
      else
        let n := c.toNat - 0x10000
        escapeUnit (0xD800 + n / 0x400) ++ escapeUnit (0xDC00 + n % 0x400)

def quote (s : String) : String :=
  String.ofList ('"' :: s.toList.flatMap escapeChar ++ ['"'])

def floatText (x : Float) : String :=
  match Decimal.decode x with
  | (negative, .infinite) => if negative then "-Infinity" else "Infinity"
  | (_, .undefined) => "NaN"
  | _ => Decimal.text x

def atomText : Json → String
  | .null => "null"
  | .bool b => if b then "true" else "false"
  | .int n => toString n
  | .float x => floatText x
  | .str s => quote s
  | _ => ""

mutual

def compact : Json → String
  | .arr items => "[" ++ ", ".intercalate (compactItems items) ++ "]"
  | .obj fields => "\x7b" ++ ", ".intercalate (compactFields fields) ++ "\x7d"
  | v => atomText v

def compactItems : List Json → List String
  | [] => []
  | v :: vs => compact v :: compactItems vs

def compactFields : List (String × Json) → List String
  | [] => []
  | (k, v) :: fs => (quote k ++ ": " ++ compact v) :: compactFields fs

end

def newline (depth : Nat) : String :=
  "\n" ++ String.ofList (List.replicate (2 * depth) ' ')

mutual

/-- The value over several lines, two blanks deeper at each level; empty lists and objects stay on
one line. -/
def indented (depth : Nat) : Json → String
  | .arr [] => "[]"
  | .arr items =>
    "[" ++ newline (depth + 1) ++
      ("," ++ newline (depth + 1)).intercalate (indentedItems (depth + 1) items) ++
      newline depth ++ "]"
  | .obj [] => "\x7b\x7d"
  | .obj fields =>
    "\x7b" ++ newline (depth + 1) ++
      ("," ++ newline (depth + 1)).intercalate (indentedFields (depth + 1) fields) ++
      newline depth ++ "\x7d"
  | v => atomText v

def indentedItems (depth : Nat) : List Json → List String
  | [] => []
  | v :: vs => indented depth v :: indentedItems depth vs

def indentedFields (depth : Nat) : List (String × Json) → List String
  | [] => []
  | (k, v) :: fs => (quote k ++ ": " ++ indented depth v) :: indentedFields depth fs

end

mutual

/-- The value holds an integer with more digits than may be written. -/
def holdsTooLong : Json → Bool
  | .int n => isTooLong n
  | .arr items => anyTooLong items
  | .obj fields => anyFieldTooLong fields
  | _ => false

def anyTooLong : List Json → Bool
  | [] => false
  | v :: vs => holdsTooLong v || anyTooLong vs

def anyFieldTooLong : List (String × Json) → Bool
  | [] => false
  | (_, v) :: fs => holdsTooLong v || anyFieldTooLong fs

end

/-- The value over several lines, unless it holds an integer that may not be written. -/
def indented? (v : Json) : Option String :=
  if holdsTooLong v then none else some (indented 0 v)

mutual

/-- The text of a value in a message. -/
def shown : Json → String
  | .null => "None"
  | .bool true => "True"
  | .bool false => "False"
  | .int n => toString n
  | .float x => Decimal.text x
  | .str s => Text.quoted s
  | .arr items => "[" ++ ", ".intercalate (shownItems items) ++ "]"
  | .obj fields => "\x7b" ++ ", ".intercalate (shownFields fields) ++ "\x7d"

def shownItems : List Json → List String
  | [] => []
  | v :: vs => shown v :: shownItems vs

def shownFields : List (String × Json) → List String
  | [] => []
  | (k, v) :: fs => (Text.quoted k ++ ": " ++ shown v) :: shownFields fs

end

mutual

/-- The value can be sent. -/
def isPlain : Json → Bool
  | .int n => !isTooLong n
  | .str s => !hasLoneHalf s
  | .arr items => arePlain items
  | .obj fields => fieldsArePlain fields
  | _ => true

def arePlain : List Json → Bool
  | [] => true
  | v :: vs => isPlain v && arePlain vs

def fieldsArePlain : List (String × Json) → Bool
  | [] => true
  | (k, v) :: fs => !hasLoneHalf k && isPlain v && fieldsArePlain fs

end

/-- The object with some of its fields only. -/
def only (keys : List String) : Json → Json
  | .obj fields => .obj (fields.filter fun f => keys.contains f.1)
  | v => v

end ProjectAtlas.Json
