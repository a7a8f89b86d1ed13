import ProjectAtlas.Decimal
import ProjectAtlas.Json.Basic
import ProjectAtlas.Text.Integer
import ProjectAtlas.Text.Surrogate

/-!
Reading JSON text.

Besides the standard notation the words `NaN`, `Infinity` and `-Infinity` are numbers. Of two fields
with one key the later value counts. Half of a surrogate pair may stand alone in an escape. An
integer of more than `Text.maxDecimalDigits` digits stops the reading, and so do values inside one another
for which the stack has no room.
-/

namespace ProjectAtlas.Json

open ProjectAtlas.Text

/-- What is wrong at a place of the text. -/
inductive Cause
  | value
  | propertyName
  | colon
  | comma
  | extraData
  | unterminatedText
  | controlCharacter
  | escape
  | unicodeEscape
  | byteOrderMark
deriving DecidableEq, Repr

def Cause.message : Cause → String
  | .value => "Expecting value"
  | .propertyName => "Expecting property name enclosed in double quotes"
  | .colon => "Expecting ':' delimiter"
  | .comma => "Expecting ',' delimiter"
  | .extraData => "Extra data"
  | .unterminatedText => "Unterminated string starting at"
  | .controlCharacter => "Invalid control character at"
  | .escape => "Invalid \\escape"
  | .unicodeEscape => "Invalid \\uXXXX escape"
  | .byteOrderMark => "Unexpected UTF-8 BOM (decode using utf-8-sig)"

/-- What takes room on the stack while it is read: a list, an object, and a word that is a number. -/
inductive Nested
  | list
  | object
  | word
deriving DecidableEq, Repr

/-- A limit of the reader that a text goes beyond, whether or not it keeps to the notation. -/
inductive Excess
  | integerTooLong (digits : Nat)
  | tooDeep (nested : Nested)
deriving DecidableEq, Repr

def Excess.message : Excess → String
  | .integerTooLong digits => integerUnreadableMessage digits
  | .tooDeep .list => "maximum recursion depth exceeded while decoding a JSON array from a unicode string"
  | .tooDeep .object =>
    "maximum recursion depth exceeded while decoding a JSON object from a unicode string"
  | .tooDeep .word => "maximum recursion depth exceeded while calling a Python object"

/-- Why a text is not read. A fault in the notation has the place it was found at: line and column
count from one, the offset from zero, all in characters. -/
inductive Fault
  | malformed (cause : Cause) (line column offset : Nat)
  | excess (e : Excess)
deriving DecidableEq, Repr

def Fault.message : Fault → String
  | .malformed cause line column offset =>
    s!"{cause.message}: line {line} column {column} (char {offset})"
  | .excess e => e.message

/-- A fault while reading; the place is given by the text from there on. -/
inductive Stop
  | malformed (cause : Cause) (rest : List Char)
  | excess (e : Excess)

/-- A reader's answer: what was read and the rest of the text. -/
abbrev Step (α : Type) := Except Stop (α × List Char)

def isSpace (c : Char) : Bool :=
  c = ' ' || c = '\t' || c = '\n' || c = '\r'

def skipSpace (cs : List Char) : List Char :=
  cs.dropWhile isSpace

/-- The number that the first four characters write in hexadecimal. -/
def hex4? (cs : List Char) : Option Nat :=
  let ds := cs.take 4
  if ds.length = 4 then (ds.mapM hexValue?).map (ofDigits 16) else none

/-- The character for a code unit: halves of surrogate pairs are carried alone. -/
def ofUnit (n : Nat) : Char :=
  if 0xD800 ≤ n && n ≤ 0xDFFF then loneHalf n else Char.ofNat n

/-- An escape with a code unit: `cs` begins with its letter. A pair of halves makes one character.
The answer holds the number of characters that the escape takes after the backslash. -/
def unitEscape (cs : List Char) : Except Stop (Char × Nat) :=
  let digits := cs.drop 1
  if digits.length ≤ 4 then .error (.malformed .unicodeEscape cs)
  else match hex4? digits with
    | none => .error (.malformed .unicodeEscape cs)
    | some n =>
      match digits.drop 4 with
      | '\\' :: 'u' :: more =>
        if 0xD800 ≤ n && n ≤ 0xDBFF && 5 ≤ more.length then
          match hex4? more with
          | none => .error (.malformed .unicodeEscape ('u' :: more))
          | some k =>
            if 0xDC00 ≤ k && k ≤ 0xDFFF then
              .ok (Char.ofNat (0x10000 + (n - 0xD800) * 0x400 + (k - 0xDC00)), 11)
            else .ok (ofUnit n, 5)
        else .ok (ofUnit n, 5)
      | _ => .ok (ofUnit n, 5)

/-- The escape whose text after the backslash is `cs`; `start` is the text from the opening quotation
mark on. -/
def escapeHead (start cs : List Char) : Except Stop (Char × Nat) :=
  match cs with
  | [] => .error (.malformed .unterminatedText start)
  | 'u' :: _ => unitEscape cs
  | '"' :: _ => .ok ('"', 1)
  | '\\' :: _ => .ok ('\\', 1)
  | '/' :: _ => .ok ('/', 1)
  | 'b' :: _ => .ok ('\x08', 1)
  | 'f' :: _ => .ok ('\x0c', 1)
  | 'n' :: _ => .ok ('\n', 1)
  | 'r' :: _ => .ok ('\r', 1)
  | 't' :: _ => .ok ('\t', 1)
  | _ => .error (.malformed .escape ('\\' :: cs))

/-- Put a character in front of what is read next. -/
def consStep (c : Char) (r : Step (List Char)) : Step (List Char) :=
  r.map fun (cs, rest) => (c :: cs, rest)

/-- The characters up to the closing quotation mark; `skip` of them belong to the escape before. -/
def textChars (start : List Char) (skip : Nat) : List Char → Step (List Char)
  | [] => .error (.malformed .unterminatedText start)
  | c :: cs =>
    match skip with
    | k + 1 => textChars start k cs
    | 0 =>
      if c = '"' then .ok ([], cs)
      else if c = '\\' then
        match escapeHead start cs with
        | .ok (d, n) => consStep d (textChars start n cs)
        | .error stop => .error stop
      else if c.toNat < 32 then .error (.malformed .controlCharacter (c :: cs))
      else consStep c (textChars start 0 cs)

/-- A text whose opening quotation mark is in front of `cs`. -/
def text (cs : List Char) : Step String :=
  (textChars ('"' :: cs) 0 cs).map fun (t, rest) => (String.ofList t, rest)

def isAsciiDigit (c : Char) : Bool :=
  '0' ≤ c && c ≤ '9'

/-- The fraction at the head of the text: the digits after a point. -/
def fraction (cs : List Char) : List Char × List Char :=
  match cs with
  | '.' :: r =>
    let ds := r.takeWhile isAsciiDigit
    if ds.isEmpty then ([], cs) else (ds, r.dropWhile isAsciiDigit)
  | _ => ([], cs)

def exponent? (cs : List Char) : Option (Int × List Char) :=
  match cs with
  | c :: r =>
    if c = 'e' || c = 'E' then
      let (negative, body) := takeSign r
      let ds := body.takeWhile isAsciiDigit
      if ds.isEmpty then none
      else some (withSign negative (ofDigits 10 (ds.map (·.toNat - 48))), body.dropWhile isAsciiDigit)
    else none
  | [] => none

/-- A number that starts at `start`; `cs` is what follows its sign. -/
def unsignedNumber (negative : Bool) (start cs : List Char) : Step Json :=
  let (whole, rest) := match cs with
    | '0' :: r => (['0'], r)
    | r => (r.takeWhile isAsciiDigit, r.dropWhile isAsciiDigit)
  if whole.isEmpty then .error (.malformed .value start)
  else
    let (frac, rest) := fraction rest
    match frac.isEmpty, exponent? rest with
    | true, none =>
      if maxDecimalDigits < whole.length then .error (.excess (.integerTooLong whole.length))
      else .ok (.int (withSign negative (ofDigits 10 (whole.map (·.toNat - 48)))), rest)
    | _, e =>
      let m := ofDigits 10 ((whole ++ frac).map (·.toNat - 48))
      let (e, rest) := e.getD (0, rest)
      .ok (.float (Decimal.nearestSigned negative m (e - frac.length)), rest)

def word? (w : String) (cs : List Char) : Option (List Char) :=
  let w := w.toList
  if w.isPrefixOf cs then some (cs.drop w.length) else none

/-- A word that is a number, in front of `rest`. -/
def wordNumber (room : Nat) (x : Float) (rest : List Char) : Step Json :=
  if room = 0 then .error (.excess (.tooDeep .word)) else .ok (.float x, rest)

def atom (room : Nat) (cs : List Char) : Step Json :=
  if let some r := word? "null" cs then .ok (.null, r)
  else if let some r := word? "true" cs then .ok (.bool true, r)
  else if let some r := word? "false" cs then .ok (.bool false, r)
  else if let some r := word? "NaN" cs then wordNumber room (0.0 / 0.0) r
  else if let some r := word? "Infinity" cs then wordNumber room (1.0 / 0.0) r
  else if let some r := word? "-Infinity" cs then wordNumber room (-1.0 / 0.0) r
  else match cs with
    | '-' :: r => unsignedNumber true cs r
    | _ => unsignedNumber false cs cs

mutual

/-- A value at the head of the text. The stack has room for `room` levels inside one another. Each call and
each list item takes one unit of fuel, so that no more than two are taken for each character. -/
def value : Nat → Nat → List Char → Step Json
  | 0, _, cs => .error (.malformed .value cs)
  | fuel + 1, room, cs =>
    match cs, room with
    | '"' :: r, _ => (text r).map fun (s, rest) => (.str s, rest)
    | '[' :: _, 0 => .error (.excess (.tooDeep .list))
    | '[' :: r, room + 1 =>
      match skipSpace r with
      | ']' :: rest => .ok (.arr [], rest)
      | r => items fuel room [] r
    | '{' :: _, 0 => .error (.excess (.tooDeep .object))
    | '{' :: r, room + 1 =>
      match skipSpace r with
      | '}' :: rest => .ok (.obj [], rest)
      | r => members fuel room [] r
    | _, _ => atom room cs

/-- The items of a list from the next one on; `done` holds those before, latest first. -/
def items : Nat → Nat → List Json → List Char → Step Json
  | 0, _, _, cs => .error (.malformed .value cs)
  | fuel + 1, room, done, cs =>
    match value fuel room cs with
    | .error stop => .error stop
    | .ok (v, rest) =>
      match skipSpace rest with
      | ']' :: rest => .ok (.arr (v :: done).reverse, rest)
      | ',' :: rest => items fuel room (v :: done) (skipSpace rest)
      | rest => .error (.malformed .comma rest)

def members : Nat → Nat → List (String × Json) → List Char → Step Json
  | 0, _, _, cs => .error (.malformed .value cs)
  | fuel + 1, room, done, cs =>
    match cs with
    | '"' :: r =>
      match text r with
      | .error stop => .error stop
      | .ok (key, rest) =>
        match skipSpace rest with
        | ':' :: rest =>
          match value fuel room (skipSpace rest) with
          | .error stop => .error stop
          | .ok (v, rest) =>
            match skipSpace rest with
            | '}' :: rest => .ok (.obj (setField key v done), rest)
            | ',' :: rest => members fuel room (setField key v done) (skipSpace rest)
            | rest => .error (.malformed .comma rest)
        | rest => .error (.malformed .colon rest)
    | _ => .error (.malformed .propertyName cs)

end

/-- The place in `all` at which `rest` begins. -/
def Stop.locate (all : List Char) : Stop → Fault
  | .excess e => .excess e
  | .malformed cause rest =>
    let offset := all.length - rest.length
    let before := all.take offset
    let column := (before.reverse.takeWhile (· != '\n')).length + 1
    .malformed cause (before.count '\n' + 1) column offset

def document (room : Nat) (cs : List Char) : Except Stop Json :=
  if cs.head? = some '\uFEFF' then .error (.malformed .byteOrderMark cs)
  else match value (2 * cs.length + 1) room (skipSpace cs) with
    | .error stop => .error stop
    | .ok (v, rest) =>
      match skipSpace rest with
      | [] => .ok v
      | rest => .error (.malformed .extraData rest)

/-- The value of a text, read on a stack with room for `room` levels. -/
def parse (room : Nat) (cs : List Char) : Except Fault Json :=
  (document room cs).mapError (·.locate cs)

end ProjectAtlas.Json
