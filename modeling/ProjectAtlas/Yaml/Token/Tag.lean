import ProjectAtlas.Text.Utf8
import ProjectAtlas.Yaml.Token.Basic
import ProjectAtlas.Yaml.Token.Block

/-!
Tags, with their handles and escapes, and the lines of instructions that define handles.
-/

namespace ProjectAtlas.Yaml

/-- The name of an anchor, a directive or an alias that starts here. -/
def nameAt (c : Cursor) : Except Fault (String × Cursor) :=
  match c.span isNameChar with
  | ([], _) => noTokenAt c
  | (name, c) => .ok (String.ofList name, c)

def escapedBytes : Nat → Cursor → Except Fault (List UInt8 × Cursor)
  | 0, c => .ok ([], c)
  | fuel + 1, c =>
    if c.at? '%' then
      match hexNumber? 2 c.next.rest with
      | some n => (escapedBytes fuel (c.skip 3)).map fun (more, end_) => (n.toUInt8 :: more, end_)
      | none => noTokenAt c
    else .ok ([], c)

/-- The text of a tag from here on. Escapes that follow each other stand for the bytes of
characters. -/
def tagTextFrom : Nat → Cursor → Except Fault (List Char × Cursor)
  | 0, c => .ok ([], c)
  | fuel + 1, c =>
    let (plain, c) := c.span isTagChar
    if c.at? '%' then
      (escapedBytes c.rest.length c).bind fun (bytes, end_) =>
        match Text.decodeStrict bytes with
        | .error _ => noTokenAt c
        | .ok escaped =>
          (tagTextFrom fuel end_).map fun (more, end_) => (plain ++ escaped ++ more, end_)
    else .ok (plain, c)

/-- The text of a tag that starts here; it is not empty. -/
def tagText (c : Cursor) : Except Fault (String × Cursor) :=
  (tagTextFrom (c.rest.length + 1) c).bind fun (text, end_) =>
    if end_.index = c.index then noTokenAt c else .ok (String.ofList text, end_)

/-- The handle that starts here: one exclamation mark, or a name between two. -/
def tagHandle (c : Cursor) : Except Fault (String × Cursor) :=
  if !c.at? '!' then noTokenAt c
  else if c.ahead 1 == some ' ' then .ok ("!", c.next)
  else
    let (name, end_) := c.next.span isNameChar
    if end_.at? '!' then .ok (String.ofList ('!' :: name ++ ['!']), end_.next) else noTokenAt end_

/-- A tag that starts with a handle of two marks: a second one stands in front of the next blank. -/
def hasNamedHandle (c : Cursor) : Bool :=
  (c.next.rest.takeWhile fun d => d != ' ' && !isBreak d).contains '!'

def tagAt (c : Cursor) : Except Fault ((Option String × String) × Cursor) :=
  let close (r : (Option String × String) × Cursor) :
      Except Fault ((Option String × String) × Cursor) :=
    if endsAtBlank r.2.peek then .ok r else noTokenAt r.2
  if c.ahead 1 == some '<' then
    (tagText (c.skip 2)).bind fun (text, end_) =>
      if end_.at? '>' then close ((none, text), end_.next) else noTokenAt end_
  else if endsWord (c.ahead 1) then close ((none, "!"), c.next)
  else
    (if hasNamedHandle c then tagHandle c else .ok ("!", c.next)).bind fun (handle, c) =>
      (tagText c).bind fun (text, end_) => close ((some handle, text), end_)

def numberAt (c : Cursor) : Except Fault (Nat × Cursor) :=
  match c.span Char.isDigit with
  | ([], _) => noTokenAt c
  | (ds, c) =>
    if Text.maxDecimalDigits < ds.length then .error (.scalar (.integerTooLong ds.length))
    else .ok (Text.ofDigits 10 (ds.map (·.toNat - 48)), c)

def versionAt (c : Cursor) : Except Fault (Directive × Cursor) :=
  (numberAt c.skipSpaces).bind fun (major, c) =>
    if !c.at? '.' then noTokenAt c
    else (numberAt c.next).bind fun (minor, c) =>
      if endsAtBlank c.peek then .ok (.version major minor, c) else noTokenAt c

/-- The handle and the text that it stands for behind the name of a directive. -/
def handleAt (c : Cursor) : Except Fault (Directive × Cursor) :=
  (tagHandle c.skipSpaces).bind fun (handle, c) =>
    if !c.at? ' ' then noTokenAt c
    else (tagText c.skipSpaces).bind fun (text, c) =>
      if endsAtBlank c.peek then .ok (.handle handle text, c) else noTokenAt c

/-- The directive that starts here, at its percent sign, and the next line. -/
def directiveAt (c : Cursor) : Except Fault (Directive × Cursor) :=
  (nameAt c.next).bind fun (name, c) =>
    if !endsAtBlank c.peek then noTokenAt c
    else
      (match name with
        | "YAML" => versionAt c
        | "TAG" => handleAt c
        | _ => .ok (Directive.other, c.skipWhile (!isBreak ·))).bind fun (d, c) =>
        (skipLine c).map fun c => (d, c)

end ProjectAtlas.Yaml
