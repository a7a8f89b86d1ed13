import ProjectAtlas.Text.Integer
import ProjectAtlas.Yaml.Cursor
import ProjectAtlas.Yaml.Fault

/-!
Dates and times: how they are written, and which of them exist.
-/

namespace ProjectAtlas.Yaml

/-- A distance from universal time. -/
structure ZoneOffset where
  negative : Bool
  hours : Nat
  minutes : Nat
deriving DecidableEq, Repr

structure TimeOfDay where
  hour : Nat
  minute : Nat
  second : Nat
  offset : Option ZoneOffset := none
deriving DecidableEq, Repr

/-- A date, with a time or without, as it is written. -/
structure Moment where
  year : Nat
  month : Nat
  day : Nat
  time : Option TimeOfDay := none
deriving DecidableEq, Repr

/-- The number of from `least` to `most` digits in front of a text, and what follows them. -/
def takeDigits (least most : Nat) (cs : List Char) : Option (Nat × List Char) :=
  let ds := (cs.take most).takeWhile Char.isDigit
  if least ≤ ds.length then
    some (Text.ofDigits 10 (ds.map (·.toNat - 48)), cs.drop ds.length)
  else none

def takeChar (c : Char) : List Char → Option (List Char)
  | d :: ds => if d = c then some ds else none
  | [] => none

/-- A distance from universal time that is the whole text: a sign, hours, and minutes behind a colon;
or the letter for none. -/
def readOffset? (cs : List Char) : Option (Option ZoneOffset) :=
  match cs with
  | [] => some none
  | ['Z'] => some none
  | s :: ds =>
    if s = '+' || s = '-' then
      (takeDigits 1 2 ds).bind fun (hours, rest) =>
        if rest.isEmpty then some (some ⟨s == '-', hours, 0⟩)
        else
          (takeChar ':' rest).bind fun rest =>
            (takeDigits 2 2 rest).bind fun (minutes, rest) =>
              if rest.isEmpty then some (some ⟨s == '-', hours, minutes⟩) else none
    else none

/-- A fraction of a second is passed over. -/
def skipFraction (cs : List Char) : List Char :=
  match cs with
  | '.' :: ds => ds.dropWhile Char.isDigit
  | _ => cs

/-- The gap between a date and a time: the letter for it, or blanks. -/
def skipDateGap? (cs : List Char) : Option (List Char) :=
  match cs with
  | [] => none
  | c :: ds =>
    if c = 'T' || c = 't' then some ds
    else if isSpace c then some (ds.dropWhile isSpace)
    else none

def readTime? (cs : List Char) : Option TimeOfDay := do
  let (hour, cs) ← takeDigits 1 2 cs
  let cs ← takeChar ':' cs
  let (minute, cs) ← takeDigits 2 2 cs
  let cs ← takeChar ':' cs
  let (second, cs) ← takeDigits 2 2 cs
  let cs := skipFraction cs
  if cs.isEmpty then return { hour, minute, second }
  else
    let zone := cs.dropWhile isSpace
    if zone.isEmpty then none
    else
      let offset ← readOffset? zone
      return { hour, minute, second, offset }

def readMoment? (cs : List Char) : Option Moment := do
  let (year, cs) ← takeDigits 4 4 cs
  let cs ← takeChar '-' cs
  let (month, cs) ← takeDigits 1 2 cs
  let cs ← takeChar '-' cs
  let (day, cs) ← takeDigits 1 2 cs
  if cs.isEmpty then return { year, month, day }
  else
    let cs ← skipDateGap? cs
    let time ← readTime? cs
    return { year, month, day, time := some time }

/-- The form of a date or a time. A date alone has two digits for the month and for the day. -/
def isMoment (cs : List Char) : Bool :=
  match readMoment? cs with
  | some m => m.time.isSome || cs.length == 10
  | none => false

def isLeapYear (year : Nat) : Bool :=
  year % 4 == 0 && (year % 100 != 0 || year % 400 == 0)

def daysOfMonth (year month : Nat) : Nat :=
  if month = 2 then if isLeapYear year then 29 else 28
  else if [4, 6, 9, 11].contains month then 30
  else 31

def ZoneOffset.check (z : ZoneOffset) : Except ScalarFault Unit :=
  let seconds := z.hours * 3600 + z.minutes * 60
  if seconds < 86400 then .ok ()
  else
    let signed : Int := if z.negative then -seconds else seconds
    .error (.offsetOutOfRange (signed / 86400) (signed % 86400).toNat)

def Moment.check (m : Moment) : Except ScalarFault Unit := do
  match m.time.bind (·.offset) with
  | some z => z.check
  | none => pure ()
  if m.year = 0 then throw (.yearOutOfRange m.year)
  if m.month < 1 || 12 < m.month then throw .monthOutOfRange
  if m.day < 1 || daysOfMonth m.year m.month < m.day then throw .dayOutOfRange
  match m.time with
  | none => pure ()
  | some t =>
    if 24 ≤ t.hour then throw .hourOutOfRange
    if 60 ≤ t.minute then throw .minuteOutOfRange
    if 60 ≤ t.second then throw .secondOutOfRange

end ProjectAtlas.Yaml
