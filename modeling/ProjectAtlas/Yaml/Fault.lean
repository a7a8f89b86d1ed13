import ProjectAtlas.Text.Integer
import ProjectAtlas.Text.Quoted

/-!
Why a text is no YAML document, and why a document cannot be given a value.
-/

namespace ProjectAtlas.Yaml

/-- Why a scalar has no value of the type that it is to have. -/
inductive ScalarFault
  | integerUnread (base : Nat) (text : String)
  | integerTooLong (digits : Nat)
  | integerEmpty
  | floatUnread (text : String)
  | floatEmpty
  | floatTooLarge
  | flagUnread (word : String)
  | momentUnread
  | momentNotText
  | yearOutOfRange (year : Nat)
  | monthOutOfRange
  | dayOutOfRange
  | hourOutOfRange
  | minuteOutOfRange
  | secondOutOfRange
  | offsetOutOfRange (days : Int) (seconds : Nat)
deriving DecidableEq, Repr

/-- A length of time in days and seconds. -/
def durationText (days : Int) (seconds : Nat) : String :=
  "datetime.timedelta(" ++ ", ".intercalate
    ((if days = 0 then [] else [s!"days={days}"]) ++
      (if seconds = 0 then [] else [s!"seconds={seconds}"])) ++ ")"

def ScalarFault.message : ScalarFault → String
  | .integerUnread base text =>
    s!"invalid literal for int() with base {base}: {Text.quoted text}"
  | .integerTooLong digits => Text.integerUnreadableMessage digits
  | .integerEmpty => "string index out of range"
  | .floatUnread text => s!"could not convert string to float: {Text.quoted text}"
  | .floatEmpty => "string index out of range"
  | .floatTooLarge => "int too large to convert to float"
  | .flagUnread word => word
  | .momentUnread => "'NoneType' object has no attribute 'groupdict'"
  | .momentNotText => "expected string or bytes-like object, got 'list'"
  | .yearOutOfRange year => s!"year {year} is out of range"
  | .monthOutOfRange => "month must be in 1..12"
  | .dayOutOfRange => "day is out of range for month"
  | .hourOutOfRange => "hour must be in 0..23"
  | .minuteOutOfRange => "minute must be in 0..59"
  | .secondOutOfRange => "second must be in 0..59"
  | .offsetOutOfRange days seconds =>
    "offset must be a timedelta strictly between -timedelta(hours=24) and timedelta(hours=24), " ++
      s!"not {durationText days seconds}."

/-- Why a text is refused. A fault of a scalar's value is apart from the others, and so is a document that
nests too deep for the stack. -/
inductive Fault
  | forbiddenCharacter
  | noToken (line column : Nat)
  | escapeOutOfRange (tooLarge : Bool)
  | unexpectedToken
  | severalDocuments
  | undefinedHandle (handle : String)
  | undefinedAlias (name : String)
  | repeatedAnchor (name : String)
  | unknownTag
  | wrongKind
  | insideItself
  | keyNotComparable
  | binaryUnread
  | tooDeep
  | scalar (fault : ScalarFault)
deriving DecidableEq, Repr

end ProjectAtlas.Yaml
