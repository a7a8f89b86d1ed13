import ProjectAtlas.Text.Integer
import ProjectAtlas.Text.Quoted

/-!
The switches of the command line: their names, whether a value belongs to them, and which values they
take.
-/

namespace ProjectAtlas.Command

/-- Something that a command line may ask for by a name that starts with a hyphen. -/
inductive Switch
  | help
  | verbose
  | path
  | kind
  | category
  | enabledOnly
  | host
  | port
deriving DecidableEq, Repr

namespace Switch

def names : Switch → List String
  | .help => ["-h", "--help"]
  | .verbose => ["-v", "--verbose"]
  | .path => ["--path"]
  | .kind => ["--kind"]
  | .category => ["--category"]
  | .enabledOnly => ["--enabled-only"]
  | .host => ["--host"]
  | .port => ["--port"]

def label (s : Switch) : String :=
  "/".intercalate s.names

def takesValue : Switch → Bool
  | .help | .verbose | .enabledOnly => false
  | .path | .kind | .category | .host | .port => true

end Switch

/-- What a search looks among. -/
inductive SearchKind
  | all
  | declarations
  | callables
  | assets
  | plugins
deriving DecidableEq, Repr

namespace SearchKind

def label : SearchKind → String
  | .all => "all"
  | .declarations => "declarations"
  | .callables => "callables"
  | .assets => "assets"
  | .plugins => "plugins"

def known : List SearchKind :=
  [.all, .declarations, .callables, .assets, .plugins]

def ofLabel? (name : String) : Option SearchKind :=
  known.find? fun k => k.label == name

/-- A search among this kind looks among `k`. -/
def covers (s k : SearchKind) : Bool :=
  s = .all || s = k

end SearchKind

inductive ArgumentFault
  | ambiguous (word : String) (names : List String)
  | ignoredValue (switch : Switch) (value : String)
  | valueMissing (switch : Switch)
  | notInteger (switch : Switch) (value : String)
  | notAChoice (label value : String) (choices : List String)
  | argumentMissing (label : String)
  | leftOver (words : List String)
deriving DecidableEq, Repr

def ArgumentFault.message : ArgumentFault → String
  | .ambiguous word names => s!"ambiguous option: {word} could match " ++ ", ".intercalate names
  | .ignoredValue switch value =>
    s!"argument {switch.label}: ignored explicit argument {Text.quoted value}"
  | .valueMissing switch => s!"argument {switch.label}: expected one argument"
  | .notInteger switch value => s!"argument {switch.label}: invalid int value: {Text.quoted value}"
  | .notAChoice label value choices =>
    s!"argument {label}: invalid choice: {Text.quoted value} (choose from " ++
      ", ".intercalate (choices.map Text.quoted) ++ ")"
  | .argumentMissing label => s!"the following arguments are required: {label}"
  | .leftOver words => "unrecognized arguments: " ++ " ".intercalate words

def Switch.check (s : Switch) (value : String) : Except ArgumentFault Unit :=
  match s with
  | .port => if (Text.readDecimal? value.toList).isSome then .ok () else .error (.notInteger s value)
  | .kind =>
    if (SearchKind.ofLabel? value).isSome then .ok ()
    else .error (.notAChoice s.label value (SearchKind.known.map SearchKind.label))
  | _ => .ok ()

end ProjectAtlas.Command
