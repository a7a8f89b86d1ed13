import ProjectAtlas.Config.Basic
import ProjectAtlas.Decimal
import ProjectAtlas.Files.Volume
import ProjectAtlas.Text.Pieces

/-!
Reading the settings from a file. A setting of the wrong type, like one that is not there, has its
default.
-/

namespace ProjectAtlas

open Yaml

def configName : String := ".ueindex.yml"

/-- An integer has too many digits to be written out. -/
inductive TextFault
  | integerUnwritable
deriving DecidableEq, Repr

def integerText (n : Int) : Except TextFault String :=
  if Text.isTooLong n then .error .integerUnwritable else .ok (toString n)

def textOf? : Value → Except TextFault (Option String)
  | .scalar (.text s) => .ok (some s)
  | .scalar (.integer n) => (integerText n).map some
  | .scalar (.float x) => .ok (some (Decimal.text x))
  | _ => .ok none

/-- The texts of a value: one text, or the texts and numbers in a list. -/
def textsOf : Option Value → Except TextFault (List String)
  | some (.scalar (.text s)) => .ok [s]
  | some (.scalar (.bytes bs)) => .ok (bs.map fun b => toString b.toNat)
  | some (.list items) => (items.mapM textOf?).map (·.filterMap id)
  | _ => .ok []

/-- A positive integer, or a text that stands for an integer. What is less than one counts as one. -/
def positiveOf (v : Option Value) (otherwise : Nat) : Nat :=
  let atLeastOne (n : Int) : Nat := max 1 n.toNat
  match v with
  | some (.scalar (.integer n)) => atLeastOne n
  | some (.scalar (.text s)) => ((Text.readDecimal? s.toList).map atLeastOne).getD otherwise
  | _ => otherwise

def directoryOf (v : Option Value) (otherwise : String) : Except TextFault String :=
  match v with
  | none => .ok otherwise
  | some v =>
    (textOf? v).map fun
      | none => otherwise
      | some "" => otherwise
      | some s => String.ofList (Text.trimBoth (· == '/') s.toList)

def extensionOf (s : String) : String :=
  let s := Text.lower (String.ofList (Text.trim s.toList))
  if s.toList.head? = some '.' then s else "." ++ s

/-- A mapping below a key; what is no mapping counts as empty. -/
def sectionOf (v : Value) (key : String) : Value :=
  match v.field? key with
  | some (.map entries) => .map entries
  | _ => .map []

def scannersOf (v : Value) : Except TextFault ScannerChoice :=
  ScannerChoice.mk <$> textsOf (v.field? "enabled") <*> textsOf (v.field? "exclude_paths")

def scanOptionsOf (v : Value) : Except TextFault ScanOptions :=
  (textsOf (v.field? "source_extensions")).map fun extensions =>
    let d : ScanOptions := {}
    { maxWorkers := positiveOf (v.field? "max_workers") d.maxWorkers
      windows :=
        { declaration := positiveOf (v.field? "declaration_lookahead") d.windows.declaration
          callable := positiveOf (v.field? "callable_lookahead") d.windows.callable
          enumBody := positiveOf (v.field? "enum_body_window") d.windows.enumBody }
      extensions := if extensions.isEmpty then d.extensions else extensions.map extensionOf }

def directoriesOf (v : Value) : Except TextFault Directories :=
  let d : Directories := {}
  Directories.mk
    <$> directoryOf (v.field? "source") d.source
    <*> directoryOf (v.field? "content") d.content
    <*> directoryOf (v.field? "plugins") d.plugins

def configOf (v : Value) : Except TextFault Config :=
  Config.mk
    <$> scannersOf (sectionOf v "analyzers")
    <*> scanOptionsOf (sectionOf v "scan")
    <*> directoriesOf (sectionOf v "directories")
    <*> textsOf (v.field? "exclude_paths")

inductive ConfigFault
  | root (fault : RootFault)
  | unreachable (fault : FileFault)
  | unreadable (name : String) (fault : FileFault)
  | undecodable (fault : Text.Utf8Fault)
  | malformed (fault : Yaml.Fault)
  | notMapping
  | integerUnwritable
deriving DecidableEq, Repr

def ConfigFault.message : ConfigFault → String
  | .root fault => fault.message
  | .unreachable fault => fault.message
  | .unreadable name fault => s!"Cannot read {name}: {fault.message}"
  | .undecodable fault => fault.message
  | .malformed (.scalar fault) => fault.message
  | .malformed .tooDeep => tooDeepMessage
  | .malformed (.escapeOutOfRange tooLarge) =>
    if tooLarge then "Python int too large to convert to C int"
    else "chr() arg not in range(0x110000)"
  | .malformed _ => s!"Failed to parse {configName}"
  | .notMapping => s!"{configName} must contain a mapping at the root"
  | .integerUnwritable => Text.integerUnwritableMessage

/-- The fault is one that settings are known to have. Text in another encoding, values that no reader
foresees, and what goes too deep or cannot be looked up, are not. -/
def ConfigFault.isReported : ConfigFault → Bool
  | .unreadable _ _ | .notMapping => true
  | .malformed (.scalar _) | .malformed (.escapeOutOfRange _) | .malformed .tooDeep => false
  | .malformed _ => true
  | .root _ | .unreachable _ | .undecodable _ | .integerUnwritable => false

/-- The depth to which settings lie inside one another: sections, lists and their items. -/
def configDepth : Nat := 3

/-- The settings in a text. Blank texts and values that count as nothing give the defaults. -/
def readConfig (host : Host) (text : List Char) : Except ConfigFault Config :=
  if text.all Text.isBlank then .ok {}
  else
    match host.loadSettings configDepth text with
    | .error fault => .error (.malformed fault)
    | .ok value =>
      match value with
      | .map entries => (configOf (.map entries)).mapError fun _ => .integerUnwritable
      | v => if v.isFalsy then .ok {} else .error .notMapping

/-- The file with the settings for a place: in a directory, the file itself, or beside another
file. -/
def configFile (v : Volume) (location : Path) : Except FileFault Path :=
  (v.isDir location).map fun isDir =>
    if isDir then location.entry configName
    else if location.name = configName then location
    else location.parent.entry configName

def readConfigFile (v : Volume) (file : Path) : Except ConfigFault Config :=
  match v.read file with
  | .error fault => .error (.unreadable file.name fault)
  | .ok bytes =>
    match Text.decodeStrict bytes with
    | .error fault => .error (.undecodable fault)
    | .ok text => readConfig v.host (Text.unifyLineEnds text)

def locateConfig (v : Volume) (location : Path) : Except ConfigFault Path :=
  match v.expandHome location with
  | .error fault => .error (.root fault)
  | .ok location =>
    match configFile v location with
    | .error fault => .error (.unreachable fault)
    | .ok file => (v.resolve file).mapError .root

/-- The settings for a place, and the canonical directory that their file is in. A file that is not
there gives the defaults. -/
def loadConfig (v : Volume) (location : Path) : Except ConfigFault (Path × Config) :=
  match locateConfig v location with
  | .error fault => .error fault
  | .ok file =>
    match v.canonical file.parent with
    | .error fault => .error (.root fault)
    | .ok root =>
      match v.isFile file with
      | .error fault => .error (.unreachable fault)
      | .ok false => .ok (root, {})
      | .ok true => (readConfigFile v file).map fun c => (root, c)

end ProjectAtlas
