import ProjectAtlas.Yaml.Fault

/-!
The tokens of a YAML text. Indentation has become tokens that open and close collections, and a key
has a token in front of it also if the text does not mark it.
-/

namespace ProjectAtlas.Yaml

/-- A line of instructions in front of a document. -/
inductive Directive
  | version (major minor : Nat)
  | handle (name start : String)
  | other
deriving DecidableEq, Repr

/-- A token. A tag without a handle is written in full. -/
inductive Token
  | directive (d : Directive)
  | documentStart
  | documentEnd
  | blockSequenceStart
  | blockMappingStart
  | blockEnd
  | flowSequenceStart
  | flowSequenceEnd
  | flowMappingStart
  | flowMappingEnd
  | blockEntry
  | flowEntry
  | key
  | value
  | alias (name : String)
  | anchor (name : String)
  | tag (handle : Option String) (suffix : String)
  | scalar (text : String) (plain : Bool)
deriving DecidableEq, Repr

/-- The tokens of a text, and why they end in front of the end of the text if they do. -/
structure TokenStream where
  tokens : List Token
  fault : Option Fault := none
deriving DecidableEq, Repr

end ProjectAtlas.Yaml
