import ProjectAtlas.Files.Volume
import ProjectAtlas.Json.Reader
import ProjectAtlas.Manifest.Document
import ProjectAtlas.Text.Pieces
import ProjectAtlas.Text.Utf8

/-!
Reading the documents from files.
-/

namespace ProjectAtlas

/-- Why a file holds no document. -/
inductive DocumentFault
  | unreadable (fault : FileFault)
  | undecodable (fault : Text.Utf8Fault)
  | malformed (cause : Json.Cause) (line column offset : Nat)
  | notObject
  | shape (faults : List ShapeFault)
deriving DecidableEq, Repr

/-- The wording of a fault of the file `name`. The document is one of `described`, and `shape` is the
name of its shape. -/
def DocumentFault.message (name described shape : String) : DocumentFault → String
  | .unreadable fault => s!"Failed to parse {name}: {fault.message}"
  | .undecodable fault => s!"Failed to parse {name}: {fault.message}"
  | .malformed cause line column offset =>
    s!"Failed to parse {name}: {(Json.Fault.malformed cause line column offset).message}"
  | .notObject => s!"{name} must contain a JSON object at the root"
  | .shape faults =>
    s!"{name} does not match the {described} manifest shape: {shapeMessage shape faults}"

/-- Why loading a document ends: a fault of the document, or a limit of the reader, which counts as no
fault of the document. -/
inductive LoadFault
  | document (name : String) (fault : DocumentFault)
  | excess (e : Json.Excess)
deriving DecidableEq, Repr

/-- The text of a file's bytes: one byte order mark in front is dropped, also one that breaks off at
the end of the file, and line ends are made alike. -/
def documentText (bytes : List UInt8) : Except Text.Utf8Fault (List Char) :=
  if bytes = [0xEF] || bytes = [0xEF, 0xBB] then .ok []
  else (Text.decodeStrict (Text.dropByteOrderMark bytes)).map Text.unifyLineEnds

/-- The document in a file, by the rule for its shape. -/
def loadDocument {α : Type} (rule : Rule α) (v : Volume) (p : Path) : Except LoadFault α :=
  let fault (f : DocumentFault) : Except LoadFault α := .error (.document p.name f)
  match v.read p with
  | .error f => fault (.unreadable f)
  | .ok bytes =>
    match documentText bytes with
    | .error f => fault (.undecodable f)
    | .ok text =>
      match Json.parse (v.host.room .text p) text with
      | .error (.excess e) => .error (.excess e)
      | .error (.malformed cause line column offset) =>
        fault (.malformed cause line column offset)
      | .ok (.obj fields) =>
        match rule (.obj fields) with
        | .good document => .ok document
        | .bad faults => fault (.shape faults)
      | .ok _ => fault .notObject

def loadProject (v : Volume) (p : Path) : Except LoadFault ProjectDocument :=
  loadDocument ProjectDocument.rule v p

def loadPlugin (v : Volume) (p : Path) : Except LoadFault PluginDocument :=
  loadDocument PluginDocument.rule v p

def projectFaultMessage (name : String) (fault : DocumentFault) : String :=
  fault.message name "project" "ProjectDocument"

def pluginFaultMessage (name : String) (fault : DocumentFault) : String :=
  fault.message name "plugin" "PluginDocument"

end ProjectAtlas
