import ProjectAtlas.Files.Change
import ProjectAtlas.Json.Basic
import ProjectAtlas.Text.Percent

/-!
Files that are described by a value: an object with a content for each path.

A content is the text of a file, or an object. The object holds the text of a file, its bytes in
hexadecimal digits, the size of a file of zeros, or the target of a link; any other object stands for a
directory. A file or a directory may be locked, and a directory may be sealed.
-/

namespace ProjectAtlas.Snapshot

/-- The bytes that pairs of hexadecimal digits stand for; what is no such pair ends them. -/
def hexBytes : List Char → List UInt8
  | a :: b :: cs =>
    match Text.hexByte? a b with
    | some byte => byte :: hexBytes cs
    | none => []
  | _ => []

def isSet (v : Json) (key : String) : Bool :=
  match v.field? key with
  | some (.bool b) => b
  | _ => false

def nodeOfFields (v : Json) : Node :=
  let locked := isSet v "locked"
  match v.field? "link", v.field? "text", v.field? "hex", v.field? "size" with
  | some (.str target), _, _, _ => .link target
  | _, some (.str s), _, _ => .file (.bytes (Text.encodeUtf8 s)) locked
  | _, _, some (.str s), _ => .file (.bytes (hexBytes s.toList)) locked
  | _, _, _, some (.int n) => .file (.zeros n.toNat) locked
  | _, _, _, _ => if isSet v "sealed" then .sealed else .dir [] locked

def nodeOf : Json → Node
  | .str s => .file (.bytes (Text.encodeUtf8 s)) false
  | v => nodeOfFields v

/-- Put what a value describes into a volume, one path after the other. The paths are seen from
`base`. -/
def putAll (v : Volume) (base : Path) : Json → Volume
  | .obj fields => fields.foldl (fun v f => v.put (base.child f.1) (nodeOf f.2)) v
  | _ => v

end ProjectAtlas.Snapshot
