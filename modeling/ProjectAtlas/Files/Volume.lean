import ProjectAtlas.Files.Node
import ProjectAtlas.Files.Path
import ProjectAtlas.Text.Quoted
import ProjectAtlas.Text.Surrogate
import ProjectAtlas.Yaml.Value

/-!
Looking up paths in a tree of files: links are followed as an operating system follows them, and
every failure has its cause. A volume also has the host that reads the files, as far as it decides what
reading them gives.
-/

namespace ProjectAtlas

/-- Why a path does not lead to what is asked for. -/
inductive FileCause
  | missing
  | denied
  | notDirectory
  | isDirectory
  | nameTooLong
  | tooManyLinks
deriving DecidableEq, Repr

def FileCause.message : FileCause → String
  | .missing => "[Errno 2] No such file or directory"
  | .denied => "[Errno 13] Permission denied"
  | .notDirectory => "[Errno 20] Not a directory"
  | .isDirectory => "[Errno 21] Is a directory"
  | .nameTooLong => "[Errno 36] File name too long"
  | .tooManyLinks => "[Errno 40] Too many levels of symbolic links"

/-- A look-up that fails for this cause has found nothing; any other cause leaves open what is there. -/
def FileCause.isAbsence : FileCause → Bool
  | .missing | .notDirectory | .tooManyLinks => true
  | .denied | .isDirectory | .nameTooLong => false

structure FileFault where
  cause : FileCause
  path : String
deriving DecidableEq, Repr

def FileFault.message (f : FileFault) : String :=
  s!"{f.cause.message}: {Text.quoted f.path}"

/-- Why links are not followed to their end: they lead in a circle, at the place that the names lead to,
or too many of them lead to one another for the stack. -/
inductive LinkStop
  | circle (names : List String)
  | tooDeep
deriving DecidableEq, Repr

/-- What goes down level by level and takes room on the stack for each level: reading a text that
nests, walking a tree of directories, and following links that lead to links. -/
inductive Descent
  | text
  | tree
  | links
deriving DecidableEq, Repr

/-- The room on a stack of which nothing else is said. -/
def usualRoom : Nat := 400

/-- A machine that reads files. The stack has room for a number of levels of each descent, which can
depend on the path that the descent is about; and the settings in a text are given by a loader, as a
value that is unfolded to a depth. -/
structure Host where
  room : Descent → Path → Nat := fun _ _ => usualRoom
  loadSettings : Nat → List Char → Except Yaml.Fault Yaml.Value := Yaml.load usualRoom

def tooDeepMessage : String := "maximum recursion depth exceeded"

/-- All files, from the root directory on; the working directory by the names that lead to it from the
root; the home directories of users, the first for the user without a name; and the host that reads
the files. -/
structure Volume where
  root : Node
  workingDirectory : List String := []
  homes : List (String × Path) := []
  host : Host := {}

namespace Volume

def maxLinks : Nat := 40

def maxNameBytes : Nat := 255

def maxPathBytes : Nat := 4095

/-- The place that a text in a link names: where to start, and the names from there. -/
def linkStart (target : String) (here : List String) : List String × List String :=
  let p := Path.ofString target
  (match p.anchor with
    | .relative => here
    | _ => [], p.parts)

/-- Go on from the directory `here` along `names`. At a link, `follow` goes on from the place that
the link names. -/
def stepAlong (v : Volume)
    (follow : List String → List String → Except FileCause (List String)) (here : List String) :
    List String → Except FileCause (List String)
  | [] => .ok here
  | n :: ns =>
    match v.root.at? here with
    | some (.dir entries _) =>
      if n = ".." then stepAlong v follow here.dropLast ns
      else match entries.lookup n with
        | none => .error (if maxNameBytes < Text.byteCount n then .nameTooLong else .missing)
        | some (.link target) =>
          let (start, first) := linkStart target here
          follow start (first ++ ns)
        | some _ => stepAlong v follow (here ++ [n]) ns
    | some .sealed => .error .denied
    | some _ => .error .notDirectory
    | none => .error .missing

/-- Go on from `here` along `names`, following less than `links` links. -/
def locateFrom (v : Volume) : Nat → List String → List String → Except FileCause (List String)
  | 0 => fun _ _ => .error .tooManyLinks
  | links + 1 => stepAlong v (locateFrom v links)

def holdsZero (n : String) : Bool :=
  n.toList.contains '\x00'

/-- A name that no file can have: it holds a zero, or half of a surrogate pair that stands for no
byte. -/
def isUnnameable (n : String) : Bool :=
  holdsZero n || n.toList.any fun c => (Text.halfCode? c).isSome && !Text.isByteHalf c

/-- The place from which the names of a path lead on. -/
def startOf (v : Volume) (p : Path) : List String :=
  match p.anchor with
  | .relative => v.workingDirectory
  | _ => []

/-- The text of the path is too long to be looked up. -/
def isTooLong (p : Path) : Bool :=
  maxPathBytes < Text.byteCount p.toString

/-- The place of a path, by the names that lead to it from the root without any link. -/
def locate (v : Volume) (p : Path) : Except FileCause (List String) :=
  if p.parts.any isUnnameable then .error .missing
  else if isTooLong p then .error .nameTooLong
  else locateFrom v (maxLinks + 1) (startOf v p) p.parts

/-- What stands at the end of a path. -/
def find (v : Volume) (p : Path) : Except FileCause Node :=
  (v.locate p).bind fun place =>
    match v.root.at? place with
    | some node => .ok node
    | none => .error .missing

/-- What stands at the end of a path passes a test. If nothing is there, it does not. -/
def passes (v : Volume) (test : Node → Bool) (p : Path) : Except FileFault Bool :=
  match v.find p with
  | .ok node => .ok (test node)
  | .error cause => if cause.isAbsence then .ok false else .error ⟨cause, p.toString⟩

def isDir (v : Volume) (p : Path) : Except FileFault Bool :=
  v.passes Node.isDir p

def isFile (v : Volume) (p : Path) : Except FileFault Bool :=
  v.passes Node.isFile p

/-- The path is known to lead to a directory: a look-up that fails counts as none. -/
def showsDir (v : Volume) (p : Path) : Bool :=
  match v.find p with
  | .ok node => node.isDir
  | .error _ => false

/-- The names of the entries of a directory, in the order in which they are listed. -/
def list (v : Volume) (p : Path) : Except FileFault (List String) :=
  match v.find p with
  | .error cause => .error ⟨cause, p.toString⟩
  | .ok (.dir entries locked) =>
    if locked then .error ⟨.denied, p.toString⟩ else .ok (entries.map (·.1))
  | .ok .sealed => .error ⟨.denied, p.toString⟩
  | .ok _ => .error ⟨.notDirectory, p.toString⟩

def read (v : Volume) (p : Path) : Except FileFault (List UInt8) :=
  match v.find p with
  | .error cause => .error ⟨cause, p.toString⟩
  | .ok (.file content locked) =>
    if locked then .error ⟨.denied, p.toString⟩ else .ok content.toBytes
  | .ok _ => .error ⟨.isDirectory, p.toString⟩

/-- The number of bytes of a file; a directory has none. -/
def size (v : Volume) (p : Path) : Except FileFault Nat :=
  match v.find p with
  | .error cause => .error ⟨cause, p.toString⟩
  | .ok (.file content _) => .ok content.size
  | .ok _ => .ok 0

/-- The canonical path of `names` seen from `here`, as far as links lead somewhere: a name that does
not exist or is out of reach is kept, and a double dot takes the name in front of it away. `active`
holds the places of the links that are being followed; a link that leads back to itself ends the search,
with the names that are left appended. -/
def canonicalAlong (v : Volume)
    (follow : List (List String) → List String → List String → Except LinkStop (List String))
    (active : List (List String)) (here : List String) :
    List String → Except LinkStop (List String)
  | [] => .ok here
  | n :: ns =>
    if n = ".." then canonicalAlong v follow active here.dropLast ns
    else
      let place := here ++ [n]
      match v.root.at? place with
      | some (.link target) =>
        if active.contains place then .error (.circle (place ++ ns))
        else
          let (start, first) := linkStart target here
          match follow (place :: active) start first with
          | .ok there => canonicalAlong v follow active there ns
          | .error (.circle there) => .error (.circle (there ++ ns))
          | .error .tooDeep => .error .tooDeep
      | _ => canonicalAlong v follow active place ns

/-- The canonical path, following less than `levels` links inside one another. -/
def canonicalFrom (v : Volume) : Nat → List (List String) → List String → List String →
    Except LinkStop (List String)
  | 0 => fun _ _ _ => .error .tooDeep
  | levels + 1 => canonicalAlong v (canonicalFrom v levels)

/-- The names without double dots: each takes the name in front of it away. -/
def withoutUps (ns : List String) : List String :=
  ns.foldl (fun done n => if n = ".." then done.dropLast else done ++ [n]) []

end Volume

/-- Why a path is no place to start from. -/
inductive RootFault
  | unknownHome
  | zeroByte
  | linksInCircle (path : Path)
  | linksTooDeep
deriving DecidableEq, Repr

def RootFault.message : RootFault → String
  | .unknownHome => "Could not determine home directory."
  | .zeroByte => "embedded null byte"
  | .linksInCircle path => s!"Symlink loop from {Text.quoted path.toString}"
  | .linksTooDeep => tooDeepMessage

namespace Volume

/-- The canonical path of `p`. Links in a circle do not matter if double dots lead back out of it. -/
def canonical (v : Volume) (p : Path) : Except RootFault Path :=
  let anchor := match p.anchor with
    | .doubleRoot => Anchor.doubleRoot
    | _ => .root
  match canonicalFrom v (v.host.room .links p + 1) [] (startOf v p) p.parts with
  | .ok parts => .ok ⟨anchor, parts⟩
  | .error .tooDeep => .error .linksTooDeep
  | .error (.circle parts) =>
    let left : Path := ⟨anchor, withoutUps parts⟩
    match v.locate left with
    | .error .tooManyLinks => .error (.linksInCircle left)
    | _ => .ok left

/-- The path with the home directory of a user in place of a first name that starts with a tilde. -/
def expandHome (v : Volume) (p : Path) : Except RootFault Path :=
  match p.anchor, p.parts with
  | .relative, n :: ns =>
    if n.toList.head? = some '~' then
      match v.homes.lookup (String.ofList (n.toList.drop 1)) with
      | some home => .ok ⟨home.anchor, home.parts ++ ns⟩
      | none => .error (if holdsZero n then .zeroByte else .unknownHome)
    else .ok p
  | _, _ => .ok p

def resolve (v : Volume) (p : Path) : Except RootFault Path :=
  if p.parts.any holdsZero then .error .zeroByte else v.canonical p

def startFrom (v : Volume) (p : Path) : Except RootFault Path :=
  (v.expandHome p).bind v.resolve

end Volume

end ProjectAtlas
