import ProjectAtlas.Entity
import ProjectAtlas.Files.Volume
import ProjectAtlas.Journal
import ProjectAtlas.Walk.IgnoreRule

/-!
The files below a directory, in order.

The files of a directory come first, by name, and then its subdirectories, by name. A link to a
directory is not entered; a link that leads nowhere counts as a file. A directory that cannot be
listed is left out and reported in its place. Only two things stop a walk: its root cannot be looked up,
or its directories lie inside one another too deep for the stack.
-/

namespace ProjectAtlas

/-- Names of directories that hold no sources or content of a project. -/
def excludedDirectories : List String :=
  [".git", ".hg", ".svn", ".vs", ".idea", "Binaries", "DerivedDataCache", "Intermediate", "Saved"]

def excludedFiles : List String :=
  [".DS_Store", "Thumbs.db"]

/-- What a walk starts from, which rules it follows, and which files it admits. The rules see paths
relative to `base`, the answers paths relative to `root`. -/
structure Walk where
  root : Path
  base : Path
  rules : List IgnoreRule := []
  admits : Path → Bool := fun _ => true

/-- A thing met on a walk: a file, or a directory that cannot be listed. -/
inductive Met
  | file (path : Path) (relative : String)
  | unlisted (fault : FileFault)
deriving DecidableEq, Repr

def joinRelative (directory name : String) : String :=
  if directory.isEmpty then name else directory ++ "/" ++ name

def sortByName {α : Type} (xs : List (String × α)) : List (String × α) :=
  xs.mergeSort fun a b => a.1 ≤ b.1

namespace Walk

/-- The walk enters a subdirectory of this name in the directory `here`. -/
def enters (w : Walk) (here : Path) (name : String) : Bool :=
  !excludedDirectories.contains name &&
    !shouldIgnore w.rules (joinRelative (here.relativeText w.base) name) true

/-- The walk yields a file of this name in the directory `here`. -/
def yields (w : Walk) (here : Path) (name : String) : Bool :=
  !excludedFiles.contains name &&
    !shouldIgnore w.rules (joinRelative (here.relativeText w.base) name) false &&
    w.admits (here.entry name)

/-- Why a directory at the path `here` is not listed, if it is not: the path is too long, or the directory
is shut. -/
def barred? (here : Path) : Node → Option FileCause
  | .dir _ false => if Volume.isTooLong here then some .nameTooLong else none
  | .dir _ true | .sealed => some (if Volume.isTooLong here then .nameTooLong else .denied)
  | .file _ _ | .link _ => none

/-- The files among the entries of the directory `here`, whose place is `place`: all that is not a
directory and no link to one. -/
def ownFiles (v : Volume) (w : Walk) (place : List String) (here : Path)
    (entries : List (String × Node)) : List Met :=
  let names := (entries.filter fun e => match e.2 with
    | .dir _ _ | .sealed => false
    | .file _ _ => true
    | .link _ => !v.showsDir ⟨.root, place ++ [e.1]⟩)
  ((sortByName names).filter fun e => w.yields here e.1).map fun e =>
    .file (here.entry e.1) (joinRelative (here.relativeText w.root) e.1)

/-- The report of a directory that is not listed. -/
def barredMet (here : Path) (cause : FileCause) : Met :=
  .unlisted ⟨cause, here.toString⟩

mutual

/-- What is met in the directory `here`, whose place is `place`. -/
def below (v : Volume) (w : Walk) (place : List String) (here : Path) : Node → List Met
  | .dir entries locked =>
    match barred? here (.dir entries locked) with
    | some cause => [barredMet here cause]
    | none =>
      ownFiles v w place here entries ++
        ((sortByName (belowEach v w place here entries)).filter fun e =>
          w.enters here e.1).flatMap (·.2)
  | .sealed => (barred? here .sealed).toList.map (barredMet here)
  | .file _ _ | .link _ => []

/-- What is met in each directory among the entries of `here`. -/
def belowEach (v : Volume) (w : Walk) (place : List String) (here : Path) :
    List (String × Node) → List (String × List Met)
  | [] => []
  | (n, node) :: es => (n, below v w (place ++ [n]) (here.entry n) node) :: belowEach v w place here es

end

mutual

/-- The number of directories inside one another that are entered from `here` on, itself included. -/
def levels (w : Walk) (here : Path) : Node → Nat
  | .dir entries locked =>
    if (barred? here (.dir entries locked)).isSome then 1 else levelsEach w here entries + 1
  | .sealed => 1
  | .file _ _ | .link _ => 0

/-- The largest such number among the entries of `here`. -/
def levelsEach (w : Walk) (here : Path) : List (String × Node) → Nat
  | [] => 0
  | (n, node) :: es =>
    max (if w.enters here n then levels w (here.entry n) node else 0) (levelsEach w here es)

end

/-- The place of the root and what stands there, if it is anything. -/
def top? (v : Volume) (w : Walk) : Option (List String × Node) :=
  match v.locate w.root with
  | .ok place => (v.root.at? place).map fun node => (place, node)
  | .error _ => none

/-- All that a walk meets that nothing stops; nothing if its root is no directory. -/
def met (v : Volume) (w : Walk) : List Met :=
  match w.top? v with
  | some (place, node) => below v w place w.root node
  | none => []

/-- The number of directories inside one another that the walk enters. -/
def depth (v : Volume) (w : Walk) : Nat :=
  match w.top? v with
  | some (_, node) => levels w w.root node
  | none => 0

end Walk

/-- Why a walk stops: its root cannot be looked up, or the stack has no room for its directories. -/
inductive WalkStop
  | unreachable (fault : FileFault)
  | tooDeep
deriving DecidableEq, Repr

/-- What is met on the whole walk. -/
def Walk.run (v : Volume) (w : Walk) : Except WalkStop (List Met) :=
  match v.isDir w.root with
  | .error fault => .error (.unreachable fault)
  | .ok _ => if v.host.room .tree w.root < w.depth v then .error .tooDeep else .ok (w.met v)

/-- The files met, with their paths relative to the root of the walk. -/
def filesMet (ms : List Met) : List (Path × String) :=
  ms.filterMap fun
    | .file path relative => some (path, relative)
    | .unlisted _ => none

def unlistedMet (ms : List Met) : List FileFault :=
  ms.filterMap fun
    | .unlisted fault => some fault
    | .file _ _ => none

def unlistedIssue (fault : FileFault) : Issue :=
  ⟨.directoryUnreadable, fault.path, fault.message⟩

def unlistedEntry (fault : FileFault) : JournalEntry :=
  ⟨"walker", .debug, s!"Skipping unreadable directory {fault.path}: {fault.message}"⟩

end ProjectAtlas
