import ProjectAtlas.Text.Case

/-!
Choosing the scanners of a project. The first candidate of each wanted name is built, and no other.
-/

namespace ProjectAtlas

inductive DiscoveryFault
  | notLoaded (name cause : String)
  | raised (cause : String)
  | neitherScannerNorFactory (name : String)
  | notScanner (name shown : String)
  | unknown (names : List String)
deriving DecidableEq, Repr

def DiscoveryFault.message : DiscoveryFault → String
  | .notLoaded name cause => "Cannot load scanner plugin '" ++ name ++ "': " ++ cause
  | .raised cause => cause
  | .neitherScannerNorFactory name =>
    "Scanner plugin '" ++ name ++ "' must be an Analyzer or a factory"
  | .notScanner name shown => "Scanner '" ++ name ++ "' is not an Analyzer: " ++ shown
  | .unknown names => "No such scanner(s): " ++ ", ".intercalate names

/-- What stands behind the name of an additional scanner: a scanner, a factory that makes one, that makes
something else or that fails, or nothing of use. -/
inductive Offer (α : Type)
  | scanner (a : α)
  | factory (a : α)
  | badFactory (shown : String)
  | failing (cause : String)
  | useless
  | broken (cause : String)
deriving DecidableEq, Repr

/-- A candidate: its name in small letters, and what building it gives. -/
structure Candidate (α : Type) where
  name : String
  build : Except DiscoveryFault α

/-- An additional scanner under the name that it is registered with. -/
def Offer.candidate {α : Type} (name : String) (o : Offer α) : Candidate α :=
  { name := Text.lower name
    build := match o with
      | .scanner a => .ok a
      | .factory a => .ok a
      | .badFactory shown => .error (.notScanner (Text.lower name) shown)
      | .failing cause => .error (.raised cause)
      | .useless => .error (.neitherScannerNorFactory name)
      | .broken cause => .error (.notLoaded name cause) }

/-- The first candidate of each wanted name; without a list of names, all are wanted. `taken` holds the
names in front of the list. -/
def firstWanted {α : Type} (wanted : Option (List String)) (taken : List String) :
    List (Candidate α) → List (Candidate α)
  | [] => []
  | c :: cs =>
    if taken.contains c.name || !wanted.all (·.contains c.name) then firstWanted wanted taken cs
    else c :: firstWanted wanted (c.name :: taken) cs

def sortedNames (names : List String) : List String :=
  names.mergeSort.eraseDups

/-- Build the wanted scanners. The names in `enabled` are compared without regard to case, and each
has to be that of a candidate. -/
def discover {α : Type} (enabled : Option (List String)) (cs : List (Candidate α)) :
    Except DiscoveryFault (List α) :=
  let wanted := enabled.map (·.map Text.lower)
  let chosen := firstWanted wanted [] cs
  (chosen.mapM Candidate.build).bind fun built =>
    match sortedNames ((wanted.getD []).filter fun n => !chosen.any (·.name == n)) with
    | [] => .ok built
    | unknown => .error (.unknown unknown)

end ProjectAtlas
