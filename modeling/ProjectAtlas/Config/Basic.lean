import ProjectAtlas.Manifest.Project
import ProjectAtlas.Source.Classifier

/-!
The settings of an index: which scanners run, how far they look, and where they look.
-/

namespace ProjectAtlas

/-- Which scanners run, all of them if none is named, and paths that they leave out. -/
structure ScannerChoice where
  enabled : List String := []
  excludePaths : List String := []
deriving DecidableEq, Repr

def defaultExtensions : List String := [".h", ".hpp", ".cpp"]

/-- How the scanners work. -/
structure ScanOptions where
  maxWorkers : Nat := 4
  windows : Source.Windows := {}
  extensions : List String := defaultExtensions
deriving DecidableEq, Repr

structure Config where
  scanners : ScannerChoice := {}
  scan : ScanOptions := {}
  directories : Directories := {}
  excludePaths : List String := []
deriving DecidableEq, Repr

def Config.allExcludePaths (c : Config) : List String :=
  c.excludePaths ++ c.scanners.excludePaths

def Config.rules (c : Config) : List IgnoreRule :=
  ignoreRules c.allExcludePaths

end ProjectAtlas
