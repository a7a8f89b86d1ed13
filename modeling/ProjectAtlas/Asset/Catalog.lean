import ProjectAtlas.Asset.Type
import ProjectAtlas.Config.Basic
import ProjectAtlas.Scanner.Basic

/-!
The catalogue of content files: one entry for each file with a suffix of content files, by its path
relative to the content directory.
-/

namespace ProjectAtlas

/-- What one thing met in the content directory gives. -/
inductive AssetOutcome
  | cataloged (asset : Asset)
  | unreadable (path : String) (fault : FileFault)
  | unlisted (fault : FileFault)
deriving DecidableEq, Repr

namespace AssetOutcome

def asset? : AssetOutcome → Option Asset
  | cataloged asset => some asset
  | _ => none

def issue? : AssetOutcome → Option Issue
  | cataloged _ => none
  | unreadable path fault => some ⟨.fileUnreadable, path, fault.message⟩
  | unlisted fault => some (unlistedIssue fault)

def journal : AssetOutcome → List JournalEntry
  | cataloged _ => []
  | unreadable path fault =>
    [⟨"analyzers.assets", .debug, s!"Skipping asset {path}: {fault.message}"⟩]
  | unlisted fault => [unlistedEntry fault]

end AssetOutcome

def assetOutcome (v : Volume) : Met → AssetOutcome
  | .unlisted fault => .unlisted fault
  | .file path relative =>
    match v.size path with
    | .error fault => .unreadable relative fault
    | .ok size =>
      .cataloged
        { name := (Path.ofString relative).stem
          path := relative
          type := assetType relative
          size }

def contentRoot (config : Config) (p : Project) : Path :=
  (Path.ofString p.root).child config.directories.content

/-- The report on the content files met below `root`. -/
def assetReport (v : Volume) (root : Path) (met : List Met) : Report :=
  let outcomes := met.map (assetOutcome v)
  let assets := outcomes.filterMap (·.asset?)
  { findings := { assets, issues := outcomes.filterMap (·.issue?) }
    journal := outcomes.flatMap (·.journal) ++
      [⟨"analyzers.assets", .debug,
        s!"Cataloged {assets.length} assets under {root.toString}"⟩] }

def contentWalk (config : Config) (p : Project) : Walk :=
  { root := contentRoot config p
    base := Path.ofString p.root
    rules := config.rules
    admits := isAssetFile }

def catalogAssets (config : Config) (v : Volume) (p : Project) : Except ScanStop Report :=
  (scanMet v (contentWalk config p)).map (assetReport v (contentRoot config p))

def assetScanner (config : Config) : Scanner where
  title := "AssetCataloger"
  supports v p := (v.isDir (contentRoot config p)).mapError .unreachable
  analyze := catalogAssets config

end ProjectAtlas
