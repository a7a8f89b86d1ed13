import ProjectAtlas.Files.Path
import ProjectAtlas.Text.Case

/-!
The type of a content file, by its path alone: the suffix decides before the directories, and those
before the first letters of the name.
-/

namespace ProjectAtlas

def assetSuffixes : List String :=
  [".uasset", ".umap", ".ubulk", ".uplugin", ".upluginmanifest"]

def genericType : String := "Generic"

def blueprintType : String := "Blueprint"

def typesBySuffix : List (String × String) :=
  [(".umap", "Level"), (".uplugin", "Plugin"), (".upluginmanifest", "Plugin")]

def typesByDirectory : List (List String × String) :=
  [(["blueprints", "blueprint"], blueprintType),
    (["materials", "material"], "Material"),
    (["textures", "texture"], "Texture"),
    (["meshes", "mesh", "staticmeshes", "skeletalmeshes"], "Mesh"),
    (["animations", "animation", "anims"], "Animation"),
    (["audio", "sound", "sounds"], "Audio"),
    (["particles", "fx", "vfx", "niagara"], "Particle System"),
    (["ui", "widgets", "hud"], "Widget")]

/-- Types by the first letters of a name; the first that fits counts. -/
def typesByStart : List (String × String) :=
  [("WBP_", "Widget"), ("W_", "Widget"), ("BP_", blueprintType), ("MI_", "Material"),
    ("M_", "Material"), ("T_", "Texture"), ("SM_", "Mesh"), ("SK_", "Mesh"), ("AM_", "Animation"),
    ("A_", "Animation"), ("NS_", "Particle System"), ("P_", "Particle System")]

def directoryType? (name : String) : Option String :=
  (typesByDirectory.find? fun t => t.1.contains (Text.lower name)).map (·.2)

/-- The type of the content file at a path relative to the content directory. -/
def assetType (relative : String) : String :=
  let path := Path.ofString relative
  let bySuffix := typesBySuffix.lookup (Text.lower path.suffix)
  let byDirectory := path.parent.parts.findSome? directoryType?
  let byStart := (typesByStart.find? fun t => t.1.toList.isPrefixOf path.stem.toList).map (·.2)
  ((bySuffix.or byDirectory).or byStart).getD genericType

def isAssetFile (path : Path) : Bool :=
  assetSuffixes.contains (Text.lower path.suffix)

end ProjectAtlas
