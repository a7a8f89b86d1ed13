import ProjectAtlas.Entity

/-!
What scanners find, and how the findings of several scanners are put together: one after the other,
with nothing replaced.
-/

namespace ProjectAtlas

/-- The names declared in each module, in the order of the modules' first appearance. -/
abbrev ModuleNames := List (String × List String)

/-- Add names to those of a module; a module that is not there comes last. -/
def ModuleNames.add (module : String) (names : List String) : ModuleNames → ModuleNames
  | [] => [(module, names)]
  | (m, ns) :: rest =>
    if m = module then (m, ns ++ names) :: rest else (m, ns) :: add module names rest

/-- Lists of entities, and of the items that were left out. -/
structure Findings where
  declarations : List Declaration := []
  callables : List Callable := []
  assets : List Asset := []
  plugins : List Plugin := []
  moduleDeclarations : ModuleNames := []
  issues : List Issue := []
deriving DecidableEq, Repr

namespace Findings

/-- The findings `f` followed by the findings `g`. -/
def extend (f g : Findings) : Findings :=
  { declarations := f.declarations ++ g.declarations
    callables := f.callables ++ g.callables
    assets := f.assets ++ g.assets
    plugins := f.plugins ++ g.plugins
    moduleDeclarations :=
      g.moduleDeclarations.foldl (fun all m => all.add m.1 m.2) f.moduleDeclarations
    issues := f.issues ++ g.issues }

def concat (fs : List Findings) : Findings :=
  fs.foldl extend {}

end Findings

end ProjectAtlas
