import ProjectAtlas.Index.Basic

/-!
Statistics of an index.
-/

namespace ProjectAtlas

/-- The numbers that a summary reports. -/
structure Summary where
  projectName : String
  engineAssociation : String
  platforms : List String
  modules : List String
  declarationsByKind : List (String × Nat)
  declarations : Nat
  callables : Nat
  invokableCallables : Nat
  assets : Nat
  assetsByType : List (String × Nat)
  assetBytes : Nat
  blueprints : Nat
  plugins : Nat
  enabledPlugins : Nat
  pluginCategories : List (String × Nat)
  collisions : List (String × Nat)
  issues : List (String × Nat)
deriving DecidableEq, Repr

/-- How many declarations there are of each kind: first of the known kinds, also of those that do not
occur. -/
def countKinds (kinds : List String) : List (String × Nat) :=
  (DeclarationKind.known.map fun k => (k.marker, kinds.count k.marker)) ++
    (tally kinds).filter fun e => (DeclarationKind.ofMarker? e.1).isNone

def Index.summary (ix : Index) : Summary :=
  { projectName := ix.project.name
    engineAssociation := ix.project.engineAssociation
    platforms := ix.project.targetPlatforms
    modules := ix.moduleTable.keys
    declarationsByKind := countKinds ((ix.declarations none).map (·.kind.marker))
    declarations := ix.declarationTable.size
    callables := ix.callableTable.size
    invokableCallables := (ix.callables (some true)).length
    assets := ix.assetTable.size
    assetsByType := tally ((ix.assets none).map (·.type))
    assetBytes := (ix.assets none).foldl (· + ·.size) 0
    blueprints := ix.blueprints.length
    plugins := ix.pluginTable.size
    enabledPlugins := (ix.plugins (some true)).length
    pluginCategories := tally (((ix.plugins none).filterMap (·.category)).filter (· != ""))
    collisions := ix.collisions
    issues := tally (ix.issues.map (·.kind.label)) }

end ProjectAtlas
