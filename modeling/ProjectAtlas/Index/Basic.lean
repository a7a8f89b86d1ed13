import ProjectAtlas.Asset.Type
import ProjectAtlas.Findings
import ProjectAtlas.Index.Table
import ProjectAtlas.Text.Pieces

/-!
The index of a project: everything that was found, by name.

Declarations have their name as key, functions their owner and name, plugins their name. Content files
are listed by path and looked up by name. A later entity with the same key replaces an earlier one,
and each replacement is counted as a collision. A search takes the entities with a text inside of their
names; the case of letters does not count.
-/

namespace ProjectAtlas

def Callable.key (c : Callable) : String × String :=
  (c.owner, c.name)

/-- The keys of entities that replaced others. -/
structure Replaced where
  declarations : List String
  callables : List (String × String)
  assets : List String
  plugins : List String
deriving DecidableEq, Repr

def Findings.replaced (f : Findings) : Replaced :=
  { declarations := repeated (f.declarations.map (·.name))
    callables := repeated (f.callables.map Callable.key)
    assets := repeated (f.assets.map (·.name))
    plugins := repeated (f.plugins.map (·.name)) }

structure Index where
  project : Project
  issues : List Issue
  replaced : Replaced
  declarationTable : Table String Declaration
  callableTable : Table (String × String) Callable
  callablesByOwner : Table String (List Callable)
  assetTable : Table String Asset
  assetsByName : Table String Asset
  pluginTable : Table String Plugin
  moduleTable : Table String ModuleRef
deriving DecidableEq, Repr

/-- The modules of a project with the names that are declared in them. -/
def modulesWithNames (modules : List ModuleRef) (names : ModuleNames) : Table String ModuleRef :=
  Table.ofList (·.name) <| modules.map fun m =>
    { m with declarations := firsts ((names.lookup m.name).getD []) }

/-- The index of a project over what was found. -/
def Index.build (project : Project) (f : Findings) : Index :=
  let callableTable := Table.ofList Callable.key f.callables
  { project
    issues := f.issues
    replaced := f.replaced
    declarationTable := Table.ofList (·.name) f.declarations
    callableTable
    callablesByOwner := Table.group (·.owner) callableTable.items
    assetTable := Table.ofList (·.path) f.assets
    assetsByName := Table.ofList (·.name) f.assets
    pluginTable := Table.ofList (·.name) f.plugins
    moduleTable := modulesWithNames project.modules f.moduleDeclarations }

/-- The text `query` stands somewhere in one of the fields, up to case. -/
def anyHolds (query : String) (fields : List String) : Bool :=
  fields.any fun field => Text.contains (Text.lower field) (Text.lower query)

namespace Index

/-- The number of replaced entities of each sort. -/
def collisions (ix : Index) : List (String × Nat) :=
  [("declarations", ix.replaced.declarations.length), ("callables", ix.replaced.callables.length),
    ("assets", ix.replaced.assets.length), ("plugins", ix.replaced.plugins.length)]

/-- The declarations, or those of a kind; the case of the kind's name does not count. -/
def declarations (ix : Index) (kind : Option String) : List Declaration :=
  match kind with
  | none => ix.declarationTable.items
  | some k => ix.declarationTable.items.filter fun d => d.kind.marker == Text.upper k

def findDeclaration (ix : Index) (name : String) : Option Declaration :=
  ix.declarationTable.get? name

/-- The functions, or those that visual scripts can call, or those that they cannot. -/
def callables (ix : Index) (invokable : Option Bool) : List Callable :=
  match invokable with
  | none => ix.callableTable.items
  | some b => ix.callableTable.items.filter fun c => c.blueprintCallable == b

def callablesOf (ix : Index) (owner : String) : List Callable :=
  (ix.callablesByOwner.get? owner).getD []

def findCallables (ix : Index) (name : String) : List Callable :=
  ix.callableTable.items.filter fun c => c.name == name

/-- The content files, or those of a type; case does not count. -/
def assets (ix : Index) (type : Option String) : List Asset :=
  match type with
  | none => ix.assetTable.items
  | some t => ix.assetTable.items.filter fun a => Text.lower a.type == Text.lower t

def blueprints (ix : Index) : List Asset :=
  ix.assets (some blueprintType)

def findAsset (ix : Index) (name : String) : Option Asset :=
  ix.assetsByName.get? name

def assetAt (ix : Index) (path : String) : Option Asset :=
  ix.assetTable.get? path

def plugins (ix : Index) (enabled : Option Bool) : List Plugin :=
  match enabled with
  | none => ix.pluginTable.items
  | some b => ix.pluginTable.items.filter fun p => p.enabled == b

def findPlugin (ix : Index) (name : String) : Option Plugin :=
  ix.pluginTable.get? name

/-- The plugins of a category; case does not count. -/
def pluginsByCategory (ix : Index) (category : String) : List Plugin :=
  ix.pluginTable.items.filter fun p => p.category.any fun c => Text.lower c == Text.lower category

/-- A plugin of this name is there and installed. -/
def isPluginInstalled (ix : Index) (name : String) : Bool :=
  (ix.findPlugin name).any (·.installed)

def modules (ix : Index) : List ModuleRef :=
  ix.moduleTable.items

def findModule (ix : Index) (name : String) : Option ModuleRef :=
  ix.moduleTable.get? name

def searchDeclarations (ix : Index) (query : String) : List Declaration :=
  (ix.declarations none).filter fun d => anyHolds query [d.name, d.kind.marker]

def searchCallables (ix : Index) (query : String) : List Callable :=
  (ix.callables none).filter fun c => anyHolds query [c.name, c.owner]

def searchAssets (ix : Index) (query : String) : List Asset :=
  (ix.assets none).filter fun a => anyHolds query [a.name, a.path, a.type]

/-- The plugins whose name, friendly name or category holds the query. -/
def searchPlugins (ix : Index) (query : String) : List Plugin :=
  (ix.plugins none).filter fun p =>
    anyHolds query [p.name, p.friendlyName.getD "", p.category.getD ""]

end Index

end ProjectAtlas
