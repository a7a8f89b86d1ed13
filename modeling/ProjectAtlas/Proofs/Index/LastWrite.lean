import ProjectAtlas.Index.Basic
import ProjectAtlas.Index.Relations
import ProjectAtlas.Index.Summary
import ProjectAtlas.Proofs.Index.Findings

/-!
The last write wins. Of all entities with one key, from any number of scanners, an index keeps the one
that was given last, at the place of the first; the rest are counted and leave no other trace.
-/

namespace ProjectAtlas

/-- Of entities given one after the other, the last one of each key is kept. It is what a look-up of
the key finds and what the list shows, and the list has the keys in the order in which they first
appeared, each of them once. -/
structure KeepsLast {κ α : Type} [DecidableEq κ] (key : α → κ) (given listed : List α)
    (found : κ → Option α) : Prop where
  found_iff : ∀ k a, found k = some a ↔
    ∃ before after, given = before ++ a :: after ∧ key a = k ∧ ∀ b ∈ after, key b ≠ k
  absent_iff : ∀ k, found k = none ↔ ∀ a ∈ given, key a ≠ k
  distinct : (listed.map key).Nodup
  keys : listed.map key = (given.map key).eraseDups
  listed_found : ∀ a ∈ listed, found (key a) = some a

namespace Table

variable {κ α : Type} [DecidableEq κ]

theorem keepsLast_ofList (key : α → κ) (items : List α) :
    KeepsLast key items (ofList key items).items (ofList key items).get? where
  found_iff := by
    intro k a
    rw [get?_ofList, List.find?_eq_some_iff_append]
    constructor
    · rintro ⟨hKey, after, before, hSplit, hAfter⟩
      refine ⟨before.reverse, after.reverse, ?_, by simpa using hKey, ?_⟩
      · simpa using congrArg List.reverse hSplit
      · intro b hb
        simpa using hAfter b (List.mem_reverse.mp hb)
    · rintro ⟨before, after, rfl, hKey, hAfter⟩
      refine ⟨by simpa using hKey, after.reverse, before.reverse, by simp, ?_⟩
      intro b hb
      simpa using hAfter b (List.mem_reverse.mp hb)
  absent_iff := by
    intro k
    simp [get?_ofList, List.find?_eq_none]
  distinct := by
    rw [map_key_items_ofList]
    exact nodup_keys_ofList key items
  keys := by rw [map_key_items_ofList, keys_ofList]
  listed_found := fun _ ha => get?_key_of_mem_items ha

theorem find?_items_ofList (key : α → κ) (items : List α) (k : κ) :
    ((ofList key items).items.find? fun a => key a = k) = (ofList key items).get? k := by
  rw [Table.items, List.find?_map, get?, ← List.head?_filter, ← List.head?_filter]
  congr 2
  refine List.filter_congr fun e he => ?_
  simp [key_of_mem_ofList he]

theorem group_append_singleton (key : α → κ) (items : List α) (a : α) :
    group key (items ++ [a]) =
      (group key items).put (key a) (((group key items).get? (key a)).getD [] ++ [a]) := by
  simp [group]

/-- The group of a key is what the list has under that key. -/
theorem get?_group (key : α → κ) (items : List α) (k : κ) :
    ((group key items).get? k).getD [] = items.filter (key · = k) := by
  induction items using List.reverseRecOn with
  | nil => rfl
  | append_singleton items a ih =>
      rw [group_append_singleton, get?_put, List.filter_append]
      by_cases hKey : key a = k
      · subst hKey
        simp [ih]
      · simpa [hKey] using ih

/-- Every given item is listed or was replaced. -/
theorem length_items_add_repeated (key : α → κ) (items : List α) :
    (ofList key items).items.length + (repeated (items.map key)).length = items.length := by
  have hListed : (ofList key items).items.length = (items.map key).eraseDups.length := by
    rw [← keys_ofList, ← map_key_items_ofList, List.length_map]
  have hCount := length_repeated (items.map key)
  rw [List.length_map] at hCount
  omega

end Table

namespace Index

/-- Two indexes answer every question alike, the number of collisions apart. -/
structure SameAnswers (x y : Index) : Prop where
  project : x.project = y.project
  issues : x.issues = y.issues
  declarations : x.declarations = y.declarations
  findDeclaration : x.findDeclaration = y.findDeclaration
  searchDeclarations : x.searchDeclarations = y.searchDeclarations
  callables : x.callables = y.callables
  callablesOf : x.callablesOf = y.callablesOf
  findCallables : x.findCallables = y.findCallables
  searchCallables : x.searchCallables = y.searchCallables
  assets : x.assets = y.assets
  blueprints : x.blueprints = y.blueprints
  findAsset : x.findAsset = y.findAsset
  assetAt : x.assetAt = y.assetAt
  searchAssets : x.searchAssets = y.searchAssets
  plugins : x.plugins = y.plugins
  pluginsByCategory : x.pluginsByCategory = y.pluginsByCategory
  findPlugin : x.findPlugin = y.findPlugin
  isPluginInstalled : x.isPluginInstalled = y.isPluginInstalled
  searchPlugins : x.searchPlugins = y.searchPlugins
  modules : x.modules = y.modules
  findModule : x.findModule = y.findModule
  hierarchy : x.hierarchy = y.hierarchy
  edges : x.edges = y.edges
  usages : x.usages = y.usages
  summary : { x.summary with collisions := [] } = { y.summary with collisions := [] }

/-- Chains of parents depend on the declarations that can be looked up, and on nothing else. -/
theorem chainFrom_congr {x y : Index} (hFind : x.findDeclaration = y.findDeclaration)
    (seen : List String) (name : String) (limit : Nat) :
    x.chainFrom seen name limit = y.chainFrom seen name limit := by
  induction limit generalizing seen name with
  | zero => rfl
  | succ limit ih => simp only [chainFrom, hFind, ih]

/-- Only the collisions tell which entities were replaced. -/
theorem sameAnswers_replaced (x : Index) (r : Replaced) :
    SameAnswers x { x with replaced := r } := by
  constructor
  case hierarchy =>
    have hFind : x.findDeclaration = ({ x with replaced := r } : Index).findDeclaration := rfl
    funext name
    exact chainFrom_congr hFind [] name x.declarationTable.size
  all_goals rfl

/-- The findings with the entities that an index over them lists, without those that it replaced. -/
def listedOf (x : Index) (f : Findings) : Findings :=
  { f with
    declarations := x.declarations none
    callables := x.callables none
    plugins := x.plugins none }

theorem build_listedOf (p : Project) (f : Findings) :
    Index.build p (listedOf (Index.build p f) f) =
      { Index.build p f with replaced := (listedOf (Index.build p f) f).replaced } := by
  simp only [Index.build, listedOf, declarations, callables, plugins, Table.ofList_items_ofList]

/-- The table of owners is the list of functions, seen by owner. -/
theorem callablesOf_build (p : Project) (f : Findings) (owner : String) :
    (Index.build p f).callablesOf owner =
      ((Index.build p f).callables none).filter (·.owner == owner) := by
  rw [callablesOf, Index.build, Table.get?_group]
  rfl

/-- An index over the findings of any number of scanners. For declarations by name, functions by owner
and name, plugins by name, content files by path, and content files by name, the last entity of each
key is kept. Those given are those listed and those counted as collisions, which for content files
are counted by name. Nothing else tells of a declaration, a function or a plugin that was replaced:
the functions of an owner or of a name are the listed ones, a search gives listed entities, and every
answer is the same if only the listed entities are given. -/
theorem keepsLast_build_concat (p : Project) (fs : List Findings) :
    let ix := Index.build p (Findings.concat fs)
    let declarations := fs.flatMap (·.declarations)
    let callables := fs.flatMap (·.callables)
    let assets := fs.flatMap (·.assets)
    let plugins := fs.flatMap (·.plugins)
    KeepsLast (·.name) declarations (ix.declarations none) ix.findDeclaration ∧
      KeepsLast Callable.key callables (ix.callables none)
        (fun k => (ix.callablesOf k.1).find? fun c => c.name == k.2) ∧
      KeepsLast (·.name) plugins (ix.plugins none) ix.findPlugin ∧
      KeepsLast (·.path) assets (ix.assets none) ix.assetAt ∧
      KeepsLast (·.name) assets ix.assetsByName.items ix.findAsset ∧
      (∃ d c a q,
        ix.collisions = [("declarations", d), ("callables", c), ("assets", a), ("plugins", q)] ∧
        (ix.declarations none).length + d = declarations.length ∧
        (ix.callables none).length + c = callables.length ∧
        (assets.map (·.name)).eraseDups.length + a = assets.length ∧
        (ix.plugins none).length + q = plugins.length) ∧
      (∀ owner, ix.callablesOf owner = (ix.callables none).filter (·.owner == owner)) ∧
      (∀ name, ix.findCallables name = (ix.callables none).filter (·.name == name)) ∧
      (∀ query, (ix.searchDeclarations query).Sublist (ix.declarations none)) ∧
      (∀ query, (ix.searchCallables query).Sublist (ix.callables none)) ∧
      SameAnswers ix (Index.build p (ix.listedOf (Findings.concat fs))) := by
  intro ix declarations callables assets plugins
  have hDeclarations : (Findings.concat fs).declarations = declarations :=
    Findings.concat_field rfl (fun _ _ => rfl) fs
  have hCallables : (Findings.concat fs).callables = callables :=
    Findings.concat_field rfl (fun _ _ => rfl) fs
  have hAssets : (Findings.concat fs).assets = assets :=
    Findings.concat_field rfl (fun _ _ => rfl) fs
  have hPlugins : (Findings.concat fs).plugins = plugins :=
    Findings.concat_field rfl (fun _ _ => rfl) fs
  have hLookup : (fun k : String × String => (ix.callablesOf k.1).find? fun c => c.name == k.2) =
      (Table.ofList Callable.key (Findings.concat fs).callables).get? := by
    funext k
    rw [← Table.find?_items_ofList, callablesOf_build, List.find?_filter]
    show ((Table.ofList Callable.key _).items.find? _) = _
    congr 1
    funext c
    simp [Callable.key, Prod.ext_iff]
  rw [hLookup, ← hDeclarations, ← hCallables, ← hAssets, ← hPlugins]
  refine ⟨Table.keepsLast_ofList _ _, Table.keepsLast_ofList _ _, Table.keepsLast_ofList _ _,
    Table.keepsLast_ofList _ _, Table.keepsLast_ofList _ _, ?_, callablesOf_build p _, fun _ => rfl,
    fun _ => List.filter_sublist, fun _ => List.filter_sublist, ?_⟩
  · refine ⟨_, _, _, _, rfl, Table.length_items_add_repeated _ _,
      Table.length_items_add_repeated _ _, ?_, Table.length_items_add_repeated _ _⟩
    have hCount := length_repeated ((Findings.concat fs).assets.map (·.name))
    rw [List.length_map, Nat.add_comm] at hCount
    exact hCount
  · rw [build_listedOf]
    exact sameAnswers_replaced ix _

end Index

end ProjectAtlas
