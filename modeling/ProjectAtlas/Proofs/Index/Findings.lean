import Mathlib.Data.List.Basic
import ProjectAtlas.Index.Basic
import ProjectAtlas.Proofs.Index.Table

/-!
Findings that are put together, and the index over them: nothing that is found gets lost, unless a later
entity has the same key.
-/

namespace ProjectAtlas

namespace ModuleNames

/-- The names in a module. -/
def inModule (all : ModuleNames) (module : String) : List String :=
  (all.lookup module).getD []

theorem inModule_cons (first : String) (names : List String) (rest : ModuleNames) (m : String) :
    inModule ((first, names) :: rest) m = if m = first then names else rest.inModule m := by
  by_cases hFirst : m = first
  · subst hFirst
    simp [inModule]
  · simp [inModule, List.lookup_cons, beq_eq_false_iff_ne.mpr hFirst, hFirst]

theorem inModule_eq_nil {all : ModuleNames} {m : String} (hNone : m ∉ all.map (·.1)) :
    all.inModule m = [] := by
  induction all with
  | nil => rfl
  | cons e rest ih =>
      rw [List.map_cons, List.mem_cons, not_or] at hNone
      rw [inModule_cons, if_neg hNone.1, ih hNone.2]

/-- Names that are added to a module come last in it, and change no other module. -/
theorem inModule_add (all : ModuleNames) (module : String) (names : List String) (m : String) :
    (all.add module names).inModule m =
      if m = module then all.inModule m ++ names else all.inModule m := by
  induction all with
  | nil => exact inModule_cons module names [] m
  | cons e rest ih =>
      obtain ⟨first, ns⟩ := e
      rw [add]
      split
      · rename_i hFirst
        subst hFirst
        rw [inModule_cons, inModule_cons]
        split <;> rfl
      · rename_i hFirst
        rw [inModule_cons, inModule_cons, ih]
        split
        · rename_i hSame
          subst hSame
          rw [if_neg hFirst]
        · rfl

theorem map_fst_add (all : ModuleNames) (module : String) (names : List String) :
    (all.add module names).map (·.1) =
      if module ∈ all.map (·.1) then all.map (·.1) else all.map (·.1) ++ [module] := by
  induction all with
  | nil => rfl
  | cons e rest ih =>
      obtain ⟨first, ns⟩ := e
      rw [add]
      split
      · rename_i hFirst
        subst hFirst
        simp
      · rename_i hFirst
        have hOther : module ≠ first := fun hSame => hFirst hSame.symm
        rw [List.map_cons, List.map_cons, ih]
        split <;> simp_all

/-- Adding names leaves every module in one place. -/
theorem nodup_map_fst_add {all : ModuleNames} (hDistinct : (all.map (·.1)).Nodup)
    (module : String) (names : List String) : ((all.add module names).map (·.1)).Nodup := by
  rw [map_fst_add]
  split
  · exact hDistinct
  · rename_i hNew
    exact (List.perm_append_singleton module _).nodup_iff.mpr (List.nodup_cons.mpr ⟨hNew, hDistinct⟩)

/-- Names of several modules that are added to others come behind those that are there. -/
theorem inModule_foldl_add {more : ModuleNames} (hDistinct : (more.map (·.1)).Nodup)
    (all : ModuleNames) (m : String) :
    (more.foldl (fun all e => all.add e.1 e.2) all).inModule m =
      all.inModule m ++ more.inModule m := by
  induction more generalizing all with
  | nil => exact (List.append_nil _).symm
  | cons e rest ih =>
      obtain ⟨first, names⟩ := e
      obtain ⟨hNew, hRest⟩ := List.nodup_cons.mp hDistinct
      rw [List.foldl_cons, ih hRest, inModule_add, inModule_cons]
      split
      · rename_i hSame
        subst hSame
        rw [inModule_eq_nil hNew, List.append_nil]
      · rfl

theorem nodup_map_fst_foldl_add {all : ModuleNames} (hDistinct : (all.map (·.1)).Nodup)
    (more : ModuleNames) :
    ((more.foldl (fun all e => all.add e.1 e.2) all).map (·.1)).Nodup := by
  induction more generalizing all with
  | nil => exact hDistinct
  | cons e rest ih => exact ih (nodup_map_fst_add hDistinct e.1 e.2)

end ModuleNames

namespace Findings

/-- What is put together of findings holds their entities one after the other; `field` picks the
entities of one sort. -/
theorem concat_field {α : Type} {field : Findings → List α} (hNone : field {} = [])
    (hExtend : ∀ f g, field (f.extend g) = field f ++ field g) (fs : List Findings) :
    field (concat fs) = fs.flatMap field := by
  have hRun : ∀ f, field (fs.foldl extend f) = field f ++ fs.flatMap field := by
    induction fs with
    | nil => intro f; simp
    | cons g fs ih =>
        intro f
        rw [List.foldl_cons, ih, hExtend, List.flatMap_cons, List.append_assoc]
  rw [concat, hRun, hNone, List.nil_append]

theorem exists_mem_of_concat {α : Type} (field : Findings → List α) (hNone : field {} = [])
    (hExtend : ∀ f g, field (f.extend g) = field f ++ field g) {fs : List Findings} {x : α}
    (hx : x ∈ field (concat fs)) : ∃ f ∈ fs, x ∈ field f := by
  rw [concat_field hNone hExtend] at hx
  exact List.mem_flatMap.mp hx

/-- All entities and issues in `f` are also in `g`. -/
structure Within (f g : Findings) : Prop where
  declarations : f.declarations ⊆ g.declarations
  callables : f.callables ⊆ g.callables
  assets : f.assets ⊆ g.assets
  plugins : f.plugins ⊆ g.plugins
  issues : f.issues ⊆ g.issues

theorem Within.refl (f : Findings) : f.Within f :=
  ⟨fun _ h => h, fun _ h => h, fun _ h => h, fun _ h => h, fun _ h => h⟩

theorem Within.trans {f g k : Findings} (hFirst : f.Within g) (hSecond : g.Within k) :
    f.Within k where
  declarations := fun _ h => hSecond.declarations (hFirst.declarations h)
  callables := fun _ h => hSecond.callables (hFirst.callables h)
  assets := fun _ h => hSecond.assets (hFirst.assets h)
  plugins := fun _ h => hSecond.plugins (hFirst.plugins h)
  issues := fun _ h => hSecond.issues (hFirst.issues h)

theorem within_extend_left (f g : Findings) : f.Within (f.extend g) := by
  constructor <;> exact List.subset_append_left _ _

theorem within_extend_right (f g : Findings) : g.Within (f.extend g) := by
  constructor <;> exact List.subset_append_right _ _

private theorem within_foldl_extend (f : Findings) (fs : List Findings) :
    f.Within (fs.foldl extend f) := by
  induction fs generalizing f with
  | nil => exact .refl f
  | cons g fs ih => exact (within_extend_left f g).trans (ih (f.extend g))

/-- The findings of a list are all in what is put together of them. -/
theorem within_concat {f : Findings} {fs : List Findings} (hMem : f ∈ fs) :
    f.Within (concat fs) := by
  obtain ⟨before, after, rfl⟩ := List.append_of_mem hMem
  rw [concat, List.foldl_append, List.foldl_cons]
  exact (within_extend_right _ f).trans (within_foldl_extend _ after)

/-- What several shares hold, one after the other; the names of modules are left aside. -/
def joined (shares : List Findings) : Findings :=
  { declarations := shares.flatMap (·.declarations)
    callables := shares.flatMap (·.callables)
    assets := shares.flatMap (·.assets)
    plugins := shares.flatMap (·.plugins)
    issues := shares.flatMap (·.issues) }

/-- Every entity and every issue names the path; there are no plugins. -/
structure About (path : String) (f : Findings) : Prop where
  declarations : ∀ d ∈ f.declarations, d.file = path
  callables : ∀ c ∈ f.callables, c.file = path
  assets : ∀ a ∈ f.assets, a.path = path
  plugins : f.plugins = []
  issues : ∀ i ∈ f.issues, i.path = path

/-- The entities and issues that do not name one of the paths are the same, in the same order. -/
structure AgreeBut (paths : List String) (f g : Findings) : Prop where
  declarations :
    f.declarations.filter (·.file ∉ paths) = g.declarations.filter (·.file ∉ paths)
  callables : f.callables.filter (·.file ∉ paths) = g.callables.filter (·.file ∉ paths)
  assets : f.assets.filter (·.path ∉ paths) = g.assets.filter (·.path ∉ paths)
  plugins : f.plugins = g.plugins
  issues : f.issues.filter (·.path ∉ paths) = g.issues.filter (·.path ∉ paths)

theorem AgreeBut.refl (paths : List String) (f : Findings) : AgreeBut paths f f :=
  ⟨rfl, rfl, rfl, rfl, rfl⟩

theorem About.agreeBut {path : String} {paths : List String} {f g : Findings}
    (hPath : path ∈ paths) (hFirst : f.About path) (hSecond : g.About path) :
    AgreeBut paths f g := by
  have hNone {α : Type} {name : α → String} {xs : List α} (hNames : ∀ x ∈ xs, name x = path) :
      xs.filter (fun x => name x ∉ paths) = [] :=
    List.filter_eq_nil_iff.mpr fun x hx => by simp [hNames x hx, hPath]
  exact ⟨(hNone hFirst.declarations).trans (hNone hSecond.declarations).symm,
    (hNone hFirst.callables).trans (hNone hSecond.callables).symm,
    (hNone hFirst.assets).trans (hNone hSecond.assets).symm,
    hFirst.plugins.trans hSecond.plugins.symm,
    (hNone hFirst.issues).trans (hNone hSecond.issues).symm⟩

/-- Shares that agree one by one agree when they are joined. -/
theorem agreeBut_joined {α : Type} {paths : List String} {xs : List α} {f g : α → Findings}
    (hEach : ∀ x ∈ xs, AgreeBut paths (f x) (g x)) :
    AgreeBut paths (joined (xs.map f)) (joined (xs.map g)) := by
  simp only [joined, List.flatMap_map]
  constructor
  case plugins => exact List.flatMap_congr fun x hx => (hEach x hx).plugins
  all_goals simp only [List.filter_flatMap]
  case declarations => exact List.flatMap_congr fun x hx => (hEach x hx).declarations
  case callables => exact List.flatMap_congr fun x hx => (hEach x hx).callables
  case assets => exact List.flatMap_congr fun x hx => (hEach x hx).assets
  case issues => exact List.flatMap_congr fun x hx => (hEach x hx).issues

end Findings

/-- An index keeps findings: each entity can be found by its key, where it stands itself or a later
entity of the same key, and each issue is listed. -/
structure Index.Keeps (index : Index) (f : Findings) : Prop where
  declarations : ∀ d ∈ f.declarations, ∃ e, index.findDeclaration d.name = some e ∧ e.name = d.name
  callables : ∀ c ∈ f.callables, ∃ e, index.callableTable.get? c.key = some e ∧ e.key = c.key
  assets : ∀ a ∈ f.assets, ∃ e, index.assetAt a.path = some e ∧ e.path = a.path
  plugins : ∀ p ∈ f.plugins, ∃ e, index.findPlugin p.name = some e ∧ e.name = p.name
  issues : ∀ i ∈ f.issues, i ∈ index.issues

/-- An index keeps the findings that it is built over. -/
theorem Index.keeps_build (p : Project) {f g : Findings} (hWithin : f.Within g) :
    (Index.build p g).Keeps f where
  declarations := fun _ hd => Table.exists_get?_ofList (hWithin.declarations hd)
  callables := fun _ hc => Table.exists_get?_ofList (hWithin.callables hc)
  assets := fun _ ha => Table.exists_get?_ofList (hWithin.assets ha)
  plugins := fun _ hp => Table.exists_get?_ofList (hWithin.plugins hp)
  issues := fun _ hi => hWithin.issues hi

end ProjectAtlas
