import Mathlib.Data.List.Basic
import Mathlib.Data.List.Perm.Basic
import ProjectAtlas.Proofs.Index.Table
import ProjectAtlas.Proofs.Text.Case
import ProjectAtlas.Render

/-!
The statistics of an index, compared with its listings.

The counts of a summary and the filtered listings are computed apart from each other. What connects them
is that a tally counts every item under exactly one key: the counts of the keys with a property add up
to the number of items with it.
-/

namespace ProjectAtlas

/-- The sum of a measure over a list. -/
def total {α : Type} (measure : α → Nat) (items : List α) : Nat :=
  items.foldr (fun a n => measure a + n) 0

section total

variable {α : Type} {measure : α → Nat}

theorem total_cons (a : α) (items : List α) :
    total measure (a :: items) = measure a + total measure items :=
  rfl

theorem total_append (front back : List α) :
    total measure (front ++ back) = total measure front + total measure back := by
  induction front with
  | nil => simp [total]
  | cons a front ih => rw [List.cons_append, total_cons, total_cons, ih, Nat.add_assoc]

theorem foldl_add_eq_total (start : Nat) (items : List α) :
    items.foldl (fun n a => n + measure a) start = start + total measure items := by
  induction items generalizing start with
  | nil => rfl
  | cons a items ih => rw [List.foldl_cons, ih, total_cons, Nat.add_assoc]

end total

section tally

variable {κ : Type} [DecidableEq κ]

theorem mem_firsts {k : κ} {ks : List κ} : k ∈ firsts ks ↔ k ∈ ks := by
  rw [firsts_eq_eraseDups, List.mem_eraseDups]

theorem map_fst_tally (ks : List κ) : (tally ks).map (·.1) = firsts ks := by
  rw [tally, List.map_map]
  exact List.map_id _

theorem nodup_keys_tally (ks : List κ) : ((tally ks).map (·.1)).Nodup := by
  rw [map_fst_tally]
  exact nodup_firsts ks

theorem countP_mem_cons {k : κ} {ks : List κ} (hNew : k ∉ ks) (items : List κ) :
    items.countP (· ∈ k :: ks) = items.count k + items.countP (· ∈ ks) := by
  induction items with
  | nil => rfl
  | cons a items ih =>
      rw [List.countP_cons, List.count_cons, List.countP_cons, ih]
      by_cases hSame : a = k
      · subst hSame
        simp [hNew]
        omega
      · simp [hSame]
        omega

/-- The counts of different keys add up to the number of items that are among the keys. -/
theorem total_counts {ks : List κ} (hDistinct : ks.Nodup) (items : List κ) :
    total (·.2) (ks.map fun k => (k, items.count k)) = items.countP (· ∈ ks) := by
  induction ks with
  | nil => simp [total]
  | cons k ks ih =>
      obtain ⟨hNew, hDistinct⟩ := List.nodup_cons.mp hDistinct
      rw [List.map_cons, total_cons, ih hDistinct, countP_mem_cons hNew]

/-- The counts of the keys with a property add up to the number of items with it. -/
theorem total_filter_tally (p : κ → Bool) (ks : List κ) :
    total (·.2) ((tally ks).filter fun e => p e.1) = ks.countP p := by
  have hKeys : (tally ks).filter (fun e => p e.1) =
      ((firsts ks).filter p).map fun k => (k, ks.count k) := by
    rw [tally, List.filter_map]
    rfl
  rw [hKeys, total_counts ((nodup_firsts ks).filter p)]
  refine List.countP_congr fun k hk => ?_
  simp [mem_firsts, hk]

theorem total_tally (ks : List κ) : total (·.2) (tally ks) = ks.length := by
  have hAll := total_filter_tally (fun _ => true) ks
  rwa [List.filter_true, List.countP_true] at hAll

end tally

theorem DeclarationKind.nodup_marker_known : (known.map DeclarationKind.marker).Nodup := by
  decide

theorem DeclarationKind.ofMarker?_isNone_iff {marker : String} :
    (ofMarker? marker).isNone ↔ marker ∉ known.map DeclarationKind.marker := by
  simp [ofMarker?]

theorem nodup_keys_countKinds (kinds : List String) :
    ((countKinds kinds).map (·.1)).Nodup := by
  have hOthers : ((tally kinds).filter fun e => (DeclarationKind.ofMarker? e.1).isNone).map (·.1) =
      (firsts kinds).filter fun k => (DeclarationKind.ofMarker? k).isNone := by
    rw [← map_fst_tally, List.filter_map]
    rfl
  rw [countKinds, List.map_append, List.map_map, hOthers, List.nodup_append]
  refine ⟨DeclarationKind.nodup_marker_known, (nodup_firsts kinds).filter _, ?_⟩
  rintro k hKnown other hOther rfl
  have hUnknown := (List.mem_filter.mp hOther).2
  exact DeclarationKind.ofMarker?_isNone_iff.mp hUnknown hKnown

/-- The known kinds are counted also if they do not occur, and no other kind is left out. -/
theorem total_countKinds (kinds : List String) : total (·.2) (countKinds kinds) = kinds.length := by
  let isKnown : String → Bool := fun m => m ∈ DeclarationKind.known.map DeclarationKind.marker
  have hKnown : total (·.2) (DeclarationKind.known.map fun k => (k.marker, kinds.count k.marker)) =
      kinds.countP isKnown :=
    total_counts DeclarationKind.nodup_marker_known kinds
  have hOthers : kinds.countP (fun m => (DeclarationKind.ofMarker? m).isNone) =
      kinds.countP (fun m => ¬ isKnown m) :=
    List.countP_congr fun m _ => by
      simpa [isKnown] using DeclarationKind.ofMarker?_isNone_iff
  rw [countKinds, total_append, hKnown,
    total_filter_tally (fun m => (DeclarationKind.ofMarker? m).isNone), hOthers]
  exact (List.length_eq_countP_add_countP isKnown).symm

theorem lookup_countKinds {kind : DeclarationKind} (hKnown : kind ∈ DeclarationKind.known)
    (kinds : List String) :
    (countKinds kinds).lookup kind.marker = some (kinds.count kind.marker) := by
  simp only [DeclarationKind.known, List.mem_cons, List.not_mem_nil, or_false] at hKnown
  rcases hKnown with rfl | rfl | rfl | rfl <;>
    simp [countKinds, DeclarationKind.known, DeclarationKind.marker, List.lookup_cons]

namespace Index

/-- The summary of an index says of each listing how long it is, and each list of counts adds up to the
length of the listing that it divides. -/
structure SummaryAgrees (ix : Index) : Prop where
  declarations : ix.summary.declarations = (ix.declarations none).length
  declarationCounts : total (·.2) ix.summary.declarationsByKind = (ix.declarations none).length
  kinds : ∀ kind ∈ DeclarationKind.known,
    ix.summary.declarationsByKind.lookup kind.marker =
      some (ix.declarations (some kind.marker)).length
  callables : ix.summary.callables = (ix.callables none).length
  invokableCallables : ix.summary.invokableCallables = (ix.callables (some true)).length
  /-- The functions that can be called and those that cannot make up the functions. -/
  divided : (ix.callables (some true) ++ ix.callables (some false)).Perm (ix.callables none)
  apart : (ix.callables (some true)).Disjoint (ix.callables (some false))
  assets : ix.summary.assets = (ix.assets none).length
  assetCounts : total (·.2) ix.summary.assetsByType = (ix.assets none).length
  assetBytes : ix.summary.assetBytes = total Asset.size (ix.assets none)
  blueprints : ix.summary.blueprints = ix.blueprints.length
  blueprintCounts :
    total (·.2) (ix.summary.assetsByType.filter fun e => Text.lower e.1 == Text.lower "Blueprint") =
      ix.blueprints.length
  plugins : ix.summary.plugins = (ix.plugins none).length
  enabledPlugins : ix.summary.enabledPlugins = (ix.plugins (some true)).length
  categoryCounts : ∀ category, category ≠ "" →
    total (·.2)
        (ix.summary.pluginCategories.filter fun e => Text.lower e.1 == Text.lower category) =
      (ix.pluginsByCategory category).length
  modules : ix.summary.modules = (ix.project.modules.map (·.name)).eraseDups
  modulesField : ix.summary.toJson.field? "modules" =
    some (.obj [("total", .nat ix.summary.modules.length), ("list", .texts ix.summary.modules)])
  issueCounts : total (·.2) ix.summary.issues = ix.issues.length
  /-- No two counts of a list are under one key. -/
  distinctKinds : (ix.summary.declarationsByKind.map (·.1)).Nodup
  distinctTypes : (ix.summary.assetsByType.map (·.1)).Nodup
  distinctCategories : (ix.summary.pluginCategories.map (·.1)).Nodup
  distinctIssues : (ix.summary.issues.map (·.1)).Nodup

/-- The functions that can be called and those that cannot are all functions. -/
theorem callables_perm (ix : Index) :
    (ix.callables (some true) ++ ix.callables (some false)).Perm (ix.callables none) := by
  have hOthers : ix.callables (some false) =
      ix.callableTable.items.filter fun c => !(c.blueprintCallable == true) :=
    List.filter_congr fun c _ => by cases c.blueprintCallable <;> rfl
  rw [hOthers]
  exact List.filter_append_perm _ _

theorem disjoint_callables (ix : Index) :
    (ix.callables (some true)).Disjoint (ix.callables (some false)) := by
  intro c hTrue hFalse
  have hInvokable : c.blueprintCallable = true := by simpa using (List.mem_filter.mp hTrue).2
  have hOther : c.blueprintCallable = false := by simpa using (List.mem_filter.mp hFalse).2
  exact Bool.false_ne_true (hOther.symm.trans hInvokable)

theorem length_declarations_some {ix : Index} {kind : DeclarationKind}
    (hKnown : kind ∈ DeclarationKind.known) :
    (ix.declarations (some kind.marker)).length =
      ((ix.declarations none).map (·.kind.marker)).count kind.marker := by
  have hUpper : Text.upper kind.marker = kind.marker := by
    simp only [DeclarationKind.known, List.mem_cons, List.not_mem_nil, or_false] at hKnown
    rcases hKnown with rfl | rfl | rfl | rfl <;> decide +kernel
  have hListed : ix.declarations (some kind.marker) =
      (ix.declarations none).filter fun d => d.kind.marker == Text.upper kind.marker := rfl
  rw [hListed, hUpper, ← List.countP_eq_length_filter, List.count, List.countP_map]
  rfl

/-- Content files are counted by their written type and listed by its lower case. -/
theorem total_assetsByType (ix : Index) (type : String) :
    total (·.2) (ix.summary.assetsByType.filter fun e => Text.lower e.1 == Text.lower type) =
      (ix.assets (some type)).length := by
  rw [summary, total_filter_tally (fun t => Text.lower t == Text.lower type), List.countP_map,
    assets, assets, ← List.countP_eq_length_filter]
  rfl

/-- Plugins without a category, and those with an empty one, are in no category that is not empty. -/
theorem total_pluginCategories (ix : Index) {category : String} (hCategory : category ≠ "") :
    total (·.2)
        (ix.summary.pluginCategories.filter fun e => Text.lower e.1 == Text.lower category) =
      (ix.pluginsByCategory category).length := by
  have hNotEmpty : ∀ c : String, Text.lower c == Text.lower category → c ≠ "" := by
    rintro c hSame rfl
    have hLower : Text.lower category = "" := by
      rw [← beq_iff_eq.mp hSame]
      exact Text.lower_eq_empty_iff.mpr rfl
    exact hCategory (Text.lower_eq_empty_iff.mp hLower)
  rw [summary, total_filter_tally (fun c => Text.lower c == Text.lower category),
    List.countP_filter, List.countP_filterMap, pluginsByCategory, ← List.countP_eq_length_filter]
  refine List.countP_congr fun p _ => ?_
  cases hOf : p.category with
  | none => simp
  | some c => simpa using fun hSame => hNotEmpty c (by simpa using hSame)

theorem keys_modulesWithNames (modules : List ModuleRef) (names : ModuleNames) :
    (modulesWithNames modules names).keys = (modules.map (·.name)).eraseDups := by
  rw [modulesWithNames, Table.keys_ofList, List.map_map]
  rfl

/-- The summary of an index over any findings agrees with its listings. -/
theorem summaryAgrees_build (p : Project) (f : Findings) : (Index.build p f).SummaryAgrees := by
  generalize hIndex : Index.build p f = ix
  have hItems {κ α : Type} (t : Table κ α) : t.size = t.items.length := (List.length_map ..).symm
  constructor
  case declarations => exact hItems _
  case declarationCounts => exact (total_countKinds _).trans (List.length_map ..)
  case kinds =>
    intro kind hKnown
    rw [length_declarations_some hKnown]
    exact lookup_countKinds hKnown _
  case callables => exact hItems _
  case invokableCallables => rfl
  case divided => exact ix.callables_perm
  case apart => exact ix.disjoint_callables
  case assets => exact hItems _
  case assetCounts => exact (total_tally _).trans (List.length_map ..)
  case assetBytes => exact (foldl_add_eq_total 0 _).trans (Nat.zero_add _)
  case blueprints => rfl
  case blueprintCounts => exact ix.total_assetsByType blueprintType
  case plugins => exact hItems _
  case enabledPlugins => rfl
  case categoryCounts => exact fun category hCategory => ix.total_pluginCategories hCategory
  case modules =>
    subst hIndex
    exact keys_modulesWithNames _ _
  case modulesField => rfl
  case issueCounts => exact (total_tally _).trans (List.length_map ..)
  case distinctKinds => exact nodup_keys_countKinds _
  case distinctTypes | distinctCategories | distinctIssues => exact nodup_keys_tally _

end Index

end ProjectAtlas
