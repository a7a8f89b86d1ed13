import ProjectAtlas.Index.Basic
import ProjectAtlas.Proofs.Text.Sigma

/-!
Searching an index. A search keeps the order of the listing. That it finds all entities with the query in one
of their fields, and that it finds no more when the query gets longer, holds of each search for the same
queries: for those that are found in lower case wherever they stand.
-/

namespace ProjectAtlas

open Text (SigmasSettled lowerAfter)

theorem anyHolds_iff {query : String} {fields : List String} :
    anyHolds query fields = true ↔
      ∃ f ∈ fields, lowerAfter [] query.toList <:+: lowerAfter [] f.toList := by
  simp only [anyHolds, List.any_eq_true, Text.contains, Text.containsText_iff, Text.lower,
    String.toList_ofList]

theorem anyHolds_empty (field : String) (fields : List String) :
    anyHolds "" (field :: fields) = true :=
  anyHolds_iff.mpr ⟨field, List.mem_cons_self, List.nil_infix⟩

section Laws

variable {α : Type}

/-- The search finds all listed entities that have the query in one of their fields as it is written. -/
def FindsAll (listing : Index → List α) (fields : α → List String)
    (search : Index → String → List α) (query : String) : Prop :=
  ∀ ix, ∀ a ∈ listing ix, (∃ f ∈ fields a, query.toList <:+: f.toList) → a ∈ search ix query

/-- What the search finds for a longer query it finds for this one too. -/
def Narrows (search : Index → String → List α) (query : String) : Prop :=
  ∀ ix longer, query.toList <:+: longer.toList → ∀ a ∈ search ix longer, a ∈ search ix query

/-- What a search does with a listing for one query. -/
structure SearchLaws (listing : Index → List α) (fields : α → List String)
    (search : Index → String → List α) (query : String) : Prop where
  sublist : ∀ ix, (search ix query).Sublist (listing ix)
  findsAll_iff : FindsAll listing fields search query ↔ SigmasSettled query.toList
  narrows_iff : Narrows search query ↔ SigmasSettled query.toList

variable {listing : Index → List α} {fields searched : α → List String}
  {search : Index → String → List α}

/-- A search that looks into the texts `searched` of each entity, and an index for every name in which an
entity has that name and no other sigma. -/
structure LooksInto (listing : Index → List α) (fields searched : α → List String)
    (search : Index → String → List α) : Prop where
  filters : ∀ ix query, search ix query = (listing ix).filter fun a => anyHolds query (searched a)
  fields_subset : ∀ a, fields a ⊆ searched a
  exists_named : ∀ name, ∃ ix, ∃ a ∈ listing ix, name ∈ fields a ∧
    ∀ f ∈ searched a, f = name ∨ ∀ c ∈ lowerAfter [] f.toList, c ≠ 'ς' ∧ c ≠ 'σ'

namespace LooksInto

theorem mem_iff (h : LooksInto listing fields searched search) {ix : Index} {query : String} {a : α} :
    a ∈ search ix query ↔ a ∈ listing ix ∧
      ∃ f ∈ searched a, lowerAfter [] query.toList <:+: lowerAfter [] f.toList := by
  rw [h.filters, List.mem_filter, anyHolds_iff]

/-- A query with an unsettled sigma misses an entity, which has the query in its name. -/
theorem exists_missed (h : LooksInto listing fields searched search) {query : String}
    (hUnsettled : ¬SigmasSettled query.toList) :
    ∃ ix, ∃ a ∈ listing ix, ∃ name ∈ fields a, query.toList <:+: name.toList ∧
      a ∉ search ix query := by
  obtain ⟨cs, hInfix, hMissed⟩ := Text.exists_not_infix_of_not_settled hUnsettled
  obtain ⟨ix, a, hListed, hName, hOthers⟩ := h.exists_named (String.ofList cs)
  refine ⟨ix, a, hListed, String.ofList cs, hName, by rwa [String.toList_ofList], fun hFound => ?_⟩
  obtain ⟨f, hf, hHolds⟩ := (h.mem_iff.mp hFound).2
  rcases hOthers f hf with rfl | hPlain
  · rw [String.toList_ofList] at hHolds
    exact hMissed hHolds
  · -- The query holds a sigma, and so what it is found in holds one.
    have hSigma : 'Σ' ∈ query.toList := by
      by_contra hNone
      exact hUnsettled (Text.sigmasSettled_of_not_mem hNone)
    obtain ⟨c, hc, hSmall⟩ := Text.exists_sigma_mem_lowerAfter hSigma []
    obtain ⟨hFinal, hOther⟩ := hPlain c (hHolds.mem hc)
    exact hSmall.elim hFinal hOther

theorem laws (h : LooksInto listing fields searched search) (query : String) :
    SearchLaws listing fields search query where
  sublist ix := by
    rw [h.filters]
    exact List.filter_sublist
  findsAll_iff := by
    constructor
    · intro hFinds
      by_contra hUnsettled
      obtain ⟨ix, a, hListed, name, hName, hInfix, hMissed⟩ := h.exists_missed hUnsettled
      exact hMissed (hFinds ix a hListed ⟨name, hName, hInfix⟩)
    · rintro hSettled ix a hListed ⟨f, hf, hInfix⟩
      have hHolds := (Text.sigmasSettled_iff query.toList).mp hSettled f.toList hInfix
      exact h.mem_iff.mpr ⟨hListed, f, h.fields_subset a hf, hHolds⟩
  narrows_iff := by
    constructor
    · intro hNarrows
      by_contra hUnsettled
      obtain ⟨ix, a, hListed, name, hName, hInfix, hMissed⟩ := h.exists_missed hUnsettled
      have hFound : a ∈ search ix name :=
        h.mem_iff.mpr ⟨hListed, name, h.fields_subset a hName, List.infix_refl _⟩
      exact hMissed (hNarrows ix name hInfix a hFound)
    · intro hSettled ix longer hInfix a hFound
      obtain ⟨hListed, f, hf, hHolds⟩ := h.mem_iff.mp hFound
      have hPart := (Text.sigmasSettled_iff query.toList).mp hSettled longer.toList hInfix
      exact h.mem_iff.mpr ⟨hListed, f, hf, hPart.trans hHolds⟩

end LooksInto

end Laws

namespace Index

/-- A project without modules and plugins. -/
def emptyProject : Project where
  root := "/MyGame"
  name := "MyGame"
  manifestPath := "MyGame.uproject"
  engineAssociation := "5.3"
  modules := []
  plugins := []
  targetPlatforms := []
  buildConfigurations := []

/-- An index over these findings. -/
def ofFindings (f : Findings) : Index :=
  Index.build emptyProject f

theorem looksInto_declarations :
    LooksInto (fun ix => ix.declarations none) (fun d => [d.name, d.kind.marker])
      (fun d => [d.name, d.kind.marker]) searchDeclarations where
  filters _ _ := rfl
  fields_subset _ := List.Subset.refl _
  exists_named name := by
    let d : Declaration := ⟨name, .classType, none, [], "F.h", 1, none, false, false, []⟩
    refine ⟨ofFindings { declarations := [d] }, d, List.mem_singleton_self d, by simp [d], ?_⟩
    have hMarker : ∀ c ∈ lowerAfter [] "UCLASS".toList, c ≠ 'ς' ∧ c ≠ 'σ' := by decide +kernel
    simpa [d, DeclarationKind.marker] using .inr hMarker

theorem looksInto_callables :
    LooksInto (fun ix => ix.callables none) (fun c => [c.name, c.owner])
      (fun c => [c.name, c.owner]) searchCallables where
  filters _ _ := rfl
  fields_subset _ := List.Subset.refl _
  exists_named name := by
    let c : Callable := ⟨name, "", "void", [], [], "F.h", 1, none, false⟩
    refine ⟨ofFindings { callables := [c] }, c, List.mem_singleton_self c, by simp [c], ?_⟩
    simp [c, lowerAfter]

theorem looksInto_assets :
    LooksInto (fun ix => ix.assets none) (fun a => [a.name, a.path, a.type])
      (fun a => [a.name, a.path, a.type]) searchAssets where
  filters _ _ := rfl
  fields_subset _ := List.Subset.refl _
  exists_named name := by
    let a : Asset := ⟨name, "", "", 0, [], []⟩
    refine ⟨ofFindings { assets := [a] }, a, List.mem_singleton_self a, by simp [a], ?_⟩
    simp [a, lowerAfter]

theorem looksInto_plugins :
    LooksInto (fun ix => ix.plugins none)
      (fun p => p.name :: (p.friendlyName.toList ++ p.category.toList))
      (fun p => [p.name, p.friendlyName.getD "", p.category.getD ""]) searchPlugins where
  filters _ _ := rfl
  fields_subset p := by
    cases p.friendlyName <;> cases p.category <;> simp
  exists_named name := by
    let p : Plugin := { name := name, path := "" }
    refine ⟨ofFindings { plugins := [p] }, p, List.mem_singleton_self p, by simp [p], ?_⟩
    simp [p, lowerAfter]

/-- A search for the empty text finds everything. -/
theorem searchDeclarations_empty (ix : Index) : ix.searchDeclarations "" = ix.declarations none := by
  simp [searchDeclarations, anyHolds_empty]

theorem searchAssets_empty (ix : Index) : ix.searchAssets "" = ix.assets none := by
  simp [searchAssets, anyHolds_empty]

/-- Each search gives part of its listing, in the same order, for every query. It finds all entities with the
query in one of their fields as it is written, and finds no more for longer queries, exactly if each capital
sigma of the query is written in lower case as it would be in any other text. For a query without a capital
sigma that is always so; for others there are an index and an entity that is missed. -/
theorem search_laws (query : String) :
    SearchLaws (fun ix => ix.declarations none) (fun d => [d.name, d.kind.marker])
        searchDeclarations query ∧
      SearchLaws (fun ix => ix.callables none) (fun c => [c.name, c.owner]) searchCallables query ∧
      SearchLaws (fun ix => ix.assets none) (fun a => [a.name, a.path, a.type]) searchAssets query ∧
      SearchLaws (fun ix => ix.plugins none)
        (fun p => p.name :: (p.friendlyName.toList ++ p.category.toList)) searchPlugins query :=
  ⟨looksInto_declarations.laws query, looksInto_callables.laws query, looksInto_assets.laws query,
    looksInto_plugins.laws query⟩

/-- A class that has a capital sigma at the end of its name. -/
def sigmaClass : Declaration :=
  ⟨"ΑΣ", .classType, none, [], "F.h", 1, none, false, false, []⟩

/-- The sigma alone is not found in the name, where it is a final one, though it is found for the whole name. -/
theorem search_misses_sigma :
    let ix := ofFindings { declarations := [sigmaClass] }
    "Σ".toList <:+: sigmaClass.name.toList ∧ ix.searchDeclarations "ΑΣ" = [sigmaClass] ∧
      ix.searchDeclarations "Σ" = [] := by
  decide +kernel

end Index

end ProjectAtlas
