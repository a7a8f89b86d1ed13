import ProjectAtlas.Command.Run
import ProjectAtlas.Proofs.Json.Writable

/-!
The documents of tasks: which tasks have one, and which of them hold an integer of too many digits.
-/

namespace ProjectAtlas.Command

/-- A search finds something with an integer of too many digits in it. -/
inductive FindsLongInteger (ix : Index) (query : String) (kind : Option SearchKind) : Prop where
  | declaration {s : SearchKind} {d : Declaration} (hKind : kind = some s)
      (hCovers : s.covers .declarations = true) (hFound : d ∈ ix.searchDeclarations query)
      (hLong : d.HoldsLongInteger)
  | callable {s : SearchKind} {c : Callable} (hKind : kind = some s)
      (hCovers : s.covers .callables = true) (hFound : c ∈ ix.searchCallables query)
      (hLong : Text.isTooLong c.line = true)
  | asset {s : SearchKind} {a : Asset} (hKind : kind = some s)
      (hCovers : s.covers .assets = true) (hFound : a ∈ ix.searchAssets query)
      (hLong : Text.isTooLong a.size = true)

/-- The document of a search holds an integer of too many digits exactly if something does that it
finds. -/
theorem holdsTooLong_searchDocument (ix : Index) (query : String) (kind : Option SearchKind) :
    (searchDocument ix query kind).holdsTooLong = true ↔ FindsLongInteger ix query kind := by
  have hSection (b : Bool) (label : String) (found : Json) :
      ((if b then [(label, found)] else []).any fun f => f.2.holdsTooLong) =
        (b && found.holdsTooLong) := by
    cases b <;> simp
  simp only [searchDocument, Json.holdsTooLong_obj, List.any_append, hSection]
  simp only [Bool.or_eq_true, Bool.and_eq_true, Option.any_eq_true, Json.holdsTooLong_list,
    List.any_eq_true, Declaration.holdsTooLong_toJson, Callable.holdsTooLong_toJson,
    Asset.holdsTooLong_toJson, Plugin.holdsTooLong_toJson]
  constructor
  · rintro (((⟨⟨s, hKind, hCovers⟩, d, hFound, hLong⟩ | ⟨⟨s, hKind, hCovers⟩, c, hFound, hLong⟩) |
      ⟨⟨s, hKind, hCovers⟩, a, hFound, hLong⟩) | ⟨-, p, -, hLong⟩)
    · exact .declaration hKind hCovers hFound hLong
    · exact .callable hKind hCovers hFound hLong
    · exact .asset hKind hCovers hFound hLong
    · cases hLong
  · intro h
    cases h with
    | declaration hKind hCovers hFound hLong =>
        exact .inl (.inl (.inl ⟨⟨_, hKind, hCovers⟩, _, hFound, hLong⟩))
    | callable hKind hCovers hFound hLong =>
        exact .inl (.inl (.inr ⟨⟨_, hKind, hCovers⟩, _, hFound, hLong⟩))
    | asset hKind hCovers hFound hLong =>
        exact .inl (.inr ⟨⟨_, hKind, hCovers⟩, _, hFound, hLong⟩)

/-- A task prints an integer of too many digits: a count of a summary, or one that a search finds. -/
def Task.PrintsLongInteger (ix : Index) : Task → Prop
  | .summary => ix.summary.toJson.holdsTooLong = true
  | .search query kind => FindsLongInteger ix query kind
  | _ => False

theorem Task.holdsTooLong_document {t : Task} {ix : Index} {document : Json}
    (hDocument : t.document ix = .ok document) :
    document.holdsTooLong = true ↔ t.PrintsLongInteger ix := by
  cases t with
  | summary =>
      cases hDocument
      exact Iff.rfl
  | search query kind =>
      cases hDocument
      exact holdsTooLong_searchDocument ix query kind
  | hierarchy name =>
      simp only [Task.document] at hDocument
      split at hDocument
      · cases hDocument
      · cases hDocument
        simp [Task.PrintsLongInteger]
  | usages name =>
      cases hDocument
      simp [Task.PrintsLongInteger, Usage.toJson]
  | plugins category enabledOnly =>
      cases hDocument
      simp [Task.PrintsLongInteger]
  | validate | serve _ _ =>
      cases hDocument
      simp [Task.PrintsLongInteger, Json.holdsTooLong]

/-- Only a name that is not declared leaves a task without a document. -/
theorem document_eq_error_iff {t : Task} {ix : Index} {message : String} :
    t.document ix = .error message ↔
      ∃ name, t = .hierarchy name ∧ ix.hierarchy name = [] ∧
        message = s!"Declaration not found: {name}" := by
  constructor
  · intro hNone
    cases t with
    | hierarchy name =>
        simp only [Task.document] at hNone
        split at hNone
        · rename_i hChain
          cases hNone
          exact ⟨name, rfl, hChain, rfl⟩
        · cases hNone
    | _ => cases hNone
  · rintro ⟨name, rfl, hChain, rfl⟩
    simp only [Task.document, hChain]

/-- A task that prints an integer of too many digits has a document with it. -/
theorem Task.PrintsLongInteger.document {t : Task} {ix : Index} (hLong : t.PrintsLongInteger ix) :
    t ≠ .validate ∧ t.verb ≠ .serve ∧
      ∃ document, t.document ix = .ok document ∧ document.holdsTooLong = true := by
  have hDocument : ∃ document, t.document ix = .ok document := by
    cases hFound : t.document ix with
    | ok document => exact ⟨document, rfl⟩
    | error message =>
        obtain ⟨name, rfl, -⟩ := document_eq_error_iff.mp hFound
        exact hLong.elim
  obtain ⟨document, hDocument⟩ := hDocument
  refine ⟨?_, ?_, document, hDocument, (Task.holdsTooLong_document hDocument).mpr hLong⟩
  · rintro rfl
    exact hLong
  · intro hServe
    cases t <;> first | exact hLong | cases hServe

end ProjectAtlas.Command
