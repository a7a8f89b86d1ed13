import ProjectAtlas.Proofs.Source.Context

/-!
The entities of a text by its lines. A line makes one entity or none, and the entities of a text are what
its lines make, from the first to the last.
-/

namespace ProjectAtlas.Source

open ProjectAtlas.Text

section Lines

variable (windows : Windows) (origin : Origin)

/-- The owner that the first `i` lines hand on. The name above them is `owner`, and the first line has this
number. -/
def ownerFrom (owner : String) (number : Nat) : List (List Char) → Nat → String
  | line :: below, i + 1 =>
    ownerFrom (handedOn owner (readMarker? windows origin owner number line below)) (number + 1)
      below i
  | _, _ => owner

/-- What the line below the first `i` lines makes. -/
def entityFrom (owner : String) (number : Nat) : List (List Char) → Nat → Option Reflected
  | [], _ => none
  | line :: below, 0 => readMarker? windows origin owner number line below
  | line :: below, i + 1 =>
    entityFrom (handedOn owner (readMarker? windows origin owner number line below)) (number + 1)
      below i

/-- The owner that the first `i` lines of a text hand on. -/
def ownerAt (text : List Char) (i : Nat) : String :=
  ownerFrom windows origin "" 1 ((lines text).map trim) i

/-- What the line below the first `i` lines of a text makes. -/
def entityAt (text : List Char) (i : Nat) : Option Reflected :=
  entityFrom windows origin "" 1 ((lines text).map trim) i

theorem reflectedFrom_eq_filterMap (owner : String) (number : Nat) (ls : List (List Char)) :
    reflectedFrom windows origin owner number ls =
      (List.range ls.length).filterMap (entityFrom windows origin owner number ls) := by
  induction ls generalizing owner number with
  | nil => rfl
  | cons line below ih =>
      have hBelow : entityFrom windows origin owner number (line :: below) ∘ Nat.succ =
          entityFrom windows origin
            (handedOn owner (readMarker? windows origin owner number line below)) (number + 1)
            below := rfl
      rw [reflectedFrom_cons, ih, List.length_cons, List.range_succ_eq_map, List.filterMap_cons,
        List.filterMap_map, hBelow, entityFrom]
      cases readMarker? windows origin owner number line below <;> rfl

/-- The entities of a text are what its lines make. -/
theorem reflected_eq_filterMap (text : List Char) :
    reflected windows origin text =
      (List.range (lines text).length).filterMap (entityAt windows origin text) := by
  rw [reflected, reflectedFrom_eq_filterMap, List.length_map]
  rfl

/-- A line is read with the owner that the lines above it hand on. -/
theorem entityFrom_append (owner : String) (number : Nat) (above : List (List Char))
    (line : List Char) (below : List (List Char)) :
    entityFrom windows origin owner number (above ++ line :: below) above.length =
      readMarker? windows origin
        (ownerFrom windows origin owner number (above ++ line :: below) above.length)
        (number + above.length) line below := by
  induction above generalizing owner number with
  | nil => rfl
  | cons a above ih =>
      rw [List.cons_append, List.length_cons, entityFrom, ih, ownerFrom, Nat.add_assoc,
        Nat.add_comm 1]

theorem entityFrom_eq_none {ls : List (List Char)} {i : Nat} (h : ls.length ≤ i) (owner : String)
    (number : Nat) : entityFrom windows origin owner number ls i = none := by
  induction ls generalizing i owner number with
  | nil => rw [entityFrom]
  | cons line below ih =>
      obtain ⟨j, rfl⟩ : ∃ j, i = j + 1 := ⟨i - 1, by
        rw [List.length_cons] at h
        omega⟩
      exact ih (Nat.le_of_succ_le_succ h) _ _

end Lines

section Marker

variable {windows : Windows} {origin : Origin} {text : List Char} {above below : List (List Char)}
  {marker : List Char}

theorem entityAt_eq (hText : (lines text).map trim = above ++ marker :: below) :
    entityAt windows origin text above.length =
      readMarker? windows origin (ownerAt windows origin text above.length) (above.length + 1)
        marker below := by
  rw [entityAt, ownerAt, hText, entityFrom_append, Nat.add_comm 1]

theorem entityAt_of_typeMarker? (hText : (lines text).map trim = above ++ marker :: below)
    {kind : DeclarationKind} (hKind : typeMarker? marker = some kind) :
    entityAt windows origin text above.length =
      (readDeclaration? windows origin kind (above.length + 1) marker below).map .declaration := by
  rw [entityAt_eq hText]
  simp only [readMarker?, hKind]

theorem entityAt_of_isCallableMarker (hText : (lines text).map trim = above ++ marker :: below)
    (hMarker : isCallableMarker marker = true) :
    entityAt windows origin text above.length =
      (readCallable? windows origin (ownerAt windows origin text above.length) (above.length + 1)
        marker below).map .callable := by
  rw [entityAt_eq hText]
  simp only [readMarker?, typeMarker?_eq_none hMarker, hMarker, if_true]

/-- Only a line of the text makes something. -/
theorem exists_split_of_entityAt {i : Nat} {r : Reflected}
    (h : entityAt windows origin text i = some r) :
    ∃ above marker below, (lines text).map trim = above ++ marker :: below ∧ above.length = i := by
  have hLess : i < ((lines text).map trim).length := by
    by_contra hNot
    rw [entityAt, entityFrom_eq_none windows origin (Nat.not_lt.mp hNot)] at h
    cases h
  refine ⟨((lines text).map trim).take i, ((lines text).map trim)[i],
    ((lines text).map trim).drop (i + 1), ?_, ?_⟩
  · rw [List.getElem_cons_drop, List.take_append_drop]
  · rw [List.length_take, Nat.min_eq_left (Nat.le_of_lt hLess)]

/-- What makes a type is its marker. -/
theorem exists_marker_of_declaration {i : Nat} {d : Declaration}
    (h : entityAt windows origin text i = some (.declaration d)) :
    ∃ above marker below, (lines text).map trim = above ++ marker :: below ∧ above.length = i ∧
      typeMarker? marker = some d.kind ∧
        readDeclaration? windows origin d.kind (i + 1) marker below = some d := by
  obtain ⟨above, marker, below, hText, rfl⟩ := exists_split_of_entityAt h
  rw [entityAt_eq hText, readMarker?] at h
  refine ⟨above, marker, below, hText, rfl, ?_⟩
  split at h
  · rename_i kind hKind
    obtain ⟨e, hRead, hSame⟩ := Option.map_eq_some_iff.mp h
    cases hSame
    obtain rfl := kind_of_readDeclaration? hRead
    exact ⟨hKind, hRead⟩
  · split at h
    · obtain ⟨f, -, hSame⟩ := Option.map_eq_some_iff.mp h
      cases hSame
    · cases h

end Marker

end ProjectAtlas.Source
