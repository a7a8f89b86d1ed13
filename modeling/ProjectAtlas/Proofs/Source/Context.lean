import ProjectAtlas.Proofs.Source.Ownership

/-!
What a marker makes wherever it stands in a text. The lines above a marker decide the owner of its
function and nothing else, and they hand that owner on whatever stands below the marker.
-/

namespace ProjectAtlas.Source

open ProjectAtlas.Text

/-- The owner below a line that makes this, or nothing. -/
def handedOn (owner : String) : Option Reflected → String
  | some r => r.ownerBelow owner
  | none => owner

theorem reflectedFrom_cons (windows : Windows) (origin : Origin) (owner : String) (number : Nat)
    (line : List Char) (below : List (List Char)) :
    reflectedFrom windows origin owner number (line :: below) =
      (readMarker? windows origin owner number line below).toList ++
        reflectedFrom windows origin
          (handedOn owner (readMarker? windows origin owner number line below)) (number + 1) below := by
  rw [reflectedFrom]
  cases readMarker? windows origin owner number line below <;> rfl

section Above

variable {windows : Windows} {origin : Origin} {marker : List Char}

/-- No window reaches over a marker. -/
theorem candidatesBelow_append (hMarker : isMarker marker = true) (window number : Nat)
    (ls below : List (List Char)) :
    (candidatesBelow window number (ls ++ marker :: below)).map (·.text) =
      (candidatesBelow window number ls).map (·.text) := by
  induction ls generalizing window number with
  | nil => cases window <;> simp [candidatesBelow, hMarker]
  | cons line ls ih =>
      cases window with
      | zero => rfl
      | succ w =>
          rw [List.cons_append, candidatesBelow, candidatesBelow]
          cases isMarker line with
          | true => rfl
          | false =>
              cases isComment line with
              | true => exact ih w (number + 1)
              | false => simp [ih w (number + 1)]

theorem candidates_append (hMarker : isMarker marker = true) (window number : Nat)
    (line : List Char) (ls below : List (List Char)) :
    (candidates window number line (ls ++ marker :: below)).map (·.text) =
      (candidates window number line ls).map (·.text) := by
  simp only [candidates]
  split
  · exact candidatesBelow_append hMarker window (number + 1) ls below
  · simp [candidatesBelow_append hMarker]

/-- The name of a type depends on nothing but the texts that may be its header. -/
theorem map_name_readDeclaration? (kind : DeclarationKind) (number : Nat) (line : List Char)
    (below : List (List Char)) :
    (readDeclaration? windows origin kind number line below).map (·.name) =
      ((candidates windows.declaration number line below).map (·.text)).findSome? fun t =>
        (headerOf? kind t).map fun h => String.ofList h.1 := by
  rw [readDeclaration?, List.map_findSome?, List.findSome?_map]
  congr 1
  funext c
  rw [Function.comp_apply, Function.comp_apply, Option.map_map]
  rfl

theorem kind_of_readDeclaration? {kind : DeclarationKind} {number : Nat} {line : List Char}
    {below : List (List Char)} {d : Declaration}
    (h : readDeclaration? windows origin kind number line below = some d) : d.kind = kind := by
  obtain ⟨c, -, hRead⟩ := List.exists_of_findSome?_eq_some h
  obtain ⟨-, -, rfl⟩ := Option.map_eq_some_iff.mp hRead
  rfl

/-- What stands below the next marker does not change the owner that a line hands on. -/
theorem handedOn_readMarker?_append (hMarker : isMarker marker = true) (owner : String) (number : Nat)
    (line : List Char) (ls below below' : List (List Char)) :
    handedOn owner (readMarker? windows origin owner number line (ls ++ marker :: below)) =
      handedOn owner (readMarker? windows origin owner number line (ls ++ marker :: below')) := by
  cases hType : typeMarker? line with
  | none =>
      have hOwner (rest : List (List Char)) :
          handedOn owner (readMarker? windows origin owner number line rest) = owner := by
        simp only [readMarker?, hType]
        split
        · cases readCallable? windows origin owner number line rest <;> rfl
        · rfl
      rw [hOwner, hOwner]
  | some kind =>
      have hOwner (rest : List (List Char)) :
          handedOn owner (readMarker? windows origin owner number line rest) =
            ((readDeclaration? windows origin kind number line rest).map (·.name)).elim owner
              fun name => if kind = .enumType then owner else name := by
        simp only [readMarker?, hType]
        cases hRead : readDeclaration? windows origin kind number line rest with
        | none => rfl
        | some d =>
            rw [← kind_of_readDeclaration? hRead]
            rfl
      rw [hOwner, hOwner, map_name_readDeclaration?, map_name_readDeclaration?,
        candidates_append hMarker, candidates_append hMarker]

/-- Lines above a marker give entities of their own, and hand on an owner, whatever stands below. -/
theorem exists_reflectedFrom_append (hMarker : isMarker marker = true) (windows : Windows)
    (origin : Origin) (owner : String) (number : Nat) (above : List (List Char)) :
    ∃ owner', ∀ below, ∃ front,
      reflectedFrom windows origin owner number (above ++ marker :: below) =
        front ++ reflectedFrom windows origin owner' (number + above.length) (marker :: below) := by
  induction above generalizing owner number with
  | nil => exact ⟨owner, fun below => ⟨[], rfl⟩⟩
  | cons line above ih =>
      obtain ⟨owner', hRest⟩ := ih
        (handedOn owner (readMarker? windows origin owner number line (above ++ marker :: [])))
        (number + 1)
      refine ⟨owner', fun below => ?_⟩
      obtain ⟨front, hFront⟩ := hRest below
      have hNumber : number + (line :: above).length = number + 1 + above.length := by
        rw [List.length_cons]
        omega
      rw [List.cons_append, reflectedFrom_cons,
        handedOn_readMarker?_append hMarker owner number line above below [], hFront, hNumber,
        ← List.append_assoc]
      exact ⟨_, rfl⟩

/-- What a marker makes is an entity of every text that it stands in. -/
theorem exists_owner_mem_reflected (hMarker : isMarker marker = true) (windows : Windows)
    (origin : Origin) (above : List (List Char)) :
    ∃ owner, ∀ (text : List Char) (below : List (List Char)),
      (lines text).map trim = above ++ marker :: below →
        ∀ r ∈ readMarker? windows origin owner (above.length + 1) marker below,
          r ∈ reflected windows origin text := by
  obtain ⟨owner, hOwner⟩ := exists_reflectedFrom_append hMarker windows origin "" 1 above
  refine ⟨owner, fun text below hText r hr => ?_⟩
  obtain ⟨front, hFront⟩ := hOwner below
  rw [reflected, hText, hFront, reflectedFrom_cons, Nat.add_comm 1, Option.mem_def.mp hr]
  simp

end Above

section Place

variable {windows : Windows} {origin : Origin} {owner : String}

/-- Every entity is what one of the lines makes. -/
theorem exists_marker_of_mem_reflectedFrom {above below : List (List Char)} {r : Reflected}
    (h : r ∈ reflectedFrom windows origin owner (above.length + 1) below) :
    ∃ (owner' : String) (front : List (List Char)) (marker : List Char) (back : List (List Char)),
      above ++ below = front ++ marker :: back ∧
        readMarker? windows origin owner' (front.length + 1) marker back = some r := by
  induction below generalizing above owner with
  | nil => cases h
  | cons line below ih =>
      rw [reflectedFrom_cons, List.mem_append, Option.mem_toList] at h
      rcases h with hHere | hLater
      · exact ⟨owner, above, line, below, rfl, hHere⟩
      · have hLength : (above ++ [line]).length = above.length + 1 := by simp
        rw [← hLength] at hLater
        obtain ⟨owner', front, marker, back, hLines, hRead⟩ := ih hLater
        exact ⟨owner', front, marker, back, by rw [← hLines, List.append_assoc]; rfl, hRead⟩

theorem exists_marker_of_mem_reflected {text : List Char} {r : Reflected}
    (h : r ∈ reflected windows origin text) :
    ∃ (owner' : String) (front : List (List Char)) (marker : List Char) (back : List (List Char)),
      (lines text).map trim = front ++ marker :: back ∧
        readMarker? windows origin owner' (front.length + 1) marker back = some r := by
  have hFrom : r ∈ reflectedFrom windows origin "" (([] : List (List Char)).length + 1)
      ((lines text).map trim) := h
  exact exists_marker_of_mem_reflectedFrom hFrom

/-- An entity stands where the header is that it was made from. -/
theorem exists_candidate_of_readMarker? {number : Nat} {marker : List Char}
    {below : List (List Char)} {r : Reflected}
    (h : readMarker? windows origin owner number marker below = some r) :
    ∃ window, ∃ c ∈ candidates window number marker below, r.line = c.number := by
  rw [readMarker?] at h
  split at h
  · obtain ⟨d, hRead, rfl⟩ := Option.map_eq_some_iff.mp h
    obtain ⟨c, hMem, hHeader⟩ := List.exists_of_findSome?_eq_some hRead
    obtain ⟨-, -, rfl⟩ := Option.map_eq_some_iff.mp hHeader
    exact ⟨_, c, hMem, rfl⟩
  · split at h
    · obtain ⟨f, hRead, rfl⟩ := Option.map_eq_some_iff.mp h
      obtain ⟨c, hMem, hHeader⟩ := List.exists_of_findSome?_eq_some hRead
      obtain ⟨-, -, rfl⟩ := Option.map_eq_some_iff.mp hHeader
      exact ⟨_, c, hMem, rfl⟩
    · cases h

theorem isMarker_of_readMarker? {number : Nat} {marker : List Char} {below : List (List Char)}
    {r : Reflected} (h : readMarker? windows origin owner number marker below = some r) :
    isMarker marker = true := by
  rw [isMarker, Bool.or_eq_true]
  cases hType : typeMarker? marker with
  | some kind => exact .inl rfl
  | none =>
      refine .inr ?_
      by_contra hNot
      simp [readMarker?, hType, hNot] at h

/-- A marker line is marked with one of the five words. -/
theorem exists_isMarked_of_isMarker {line : List Char} (h : isMarker line = true) :
    ∃ word ∈ ["UCLASS", "USTRUCT", "UENUM", "UINTERFACE", "UFUNCTION"],
      isMarked word.toList line = true := by
  rw [isMarker, Bool.or_eq_true] at h
  rcases h with hType | hCallable
  · obtain ⟨kind, hKind⟩ := Option.isSome_iff_exists.mp hType
    rw [typeMarker?] at hKind
    have hKnown := List.mem_of_find?_eq_some hKind
    have hFound := List.find?_some hKind
    refine ⟨kind.marker, ?_, hFound⟩
    simp only [DeclarationKind.known, List.mem_cons, List.not_mem_nil, or_false] at hKnown
    rcases hKnown with rfl | rfl | rfl | rfl <;> simp [DeclarationKind.marker]
  · exact ⟨"UFUNCTION", by simp, hCallable⟩

/-- A marker does not begin like a comment. -/
theorem isComment_eq_false_of_isMarker {line : List Char} (h : isMarker line = true) :
    isComment line = false := by
  obtain ⟨word, hWord, hMarked⟩ := exists_isMarked_of_isMarker h
  rw [isMarked, Bool.and_eq_true, List.isPrefixOf_iff_prefix] at hMarked
  obtain ⟨⟨rest, rfl⟩, -⟩ := hMarked
  simp only [List.mem_cons, List.not_mem_nil, or_false] at hWord
  rcases hWord with rfl | rfl | rfl | rfl | rfl <;> simp [isComment, List.isPrefixOf]

/-- The marker of a function announces no type. -/
theorem typeMarker?_eq_none {line : List Char} (h : isCallableMarker line = true) :
    typeMarker? line = none := by
  rw [isCallableMarker, isMarked, Bool.and_eq_true, List.isPrefixOf_iff_prefix] at h
  obtain ⟨⟨rest, rfl⟩, -⟩ := h
  simp [typeMarker?, DeclarationKind.known, isMarked, DeclarationKind.marker, List.isPrefixOf]

theorem isComment_of_mem_candidatesBelow {window number : Nat} {ls : List (List Char)}
    {c : Candidate} (h : c ∈ candidatesBelow window number ls) : isComment c.text = false := by
  induction ls generalizing window number with
  | nil => simp [candidatesBelow] at h
  | cons line ls ih =>
      cases window with
      | zero => simp [candidatesBelow] at h
      | succ w =>
          rw [candidatesBelow] at h
          split at h
          · cases h
          · split at h
            · exact ih h
            · rename_i hComment
              rcases List.mem_cons.mp h with rfl | h
              · simpa using hComment
              · exact ih h

/-- No entity stands on a comment line. -/
theorem isComment_of_mem_reflected {text : List Char} {r : Reflected}
    (h : r ∈ reflected windows origin text) {line : List Char}
    (hLine : (line, r.line) ∈ ((lines text).map trim).zipIdx 1) : isComment line = false := by
  obtain ⟨owner', front, marker, back, hLines, hRead⟩ := exists_marker_of_mem_reflected h
  obtain ⟨window, c, hMem, hNumber⟩ := exists_candidate_of_readMarker? hRead
  rw [hLines, hNumber, List.mk_mem_zipIdx_iff_le_and_getElem?_sub] at hLine
  obtain ⟨-, hLine⟩ := hLine
  rcases mem_candidates hMem with rfl | hBelow
  · have hMarker : marker = line := by simpa using hLine
    exact isComment_eq_false_of_isMarker (hMarker ▸ isMarker_of_readMarker? hRead)
  · obtain ⟨passed, hBack, hPlace, -, -⟩ := split_of_mem_candidatesBelow hBelow
    have hText : c.text = line := by
      have hSplit : front ++ marker :: back = (front ++ marker :: passed) ++ c.text :: c.below := by
        simp [hBack]
      have hIndex : c.number - 1 = (front ++ marker :: passed).length := by
        simp only [List.length_append, List.length_cons]
        omega
      rw [hSplit, hIndex] at hLine
      simpa using hLine
    exact hText ▸ isComment_of_mem_candidatesBelow hBelow

end Place

end ProjectAtlas.Source
