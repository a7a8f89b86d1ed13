import ProjectAtlas.Proofs.Source.Context

/-!
Where the header of an enumeration stands. Of all that follows it in a text only the entries of the
enumeration depend.
-/

namespace ProjectAtlas.Source

open ProjectAtlas.Text

/-- The lines from the marker of an enumeration down to its header. The header stands behind the marker's
own list, or on a line in its window, below lines that are comments or no headers. -/
inductive EnumHead (windows : Windows) : List (List Char) → List Char → Prop where
  | behind {marker header : List Char} (hMarker : typeMarker? marker = some .enumType)
      (hText : (extractSpecifiers marker).2 = header)
      (hHeader : (headerOf? .enumType header).isSome) : EnumHead windows [marker] header
  | below {marker header : List Char} {gap : List (List Char)}
      (hMarker : typeMarker? marker = some .enumType)
      (hBehind : headerOf? .enumType (extractSpecifiers marker).2 = none)
      (hGap : ∀ l ∈ gap, isMarker l = false ∧ (isComment l = true ∨ headerOf? .enumType l = none))
      (hLine : isMarker header = false ∧ isComment header = false)
      (hHeader : (headerOf? .enumType header).isSome) (hWindow : gap.length < windows.declaration) :
      EnumHead windows (marker :: gap ++ [header]) header

/-- Comments and lines that are no headers are passed over. -/
theorem findSome?_candidatesBelow_append {α : Type} {f : Candidate → Option α} {gap : List (List Char)}
    (hGap : ∀ l ∈ gap, isMarker l = false ∧ (isComment l = true ∨ ∀ c, c.text = l → f c = none))
    {window : Nat} (hWindow : gap.length ≤ window) (number : Nat) (below : List (List Char)) :
    (candidatesBelow window number (gap ++ below)).findSome? f =
      (candidatesBelow (window - gap.length) (number + gap.length) below).findSome? f := by
  induction gap generalizing window number with
  | nil => rfl
  | cons line gap ih =>
      obtain ⟨⟨hMarker, hPassed⟩, hRest⟩ := List.forall_mem_cons.mp hGap
      obtain ⟨w, rfl⟩ : ∃ w, window = w + 1 := ⟨window - 1, by
        rw [List.length_cons] at hWindow
        omega⟩
      have hLess : gap.length ≤ w := by simpa using hWindow
      have hTail := ih hRest hLess (number + 1)
      have hPlace : number + (line :: gap).length = number + 1 + gap.length := by
        rw [List.length_cons]
        omega
      rw [List.cons_append, candidatesBelow, hMarker, if_neg Bool.false_ne_true, hPlace,
        List.length_cons, Nat.add_sub_add_right, ← hTail]
      cases hComment : isComment line with
      | true => rfl
      | false =>
          have hNone := hPassed.resolve_left (by simp [hComment]) ⟨number, line, gap ++ below, w⟩ rfl
          rw [if_neg Bool.false_ne_true, List.findSome?_cons, hNone]

/-- What the marker of an enumeration makes of the header on this line, without its entries. -/
def enumDeclaration (origin : Origin) (marker : List Char) (line : Nat)
    (header : List Char × Option (List Char)) : Declaration :=
  let specifiers := (extractSpecifiers marker).1.map String.ofList
  { name := String.ofList header.1
    kind := .enumType
    parent := header.2.map String.ofList
    specifiers := specifiers
    file := origin.file
    line := line
    module := origin.module
    blueprintType := specifiers.contains "BlueprintType"
    blueprintable := specifiers.contains "Blueprintable"
    values := [] }

/-- The enumeration with this header, if it is one. -/
def enumOf? (windows : Windows) (origin : Origin) (marker : List Char) (c : Candidate) :
    Option Declaration :=
  (headerOf? .enumType c.text).map fun h =>
    { enumDeclaration origin marker c.number h with
      values := enumEntries windows.enumBody c.text c.below }

theorem readDeclaration?_enumType (windows : Windows) (origin : Origin) (number : Nat)
    (marker : List Char) (below : List (List Char)) :
    readDeclaration? windows origin .enumType number marker below =
      (candidates windows.declaration number marker below).findSome? (enumOf? windows origin marker) :=
  rfl

theorem enumOf?_eq_none {windows : Windows} {origin : Origin} {marker : List Char} {c : Candidate}
    (h : headerOf? .enumType c.text = none) : enumOf? windows origin marker c = none := by
  rw [enumOf?, h]
  rfl

section Head

variable {windows : Windows} {head : List (List Char)} {header : List Char}

theorem headerOf?_nil (kind : DeclarationKind) : headerOf? kind [] = none := by
  cases kind <;> rfl

/-- The header is read, and below it the entries. -/
theorem EnumHead.exists_readDeclaration? (h : EnumHead windows head header) (origin : Origin)
    (number : Nat) :
    ∃ marker ls, head = marker :: ls ∧ typeMarker? marker = some .enumType ∧
      ∃ d : Declaration, d.kind = .enumType ∧ d.line + 1 = number + head.length ∧
        ∀ body, readDeclaration? windows origin .enumType number marker (ls ++ body) =
          some { d with values := enumEntries windows.enumBody header body } := by
  cases h with
  | @behind marker _ hMarker hText hHeader =>
      obtain ⟨found, hFound⟩ := Option.isSome_iff_exists.mp hHeader
      have hSome : header.isEmpty = false := by
        cases header with
        | nil => simp [headerOf?_nil] at hHeader
        | cons c cs => rfl
      refine ⟨marker, [], rfl, hMarker, enumDeclaration origin marker number found, rfl, rfl, ?_⟩
      intro body
      simp only [readDeclaration?_enumType, candidates, hText, hSome, Bool.false_eq_true, if_false,
        List.findSome?_cons, enumOf?, hFound, Option.map_some]
      rfl
  | @below marker _ gap hMarker hBehind hGap hLine hHeader hWindow =>
      obtain ⟨found, hFound⟩ := Option.isSome_iff_exists.mp hHeader
      refine ⟨marker, gap ++ [header], rfl, hMarker,
        enumDeclaration origin marker (number + 1 + gap.length) found, rfl, ?_, ?_⟩
      · simp [enumDeclaration]
        omega
      · intro body
        -- Neither the text behind the marker's list nor one of the lines above the header is a header.
        have hPassed : ∀ l ∈ gap, isMarker l = false ∧ (isComment l = true ∨
            ∀ c : Candidate, c.text = l → enumOf? windows origin marker c = none) := by
          intro l hl
          obtain ⟨hNot, hOther⟩ := hGap l hl
          refine ⟨hNot, hOther.imp_right fun hNone c hText => ?_⟩
          exact enumOf?_eq_none (hText ▸ hNone)
        have hBelow := findSome?_candidatesBelow_append hPassed (Nat.le_of_lt hWindow) (number + 1)
          (header :: body)
        obtain ⟨w, hRest⟩ : ∃ w, windows.declaration - gap.length = w + 1 :=
          ⟨windows.declaration - gap.length - 1, by omega⟩
        rw [hRest, candidatesBelow, hLine.1, hLine.2] at hBelow
        have hFirst : readDeclaration? windows origin .enumType number marker
            (gap ++ header :: body) = (candidatesBelow windows.declaration (number + 1)
              (gap ++ header :: body)).findSome? (enumOf? windows origin marker) := by
          rw [readDeclaration?_enumType, candidates]
          split
          · rfl
          · rw [List.findSome?_cons, enumOf?_eq_none hBehind]
        rw [List.append_assoc, List.singleton_append, hFirst, hBelow]
        simp [enumOf?, hFound]

/-- The declaration of the enumeration in every text that its head stands in. -/
theorem EnumHead.exists_declaration (h : EnumHead windows head header) (origin : Origin)
    (above : List (List Char)) :
    ∃ d : Declaration, d.kind = .enumType ∧ d.line = above.length + head.length ∧
      ∀ (text : List Char) (body : List (List Char)), (lines text).map trim = above ++ head ++ body →
        { d with values := enumEntries windows.enumBody header body } ∈
          declarationsOf (reflected windows origin text) := by
  obtain ⟨marker, ls, rfl, hMarker, d, hKind, hLine, hRead⟩ :=
    h.exists_readDeclaration? origin (above.length + 1)
  have hIsMarker : isMarker marker = true := by simp [isMarker, hMarker]
  obtain ⟨owner, hMem⟩ := exists_owner_mem_reflected hIsMarker windows origin above
  refine ⟨d, hKind, by omega, fun text body hText => ?_⟩
  rw [List.append_assoc, List.cons_append] at hText
  rw [mem_declarationsOf]
  apply hMem text (ls ++ body) hText
  simp only [readMarker?, hMarker, hRead, Option.map_some]
  rfl

end Head

end ProjectAtlas.Source
