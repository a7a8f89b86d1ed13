import ProjectAtlas.Proofs.Source.Rendering
import ProjectAtlas.Proofs.Source.SpecifierList

/-!
Marker lines: what their list of specifiers gives, and which lines are none.
-/

namespace ProjectAtlas.Source

open ProjectAtlas.Text

theorem isName_recordMarker (kind : RecordKind) : IsName kind.kind.marker.toList := by
  cases kind <;> simp [RecordKind.kind, DeclarationKind.marker, IsName, isIdentStart, isWord]

theorem isName_enumMarker : IsName "UENUM".toList := by
  simp [IsName, isIdentStart, isWord]

theorem isName_callableMarker : IsName "UFUNCTION".toList := by
  simp [IsName, isIdentStart, isWord]

theorem isLine_markerLine {marker : String} (hMarker : IsName marker.toList)
    {specifiers : List String} (h : ∀ s ∈ specifiers, IsPiece s.toList) :
    IsLine (markerLine marker specifiers) where
  ne_nil := by simp [markerLine]
  trimmed := by
    apply isTrimmed_append hMarker.ne_nil
    · simp
    · exact fun c hc => hMarker.not_blank c (List.mem_of_mem_head? hc)
    · simp [isBlank]
  oneLine := by
    have hList : OneLine (listText (specifiers.map String.toList)) := by
      apply oneLine_listText
      intro a ha
      obtain ⟨s, hs, rfl⟩ := List.mem_map.mp ha
      exact (h s hs).oneLine
    simp [markerLine, hMarker.oneLine, hList, isLineEnd]

/-- The specifiers of a marker line are found again, and nothing stands behind them. -/
theorem extractSpecifiers_markerLine {marker : String} (hMarker : IsName marker.toList)
    {specifiers : List String} (h : ∀ s ∈ specifiers, IsPiece s.toList) :
    extractSpecifiers (markerLine marker specifiers) = (specifiers.map String.toList, []) := by
  have hPieces : ∀ p ∈ specifiers.map String.toList, IsPiece p := List.forall_mem_map.mpr h
  have hRead := extractSpecifiers_listText (hMarker.not_mem (by decide))
    (fun p hp => ⟨(hPieces p hp).trimmed, (hPieces p hp).ne_nil⟩) (fun p hp => (hPieces p hp).inside) []
  have hShape : markerLine marker specifiers =
      marker.toList ++ '(' :: (listText (specifiers.map String.toList) ++ [')']) := by
    simp [markerLine]
  rw [hShape]
  exact hRead

theorem typeMarker?_markerLine (kind : RecordKind) (specifiers : List String) :
    typeMarker? (markerLine kind.kind.marker specifiers) = some kind.kind := by
  cases kind <;>
    simp [typeMarker?, DeclarationKind.known, isMarked, markerLine, RecordKind.kind,
      DeclarationKind.marker, List.isPrefixOf, trimStart, isBlank]

theorem typeMarker?_enumMarkerLine (specifiers : List String) :
    typeMarker? (markerLine "UENUM" specifiers) = some .enumType := by
  simp [typeMarker?, DeclarationKind.known, isMarked, markerLine,
    DeclarationKind.marker, List.isPrefixOf, trimStart, isBlank]

theorem typeMarker?_callableMarkerLine (specifiers : List String) :
    typeMarker? (markerLine "UFUNCTION" specifiers) = none ∧
      isCallableMarker (markerLine "UFUNCTION" specifiers) = true := by
  simp [typeMarker?, isCallableMarker, DeclarationKind.known, isMarked, markerLine,
    DeclarationKind.marker, List.isPrefixOf, trimStart, isBlank]

/-- A word with something else behind it than blanks and a parenthesis is no marker. -/
theorem isMarked_eq_false {word line : List Char} (hWord : ∀ c ∈ word, isWord c = true) {d : Char}
    {t : List Char} (hRest : trimStart (line.dropWhile isWord) = d :: t) (hOther : d ≠ '(') :
    isMarked word line = false := by
  cases hMarked : isMarked word line with
  | false => rfl
  | true =>
      simp only [isMarked, Bool.and_eq_true, List.isPrefixOf_iff_prefix] at hMarked
      obtain ⟨⟨rest, rfl⟩, hBehind⟩ := hMarked
      rw [List.drop_left] at hBehind
      rw [List.dropWhile_append_of_pos hWord] at hRest
      -- What stands behind the word is no word character, so both readings see the same text.
      have hSame : rest.dropWhile isWord = rest := by
        cases rest with
        | nil => rfl
        | cons c rest =>
            have hNot : isWord c = false := by
              cases hBlank : isBlank c with
              | true =>
                  cases hChar : isWord c with
                  | false => rfl
                  | true =>
                      rw [isBlank_eq_false_of_isWord hChar] at hBlank
                      cases hBlank
              | false =>
                  have hOpen : c = '(' := by simpa [trimStart, hBlank] using hBehind
                  subst hOpen
                  decide
            simp [hNot]
      rw [hSame] at hRest
      rw [hRest] at hBehind
      exact absurd (by simpa using hBehind) hOther

/-- A line is no marker if something else than a parenthesis follows the word that it begins with. -/
theorem isMarker_eq_false {line : List Char} {d : Char} {t : List Char}
    (hRest : trimStart (line.dropWhile isWord) = d :: t) (hOther : d ≠ '(') :
    isMarker line = false := by
  have hWords : ∀ w ∈ ["UCLASS", "USTRUCT", "UENUM", "UINTERFACE", "UFUNCTION"],
      ∀ c ∈ w.toList, isWord c = true := by
    simp [isWord]
  have hNone : ∀ w ∈ ["UCLASS", "USTRUCT", "UENUM", "UINTERFACE", "UFUNCTION"],
      isMarked w.toList line = false := fun w hw => isMarked_eq_false (hWords w hw) hRest hOther
  simp only [List.mem_cons, List.not_mem_nil, or_false, forall_eq_or_imp, forall_eq] at hNone
  obtain ⟨hClass, hStruct, hEnum, hInterface, hFunction⟩ := hNone
  simp only [isMarker, typeMarker?, isCallableMarker, DeclarationKind.known, List.find?_cons,
    List.find?_nil, DeclarationKind.marker, hClass, hStruct, hEnum, hInterface, hFunction]
  rfl

/-- In front of a name that a blank sets apart, no parenthesis is the next character. -/
theorem trimStart_append_name {u name : List Char} (hOpen : '(' ∉ u) (hName : IsName name)
    (t : List Char) : ∃ d r, trimStart (u ++ ' ' :: (name ++ t)) = d :: r ∧ d ≠ '(' := by
  induction u with
  | nil =>
      cases name with
      | nil => exact absurd rfl hName.ne_nil
      | cons c name =>
          refine ⟨c, name ++ t, ?_, ?_⟩
          · rw [List.nil_append, trimStart_cons_blank (by decide), hName.trimStart_append]
            rfl
          · rintro rfl
            exact absurd hName.1 (by decide)
  | cons c u ih =>
      rw [List.mem_cons, not_or] at hOpen
      cases hBlank : isBlank c with
      | true =>
          obtain ⟨d, r, hRest, hOther⟩ := ih hOpen.2
          refine ⟨d, r, ?_, hOther⟩
          rw [List.cons_append, trimStart_cons_blank hBlank, hRest]
      | false =>
          refine ⟨c, u ++ ' ' :: (name ++ t), ?_, Ne.symm hOpen.1⟩
          simp [trimStart, hBlank]

theorem dropWhile_isWord_append (u t : List Char) :
    (u ++ ' ' :: t).dropWhile isWord = u.dropWhile isWord ++ ' ' :: t := by
  have hBlank : isWord ' ' = false := by decide
  rw [List.dropWhile_append]
  cases hRest : u.dropWhile isWord with
  | nil => simp [hBlank]
  | cons c rest => rfl

/-- A line is no marker if a name comes before its first parenthesis, set apart by a blank. -/
theorem isMarker_append_name {u name : List Char} (hOpen : '(' ∉ u) (hName : IsName name)
    (t : List Char) : isMarker (u ++ ' ' :: (name ++ t)) = false := by
  have hRest : '(' ∉ u.dropWhile isWord := fun hMem =>
    hOpen ((List.dropWhile_suffix isWord).mem hMem)
  obtain ⟨d, r, hTrim, hOther⟩ := trimStart_append_name hRest hName t
  rw [← dropWhile_isWord_append] at hTrim
  exact isMarker_eq_false hTrim hOther

/-- The braces around a body are no markers. -/
theorem isMarker_brace : isMarker ['{'] = false ∧ isMarker ['}', ';'] = false :=
  ⟨isMarker_eq_false rfl (by decide), isMarker_eq_false rfl (by decide)⟩

end ProjectAtlas.Source
