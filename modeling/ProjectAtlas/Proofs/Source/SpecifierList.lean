import ProjectAtlas.Proofs.Source.Enclosed
import ProjectAtlas.Source.Nesting

/-!
The specifiers in the first parentheses of a line. One scanner looks for the parenthesis that closes the
list and another for the commas in it; on specifiers that are closed in themselves both keep to the same
nesting, so the list is read back and nothing that follows it gets into it.
-/

namespace ProjectAtlas.Source

open ProjectAtlas.Text

/-- What stands behind the first parenthesis of a line decides how the line is read. -/
theorem extractSpecifiers_append {front : List Char} (hFront : '(' ∉ front) (t : List Char) :
    extractSpecifiers (front ++ '(' :: t) =
      (group? t).elim ((splitTopLevel t).filter (!·.isEmpty), [])
        fun r => ((splitTopLevel r.1).filter (!·.isEmpty), trim r.2) := by
  simp only [extractSpecifiers, cutAt?_append hFront]
  cases group? t <;> rfl

theorem extractSpecifiers_listText {front : List Char} (hFront : '(' ∉ front)
    {ps : List (List Char)} (hTrimmed : ∀ p ∈ ps, IsTrimmed p ∧ p ≠ [])
    (hInside : ∀ p ∈ ps, staysInside {} p = true) (rest : List Char) :
    extractSpecifiers (front ++ '(' :: (listText ps ++ ')' :: rest)) = (ps, trim rest) := by
  have hSome : ps.filter (!·.isEmpty) = ps := by
    rw [List.filter_eq_self]
    intro p hp
    have hNe := (hTrimmed p hp).2
    simpa using hNe
  rw [extractSpecifiers_append hFront, group?_listText hInside, Option.elim_some,
    splitTopLevel_listText_of_isTrimmed hTrimmed hInside, hSome]

/-- A specifier: not empty, without blanks at its ends, and closed in itself. -/
structure IsSpecifier (p : List Char) : Prop extends IsTrimmed p where
  ne_nil : p ≠ []
  enclosed : Enclosed p

instance (p : List Char) : Decidable (IsSpecifier p) :=
  decidable_of_iff (IsTrimmed p ∧ p ≠ [] ∧ Enclosed p)
    ⟨fun ⟨hTrimmed, hSome, hEnclosed⟩ => ⟨hTrimmed, hSome, hEnclosed⟩,
      fun h => ⟨h.toIsTrimmed, h.ne_nil, h.enclosed⟩⟩

/-- Specifiers are read back from their list, whatever stands in front of its parenthesis and whatever follows
it, and what follows it is what is left of the line. A list that is not closed reaches to the end of the
line: its pieces are the specifiers, and nothing is left. -/
theorem extractSpecifiers_written {front : List Char} (hFront : '(' ∉ front) :
    (∀ specifiers : List (List Char), (∀ p ∈ specifiers, IsSpecifier p) → ∀ rest,
        extractSpecifiers (front ++ '(' :: (listText specifiers ++ ')' :: rest)) =
          (specifiers, trim rest)) ∧
      ∀ list, NeverCloses list →
        extractSpecifiers (front ++ '(' :: list) =
          ((splitTopLevel list).filter (!·.isEmpty), []) := by
  constructor
  · intro specifiers h rest
    apply extractSpecifiers_listText hFront
    · exact fun p hp => ⟨(h p hp).toIsTrimmed, (h p hp).ne_nil⟩
    · exact fun p hp => (h p hp).enclosed.staysInside
  · intro list hNever
    rw [extractSpecifiers_append hFront, group?_eq_none_iff.mpr hNever, Option.elim_none]

/-- A specifier with a list of its own and one with a quoted text are read back in front of a header; the
same quotation mark left open hides the parenthesis that would close the list. -/
theorem extractSpecifiers_written_class :
    extractSpecifiers "UCLASS (Abstract, meta=(A, B), Tip=\"x) y, (\") class UTip ".toList =
        (["Abstract".toList, "meta=(A, B)".toList, "Tip=\"x) y, (\"".toList], "class UTip".toList) ∧
      extractSpecifiers "UCLASS(Abstract,, Tip=\"x) class UTip".toList =
        (["Abstract".toList, "Tip=\"x) class UTip".toList], []) := by
  constructor
  · have hShape : "UCLASS (Abstract, meta=(A, B), Tip=\"x) y, (\") class UTip ".toList =
        "UCLASS ".toList ++ '(' ::
          (listText ["Abstract".toList, "meta=(A, B)".toList, "Tip=\"x) y, (\"".toList] ++
            ')' :: " class UTip ".toList) := by
      decide
    have hRest : trim " class UTip ".toList = "class UTip".toList := by decide
    rw [hShape, (extractSpecifiers_written (by decide)).1 _ (by decide), hRest]
  · have hShape : "UCLASS(Abstract,, Tip=\"x) class UTip".toList =
        "UCLASS".toList ++ '(' :: "Abstract,, Tip=\"x) class UTip".toList := by
      decide
    have hOpen : NeverCloses "Abstract,, Tip=\"x) class UTip".toList :=
      group?_eq_none_iff.mp (by decide)
    have hPieces : (splitTopLevel "Abstract,, Tip=\"x) class UTip".toList).filter (!·.isEmpty) =
        ["Abstract".toList, "Tip=\"x) class UTip".toList] := by
      decide
    rw [hShape, (extractSpecifiers_written (by decide)).2 _ hOpen, hPieces]

end ProjectAtlas.Source
