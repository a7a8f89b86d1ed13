import ProjectAtlas.Proofs.Text.Lines
import ProjectAtlas.Proofs.Text.Pieces

/-!
Texts that hold the same lines with other characters at their ends.
-/

namespace ProjectAtlas.Text

/-- The text holds these lines, with a line end behind each but the last. A carriage return that ends a line
stands in front of no line feed, since the two would be a single line end. -/
inductive LaidOut : List (List Char) → List Char → Prop where
  | last {l : List Char} (hLine : OneLine l) : LaidOut [l] l
  | more {l e t : List Char} {ls : List (List Char)} (hLine : OneLine l) (hEnd : e ∈ lineEnds)
      (hApart : e = ['\r'] → t.head? ≠ some '\n') (rest : LaidOut ls t) :
      LaidOut (l :: ls) (l ++ (e ++ t))

/-- The lines come back. A last line that is empty makes no line of the text. -/
theorem LaidOut.lines {ls : List (List Char)} {text : List Char} (h : LaidOut ls text) :
    lines text = ls ∨ lines text ++ [[]] = ls := by
  induction h with
  | @last l hLine =>
      by_cases hSome : l = []
      · subst hSome
        exact .inr rfl
      · exact .inl (lines_eq_singleton hLine hSome)
  | more hLine hEnd hApart rest ih =>
      rw [lines_append_end hLine hEnd hApart, List.cons_append]
      rcases ih with hAll | hButLast
      · exact .inl (by rw [hAll])
      · exact .inr (by rw [hButLast])

/-- A text with no other line ends than line feeds holds the lines between them. -/
theorem laidOut_splitOn {text : List Char} (h : ∀ c ∈ text, isLineEnd c = true → c = '\n') :
    LaidOut (List.splitOn '\n' text) text := by
  induction text with
  | nil => exact .last oneLine_nil
  | cons c text ih =>
      obtain ⟨hFirst, hRest⟩ := List.forall_mem_cons.mp h
      have hBelow := ih hRest
      rw [List.splitOn_cons_eq_if_modifyHead]
      split
      · rename_i hFeed
        rw [eq_of_beq hFeed]
        exact .more (e := ['\n']) oneLine_nil (by simp [lineEnds]) (by simp) hBelow
      · rename_i hOther
        have hSame : isLineEnd c = false :=
          Bool.eq_false_iff.mpr fun hEnd => hOther (by simpa using hFirst hEnd)
        generalize List.splitOn '\n' text = ls at hBelow
        cases hBelow with
        | last hLine => exact .last (oneLine_cons.mpr ⟨hSame, hLine⟩)
        | more hLine hEnd hApart rest =>
            exact .more (oneLine_cons.mpr ⟨hSame, hLine⟩) hEnd hApart rest

/-- Lines joined by one of the line ends. -/
theorem laidOut_intercalate {e : List Char} (hEnd : e ∈ lineEnds) {ls : List (List Char)}
    (hSome : ls ≠ []) (h : ∀ l ∈ ls, OneLine l) : LaidOut ls (e.intercalate ls) := by
  induction ls with
  | nil => exact absurd rfl hSome
  | cons l ls ih =>
      obtain ⟨hFirst, hRest⟩ := List.forall_mem_cons.mp h
      by_cases hLast : ls = []
      · rw [hLast, List.intercalate_singleton]
        exact .last hFirst
      · rw [List.intercalate_cons_of_ne_nil hLast, List.append_assoc]
        refine .more hFirst hEnd ?_ (ih hLast hRest)
        -- With carriage returns between them the lines hold no line feed at all.
        rintro rfl hFeed
        rcases mem_intercalate (List.mem_of_mem_head? hFeed) with hSep | ⟨p, hp, hPiece⟩
        · simp at hSep
        · exact absurd (hRest p hp '\n' hPiece) (by decide)

end ProjectAtlas.Text
