import ProjectAtlas.Proofs.Text.Blank
import ProjectAtlas.Text.Pieces

/-!
Lines of texts that are put together of lines.
-/

namespace ProjectAtlas.Text

/-- A text without carriage returns has its line ends as they should be. -/
theorem unifyLineEnds_eq_self {cs : List Char} (h : '\r' ∉ cs) : unifyLineEnds cs = cs := by
  fun_induction unifyLineEnds cs with
  | case1 => rfl
  | case2 cs ih => simp at h
  | case3 c cs hOther ih =>
      rw [List.mem_cons, not_or] at h
      rw [ih h.2, if_neg (Ne.symm h.1)]

/-- A text that stays on one line. -/
def OneLine (cs : List Char) : Prop :=
  ∀ c ∈ cs, isLineEnd c = false

instance (cs : List Char) : Decidable (OneLine cs) :=
  inferInstanceAs (Decidable (∀ c ∈ cs, isLineEnd c = false))

@[simp]
theorem oneLine_nil : OneLine [] := by
  intro c hc
  cases hc

@[simp]
theorem oneLine_cons {c : Char} {cs : List Char} :
    OneLine (c :: cs) ↔ isLineEnd c = false ∧ OneLine cs :=
  List.forall_mem_cons

@[simp]
theorem oneLine_append {cs ds : List Char} : OneLine (cs ++ ds) ↔ OneLine cs ∧ OneLine ds :=
  List.forall_mem_append

theorem lines_cons {c : Char} (h : isLineEnd c = false) (cs : List Char) :
    lines (c :: cs) = consFirst c (lines cs) := by
  have hOther : c ≠ '\r' := by
    rintro rfl
    exact absurd h (by decide)
  rw [lines]
  · simp [h]
  · rintro rest rfl
    exact absurd rfl hOther

/-- A line that is not empty, at the end of a text. -/
theorem lines_eq_singleton {l : List Char} (h : OneLine l) (hSome : l ≠ []) : lines l = [l] := by
  induction l with
  | nil => exact absurd rfl hSome
  | cons c l ih =>
      rw [lines_cons (h c (by simp))]
      cases l with
      | nil => rfl
      | cons d l =>
          rw [ih (fun a ha => h a (by simp [ha])) (by simp)]
          rfl

/-- What may end a line of a source file: a line feed, a carriage return, or both in sequence. -/
def lineEnds : List (List Char) :=
  [['\n'], ['\r', '\n'], ['\r']]

/-- A line with a line end behind it. -/
theorem lines_append_end {l e t : List Char} (hLine : OneLine l) (hEnd : e ∈ lineEnds)
    (hApart : e = ['\r'] → t.head? ≠ some '\n') : lines (l ++ (e ++ t)) = l :: lines t := by
  induction l with
  | nil =>
      simp only [lineEnds, List.mem_cons, List.not_mem_nil, or_false] at hEnd
      rcases hEnd with rfl | rfl | rfl
      · simp [lines, isLineEnd]
      · simp [lines]
      · cases t with
        | nil => rfl
        | cons c t =>
            have hOther : c ≠ '\n' := fun hSame => hApart rfl (by rw [hSame]; rfl)
            rw [List.nil_append, List.singleton_append, lines]
            · rfl
            · rintro cs - hSame
              exact hOther (List.cons.inj hSame).1
  | cons c l ih =>
      obtain ⟨hFirst, hRest⟩ := oneLine_cons.mp hLine
      rw [List.cons_append, lines_cons hFirst, ih hRest]
      rfl

/-- A line in front of others. -/
theorem lines_append {l : List Char} (h : OneLine l) (cs : List Char) :
    lines (l ++ '\n' :: cs) = l :: lines cs :=
  lines_append_end (e := ['\n']) h (by simp [lineEnds]) (by simp)

/-- A line that is not empty and has no blanks at its ends. -/
structure IsLine (l : List Char) : Prop where
  ne_nil : l ≠ []
  trimmed : IsTrimmed l
  oneLine : OneLine l

instance (l : List Char) : Decidable (IsLine l) :=
  decidable_of_iff (l ≠ [] ∧ IsTrimmed l ∧ OneLine l)
    ⟨fun ⟨hSome, hTrimmed, hLine⟩ => ⟨hSome, hTrimmed, hLine⟩,
      fun ⟨hSome, hTrimmed, hLine⟩ => ⟨hSome, hTrimmed, hLine⟩⟩

/-- Lines joined by line feeds are the lines of the text. -/
theorem lines_intercalate {ls : List (List Char)} (h : ∀ l ∈ ls, IsLine l) :
    lines (['\n'].intercalate ls) = ls := by
  induction ls with
  | nil => rfl
  | cons l ls ih =>
      have hRest := ih fun a ha => h a (by simp [ha])
      have hFirst := h l (by simp)
      cases ls with
      | nil => simpa using lines_eq_singleton hFirst.oneLine hFirst.ne_nil
      | cons m ls =>
          rw [List.intercalate_cons_cons, List.append_assoc, List.singleton_append,
            lines_append hFirst.oneLine, hRest]

theorem intercalate_consFirst (sep : List Char) (c : Char) {ps : List (List Char)} (hSome : ps ≠ []) :
    sep.intercalate (consFirst c ps) = c :: sep.intercalate ps := by
  cases ps with
  | nil => exact absurd rfl hSome
  | cons p ps => cases ps <;> simp [consFirst]

/-- Trimming leaves such lines as they are. -/
theorem map_trim_eq_self {ls : List (List Char)} (h : ∀ l ∈ ls, IsLine l) : ls.map trim = ls :=
  map_trim_of_isTrimmed fun l hl => (h l hl).trimmed

end ProjectAtlas.Text
