import ProjectAtlas.Proofs.Source.Cutting

/-!
Lists of pieces in parentheses. Pieces that are closed in themselves are found again in the list, and
the parenthesis behind the list is the one that closes it.
-/

namespace ProjectAtlas.Source

open ProjectAtlas.Text

/-- Read from the nesting `s` on, the text comes to the top at its end, and before that meets no comma and
no closing parenthesis there. -/
def staysInside (s : Nesting) : List Char → Bool
  | [] => s.atTop
  | c :: cs => !(s.atTop && (c = ',' || c = ')')) && staysInside (s.step c) cs

/-- The nesting in one more parenthesis. -/
def Nesting.deeper (s : Nesting) : Nesting :=
  { s with depth := s.depth + 1 }

/-- One more parenthesis around a text makes no difference to its characters, unless one closes it. -/
theorem Nesting.step_deeper {s : Nesting} {c : Char} (h : s.atTop = true → c ≠ ')') :
    s.deeper.step c = (s.step c).deeper := by
  obtain ⟨quote, depth⟩ := s
  cases quote with
  | some q => by_cases hQuote : c = q <;> simp [step, deeper, hQuote]
  | none =>
      by_cases hQuote : isQuote c = true
      · simp [step, deeper, hQuote]
      · by_cases hOpen : c = '('
        · subst hOpen
          simp [step, deeper, isQuote]
        · by_cases hClose : c = ')'
          · subst hClose
            cases depth with
            | zero => exact absurd rfl (h rfl)
            | succ depth => simp [step, deeper, isQuote]
          · simp [step, deeper, hQuote, hOpen, hClose]

/-- A text of plain characters is closed in itself. -/
theorem staysInside_of_plain {cs : List Char} (h : ∀ c ∈ cs, IsPlain c) :
    staysInside {} cs = true := by
  induction cs with
  | nil => rfl
  | cons c cs ih =>
      obtain ⟨hFirst, hRest⟩ := List.forall_mem_cons.mp h
      rw [staysInside, Nesting.wellFormed_start.step_plain hFirst, ih hRest]
      simp [hFirst.1, hFirst.2.2.1]

/-- Two texts that are closed in themselves are so together. -/
theorem staysInside_append {p q : List Char} {s : Nesting} (hFirst : staysInside s p = true)
    (hSecond : staysInside {} q = true) : staysInside s (p ++ q) = true := by
  induction p generalizing s with
  | nil =>
      rw [Nesting.eq_of_atTop hFirst]
      exact hSecond
  | cons c p ih =>
      simp only [staysInside, Bool.and_eq_true, List.cons_append] at hFirst ⊢
      exact ⟨hFirst.1, ih hFirst.2⟩

/-- A text that is closed in itself has no comma at the top, and comes back there. -/
theorem uncut_of_staysInside {p : List Char} {s : Nesting} (h : staysInside s p = true) :
    Uncut s p ∧ s.after p = {} := by
  induction p generalizing s with
  | nil => exact ⟨uncut_of_not_mem List.not_mem_nil s, Nesting.eq_of_atTop h⟩
  | cons c p ih =>
      simp only [staysInside, Bool.and_eq_true, Bool.not_eq_true', Bool.and_eq_false_iff,
        Bool.or_eq_false_iff, decide_eq_false_iff_not] at h
      obtain ⟨hUncut, hTop⟩ := ih h.2
      refine ⟨uncut_cons_iff.mpr ⟨?_, hUncut⟩, hTop⟩
      rintro ⟨hComma, hOutside⟩
      rcases h.1 with hDeep | hOther
      · rw [hOutside] at hDeep
        cases hDeep
      · exact hOther.1 hComma

/-- A text that is closed in itself lengthens the first piece of what follows it. -/
theorem rawPieces_append {p : List Char} {s : Nesting} (h : staysInside s p = true)
    {t q : List Char} {qs : List (List Char)} (hNext : rawPieces {} t = q :: qs) :
    rawPieces s (p ++ t) = (p ++ q) :: qs := by
  obtain ⟨hUncut, hTop⟩ := uncut_of_staysInside h
  rw [← hTop] at hNext
  exact hUncut.rawPieces_append hNext

/-- A group goes on over a text that is closed in itself. -/
theorem closeGroup?_append {p : List Char} {s : Nesting} (h : staysInside s p = true)
    (t : List Char) :
    closeGroup? s.deeper (p ++ t) =
      (closeGroup? ⟨none, 1⟩ t).map fun r => (p ++ r.1, r.2) := by
  induction p generalizing s with
  | nil =>
      rw [Nesting.eq_of_atTop h]
      simp [Nesting.deeper]
  | cons c p ih =>
      simp only [staysInside, Bool.and_eq_true, Bool.not_eq_true', Bool.and_eq_false_iff,
        Bool.or_eq_false_iff, decide_eq_false_iff_not] at h
      have hOther : s.atTop = true → c ≠ ')' := by
        intro hTop
        rcases h.1 with hDeep | hOther
        · rw [hTop] at hDeep
          cases hDeep
        · exact hOther.2
      have hInside :
          (decide (c = ')') && s.deeper.quote.isNone && s.deeper.depth == 1) = false := by
        by_cases hClose : c = ')'
        · have hDeep : s.atTop ≠ true := fun hTop => hOther hTop hClose
          simpa [Nesting.atTop, Nesting.deeper, hClose] using hDeep
        · simp [hClose]
      rw [List.cons_append, closeGroup?, hInside, Nesting.step_deeper hOther, ih h.2]
      cases closeGroup? ⟨none, 1⟩ t <;> rfl

/-- A piece of a list: closed in itself, without blanks at its ends, and on one line. -/
structure IsPiece (p : List Char) : Prop extends IsLine p where
  inside : staysInside {} p = true

instance (p : List Char) : Decidable (IsPiece p) :=
  decidable_of_iff (IsLine p ∧ staysInside {} p = true)
    ⟨fun ⟨hLine, hInside⟩ => ⟨hLine, hInside⟩, fun ⟨hLine, hInside⟩ => ⟨hLine, hInside⟩⟩

/-- Pieces with a comma and a blank between neighbours. -/
def listText (ps : List (List Char)) : List Char :=
  [',', ' '].intercalate ps

@[simp]
theorem listText_nil : listText [] = [] := rfl

@[simp]
theorem listText_singleton (p : List Char) : listText [p] = p := List.intercalate_singleton

theorem listText_cons_cons (p q : List Char) (ps : List (List Char)) :
    listText (p :: q :: ps) = p ++ ',' :: ' ' :: listText (q :: ps) := by
  simp [listText, List.intercalate_cons_cons]

theorem mem_listText {p : List Char} {ps : List (List Char)} (hp : p ∈ ps) {c : Char} (hc : c ∈ p) :
    c ∈ listText ps :=
  mem_intercalate_of_mem hp hc

theorem oneLine_listText {ps : List (List Char)} (h : ∀ p ∈ ps, OneLine p) :
    OneLine (listText ps) := by
  induction ps with
  | nil => exact oneLine_nil
  | cons q ps ih =>
      cases ps with
      | nil => simpa using h q (by simp)
      | cons r ps =>
          have hRest := ih fun a ha => h a (List.mem_cons_of_mem q ha)
          rw [listText_cons_cons]
          simp [h q (by simp), hRest, isLineEnd]

/-- A list of pieces has no blanks at its ends. -/
theorem isTrimmed_listText {p : List Char} {ps : List (List Char)}
    (h : ∀ a ∈ p :: ps, IsPiece a) : IsTrimmed (listText (p :: ps)) := by
  induction ps generalizing p with
  | nil => simpa using (h p (by simp)).trimmed
  | cons q ps ih =>
      have hFirst := h p (by simp)
      have hRest := ih fun a ha => h a (List.mem_cons_of_mem p ha)
      rw [listText_cons_cons]
      have hSome : listText (q :: ps) ≠ [] := by
        cases ps with
        | nil => simpa using (h q (by simp)).ne_nil
        | cons r ps => simp [listText_cons_cons]
      have hEnds := isTrimmed_append hFirst.ne_nil hSome hFirst.trimmed.first hRest.last [',', ' ']
      simpa using hEnds

theorem cutAtTop_of_staysInside {ps : List (List Char)} (hSome : ps ≠ [])
    (h : ∀ p ∈ ps, staysInside {} p = true) : CutAtTop {} ps := by
  induction ps with
  | nil => exact absurd rfl hSome
  | cons p ps ih =>
      obtain ⟨hFirst, hRest⟩ := List.forall_mem_cons.mp h
      obtain ⟨hUncut, hTop⟩ := uncut_of_staysInside hFirst
      cases ps with
      | nil => exact .last hUncut
      | cons q ps => exact .comma hUncut (by rw [hTop]; rfl) (ih (List.cons_ne_nil q ps) hRest)

/-- Pieces between commas are found again. -/
theorem rawPieces_intercalate {ps : List (List Char)} (hSome : ps ≠ [])
    (h : ∀ p ∈ ps, staysInside {} p = true) : rawPieces {} ([','].intercalate ps) = ps :=
  (cutAtTop_of_staysInside hSome h).rawPieces_intercalate

/-- A list is cut into its pieces, with the blank in front of each but the first. -/
theorem rawPieces_listText {p : List Char} {ps : List (List Char)}
    (h : ∀ a ∈ p :: ps, staysInside {} a = true) :
    rawPieces {} (listText (p :: ps)) = p :: ps.map (' ' :: ·) := by
  induction ps generalizing p with
  | nil =>
      have hLast : rawPieces {} (p ++ []) = (p ++ []) :: [] :=
        rawPieces_append (h p (by simp)) rfl
      simpa using hLast
  | cons q ps ih =>
      have hRest := ih fun a ha => h a (List.mem_cons_of_mem p ha)
      have hComma : rawPieces {} (',' :: ' ' :: listText (q :: ps)) =
          [] :: (' ' :: q) :: ps.map (' ' :: ·) := by
        have hBlank : rawPieces {} (' ' :: listText (q :: ps)) =
            consFirst ' ' (rawPieces {} (listText (q :: ps))) := rfl
        rw [rawPieces, hBlank, hRest]
        rfl
      rw [listText_cons_cons, rawPieces_append (h p (by simp)) hComma]
      simp

/-- The pieces of a list are found again, without the blanks at their ends. -/
theorem splitTopLevel_listText_trim {p : List Char} {ps : List (List Char)} (hSome : trim p ≠ [])
    (h : ∀ a ∈ p :: ps, staysInside {} a = true) :
    splitTopLevel (listText (p :: ps)) = (p :: ps).map trim := by
  have hBlank : ∀ c ∈ [' '], isBlank c = true := by decide
  have hOthers : (ps.map (' ' :: ·)).map trim = ps.map trim := by
    rw [List.map_map]
    exact List.map_congr_left fun a _ => trim_blanks_append hBlank a
  rw [splitTopLevel, rawPieces_listText h, List.map_cons, hOthers]
  split
  · rename_i hNone
    exact absurd (List.cons.inj hNone).1 hSome
  · rfl

theorem splitTopLevel_listText_of_isTrimmed {ps : List (List Char)}
    (hTrimmed : ∀ p ∈ ps, IsTrimmed p ∧ p ≠ []) (hInside : ∀ p ∈ ps, staysInside {} p = true) :
    splitTopLevel (listText ps) = ps := by
  cases ps with
  | nil =>
      simp [splitTopLevel, rawPieces, trim_nil_of_blanks]
  | cons p ps =>
      obtain ⟨hEnds, hSome⟩ := hTrimmed p List.mem_cons_self
      rw [← hEnds.trim] at hSome
      rw [splitTopLevel_listText_trim hSome hInside]
      exact map_trim_of_isTrimmed fun a ha => (hTrimmed a ha).1

/-- The pieces of a list are found again. -/
theorem splitTopLevel_listText {ps : List (List Char)} (h : ∀ p ∈ ps, IsPiece p) :
    splitTopLevel (listText ps) = ps :=
  splitTopLevel_listText_of_isTrimmed (fun p hp => ⟨(h p hp).trimmed, (h p hp).ne_nil⟩)
    fun p hp => (h p hp).inside

/-- The parenthesis behind a list closes the group that it stands in. -/
theorem group?_listText {ps : List (List Char)} (h : ∀ p ∈ ps, staysInside {} p = true)
    (t : List Char) : group? (listText ps ++ ')' :: t) = some (listText ps, t) := by
  have hDeeper : (⟨none, 1⟩ : Nesting) = Nesting.deeper {} := rfl
  have hClose : closeGroup? ⟨none, 1⟩ (')' :: t) = some ([], t) := by simp [closeGroup?]
  induction ps with
  | nil => exact hClose
  | cons p ps ih =>
      cases ps with
      | nil =>
          rw [group?, listText_singleton, hDeeper, closeGroup?_append (h p (by simp)), hClose]
          simp
      | cons q ps =>
          have hRest := ih fun a ha => h a (List.mem_cons_of_mem p ha)
          have hComma : closeGroup? ⟨none, 1⟩ (',' :: ' ' :: (listText (q :: ps) ++ ')' :: t)) =
              some (',' :: ' ' :: listText (q :: ps), t) := by
            rw [group?] at hRest
            simp [closeGroup?, Nesting.step, isQuote, hRest]
          rw [group?, listText_cons_cons, List.append_assoc, List.cons_append, List.cons_append,
            hDeeper, closeGroup?_append (h p (by simp)), hComma]
          simp

end ProjectAtlas.Source
