import ProjectAtlas.Proofs.Source.Context
import ProjectAtlas.Proofs.Source.Signature

/-!
Header lines of functions in general. What stands in front of the first parenthesis decides the return
type and the name, and what follows it is read only as far as the parenthesis is closed.
-/

namespace ProjectAtlas.Source

open ProjectAtlas.Text

section FirstChain

variable {names : List (List Char)} {line front v after : List Char}

/-- Without a chain in front of one parenthesis there is none in front of another. -/
theorem chain?_eq_none_of_open {u t : List Char} (hOpen : '(' ∉ u) (h : chain? (u ++ '(' :: t) = none)
    (t' : List Char) : chain? (u ++ '(' :: t') = none := by
  cases hFound : chain? (u ++ '(' :: t') with
  | none => rfl
  | some found =>
      obtain ⟨names, after⟩ := found
      obtain ⟨v, hText, hShape⟩ := exists_chainText_of_chain? hFound
      obtain ⟨rfl, -⟩ := eq_of_append_cons_eq hOpen hText.not_mem.1 hShape
      rw [hText.chain?] at h
      cases h

/-- Where the first chain stands, and that it stands there whatever follows its parenthesis. -/
theorem exists_chainText_of_firstChain? (h : firstChain? line = some (front, names, after)) :
    ∃ v, ChainText names v ∧ line = front ++ (v ++ '(' :: after) ∧
      ('(' ∉ front → ∀ t, firstChain? (front ++ (v ++ '(' :: t)) = some (front, names, t)) := by
  induction line generalizing front with
  | nil => cases h
  | cons c cs ih =>
      rw [firstChain?] at h
      cases hChain : chain? (c :: cs) with
      | some found =>
          rw [hChain] at h
          cases h
          obtain ⟨v, hText, hShape⟩ := exists_chainText_of_chain? hChain
          exact ⟨v, hText, hShape, fun _ t => firstChain?_of_chain? (hText.chain? t)⟩
      | none =>
          rw [hChain] at h
          obtain ⟨⟨front', names', after'⟩, hRest, hFront⟩ := Option.map_eq_some_iff.mp h
          cases hFront
          obtain ⟨v, hText, rfl, hAny⟩ := ih hRest
          refine ⟨v, hText, rfl, fun hOpen t => ?_⟩
          rw [List.mem_cons, not_or] at hOpen
          have hNone : chain? (c :: (front' ++ (v ++ '(' :: t))) = none := by
            have hBoth : '(' ∉ c :: (front' ++ v) := by
              simp [hOpen, hText.not_mem.1]
            rw [← List.append_assoc, ← List.cons_append] at hChain ⊢
            exact chain?_eq_none_of_open hBoth hChain t
          rw [List.cons_append, firstChain?, hNone, hAny hOpen.2 t]
          rfl

end FirstChain

section Group

/-- A group ends at its parenthesis, whatever follows it, and no shorter text ends it. -/
theorem closeGroup?_eq_some {s : Nesting} {cs inside rest : List Char}
    (h : closeGroup? s cs = some (inside, rest)) :
    cs = inside ++ ')' :: rest ∧ (∀ t, closeGroup? s (inside ++ ')' :: t) = some (inside, t)) ∧
      ∀ p, p <+: inside → closeGroup? s p = none := by
  induction cs generalizing s inside with
  | nil => cases h
  | cons c cs ih =>
      rw [closeGroup?] at h
      split at h
      · rename_i hEnd
        cases h
        refine ⟨?_, fun t => ?_, fun p hp => ?_⟩
        · simp only [Bool.and_eq_true, decide_eq_true_eq] at hEnd
          rw [hEnd.1.1]
          rfl
        · simp only [Bool.and_eq_true, decide_eq_true_eq] at hEnd
          simp [closeGroup?, hEnd]
        · rw [List.prefix_nil.mp hp]
          rfl
      · rename_i hGoesOn
        obtain ⟨⟨inside', rest'⟩, hRest, hShape⟩ := Option.map_eq_some_iff.mp h
        cases hShape
        obtain ⟨rfl, hAny, hShorter⟩ := ih hRest
        refine ⟨rfl, fun t => ?_, fun p hp => ?_⟩
        · rw [List.cons_append, closeGroup?, if_neg hGoesOn, hAny]
          rfl
        · cases p with
          | nil => rfl
          | cons d p =>
              obtain ⟨rfl, hTail⟩ := List.cons_prefix_cons.mp hp
              rw [closeGroup?, if_neg hGoesOn, hShorter p hTail]
              rfl

/-- The characters of a text that are read between quotation marks, the closing mark included. -/
def quotedFrom (s : Nesting) : List Char → List Char
  | [] => []
  | c :: cs => if s.quote.isSome then c :: quotedFrom (s.step c) cs else quotedFrom (s.step c) cs

theorem prefix_quotedFrom {s : Nesting} {p cs : List Char} (h : p <+: cs) :
    quotedFrom s p <+: quotedFrom s cs := by
  induction p generalizing s cs with
  | nil => exact List.nil_prefix
  | cons c p ih =>
      obtain ⟨t, rfl⟩ := h
      rw [List.cons_append, quotedFrom, quotedFrom]
      split
      · exact List.cons_prefix_cons.mpr ⟨rfl, ih (List.prefix_append p t)⟩
      · exact ih (List.prefix_append p t)

theorem Nesting.depth_step_of_quoted {s : Nesting} (h : s.quote.isSome) (c : Char) :
    (s.step c).depth = s.depth := by
  obtain ⟨quote, depth⟩ := s
  obtain ⟨q, rfl⟩ := Option.isSome_iff_exists.mp h
  by_cases hEnd : c = q <;> simp [step, hEnd]

/-- Outside of quotation marks parentheses count, and nothing else does. -/
theorem Nesting.depth_step_of_not_quoted {s : Nesting} (h : s.quote = none) (c : Char) :
    (s.step c).depth =
      if c = '(' then s.depth + 1 else if c = ')' then s.depth - 1 else s.depth := by
  obtain ⟨quote, depth⟩ := s
  subst h
  by_cases hQuote : isQuote c = true
  · have hOther : c ≠ '(' ∧ c ≠ ')' := by
      constructor <;>
        · rintro rfl
          exact absurd hQuote (by decide)
    simp [step, hQuote, hOther]
  · by_cases hOpen : c = '('
    · simp [step, hOpen, isQuote]
    · by_cases hClose : c = ')'
      · simp [step, hClose, isQuote]
      · simp [step, hQuote, hOpen, hClose]

/-- As long as a group is not closed more parentheses are opened than closed in it, if none that closes
is between quotation marks. -/
theorem count_close_lt {s : Nesting} {p : List Char} (hDepth : 0 < s.depth)
    (hNone : closeGroup? s p = none) (hQuoted : ')' ∉ quotedFrom s p) :
    p.count ')' < s.depth + p.count '(' := by
  induction p generalizing s with
  | nil => simpa using hDepth
  | cons c p ih =>
      rw [closeGroup?] at hNone
      split at hNone
      · cases hNone
      · rename_i hGoesOn
        have hRest : closeGroup? (s.step c) p = none := by simpa using hNone
        by_cases hQuote : s.quote.isSome = true
        · rw [quotedFrom, if_pos hQuote, List.mem_cons, not_or] at hQuoted
          have hStep := Nesting.depth_step_of_quoted hQuote c
          have hLess := ih (hStep ▸ hDepth) hRest hQuoted.2
          rw [List.count_cons_of_ne (Ne.symm hQuoted.1), List.count_cons]
          omega
        · have hNo : s.quote = none := by simpa using hQuote
          rw [quotedFrom, if_neg hQuote] at hQuoted
          have hStep := Nesting.depth_step_of_not_quoted hNo c
          by_cases hOpen : c = '('
          · rw [if_pos hOpen] at hStep
            have hLess := ih (by omega) hRest hQuoted
            rw [hOpen, List.count_cons_self, List.count_cons_of_ne (by decide)]
            omega
          · rw [if_neg hOpen] at hStep
            by_cases hClose : c = ')'
            · rw [if_pos hClose] at hStep
              have hDeep : s.depth ≠ 1 := by simpa [hClose, hNo] using hGoesOn
              have hLess := ih (by omega) hRest hQuoted
              rw [hClose, List.count_cons_self, List.count_cons_of_ne (by decide)]
              omega
            · rw [if_neg hClose] at hStep
              have hLess := ih (by omega) hRest hQuoted
              rw [List.count_cons_of_ne hOpen, List.count_cons_of_ne hClose]
              omega

end Group

section Signature

/-- All that stands in front of a name may stand in a return type, if what is kept of it may. -/
theorem isTypeChar_of_returnWords {front : List Char}
    (h : ∀ c ∈ [' '].intercalate (returnWords front), isTypeChar c = true) :
    ∀ c ∈ front, isTypeChar c = true := by
  intro c hc
  cases hBlank : isBlank c with
  | true => simp [isTypeChar, hBlank]
  | false =>
      have hWords : (words front).takeWhile leadingQualifiers.contains ++ returnWords front =
          words front := List.takeWhile_append_dropWhile
      obtain ⟨w, hw, hMem⟩ := exists_mem_words hc hBlank
      rw [← hWords, List.mem_append] at hw
      rcases hw with hQualifier | hKept
      · have hLetters : ∀ w ∈ leadingQualifiers, ∀ c ∈ w, isTypeChar c = true := by decide
        have hLeading := List.mem_takeWhile_imp hQualifier
        exact hLetters w (by simpa using hLeading) c hMem
      · exact h c (mem_intercalate_of_mem hKept hMem)

/-- The text of a header line up to the parenthesis decides what is read, but for the parameters. -/
theorem exists_open_of_signatureOf? {line : List Char} {s : Signature}
    (h : signatureOf? line = some s) :
    ∃ u after rest, line = u ++ '(' :: after ∧ '(' ∉ u ∧ ')' ∉ u ∧ 2 ≤ u.length ∧
      group? after = some (s.parameters, rest) ∧
        ∀ t, signatureOf? (u ++ '(' :: t) = (group? t).map fun r => { s with parameters := r.1 } := by
  obtain ⟨front, names, after, rest, hChain, hAccepts, hType, hQualifier, hGroup⟩ :=
    exists_firstChain?_of_signatureOf? h
  obtain ⟨v, hText, rfl, hAny⟩ := exists_chainText_of_firstChain? hChain
  have hFront := isTypeChar_of_returnWords hAccepts.typeChars
  have hOpen : '(' ∉ front := fun hMem => absurd (hFront '(' hMem) (by decide)
  have hClose : ')' ∉ front := fun hMem => absurd (hFront ')' hMem) (by decide)
  have hSome : front ≠ [] := by
    rintro rfl
    exact hAccepts.hasType rfl
  refine ⟨front ++ v, after, rest, by rw [List.append_assoc], ?_, ?_, ?_, hGroup, fun t => ?_⟩
  · simp [hOpen, hText.not_mem.1]
  · simp [hClose, hText.not_mem.2]
  · have hLeft := List.length_pos_iff.mpr hSome
    have hRight := List.length_pos_iff.mpr hText.ne_nil
    rw [List.length_append]
    omega
  · rw [List.append_assoc, signatureOf?_of_firstChain? names (hAny hOpen t) hAccepts, ← hType,
      ← hQualifier]

variable {line : List Char} {s : Signature}

/-- What follows a header does not change how it is read. -/
theorem signatureOf?_append (h : signatureOf? line = some s) (more : List Char) :
    signatureOf? (line ++ more) = some s := by
  obtain ⟨u, after, rest, rfl, -, -, -, hGroup, hAny⟩ := exists_open_of_signatureOf? h
  obtain ⟨rfl, hClosed, -⟩ := closeGroup?_eq_some hGroup
  have hMore : group? (s.parameters ++ ')' :: (rest ++ more)) =
      some (s.parameters, rest ++ more) := hClosed _
  rw [List.append_assoc, List.cons_append, List.append_assoc, List.cons_append, hAny, hMore]
  rfl

/-- A line that begins a header is no marker: what stands in front of its parenthesis is more than one
name. -/
theorem isMarker_eq_false_of_signatureOf? {more : List Char} (h : signatureOf? (line ++ more) = some s)
    (hOpen : '(' ∈ line) : isMarker line = false := by
  rw [Bool.eq_false_iff]
  intro hMarker
  obtain ⟨word, hWord, hMarked⟩ := exists_isMarked_of_isMarker hMarker
  have hName : IsName word.toList := by
    simp only [List.mem_cons, List.not_mem_nil, or_false] at hWord
    rcases hWord with rfl | rfl | rfl | rfl | rfl <;> decide
  rw [isMarked, Bool.and_eq_true, List.isPrefixOf_iff_prefix] at hMarked
  obtain ⟨⟨rest, rfl⟩, hBehind⟩ := hMarked
  rw [List.drop_left] at hBehind
  obtain ⟨gap, hGap, hRest⟩ := exists_blanks_append rest
  split at hBehind
  · rename_i hNone
    rw [hNone, List.append_nil] at hRest
    rw [← hRest, List.mem_append] at hOpen
    rcases hOpen with hMem | hMem
    · exact hName.not_mem (by decide) hMem
    · exact absurd (hGap '(' hMem) (by decide)
  · rename_i c after hTrim
    have hOpenChar : c = '(' := by simpa using hBehind
    have hText := ChainText.last hName hGap
    have hShape : word.toList ++ rest ++ more =
        (word.toList ++ gap) ++ '(' :: (after ++ more) := by
      rw [← hRest, hTrim, hOpenChar]
      simp
    rw [hShape, signatureOf?, firstChain?_of_chain? (hText.chain? _)] at h
    simp [returnWords, words, List.intercalate] at h

theorem isComment_append (h : 2 ≤ line.length) (more : List Char) :
    isComment (line ++ more) = isComment line := by
  cases line with
  | nil => simp at h
  | cons a line =>
      cases line with
      | nil => simp at h
      | cons b line => simp [isComment, List.isPrefixOf]

end Signature

end ProjectAtlas.Source
