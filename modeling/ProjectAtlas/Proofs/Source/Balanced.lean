import ProjectAtlas.Source.Nesting

/-!
Balanced texts, given by a grammar that knows nothing of how they are read. The parenthesis that closes
a group is the one with a balanced text in front of it.
-/

namespace ProjectAtlas.Source

/-- Every quotation mark in the text is closed, and the parentheses outside of quotation marks are
balanced. -/
inductive Balanced : List Char → Prop where
  | nil : Balanced []
  | other {c : Char} {cs : List Char} (hOpen : c ≠ '(') (hClose : c ≠ ')') (hQuote : isQuote c = false)
      (rest : Balanced cs) : Balanced (c :: cs)
  | quoted {q : Char} {inside cs : List Char} (hQuote : isQuote q = true) (hInside : q ∉ inside)
      (rest : Balanced cs) : Balanced (q :: (inside ++ q :: cs))
  | group {inside cs : List Char} (inner : Balanced inside) (rest : Balanced cs) :
      Balanced ('(' :: (inside ++ ')' :: cs))

theorem balanced_of_other {cs : List Char} (h : ∀ c ∈ cs, c ≠ '(' ∧ c ≠ ')' ∧ isQuote c = false) :
    Balanced cs := by
  induction cs with
  | nil => exact .nil
  | cons c cs ih =>
      obtain ⟨⟨hOpen, hClose, hQuote⟩, hRest⟩ := List.forall_mem_cons.mp h
      exact .other hOpen hClose hQuote (ih hRest)

section Step

variable {c : Char} (depth : Nat) (cs : List Char)

/-- A character that is neither a quotation mark nor a parenthesis is passed over. -/
theorem closeGroup?_other (hOpen : c ≠ '(') (hClose : c ≠ ')') (hQuote : isQuote c = false) :
    closeGroup? ⟨none, depth⟩ (c :: cs) =
      (closeGroup? ⟨none, depth⟩ cs).map fun r => (c :: r.1, r.2) := by
  simp [closeGroup?, Nesting.step, hOpen, hClose, hQuote]

theorem closeGroup?_quote (hQuote : isQuote c = true) :
    closeGroup? ⟨none, depth⟩ (c :: cs) =
      (closeGroup? ⟨some c, depth⟩ cs).map fun r => (c :: r.1, r.2) := by
  have hClose : c ≠ ')' := by
    rintro rfl
    cases hQuote
  simp [closeGroup?, Nesting.step, hClose, hQuote]

theorem closeGroup?_open :
    closeGroup? ⟨none, depth⟩ ('(' :: cs) =
      (closeGroup? ⟨none, depth + 1⟩ cs).map fun r => ('(' :: r.1, r.2) := by
  simp [closeGroup?, Nesting.step, isQuote]

/-- A parenthesis that closes an inner group. -/
theorem closeGroup?_close :
    closeGroup? ⟨none, depth + 2⟩ (')' :: cs) =
      (closeGroup? ⟨none, depth + 1⟩ cs).map fun r => (')' :: r.1, r.2) := by
  simp [closeGroup?, Nesting.step, isQuote]

theorem closeGroup?_end : closeGroup? ⟨none, 1⟩ (')' :: cs) = some ([], cs) := by
  simp [closeGroup?]

/-- Between quotation marks everything is passed over up to the same mark. -/
theorem closeGroup?_quoted {q : Char} {inside : List Char} (hInside : q ∉ inside) :
    closeGroup? ⟨some q, depth⟩ (inside ++ q :: cs) =
      (closeGroup? ⟨none, depth⟩ cs).map fun r => (inside ++ q :: r.1, r.2) := by
  induction inside with
  | nil => simp [closeGroup?, Nesting.step]
  | cons c inside ih =>
      rw [List.mem_cons, not_or] at hInside
      have hStep : Nesting.step ⟨some q, depth⟩ c = ⟨some q, depth⟩ := by
        simp [Nesting.step, Ne.symm hInside.1]
      rw [List.cons_append, closeGroup?, hStep, ih hInside.2]
      simp [Function.comp_def]

/-- A quotation mark that is not closed hides all that follows it. -/
theorem closeGroup?_unclosed {q : Char} {cs : List Char} (h : q ∉ cs) :
    closeGroup? ⟨some q, depth⟩ cs = none := by
  induction cs with
  | nil => rfl
  | cons c cs ih =>
      rw [List.mem_cons, not_or] at h
      have hStep : Nesting.step ⟨some q, depth⟩ c = ⟨some q, depth⟩ := by
        simp [Nesting.step, Ne.symm h.1]
      simp [closeGroup?, hStep, ih h.2]

theorem exists_quoted_of_closeGroup? {q : Char} {cs : List Char}
    (h : (closeGroup? ⟨some q, depth⟩ cs).isSome) :
    ∃ inside t, cs = inside ++ q :: t ∧ q ∉ inside ∧ (closeGroup? ⟨none, depth⟩ t).isSome := by
  by_cases hMem : q ∈ cs
  · obtain ⟨inside, t, rfl, hInside⟩ := List.eq_append_cons_of_mem hMem
    rw [closeGroup?_quoted _ _ hInside, Option.isSome_map] at h
    exact ⟨inside, t, rfl, hInside, h⟩
  · rw [closeGroup?_unclosed _ hMem] at h
    cases h

end Step

/-- A group goes on over a balanced text. -/
theorem Balanced.closeGroup?_append {b : List Char} (h : Balanced b) (depth : Nat) (t : List Char) :
    closeGroup? ⟨none, depth + 1⟩ (b ++ t) =
      (closeGroup? ⟨none, depth + 1⟩ t).map fun r => (b ++ r.1, r.2) := by
  induction h generalizing depth t with
  | nil => simp
  | other hOpen hClose hQuote rest ih =>
      rw [List.cons_append, closeGroup?_other _ _ hOpen hClose hQuote, ih, Option.map_map]
      rfl
  | quoted hQuote hInside rest ih =>
      rw [List.cons_append, List.append_assoc, List.cons_append, closeGroup?_quote _ _ hQuote,
        closeGroup?_quoted _ _ hInside, ih, Option.map_map, Option.map_map]
      simp [Function.comp_def]
  | group inner rest ihInner ihRest =>
      rw [List.cons_append, List.append_assoc, List.cons_append, closeGroup?_open, ihInner,
        closeGroup?_close, ihRest, Option.map_map, Option.map_map, Option.map_map]
      simp [Function.comp_def]

/-- Where a group is closed, there is a balanced text in front of a closing parenthesis. -/
theorem exists_balanced_of_closeGroup? (depth : Nat) {cs : List Char}
    (h : (closeGroup? ⟨none, depth + 1⟩ cs).isSome) :
    ∃ b t, Balanced b ∧ cs = b ++ ')' :: t := by
  -- Behind a quoted text or an inner group the text goes on, so the induction is on its length.
  induction hLength : cs.length using Nat.strongRecOn generalizing depth cs with
  | ind n ih =>
      subst hLength
      have hRest {depth : Nat} {t : List Char} (hShorter : t.length < cs.length)
          (hClosed : (closeGroup? ⟨none, depth + 1⟩ t).isSome) :
          ∃ b u, Balanced b ∧ t = b ++ ')' :: u :=
        ih t.length hShorter depth hClosed rfl
      cases cs with
      | nil => cases h
      | cons c cs =>
          by_cases hClose : c = ')'
          · exact ⟨[], cs, .nil, by rw [hClose]; rfl⟩
          by_cases hOpen : c = '('
          · subst hOpen
            rw [closeGroup?_open, Option.isSome_map] at h
            obtain ⟨inside, t, hInside, rfl⟩ := hRest (Nat.lt_succ_self _) h
            rw [hInside.closeGroup?_append, closeGroup?_close, Option.isSome_map,
              Option.isSome_map] at h
            obtain ⟨b, u, hBalanced, rfl⟩ := hRest (by simp; omega) h
            exact ⟨_, u, .group hInside hBalanced, by simp⟩
          cases hQuote : isQuote c with
          | false =>
              rw [closeGroup?_other _ _ hOpen hClose hQuote, Option.isSome_map] at h
              obtain ⟨b, u, hBalanced, rfl⟩ := hRest (Nat.lt_succ_self _) h
              exact ⟨_, u, .other hOpen hClose hQuote hBalanced, rfl⟩
          | true =>
              rw [closeGroup?_quote _ _ hQuote, Option.isSome_map] at h
              obtain ⟨inside, t, rfl, hInside, hClosed⟩ := exists_quoted_of_closeGroup? _ h
              obtain ⟨b, u, hBalanced, rfl⟩ := hRest (by simp; omega) hClosed
              exact ⟨_, u, .quoted hQuote hInside hBalanced, by simp⟩

/-- A group is what stands in front of the parenthesis that balances its own. -/
theorem group?_eq_some_iff {cs inside rest : List Char} :
    group? cs = some (inside, rest) ↔ Balanced inside ∧ cs = inside ++ ')' :: rest := by
  have hRead {b : List Char} (h : Balanced b) (t : List Char) :
      group? (b ++ ')' :: t) = some (b, t) := by
    rw [group?, h.closeGroup?_append 0, closeGroup?_end, Option.map_some, List.append_nil]
  constructor
  · intro h
    obtain ⟨b, t, hBalanced, rfl⟩ :=
      exists_balanced_of_closeGroup? 0 (Option.isSome_of_eq_some h)
    rw [hRead hBalanced, Option.some.injEq, Prod.mk.injEq] at h
    obtain ⟨rfl, rfl⟩ := h
    exact ⟨hBalanced, rfl⟩
  · rintro ⟨hBalanced, rfl⟩
    exact hRead hBalanced rest

/-- No parenthesis in the text closes the list that it begins in: none has a balanced text in front of it. -/
def NeverCloses (list : List Char) : Prop :=
  ∀ inside rest, Balanced inside → list ≠ inside ++ ')' :: rest

theorem neverCloses_of_group? {list : List Char} (h : group? list = none) : NeverCloses list := by
  rintro inside rest hBalanced rfl
  rw [group?_eq_some_iff.mpr ⟨hBalanced, rfl⟩] at h
  cases h

theorem group?_eq_none_iff {list : List Char} : group? list = none ↔ NeverCloses list := by
  refine ⟨neverCloses_of_group?, fun h => ?_⟩
  cases hGroup : group? list with
  | none => rfl
  | some r =>
      obtain ⟨hBalanced, hShape⟩ := group?_eq_some_iff.mp (show group? list = some (r.1, r.2) from hGroup)
      exact absurd hShape (h r.1 r.2 hBalanced)

end ProjectAtlas.Source
