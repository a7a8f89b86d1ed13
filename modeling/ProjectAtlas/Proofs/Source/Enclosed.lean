import ProjectAtlas.Proofs.Source.Balanced
import ProjectAtlas.Proofs.Source.Nesting

/-!
Texts that are closed in themselves, given by a grammar: they are the balanced texts without a comma at the
top, and the pieces of a list that are found again.
-/

namespace ProjectAtlas.Source

section Enclosed

/-- Every quotation mark in the text is closed, the parentheses outside of quotation marks are balanced, and
no comma stands outside of both. -/
inductive Enclosed : List Char → Prop where
  | nil : Enclosed []
  | plain {c : Char} {cs : List Char} (hPlain : IsPlain c) (rest : Enclosed cs) : Enclosed (c :: cs)
  | quoted {q : Char} {inside cs : List Char} (hQuote : isQuote q = true) (hInside : q ∉ inside)
      (rest : Enclosed cs) : Enclosed (q :: (inside ++ q :: cs))
  | group {inside cs : List Char} (inner : Balanced inside) (rest : Enclosed cs) :
      Enclosed ('(' :: (inside ++ ')' :: cs))

theorem enclosed_of_plain {cs : List Char} (h : ∀ c ∈ cs, IsPlain c) : Enclosed cs := by
  induction cs with
  | nil => exact .nil
  | cons c cs ih =>
      obtain ⟨hFirst, hRest⟩ := List.forall_mem_cons.mp h
      exact .plain hFirst (ih hRest)

theorem Enclosed.append {cs ds : List Char} (h : Enclosed cs) (hNext : Enclosed ds) :
    Enclosed (cs ++ ds) := by
  induction h with
  | nil => exact hNext
  | plain hPlain rest ih => exact .plain hPlain ih
  | quoted hQuote hInside rest ih => simpa using Enclosed.quoted hQuote hInside ih
  | group inner rest ih => simpa using Enclosed.group inner ih

variable (depth : Nat)

/-- A quoted text is passed over. -/
theorem staysInside_quoted {q : Char} {inside : List Char} (hQuote : isQuote q = true)
    (hInside : q ∉ inside) (t : List Char) :
    staysInside ⟨none, depth⟩ (q :: (inside ++ q :: t)) = staysInside ⟨none, depth⟩ t := by
  have hOther {d : Char} (hNot : isQuote d = false) : q ≠ d := by
    rintro rfl
    rw [hQuote] at hNot
    cases hNot
  have hOpen : staysInside ⟨none, depth⟩ (q :: (inside ++ q :: t)) =
      staysInside ⟨some q, depth⟩ (inside ++ q :: t) := by
    simp [staysInside, Nesting.step, hQuote, hOther (show isQuote ',' = false by decide),
      hOther (show isQuote ')' = false by decide)]
  rw [hOpen]
  clear hOpen
  induction inside with
  | nil => simp [staysInside, Nesting.step, Nesting.atTop]
  | cons c inside ih =>
      rw [List.mem_cons, not_or] at hInside
      have hStep : Nesting.step ⟨some q, depth⟩ c = ⟨some q, depth⟩ := by
        simp [Nesting.step, Ne.symm hInside.1]
      rw [List.cons_append, staysInside, hStep, ih hInside.2]
      rfl

/-- Inside of a group a balanced text is passed over. -/
theorem Balanced.staysInside_append {b : List Char} (h : Balanced b) (t : List Char) :
    staysInside ⟨none, depth + 1⟩ (b ++ t) = staysInside ⟨none, depth + 1⟩ t := by
  induction h generalizing depth t with
  | nil => rfl
  | @other c cs hOpen hClose hQuote rest ih =>
      have hStep : Nesting.step ⟨none, depth + 1⟩ c = ⟨none, depth + 1⟩ := by
        simp [Nesting.step, hOpen, hClose, hQuote]
      rw [List.cons_append, staysInside, hStep, ih]
      rfl
  | quoted hQuote hInside rest ih =>
      rw [List.cons_append, List.append_assoc, List.cons_append, staysInside_quoted _ hQuote hInside, ih]
  | group inner rest ihInner ihRest =>
      have hOpen : Nesting.step ⟨none, depth + 1⟩ '(' = ⟨none, depth + 2⟩ := rfl
      have hClose : Nesting.step ⟨none, depth + 2⟩ ')' = ⟨none, depth + 1⟩ := rfl
      rw [List.cons_append, List.append_assoc, List.cons_append, staysInside, hOpen, ihInner,
        staysInside, hClose, ihRest]
      rfl

/-- Such a text is closed in itself. -/
theorem Enclosed.staysInside {cs : List Char} (h : Enclosed cs) : Source.staysInside {} cs = true := by
  induction h with
  | nil => rfl
  | @plain c cs hPlain rest ih =>
      have hOne : Source.staysInside {} [c] = true := staysInside_of_plain (by simpa using hPlain)
      exact staysInside_append hOne ih
  | quoted hQuote hInside rest ih => exact (staysInside_quoted 0 hQuote hInside _).trans ih
  | group inner rest ih =>
      have hOpen : Nesting.step {} '(' = ⟨none, 1⟩ := rfl
      have hClose : Nesting.step ⟨none, 1⟩ ')' = {} := rfl
      rw [Source.staysInside, hOpen, inner.staysInside_append 0, Source.staysInside, hClose, ih]
      rfl

theorem Nesting.after_quoted {q : Char} {inside : List Char} (hQuote : isQuote q = true)
    (hInside : q ∉ inside) (t : List Char) :
    Nesting.after ⟨none, depth⟩ (q :: (inside ++ q :: t)) = Nesting.after ⟨none, depth⟩ t := by
  have hOpen : Nesting.step ⟨none, depth⟩ q = ⟨some q, depth⟩ := by simp [Nesting.step, hQuote]
  rw [Nesting.after_cons, hOpen]
  induction inside with
  | nil => simp [Nesting.step]
  | cons c inside ih =>
      rw [List.mem_cons, not_or] at hInside
      have hStep : Nesting.step ⟨some q, depth⟩ c = ⟨some q, depth⟩ := by
        simp [Nesting.step, Ne.symm hInside.1]
      rw [List.cons_append, Nesting.after_cons, hStep, ih hInside.2]

/-- A balanced text leaves the nesting as it was. -/
theorem Balanced.after {b : List Char} (h : Balanced b) :
    Nesting.after ⟨none, depth⟩ b = ⟨none, depth⟩ := by
  induction h generalizing depth with
  | nil => rfl
  | @other c cs hOpen hClose hQuote rest ih =>
      have hStep : Nesting.step ⟨none, depth⟩ c = ⟨none, depth⟩ := by
        simp [Nesting.step, hOpen, hClose, hQuote]
      rw [Nesting.after_cons, hStep, ih]
  | @quoted q inside cs hQuote hInside rest ih =>
      rw [Nesting.after_quoted depth hQuote hInside, ih]
  | group inner rest ihInner ihRest =>
      have hOpen : Nesting.step ⟨none, depth⟩ '(' = ⟨none, depth + 1⟩ := rfl
      have hClose : Nesting.step ⟨none, depth + 1⟩ ')' = ⟨none, depth⟩ := rfl
      rw [Nesting.after_cons, hOpen, Nesting.after_append, ihInner, Nesting.after_cons, hClose, ihRest]

/-- A balanced text is closed in itself if it has no comma at the top. -/
theorem Balanced.enclosed {b : List Char} (h : Balanced b) (hUncut : Uncut {} b) : Enclosed b := by
  induction h with
  | nil => exact .nil
  | @other c cs hOpen hClose hQuote rest ih =>
      obtain ⟨hFirst, hRest⟩ := uncut_cons_iff.mp hUncut
      have hComma : c ≠ ',' := fun hComma => hFirst ⟨hComma, rfl⟩
      have hStep : Nesting.step {} c = {} := by simp [Nesting.step, hOpen, hClose, hQuote]
      rw [hStep] at hRest
      exact .plain ⟨hComma, hOpen, hClose, hQuote⟩ (ih hRest)
  | @quoted q inside cs hQuote hInside rest ih =>
      have hFront : Nesting.after {} (q :: (inside ++ [q])) = {} :=
        (Balanced.quoted hQuote hInside .nil).after 0
      have hShape : q :: (inside ++ q :: cs) = (q :: (inside ++ [q])) ++ cs := by simp
      rw [hShape, uncut_append_iff, hFront] at hUncut
      exact .quoted hQuote hInside (ih hUncut.2)
  | @group inside cs inner rest _ ih =>
      have hFront : Nesting.after {} ('(' :: (inside ++ [')'])) = {} := (Balanced.group inner .nil).after 0
      have hShape : '(' :: (inside ++ ')' :: cs) = ('(' :: (inside ++ [')'])) ++ cs := by simp
      rw [hShape, uncut_append_iff, hFront] at hUncut
      exact .group inner (ih hUncut.2)

/-- The grammar says what the scanner finds out. -/
theorem staysInside_iff_enclosed {cs : List Char} : Source.staysInside {} cs = true ↔ Enclosed cs := by
  constructor
  · intro h
    have hDeeper : (⟨none, 1⟩ : Nesting) = Nesting.deeper {} := rfl
    have hGroup : group? (cs ++ [')']) = some (cs, []) := by
      rw [group?, hDeeper, closeGroup?_append h, closeGroup?_end, Option.map_some, List.append_nil]
    exact (group?_eq_some_iff.mp hGroup).1.enclosed (uncut_of_staysInside h).1
  · exact Enclosed.staysInside

instance (cs : List Char) : Decidable (Enclosed cs) :=
  decidable_of_iff (Source.staysInside {} cs = true) staysInside_iff_enclosed

end Enclosed

end ProjectAtlas.Source
