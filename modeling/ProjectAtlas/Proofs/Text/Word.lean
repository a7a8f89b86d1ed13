import ProjectAtlas.Proofs.Text.Lines
import ProjectAtlas.Text.Word

/-!
Names, and what tells word characters from the other classes.
-/

namespace ProjectAtlas.Text

/-- What holds of all code points of ASCII holds of its characters. -/
theorem forall_ascii {P : Char → Prop} (h : ∀ n : Fin 128, P (Char.ofNat n)) {c : Char}
    (hSmall : c.toNat < 128) : P c := by
  have hPoint := h ⟨c.toNat, hSmall⟩
  rwa [Char.ofNat_toNat] at hPoint

/-- No letter, numeral or underscore is blank. -/
theorem isBlank_eq_false_of_isWord {c : Char} (h : isWord c = true) : isBlank c = false := by
  by_cases hSmall : c.toNat < 128
  · have hAll : ∀ n : Fin 128, isWord (Char.ofNat n) = true → isBlank (Char.ofNat n) = false := by
      decide
    have hPoint : isWord c = true → isBlank c = false :=
      forall_ascii (P := fun c => isWord c = true → isBlank c = false) hAll hSmall
    exact hPoint h
  · have hNone : ∀ n ∈ [0x85, 0xA0, 0x1680, 0x2000, 0x2001, 0x2002, 0x2003, 0x2004, 0x2005, 0x2006,
        0x2007, 0x2008, 0x2009, 0x200A, 0x2028, 0x2029, 0x202F, 0x205F, 0x3000],
        inRanges letterOrNumeralRanges n = false := by
      decide +kernel
    have hWord : inRanges letterOrNumeralRanges c.toNat = true := by
      simpa [isWord, hSmall] using h
    cases hBlank : isBlank c with
    | false => rfl
    | true =>
        have hPoint := hNone c.toNat (by
          simp only [isBlank, Bool.or_eq_true, Bool.and_eq_true, decide_eq_true_eq,
            beq_iff_eq] at hBlank
          simp only [List.mem_cons, List.not_mem_nil, or_false]
          omega)
        rw [hWord] at hPoint
        cases hPoint

/-- A word does not reach over blanks. -/
theorem isWord_head?_append {gap : List Char} (hGap : ∀ c ∈ gap, isBlank c = true) {d : Char}
    (hNext : isWord d = false) (t : List Char) : ∀ c ∈ (gap ++ d :: t).head?, isWord c = false := by
  intro c hc
  cases gap with
  | nil =>
      cases hc
      exact hNext
  | cons b gap =>
      cases hc
      rw [Bool.eq_false_iff]
      intro hWord
      have hBlank := isBlank_eq_false_of_isWord hWord
      rw [hGap _ List.mem_cons_self] at hBlank
      cases hBlank

theorem isBlank_of_isLineEnd {c : Char} (h : isLineEnd c = true) : isBlank c = true := by
  simp only [isLineEnd, Bool.or_eq_true, Bool.and_eq_true, decide_eq_true_eq, beq_iff_eq] at h
  simp only [isBlank, Bool.or_eq_true, Bool.and_eq_true, decide_eq_true_eq, beq_iff_eq]
  omega

/-- Characters that are not blank end no line. -/
theorem oneLine_of_not_blank {cs : List Char} (h : ∀ c ∈ cs, isBlank c = false) : OneLine cs := by
  intro c hc
  cases hEnd : isLineEnd c with
  | false => rfl
  | true =>
      have hBlank := h c hc
      rw [isBlank_of_isLineEnd hEnd] at hBlank
      cases hBlank

/-- A name: an ASCII letter or an underscore, and word characters after it. -/
def IsName : List Char → Prop
  | [] => False
  | c :: cs => isIdentStart c = true ∧ ∀ a ∈ cs, isWord a = true

instance (cs : List Char) : Decidable (IsName cs) :=
  match cs with
  | [] => inferInstanceAs (Decidable False)
  | c :: cs => inferInstanceAs (Decidable (isIdentStart c = true ∧ ∀ a ∈ cs, isWord a = true))

namespace IsName

variable {name : List Char}

theorem ne_nil (h : IsName name) : name ≠ [] := by
  rintro rfl
  exact h

theorem isWord (h : IsName name) : ∀ c ∈ name, isWord c = true := by
  intro c hc
  cases name with
  | nil => cases hc
  | cons d name =>
      rcases List.mem_cons.mp hc with rfl | hc
      · exact isWord_of_isIdentStart h.1
      · exact h.2 c hc

theorem not_mem (h : IsName name) {c : Char} (hOther : Text.isWord c = false) : c ∉ name := by
  intro hc
  rw [h.isWord c hc] at hOther
  cases hOther

theorem not_blank (h : IsName name) : ∀ c ∈ name, isBlank c = false :=
  fun c hc => isBlank_eq_false_of_isWord (h.isWord c hc)

theorem oneLine (h : IsName name) : OneLine name :=
  oneLine_of_not_blank h.not_blank

/-- A name does not begin with a blank. -/
theorem trimStart_append (h : IsName name) (t : List Char) :
    trimStart (name ++ t) = name ++ t := by
  cases name with
  | nil => exact absurd rfl h.ne_nil
  | cons c name =>
      have hFirst := isBlank_eq_false_of_isWord (isWord_of_isIdentStart h.1)
      simp [trimStart, hFirst]

/-- The word characters that a text begins with. -/
theorem takeWhile_append (h : IsName name) {t : List Char}
    (hNext : ∀ c ∈ t.head?, Text.isWord c = false) :
    (name ++ t).takeWhile Text.isWord = name ∧ (name ++ t).dropWhile Text.isWord = t := by
  have hEnd : t.takeWhile Text.isWord = [] ∧ t.dropWhile Text.isWord = t := by
    cases t with
    | nil => exact ⟨rfl, rfl⟩
    | cons c t => simp [hNext c (by simp)]
  rw [List.takeWhile_append_of_pos h.isWord, List.dropWhile_append_of_pos h.isWord, hEnd.1,
    hEnd.2, List.append_nil]
  exact ⟨rfl, rfl⟩

/-- A name is read as far as it goes. -/
theorem ident?_append (h : IsName name) {t : List Char}
    (hNext : ∀ c ∈ t.head?, Text.isWord c = false) : ident? (name ++ t) = some (name, t) := by
  have hSpan := h.takeWhile_append hNext
  cases name with
  | nil => exact absurd rfl h.ne_nil
  | cons c cs =>
      have hFirst := isWord_of_isIdentStart h.1
      simp only [List.cons_append, List.takeWhile_cons, List.dropWhile_cons, hFirst, if_true,
        List.cons.injEq, true_and] at hSpan
      simp [ident?, h.1, hSpan.1, hSpan.2]

end IsName

/-- An identifier that is read is a name, and ends where the word does. -/
theorem isName_of_ident? {cs name rest : List Char} (h : ident? cs = some (name, rest)) :
    IsName name ∧ ∀ c ∈ rest.head?, isWord c = false := by
  cases cs with
  | nil => cases h
  | cons c cs =>
      rw [ident?] at h
      split at h
      · rename_i hStart
        obtain ⟨rfl, rfl⟩ := Prod.mk.inj (Option.some.inj h)
        refine ⟨⟨hStart, fun a ha => List.mem_takeWhile_imp ha⟩, ?_⟩
        intro a ha
        have hStop := List.head?_dropWhile_not isWord cs
        rw [Option.mem_def.mp ha] at hStop
        exact hStop
      · cases h

end ProjectAtlas.Text
