import Mathlib.Data.List.Basic
import Mathlib.Data.List.TakeWhile
import ProjectAtlas.Text.Pieces

/-!
Blanks at the ends of a text and between its words.
-/

namespace ProjectAtlas.Text

/-- What all characters of a text satisfy is decided on the text, and not on all characters there are. -/
instance (priority := 1100) decidableForallText {P : Char → Prop} [DecidablePred P]
    (cs : List Char) : Decidable (∀ c ∈ cs, P c) :=
  List.decidableBAll P cs

instance (priority := 1100) decidableForallEnd {P : Char → Prop} [DecidablePred P]
    (end? : Option Char) : Decidable (∀ c ∈ end?, P c) :=
  Option.decidableForallMem end?

/-- A text that neither begins nor ends with a blank. -/
structure IsTrimmed (cs : List Char) : Prop where
  first : ∀ c ∈ cs.head?, isBlank c = false
  last : ∀ c ∈ cs.getLast?, isBlank c = false

instance (cs : List Char) : Decidable (IsTrimmed cs) :=
  decidable_of_iff
    ((∀ c ∈ cs.head?, isBlank c = false) ∧ ∀ c ∈ cs.getLast?, isBlank c = false)
    ⟨fun ⟨hFirst, hLast⟩ => ⟨hFirst, hLast⟩, fun ⟨hFirst, hLast⟩ => ⟨hFirst, hLast⟩⟩

/-- The two ends of a text decide. -/
theorem isTrimmed_append {front back : List Char} (hFront : front ≠ []) (hBack : back ≠ [])
    (hFirst : ∀ c ∈ front.head?, isBlank c = false) (hLast : ∀ c ∈ back.getLast?, isBlank c = false)
    (middle : List Char) : IsTrimmed (front ++ middle ++ back) := by
  constructor
  · intro c hc
    rw [List.append_assoc, List.head?_append_of_ne_nil _ hFront] at hc
    exact hFirst c hc
  · intro c hc
    rw [List.getLast?_append_of_ne_nil _ hBack] at hc
    exact hLast c hc

/-- The ranges of the blanks. -/
def blankRanges : List (Nat × Nat) :=
  [(9, 13), (28, 32), (0x85, 0x85), (0xA0, 0xA0), (0x1680, 0x1680), (0x2000, 0x200A),
    (0x2028, 0x2029), (0x202F, 0x202F), (0x205F, 0x205F), (0x3000, 0x3000)]

theorem isBlank_iff {c : Char} :
    isBlank c = true ↔ ∃ r ∈ blankRanges, r.1 ≤ c.toNat ∧ c.toNat ≤ r.2 := by
  simp only [isBlank, blankRanges, List.mem_cons, List.not_mem_nil, or_false, exists_eq_or_imp,
    exists_eq_left, Bool.or_eq_true, Bool.and_eq_true, decide_eq_true_eq, beq_iff_eq]
  omega

theorem trimStart_cons_blank {c : Char} (h : isBlank c = true) (cs : List Char) :
    trimStart (c :: cs) = trimStart cs := by
  simp [trimStart, h]

/-- What trimming takes away in front of a text. -/
theorem exists_blanks_append (cs : List Char) :
    ∃ gap, (∀ c ∈ gap, isBlank c = true) ∧ gap ++ trimStart cs = cs :=
  ⟨cs.takeWhile isBlank, fun _ hc => List.mem_takeWhile_imp hc, List.takeWhile_append_dropWhile⟩

/-- What trimming takes away behind a text. -/
theorem exists_append_blanks (cs : List Char) :
    ∃ gap, (∀ c ∈ gap, isBlank c = true) ∧ trimEnd cs ++ gap = cs := by
  obtain ⟨gap, hGap, hShape⟩ := exists_blanks_append cs.reverse
  refine ⟨gap.reverse, fun c hc => hGap c (List.mem_reverse.mp hc), ?_⟩
  rw [trimEnd, ← List.reverse_append, ← trimStart, hShape, List.reverse_reverse]

/-- What trimming takes away at both ends of a text. -/
theorem exists_blanks_around_trim (cs : List Char) :
    ∃ front back, (∀ c ∈ front, isBlank c = true) ∧ (∀ c ∈ back, isBlank c = true) ∧
      front ++ trim cs ++ back = cs := by
  obtain ⟨front, hFront, hStart⟩ := exists_blanks_append cs
  obtain ⟨back, hBack, hEnd⟩ := exists_append_blanks (trimStart cs)
  refine ⟨front, back, hFront, hBack, ?_⟩
  rw [List.append_assoc, trim, hEnd, hStart]

/-- Trimming takes away nothing but blanks. -/
theorem filter_trim (cs : List Char) :
    (trim cs).filter (!isBlank ·) = cs.filter (!isBlank ·) := by
  have hNone {gap : List Char} (h : ∀ c ∈ gap, isBlank c = true) : gap.filter (!isBlank ·) = [] := by
    simpa [List.filter_eq_nil_iff] using h
  obtain ⟨front, back, hFront, hBack, hShape⟩ := exists_blanks_around_trim cs
  calc
    _ = (front ++ trim cs ++ back).filter (!isBlank ·) := by
      rw [List.filter_append, List.filter_append, hNone hFront, hNone hBack, List.nil_append,
        List.append_nil]
    _ = cs.filter (!isBlank ·) := by rw [hShape]

theorem trimStart_blanks_append {gap : List Char} (h : ∀ c ∈ gap, isBlank c = true)
    (t : List Char) : trimStart (gap ++ t) = trimStart t :=
  List.dropWhile_append_of_pos h

theorem trimEnd_append_blanks {gap : List Char} (h : ∀ c ∈ gap, isBlank c = true)
    (cs : List Char) : trimEnd (cs ++ gap) = trimEnd cs := by
  have hReverse : ∀ c ∈ gap.reverse, isBlank c = true := fun c hc => h c (List.mem_reverse.mp hc)
  rw [trimEnd, List.reverse_append, List.dropWhile_append_of_pos hReverse, trimEnd]

/-- The end of a text is trimmed behind its last character that is not blank. -/
theorem trimEnd_append_cons {c : Char} (h : isBlank c = false) (front t : List Char) :
    trimEnd (front ++ c :: t) = front ++ c :: trimEnd t := by
  rw [trimEnd, trimEnd, List.reverse_append, List.reverse_cons, List.append_assoc,
    List.dropWhile_append]
  split
  · rename_i hEmpty
    rw [List.isEmpty_iff.mp hEmpty]
    simp [h]
  · simp

theorem trimStart_eq_self {cs : List Char} (h : ∀ c ∈ cs.head?, isBlank c = false) :
    trimStart cs = cs := by
  cases cs with
  | nil => rfl
  | cons c cs => simp [trimStart, h c (by simp)]

theorem trimEnd_eq_self {cs : List Char} (h : ∀ c ∈ cs.getLast?, isBlank c = false) :
    trimEnd cs = cs := by
  have hReverse : trimStart cs.reverse = cs.reverse :=
    trimStart_eq_self fun c hc => h c (by rwa [List.head?_reverse] at hc)
  rw [trimEnd]
  change (trimStart cs.reverse).reverse = cs
  rw [hReverse, List.reverse_reverse]

/-- A text that begins with no blank keeps its first character. -/
theorem trim_cons {c : Char} (h : isBlank c = false) (cs : List Char) :
    trim (c :: cs) = c :: trimEnd cs := by
  have hStart : trimStart (c :: cs) = c :: cs := by simp [trimStart, h]
  rw [trim, hStart]
  exact trimEnd_append_cons h [] cs

theorem IsTrimmed.trim {cs : List Char} (h : IsTrimmed cs) : trim cs = cs := by
  rw [Text.trim, trimStart_eq_self h.first, trimEnd_eq_self h.last]

theorem map_trim_of_isTrimmed {ps : List (List Char)} (h : ∀ p ∈ ps, IsTrimmed p) :
    ps.map trim = ps := by
  calc
    _ = ps.map id := List.map_congr_left fun p hp => (h p hp).trim
    _ = ps := List.map_id _

/-- Blanks around a trimmed text are what trimming takes away. -/
theorem IsTrimmed.trim_blanks {cs : List Char} (h : IsTrimmed cs) (hSome : cs ≠ [])
    (front back : List Char) (hFront : ∀ c ∈ front, isBlank c = true)
    (hBack : ∀ c ∈ back, isBlank c = true) : Text.trim (front ++ cs ++ back) = cs := by
  have hStart : trimStart (front ++ cs ++ back) = cs ++ back := by
    rw [trimStart, List.append_assoc, List.dropWhile_append_of_pos hFront]
    apply trimStart_eq_self
    intro c hc
    cases cs with
    | nil => exact absurd rfl hSome
    | cons d cs => exact h.first c hc
  have hEnd : ∀ c ∈ back.reverse, isBlank c = true := fun c hc => hBack c (List.mem_reverse.mp hc)
  have hLast := trimEnd_eq_self h.last
  rw [Text.trim, hStart, trimEnd, List.reverse_append, List.dropWhile_append_of_pos hEnd]
  exact hLast

theorem trim_nil_of_blanks {cs : List Char} (h : ∀ c ∈ cs, isBlank c = true) : trim cs = [] := by
  rw [trim, trimStart, List.dropWhile_eq_nil_iff.mpr h]
  rfl

theorem trim_blanks_append {gap : List Char} (h : ∀ c ∈ gap, isBlank c = true) (t : List Char) :
    trim (gap ++ t) = trim t := by
  rw [trim, trimStart_blanks_append h, trim]

theorem trim_append_blanks {gap : List Char} (h : ∀ c ∈ gap, isBlank c = true) (cs : List Char) :
    trim (cs ++ gap) = trim cs := by
  by_cases hBlank : ∀ c ∈ cs, isBlank c = true
  · rw [trim_nil_of_blanks hBlank, trim_nil_of_blanks (List.forall_mem_append.mpr ⟨hBlank, h⟩)]
  · have hSome : (trimStart cs).isEmpty = false := by
      rw [List.isEmpty_eq_false_iff, trimStart, Ne, List.dropWhile_eq_nil_iff]
      exact hBlank
    have hStart : trimStart (cs ++ gap) = trimStart cs ++ gap := by
      rw [trimStart, List.dropWhile_append, ← trimStart, hSome]
      rfl
    rw [trim, hStart, trimEnd_append_blanks h, trim]

/-- Words of a text that begins with one: it reaches to the next blank. -/
theorem words_append {w t : List Char} (hSome : w ≠ []) (hWord : ∀ c ∈ w, isBlank c = false)
    (hNext : ∀ c ∈ t.head?, isBlank c = true) : words (w ++ t) = w :: words t := by
  induction w with
  | nil => exact absurd rfl hSome
  | cons c w ih =>
      have hFirst : isBlank c = false := hWord c (by simp)
      cases w with
      | nil =>
          cases t with
          | nil => simp [words, hFirst]
          | cons d t =>
              have hBlank : isBlank d = true := hNext d (by simp)
              simp [words, hFirst, hBlank]
      | cons d w =>
          have hRest := ih (by simp) fun a ha => hWord a (by simp [ha])
          have hSecond : isBlank d = false := hWord d (by simp)
          rw [List.cons_append] at hRest
          rw [List.cons_append, List.cons_append, words]
          simp [hFirst, hSecond, hRest]

theorem words_cons_blank {c : Char} (h : isBlank c = true) (cs : List Char) :
    words (c :: cs) = words cs := by
  simp [words, h]

theorem words_blanks_append {gap : List Char} (h : ∀ c ∈ gap, isBlank c = true) (t : List Char) :
    words (gap ++ t) = words t := by
  induction gap with
  | nil => rfl
  | cons b gap ih =>
      obtain ⟨hFirst, hRest⟩ := List.forall_mem_cons.mp h
      rw [List.cons_append, words_cons_blank hFirst, ih hRest]

/-- A blank at the end of a text makes no word. -/
theorem words_append_blank {b : Char} (hBlank : isBlank b = true) (cs : List Char) :
    words (cs ++ [b]) = words cs := by
  fun_induction words cs with
  | case1 => simp [words, hBlank]
  | case2 c cs hFirst ih => simpa [words, hFirst] using ih
  | case3 c hFirst => simp [words, hFirst, hBlank]
  | case4 c hFirst d cs hSecond ih =>
      rw [List.cons_append, List.cons_append, words]
      simpa [hFirst, hSecond] using ih
  | case5 c hFirst d cs hSecond w ws hRest ih =>
      rw [List.cons_append, List.cons_append] at *
      rw [words]
      simp [hFirst, hSecond, ih, hRest]
  | case6 c hFirst d cs hSecond hRest ih =>
      rw [List.cons_append, List.cons_append] at *
      rw [words]
      simp [hFirst, hSecond, ih, hRest]

/-- Words are not empty and hold no blanks. -/
theorem mem_words {cs w : List Char} (h : w ∈ words cs) : w ≠ [] ∧ ∀ c ∈ w, isBlank c = false := by
  fun_induction words cs generalizing w with
  | case1 => cases h
  | case2 c cs hFirst ih => exact ih h
  | case3 c hFirst =>
      rw [List.mem_singleton.mp h]
      exact ⟨by simp, by simpa using hFirst⟩
  | case4 c hFirst d cs hSecond ih =>
      rcases List.mem_cons.mp h with rfl | h
      · exact ⟨by simp, by simpa using hFirst⟩
      · exact ih h
  | case5 c hFirst d cs hSecond v vs hRest ih =>
      rw [hRest] at ih h
      rcases List.mem_cons.mp h with rfl | h
      · have hWord := ih (List.mem_cons_self)
        refine ⟨by simp, ?_⟩
        intro a ha
        rcases List.mem_cons.mp ha with rfl | ha
        · simpa using hFirst
        · exact hWord.2 a ha
      · exact ih (List.mem_cons_of_mem v h)
  | case6 c hFirst d cs hSecond hRest ih =>
      rw [hRest] at h
      rw [List.mem_singleton.mp h]
      exact ⟨by simp, by simpa using hFirst⟩

/-- A character that is not blank stands in a word. -/
theorem exists_mem_words {cs : List Char} {c : Char} (hc : c ∈ cs) (hSome : isBlank c = false) :
    ∃ w ∈ words cs, c ∈ w := by
  fun_induction words cs with
  | case1 => cases hc
  | case2 d cs hFirst ih =>
      rcases List.mem_cons.mp hc with rfl | hc
      · rw [hSome] at hFirst
        cases hFirst
      · exact ih hc
  | case3 d hFirst => exact ⟨_, List.mem_singleton_self _, hc⟩
  | case4 d hFirst e cs hSecond ih =>
      rcases List.mem_cons.mp hc with rfl | hc
      · exact ⟨_, List.mem_cons_self, List.mem_singleton_self _⟩
      · obtain ⟨w, hw, hMem⟩ := ih hc
        exact ⟨w, List.mem_cons_of_mem _ hw, hMem⟩
  | case5 d hFirst e cs hSecond w ws hRest ih =>
      rw [hRest] at ih ⊢
      rcases List.mem_cons.mp hc with rfl | hc
      · exact ⟨_, List.mem_cons_self, List.mem_cons_self⟩
      · obtain ⟨v, hv, hMem⟩ := ih hc
        rcases List.mem_cons.mp hv with rfl | hv
        · exact ⟨_, List.mem_cons_self, List.mem_cons_of_mem _ hMem⟩
        · exact ⟨v, List.mem_cons_of_mem _ hv, hMem⟩
  | case6 d hFirst e cs hSecond hRest ih =>
      rw [hRest] at ih ⊢
      rcases List.mem_cons.mp hc with rfl | hc
      · exact ⟨_, List.mem_singleton_self _, List.mem_singleton_self _⟩
      · obtain ⟨w, hw, -⟩ := ih hc
        cases hw

theorem mem_dropWhile {p : Char → Bool} {cs : List Char} {c : Char} (hc : c ∈ cs)
    (hStop : p c = false) : c ∈ cs.dropWhile p := by
  rw [← List.takeWhile_append_dropWhile (p := p) (l := cs), List.mem_append] at hc
  rcases hc with hTaken | hLeft
  · have hPass := List.mem_takeWhile_imp hTaken
    rw [hStop] at hPass
    cases hPass
  · exact hLeft

theorem length_trim_le (cs : List Char) : (trim cs).length ≤ cs.length := by
  have hStart : (trimStart cs).length ≤ cs.length := (List.dropWhile_suffix isBlank).length_le
  have hEnd : (trimEnd (trimStart cs)).length ≤ (trimStart cs).length := by
    have hSame : (trimStart cs).reverse.length = (trimStart cs).length := List.length_reverse
    rw [trimEnd, List.length_reverse, ← hSame]
    exact (List.dropWhile_suffix isBlank).length_le
  exact Nat.le_trans hEnd hStart

theorem mem_trim {cs : List Char} {c : Char} (hc : c ∈ cs) (hBlank : isBlank c = false) :
    c ∈ trim cs := by
  have hStart : c ∈ trimStart cs := mem_dropWhile hc hBlank
  exact List.mem_reverse.mpr (mem_dropWhile (List.mem_reverse.mpr hStart) hBlank)

/-- What stands between characters that are not blank is kept. -/
theorem mem_trim_between {front back : List Char} {a b c : Char} (ha : a ∈ front)
    (hFront : isBlank a = false) (hb : b ∈ back) (hBack : isBlank b = false) :
    c ∈ trim (front ++ c :: back) := by
  obtain ⟨x, y, rfl⟩ := List.append_of_mem hb
  have hSome : (trimStart front).isEmpty = false :=
    List.isEmpty_eq_false_iff.mpr (List.ne_nil_of_mem (mem_dropWhile ha hFront))
  have hStart : trimStart (front ++ c :: (x ++ b :: y)) =
      (trimStart front ++ c :: x) ++ b :: y := by
    rw [trimStart, List.dropWhile_append, ← trimStart, hSome]
    simp
  rw [trim, hStart, trimEnd_append_cons hBack]
  simp

/-- Neither end of a text is dropped once both have been. -/
theorem ends_trimBoth (p : Char → Bool) (cs : List Char) :
    (∀ c ∈ (trimBoth p cs).head?, p c = false) ∧ ∀ c ∈ (trimBoth p cs).getLast?, p c = false := by
  have hDropped (ds : List Char) : ∀ c ∈ (ds.dropWhile p).head?, p c = false := by
    intro c hc
    have hNot := List.head?_dropWhile_not p ds
    rw [Option.mem_def.mp hc] at hNot
    exact hNot
  constructor
  · intro c hc
    obtain ⟨front, hFront⟩ := List.dropWhile_suffix (l := (cs.dropWhile p).reverse) p
    -- What is dropped at the end leaves the first character, unless it leaves none.
    have hSplit : trimBoth p cs ++ front.reverse = cs.dropWhile p := by
      rw [trimBoth, ← List.reverse_append, hFront, List.reverse_reverse]
    apply hDropped cs
    rw [← hSplit, List.head?_append, Option.mem_def.mp hc]
    rfl
  · intro c hc
    rw [trimBoth, List.getLast?_reverse] at hc
    exact hDropped _ c hc

theorem isTrimmed_trim (cs : List Char) : IsTrimmed (trim cs) := by
  obtain ⟨hFirst, hLast⟩ := ends_trimBoth isBlank cs
  exact ⟨hFirst, hLast⟩

end ProjectAtlas.Text
