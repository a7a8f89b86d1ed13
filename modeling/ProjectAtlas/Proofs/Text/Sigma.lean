import Mathlib.Data.List.Infix
import ProjectAtlas.Proofs.Text.Case

/-!
Lower case of a part of a text. Every character but the capital sigma is written in lower case by itself; the
sigma is written by the letters around it, so that a part of a text need not be found in it once both are in
lower case. It always is found exactly if the part holds, around each of its sigmas, what decides.
-/

namespace ProjectAtlas.Text

/-- Whether the nearest character that is not passed over is a letter with case, if there is one. -/
def nearestCased? (cs : List Char) : Option Bool :=
  (cs.dropWhile isCaseIgnorable).head?.map isCased

theorem meetsCased_eq (cs : List Char) : meetsCased cs = (nearestCased? cs).getD false := by
  rw [meetsCased, nearestCased?]
  cases cs.dropWhile isCaseIgnorable <;> rfl

theorem nearestCased?_append (cs ds : List Char) :
    nearestCased? (cs ++ ds) = (nearestCased? cs).or (nearestCased? ds) := by
  simp only [nearestCased?, List.dropWhile_append]
  split
  · rename_i hEmpty
    rw [List.isEmpty_iff.mp hEmpty]
    rfl
  · rename_i hSome
    obtain ⟨c, rest, hShape⟩ := List.exists_cons_of_ne_nil (mt List.isEmpty_iff.mpr hSome)
    rw [hShape]
    rfl

theorem nearestCased?_eq_none_iff {cs : List Char} :
    nearestCased? cs = none ↔ ∀ c ∈ cs, isCaseIgnorable c = true := by
  rw [nearestCased?, Option.map_eq_none_iff, List.head?_eq_none_iff, List.dropWhile_eq_nil_iff]

/-- A sigma between these characters is a final one: `seen` stands in front of it, nearest first, and `cs`
behind it. -/
def isFinal (seen cs : List Char) : Bool :=
  meetsCased seen && !meetsCased cs

theorem isFinal_eq (seen cs : List Char) :
    isFinal seen cs = ((nearestCased? seen).getD false && !(nearestCased? cs).getD false) := by
  rw [isFinal, meetsCased_eq, meetsCased_eq]

/-- The characters around a sigma decide how it is written, whatever stands around them. -/
def IsSettled (seen cs : List Char) : Prop :=
  nearestCased? seen = some false ∨ nearestCased? cs = some true ∨
    (nearestCased? seen = some true ∧ nearestCased? cs = some false)

instance (seen cs : List Char) : Decidable (IsSettled seen cs) :=
  inferInstanceAs (Decidable (_ ∨ _))

theorem IsSettled.isFinal_append {seen cs : List Char} (h : IsSettled seen cs) (front back : List Char) :
    isFinal (seen ++ front) (cs ++ back) = isFinal seen cs := by
  rw [isFinal_eq, isFinal_eq, nearestCased?_append, nearestCased?_append]
  rcases h with hSeen | hNext | ⟨hSeen, hNext⟩
  · simp [hSeen]
  · simp [hNext]
  · simp [hSeen, hNext]

/-- All capital sigmas of a text are written in the same way wherever the text stands. -/
def SigmasSettled (cs : List Char) : Prop :=
  ∀ front back, cs = front ++ 'Σ' :: back → IsSettled front.reverse back

/-- Each place of a text is a way to split it. -/
theorem sigmasSettled_iff_getElem? {cs : List Char} : SigmasSettled cs ↔
    ∀ i < cs.length, cs[i]? = some 'Σ' → IsSettled (cs.take i).reverse (cs.drop (i + 1)) := by
  constructor
  · intro h i hi hSigma
    apply h
    rw [← (List.getElem_eq_iff hi).mpr hSigma, List.cons_getElem_drop_succ, List.take_append_drop]
  · rintro h front back rfl
    have hHere := h front.length (by simp) (by simp)
    simpa using hHere

instance (cs : List Char) : Decidable (SigmasSettled cs) :=
  decidable_of_iff _ sigmasSettled_iff_getElem?.symm

theorem sigmasSettled_of_not_mem {cs : List Char} (h : 'Σ' ∉ cs) : SigmasSettled cs := by
  rintro front back rfl
  simp at h

/-- A letter with case that is its own lower case, and no other letter's. -/
def casedLetter : Char := 'ª'

theorem nearestCased?_casedLetter (cs : List Char) : nearestCased? (casedLetter :: cs) = some true := by
  have hLetter : isCaseIgnorable casedLetter = false ∧ isCased casedLetter = true := by decide +kernel
  simp [nearestCased?, List.dropWhile, hLetter]

theorem isSmall_casedLetter : IsSmall casedLetter := by decide +kernel

theorem eq_casedLetter_of_mem_lowerOf {seen cs : List Char} {c : Char} (h : casedLetter ∈ lowerOf seen c cs) :
    c = casedLetter := by
  have hExpanded : ∀ e ∈ lowerExpansions, casedLetter ∉ e.2.map Char.ofNat := by decide +kernel
  have hAvoids : ∀ r ∈ lowerRuns, r.avoids (casedLetter.toNat, casedLetter.toNat) = true := by decide +kernel
  rw [lowerOf] at h
  split at h
  · rw [List.mem_singleton] at h
    split at h <;> cases h
  · rw [mapCase] at h
    split at h
    · rename_i ns hLookup
      obtain ⟨before, after, hSplit, -⟩ := List.lookup_eq_some_iff.mp hLookup
      exact absurd h (hExpanded (c.toNat, ns) (by simp [hSplit]))
    · rw [List.mem_singleton] at h
      rcases mapRuns_cases lowerRuns c.toNat with ⟨hSame, -⟩ | ⟨r, hr, hHolds, hImage⟩
      · rw [hSame, Char.ofNat_toNat] at h
        exact h.symm
      · have hOther := CaseRun.image_of_avoids (hAvoids r hr) hHolds
        rw [hImage] at h
        rw [h, (CaseRun.image_of_mem hr hHolds).2.1] at hOther
        omega

/-- The letter in front or behind changes how an unsettled sigma is written. -/
theorem exists_casedLetter_of_not_isSettled {seen cs : List Char} (h : ¬IsSettled seen cs) :
    (nearestCased? seen = none ∧ isFinal (seen ++ [casedLetter]) cs ≠ isFinal seen cs) ∨
      (nearestCased? cs = none ∧ isFinal seen (cs ++ [casedLetter]) ≠ isFinal seen cs) := by
  simp only [IsSettled, not_or, not_and] at h
  obtain ⟨hSeen, hNext, hBoth⟩ := h
  simp only [isFinal_eq, nearestCased?_append, nearestCased?_casedLetter]
  cases hFront : nearestCased? seen with
  | none =>
      cases hBack : nearestCased? cs with
      | none => exact .inl ⟨rfl, by simp⟩
      | some b =>
          cases b with
          | false => exact .inl ⟨rfl, by simp⟩
          | true => exact absurd hBack hNext
  | some b =>
      cases b with
      | false => exact absurd hFront hSeen
      | true =>
          cases hBack : nearestCased? cs with
          | none => exact .inr ⟨rfl, by simp⟩
          | some d =>
              cases d with
              | false => exact absurd hBack (hBoth hFront)
              | true => exact absurd hBack hNext

/-- Lower case of the characters `cs` behind `seen` (nearest first) and in front of `back`. -/
def lowerBetween (seen : List Char) : List Char → List Char → List Char
  | [], _ => []
  | c :: cs, back => lowerOf seen c (cs ++ back) ++ lowerBetween (c :: seen) cs back

theorem lowerAfter_append (seen cs back : List Char) :
    lowerAfter seen (cs ++ back) =
      lowerBetween seen cs back ++ lowerAfter (cs.reverse ++ seen) back := by
  induction cs generalizing seen with
  | nil => rfl
  | cons c cs ih =>
      rw [List.cons_append, lowerAfter_cons, ih, lowerBetween, List.append_assoc,
        List.reverse_cons, List.append_assoc, List.singleton_append]

theorem lowerAfter_eq_lowerBetween (seen cs : List Char) :
    lowerAfter seen cs = lowerBetween seen cs [] := by
  have hAll := lowerAfter_append seen cs []
  rwa [List.append_nil, lowerAfter, List.append_nil] at hAll

theorem lowerBetween_append (seen cs ds back : List Char) :
    lowerBetween seen (cs ++ ds) back =
      lowerBetween seen cs (ds ++ back) ++ lowerBetween (cs.reverse ++ seen) ds back := by
  induction cs generalizing seen with
  | nil => rfl
  | cons c cs ih =>
      rw [List.cons_append, lowerBetween, lowerBetween, ih, List.append_assoc, List.append_assoc,
        List.reverse_cons, List.append_assoc, List.singleton_append]

/-- A sigma stands as one of two letters, all others as they do everywhere. -/
theorem lowerOf_congr {seen cs seen' cs' : List Char} {c : Char}
    (h : c = 'Σ' → isFinal seen cs = isFinal seen' cs') : lowerOf seen c cs = lowerOf seen' c cs' := by
  by_cases hSigma : c = 'Σ'
  · have hSame := h hSigma
    simp only [isFinal] at hSame
    simp only [lowerOf, hSame]
  · simp only [lowerOf, if_neg hSigma]

theorem length_lowerBetween (seen seen' cs back back' : List Char) :
    (lowerBetween seen cs back).length = (lowerBetween seen' cs back').length := by
  induction cs generalizing seen seen' with
  | nil => rfl
  | cons c cs ih =>
      have hHere : (lowerOf seen c (cs ++ back)).length = (lowerOf seen' c (cs ++ back')).length := by
        simp only [lowerOf]
        split <;> rfl
      rw [lowerBetween, lowerBetween, List.length_append, List.length_append, hHere,
        ih (c :: seen) (c :: seen')]

theorem not_mem_lowerBetween {cs : List Char} (h : casedLetter ∉ cs) (seen back : List Char) :
    casedLetter ∉ lowerBetween seen cs back := by
  induction cs generalizing seen with
  | nil => exact List.not_mem_nil
  | cons c cs ih =>
      rw [List.mem_cons, not_or] at h
      rw [lowerBetween, List.mem_append, not_or]
      exact ⟨fun hMem => h.1 (eq_casedLetter_of_mem_lowerOf hMem).symm, ih h.2 (c :: seen)⟩

theorem lowerBetween_sigma (seen cs back : List Char) :
    lowerBetween seen ('Σ' :: cs) back =
      (if isFinal seen (cs ++ back) then 'ς' else 'σ') :: lowerBetween ('Σ' :: seen) cs back := rfl

/-- A sigma stays one of the two small ones. -/
theorem exists_sigma_mem_lowerAfter {cs : List Char} (h : 'Σ' ∈ cs) (seen : List Char) :
    ∃ c ∈ lowerAfter seen cs, c = 'ς' ∨ c = 'σ' := by
  obtain ⟨u, v, rfl⟩ := List.append_of_mem h
  rw [lowerAfter_append, lowerAfter_eq_lowerBetween, lowerBetween_sigma]
  refine ⟨_, List.mem_append_right _ List.mem_cons_self, ?_⟩
  split
  · exact .inl rfl
  · exact .inr rfl

section Settled

variable {q : List Char}

theorem SigmasSettled.lowerBetween_eq (h : SigmasSettled q) (front back : List Char) :
    lowerBetween front q back = lowerAfter [] q := by
  -- The settled sigmas of `q` are those of its rest `w` behind what has been written already.
  have hRest (u w : List Char) (hSplit : q = u ++ w) :
      lowerBetween (u.reverse ++ front) w back = lowerBetween u.reverse w [] := by
    induction w generalizing u with
    | nil => rfl
    | cons c w ih =>
        have hHere : lowerOf (u.reverse ++ front) c (w ++ back) = lowerOf u.reverse c (w ++ []) := by
          apply lowerOf_congr
          rintro rfl
          rw [List.append_nil]
          exact (h u w hSplit).isFinal_append front back
        have hNext := ih (u ++ [c]) (by rw [hSplit, List.append_assoc, List.singleton_append])
        rw [List.reverse_append, List.reverse_singleton, List.singleton_append,
          List.cons_append] at hNext
        rw [lowerBetween, lowerBetween, hHere, hNext]
  rw [lowerAfter_eq_lowerBetween]
  exact hRest [] q rfl

/-- A sigma that is written in two ways makes two texts. -/
theorem lowerBetween_ne {u v seen back : List Char}
    (h : isFinal (u.reverse ++ seen) (v ++ back) ≠ isFinal u.reverse v) :
    lowerBetween seen (u ++ 'Σ' :: v) back ≠ lowerBetween [] (u ++ 'Σ' :: v) [] := by
  intro hSame
  rw [lowerBetween_append, lowerBetween_append] at hSame
  have hSigma := (List.append_inj hSame (length_lowerBetween _ _ _ _ _)).2
  rw [lowerBetween_sigma, lowerBetween_sigma, List.cons.injEq, List.append_nil,
    List.append_nil] at hSigma
  apply h
  generalize isFinal (u.reverse ++ seen) (v ++ back) = x at hSigma
  generalize isFinal u.reverse v = y at hSigma
  cases x <;> cases y <;> simp_all

theorem not_mem_of_nearestCased? {cs : List Char} (h : nearestCased? cs = none) :
    casedLetter ∉ cs := by
  intro hMem
  have hLetter : isCaseIgnorable casedLetter = false := by decide +kernel
  rw [nearestCased?_eq_none_iff.mp h casedLetter hMem] at hLetter
  cases hLetter

theorem lowerBetween_ne_nil {cs : List Char} (h : cs ≠ []) (seen back : List Char) :
    lowerBetween seen cs back ≠ [] := by
  intro hNone
  have hLength := length_lowerBetween seen seen cs back []
  rw [hNone, ← lowerAfter_eq_lowerBetween] at hLength
  exact h (lowerAfter_eq_nil_iff.mp (List.length_eq_zero_iff.mp hLength.symm))

/-- A text with an unsettled sigma is not found in itself with one more letter. -/
theorem exists_not_infix_of_not_settled (h : ¬SigmasSettled q) :
    ∃ f, q <:+: f ∧ ¬lowerAfter [] q <:+: lowerAfter [] f := by
  simp only [SigmasSettled, not_forall] at h
  obtain ⟨u, v, rfl, hUnsettled⟩ := h
  rw [lowerAfter_eq_lowerBetween [] (u ++ 'Σ' :: v)]
  have hSigma : casedLetter ∉ ['Σ'] := by decide
  rcases exists_casedLetter_of_not_isSettled hUnsettled with ⟨hNone, hOther⟩ | ⟨hNone, hOther⟩
  · refine ⟨casedLetter :: (u ++ 'Σ' :: v), List.infix_cons (List.infix_refl _), fun hInfix => ?_⟩
    rw [lowerAfter_cons, lowerOf_of_isSmall isSmall_casedLetter, lowerAfter_eq_lowerBetween,
      List.singleton_append, List.infix_cons_iff] at hInfix
    rcases hInfix with hPrefix | hInfix
    · -- Nothing up to the sigma reads like the letter, so the text does not begin with it.
      have hFront : casedLetter ∉ u ++ ['Σ'] := by
        rw [List.mem_append, not_or]
        exact ⟨fun hMem => not_mem_of_nearestCased? hNone (List.mem_reverse.mpr hMem), hSigma⟩
      have hSplit : u ++ 'Σ' :: v = (u ++ ['Σ']) ++ v := by simp
      rw [hSplit, lowerBetween_append] at hPrefix
      have hBegins := (List.prefix_append _ _).trans hPrefix
      rcases List.prefix_cons_iff.mp hBegins with hEmpty | ⟨t, hShape, -⟩
      · exact lowerBetween_ne_nil (by simp) _ _ hEmpty
      · exact not_mem_lowerBetween hFront _ _ (hShape ▸ List.mem_cons_self)
    · have hChanged : isFinal (u.reverse ++ [casedLetter]) (v ++ []) ≠ isFinal u.reverse v := by
        rwa [List.append_nil]
      exact lowerBetween_ne hChanged (hInfix.eq_of_length (length_lowerBetween _ _ _ _ _)).symm
  · refine ⟨u ++ 'Σ' :: v ++ [casedLetter], (List.prefix_append _ _).isInfix, fun hInfix => ?_⟩
    have hLetter (seen : List Char) : lowerAfter seen [casedLetter] = [casedLetter] :=
      lowerAfter_eq_self (by simpa using isSmall_casedLetter) seen
    rw [lowerAfter_append, hLetter, List.infix_concat_iff] at hInfix
    rcases hInfix with hSuffix | hInfix
    · -- Nothing from the sigma on reads like the letter, so the text does not end with it.
      have hBack : casedLetter ∉ 'Σ' :: v := fun hMem =>
        (List.mem_cons.mp hMem).elim (fun hSame => hSigma (by simp [hSame]))
          (not_mem_of_nearestCased? hNone)
      rw [lowerBetween_append] at hSuffix
      have hEnds := (List.suffix_append _ _).trans hSuffix
      rcases List.suffix_concat_iff.mp hEnds with hEmpty | ⟨t, hShape, -⟩
      · exact lowerBetween_ne_nil (List.cons_ne_nil 'Σ' v) _ _ hEmpty
      · exact not_mem_lowerBetween hBack _ _ (hShape ▸ List.mem_append_right t List.mem_cons_self)
    · have hChanged : isFinal (u.reverse ++ []) (v ++ [casedLetter]) ≠ isFinal u.reverse v := by
        rwa [List.append_nil]
      exact lowerBetween_ne hChanged (hInfix.eq_of_length (length_lowerBetween _ _ _ _ _)).symm

/-- A text is found in lower case wherever it stands, exactly if its sigmas are settled. -/
theorem sigmasSettled_iff (q : List Char) :
    SigmasSettled q ↔ ∀ f, q <:+: f → lowerAfter [] q <:+: lowerAfter [] f := by
  constructor
  · rintro hSettled f ⟨front, back, rfl⟩
    rw [List.append_assoc, lowerAfter_append, lowerAfter_append, hSettled.lowerBetween_eq]
    exact ⟨_, _, List.append_assoc _ _ _⟩
  · intro hFound
    by_contra hNot
    obtain ⟨f, hInfix, hMissed⟩ := exists_not_infix_of_not_settled hNot
    exact hMissed (hFound f hInfix)

/-- A sigma with a letter behind it is settled, a sigma alone is not. -/
example : SigmasSettled "ΣΑ".toList ∧ ¬SigmasSettled "Σ".toList := by decide +kernel

end Settled

end ProjectAtlas.Text
