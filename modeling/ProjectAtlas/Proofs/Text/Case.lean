import ProjectAtlas.Proofs.Text.Blank
import ProjectAtlas.Text.Case

/-!
What changes of case leave as it is, and that a text in lower case is one already.

The images under the runs are held by no run: an image that was held would be changed a second time.
-/

namespace ProjectAtlas.Text

/-- The run has an image for `n`. -/
def CaseRun.holds (r : CaseRun) (n : Nat) : Bool :=
  r.first ≤ n && n ≤ r.last && (n - r.first) % r.step == 0

/-- The image of what the run holds. -/
def CaseRun.image (r : CaseRun) (n : Nat) : Nat :=
  (n + r.delta).toNat

/-- The images under the run lie outside of a range. -/
def CaseRun.avoids (r : CaseRun) (range : Nat × Nat) : Bool :=
  Nat.blt (r.image r.last) range.1 || Nat.blt range.2 (r.image r.first)

/-- The images under the run `r` are not held by the run `s`: they lie outside of it, or between what it
holds. -/
def CaseRun.misses (r s : CaseRun) : Bool :=
  Nat.blt (r.image r.last) s.first || Nat.blt s.last (r.image r.first) ||
    (s.step == 2 && (r.step == 2 || r.first == r.last) && (r.image r.first + s.first) % 2 == 1)

/-- The images under the run are characters that neither are blanks nor have expansions. -/
def CaseRun.isPlain (r : CaseRun) : Bool :=
  0 < r.image r.first && r.image r.last < 0x110000 &&
    ((0xD800, 0xDFFF) :: blankRanges ++ lowerExpansions.map fun e => (e.1, e.1)).all r.avoids

theorem mapRuns_cases (runs : List CaseRun) (n : Nat) :
    (mapRuns runs n = n ∧ ∀ r ∈ runs, r.holds n = false) ∨
      ∃ r ∈ runs, r.holds n = true ∧ mapRuns runs n = r.image n := by
  unfold mapRuns
  split
  · rename_i r hFind
    have hHolds := List.find?_some hFind
    exact .inr ⟨r, List.mem_of_find?_eq_some hFind, hHolds, rfl⟩
  · rename_i hNone
    refine .inl ⟨rfl, fun r hr => ?_⟩
    exact Bool.eq_false_iff.mpr (List.find?_eq_none.mp hNone r hr)

theorem mapRuns_eq_self {runs : List CaseRun} {n : Nat} (h : ∀ r ∈ runs, r.holds n = false) :
    mapRuns runs n = n := by
  rcases mapRuns_cases runs n with ⟨hSame, -⟩ | ⟨r, hr, hHolds, -⟩
  · exact hSame
  · rw [h r hr] at hHolds
    cases hHolds

namespace CaseRun

variable {r s : CaseRun} {n : Nat}

theorem bounds_of_holds (h : r.holds n = true) :
    r.first ≤ n ∧ n ≤ r.last ∧ (n - r.first) % r.step = 0 := by
  simpa [holds, and_assoc] using h

/-- The images lie between those of the two ends. -/
theorem image_bounds (h : r.holds n = true) :
    r.image r.first ≤ r.image n ∧ r.image n ≤ r.image r.last := by
  obtain ⟨hFirst, hLast, -⟩ := bounds_of_holds h
  simp only [image]
  omega

theorem image_of_avoids {range : Nat × Nat} (hAvoids : r.avoids range = true)
    (h : r.holds n = true) : r.image n < range.1 ∨ range.2 < r.image n := by
  obtain ⟨hFirst, hLast⟩ := image_bounds h
  have hSide : r.image r.last < range.1 ∨ range.2 < r.image r.first := by
    simpa [avoids, Nat.blt_eq] using hAvoids
  omega

theorem holds_image_of_misses (hMisses : r.misses s = true) (hPositive : 0 < r.image r.first)
    (h : r.holds n = true) : s.holds (r.image n) = false := by
  apply Bool.eq_false_iff.mpr
  intro hHeld
  obtain ⟨hLow, hHigh, hStep⟩ := bounds_of_holds hHeld
  rcases Bool.or_eq_true_iff.mp hMisses with hAvoids | hParity
  · have hRange : r.avoids (s.first, s.last) = true := hAvoids
    rcases image_of_avoids hRange h with hBelow | hAbove <;> omega
  · -- Steps of two do not lead from the even to the odd numbers.
    obtain ⟨⟨hTwo, hEven⟩, hOdd⟩ :
        (s.step = 2 ∧ (r.step = 2 ∨ r.first = r.last)) ∧ (r.image r.first + s.first) % 2 = 1 := by
      simpa using hParity
    obtain ⟨hFirst, hLast, hOwn⟩ := bounds_of_holds h
    rw [hTwo] at hStep
    have hAlike : (n - r.first) % 2 = 0 := by
      rcases hEven with hEven | hOne
      · rwa [hEven] at hOwn
      · omega
    simp only [image] at *
    omega

end CaseRun

/-- A character that lower case leaves as it is. -/
structure IsSmall (c : Char) : Prop where
  runs : ∀ r ∈ lowerRuns, r.holds c.toNat = false
  expansions : lowerExpansions.lookup c.toNat = none

instance (c : Char) : Decidable (IsSmall c) :=
  decidable_of_iff
    ((∀ r ∈ lowerRuns, r.holds c.toNat = false) ∧ lowerExpansions.lookup c.toNat = none)
    ⟨fun ⟨hRuns, hExpansions⟩ => ⟨hRuns, hExpansions⟩,
      fun ⟨hRuns, hExpansions⟩ => ⟨hRuns, hExpansions⟩⟩

theorem misses_lowerRuns : ∀ r ∈ lowerRuns, ∀ s ∈ lowerRuns, r.misses s = true := by
  have hTable : lowerRuns.all (fun r => lowerRuns.all r.misses) = true := by
    decide +kernel
  simpa only [List.all_eq_true] using hTable

theorem isPlain_lowerRuns : ∀ r ∈ lowerRuns, r.isPlain = true := by
  decide +kernel

/-- The image under a run is the number of a character, and lies outside of the ranges that the images of all
runs avoid. -/
theorem CaseRun.image_of_mem {r : CaseRun} (hr : r ∈ lowerRuns) {n : Nat} (h : r.holds n = true) :
    0 < r.image r.first ∧ (Char.ofNat (r.image n)).toNat = r.image n ∧
      ∀ range ∈ (0xD800, 0xDFFF) :: blankRanges ++ lowerExpansions.map fun e => (e.1, e.1),
        r.image n < range.1 ∨ range.2 < r.image n := by
  obtain ⟨⟨hPositive, hBound⟩, hAvoids⟩ :
      (0 < r.image r.first ∧ r.image r.last < 0x110000) ∧
        ∀ range ∈ (0xD800, 0xDFFF) :: blankRanges ++ lowerExpansions.map fun e => (e.1, e.1),
          r.avoids range = true := by
    have hPlain := isPlain_lowerRuns r hr
    rw [CaseRun.isPlain, Bool.and_eq_true, Bool.and_eq_true, List.all_eq_true] at hPlain
    simpa only [decide_eq_true_eq] using hPlain
  refine ⟨hPositive, ?_, fun range hRange => image_of_avoids (hAvoids range hRange) h⟩
  have hSurrogate := image_of_avoids (hAvoids (0xD800, 0xDFFF) (by simp)) h
  have hLast := (image_bounds h).2
  have hValid : (r.image n).isValidChar := by
    simp only [Nat.isValidChar] at *
    omega
  rw [Char.ofNat, dif_pos hValid]
  rfl

/-- An image under the runs is a small character and no blank. -/
theorem isSmall_image {r : CaseRun} (hr : r ∈ lowerRuns) {n : Nat} (h : r.holds n = true) :
    IsSmall (Char.ofNat (r.image n)) ∧ isBlank (Char.ofNat (r.image n)) = false := by
  obtain ⟨hPositive, hChar, hOutside⟩ := CaseRun.image_of_mem hr h
  refine ⟨⟨fun s hs => ?_, ?_⟩, ?_⟩
  · rw [hChar]
    exact CaseRun.holds_image_of_misses (misses_lowerRuns r hr s hs) hPositive h
  · rw [hChar, List.lookup_eq_none_iff]
    intro e he
    have hExpanded := hOutside (e.1, e.1) (by
      simp only [List.cons_append, List.mem_cons, List.mem_append, List.mem_map]
      exact .inr (.inr ⟨e, he, rfl⟩))
    simp only at hExpanded
    simp only [bne_iff_ne, ne_eq]
    omega
  · apply Bool.eq_false_iff.mpr
    intro hBlank
    obtain ⟨range, hRange, hIn⟩ := isBlank_iff.mp hBlank
    rw [hChar] at hIn
    have hOut := hOutside range (by simp [hRange])
    omega

theorem mapCase_ne_nil {runs : List CaseRun} {expansions : List (Nat × List Nat)}
    (hExpansions : ∀ e ∈ expansions, e.2 ≠ []) (c : Char) : mapCase runs expansions c ≠ [] := by
  rw [mapCase]
  split
  · rename_i ns hLookup
    obtain ⟨before, after, hSplit, -⟩ := List.lookup_eq_some_iff.mp hLookup
    have hNe : ns ≠ [] := hExpansions (c.toNat, ns) (by simp [hSplit])
    simpa using hNe
  · exact List.cons_ne_nil _ _

theorem lowerAfter_eq_nil_iff {seen cs : List Char} : lowerAfter seen cs = [] ↔ cs = [] := by
  cases cs with
  | nil => simp [lowerAfter]
  | cons c cs =>
      have hMapped : mapCase lowerRuns lowerExpansions c ≠ [] :=
        mapCase_ne_nil (by decide +kernel) c
      simp only [lowerAfter]
      split
      · simp
      · split <;> simp [hMapped]

/-- Only the empty text is empty in lower case. -/
theorem lower_eq_empty_iff {s : String} : lower s = "" ↔ s = "" := by
  rw [lower, String.ofList_eq_empty_iff, lowerAfter_eq_nil_iff, String.toList_eq_nil_iff]

/-- What stands for a character in lower case, behind `seen` and in front of `cs`. -/
def lowerOf (seen : List Char) (c : Char) (cs : List Char) : List Char :=
  if c = 'Σ' then [if meetsCased seen && !meetsCased cs then 'ς' else 'σ']
  else mapCase lowerRuns lowerExpansions c

theorem mapCase_of_lt {c : Char} (h : c.toNat < 128) :
    mapCase lowerRuns lowerExpansions c = [c.toLower] := by
  have hTable : ∀ n < 128, mapCase lowerRuns lowerExpansions (Char.ofNat n) =
      [(Char.ofNat n).toLower] := by
    decide +kernel
  have hHere := hTable c.toNat h
  rwa [Char.ofNat_toNat] at hHere

theorem lowerAfter_cons (seen : List Char) (c : Char) (cs : List Char) :
    lowerAfter seen (c :: cs) = lowerOf seen c cs ++ lowerAfter (c :: seen) cs := by
  rw [lowerAfter, lowerOf]
  by_cases hAscii : c.toNat < 128
  · have hSigma : c ≠ 'Σ' := by
      rintro rfl
      revert hAscii
      decide
    rw [if_pos hAscii, if_neg hSigma, mapCase_of_lt hAscii]
    rfl
  · rw [if_neg hAscii]
    split <;> rfl

theorem lowerOf_of_isSmall {c : Char} (h : IsSmall c) (seen cs : List Char) :
    lowerOf seen c cs = [c] := by
  have hSigma : c ≠ 'Σ' := by
    rintro rfl
    revert h
    decide +kernel
  rw [lowerOf, if_neg hSigma, mapCase, h.expansions]
  simp only
  rw [mapRuns_eq_self h.runs, Char.ofNat_toNat]

/-- What stands for a character in lower case is small, and no blank unless the character is one. -/
theorem isSmall_of_mem_lowerOf {seen cs : List Char} {c d : Char} (hd : d ∈ lowerOf seen c cs) :
    IsSmall d ∧ (isBlank c = false → isBlank d = false) := by
  have hExpanded : ∀ e ∈ lowerExpansions, ∀ n ∈ e.2,
      IsSmall (Char.ofNat n) ∧ isBlank (Char.ofNat n) = false := by
    decide +kernel
  have hSigmas : ∀ s ∈ ['ς', 'σ'], IsSmall s ∧ isBlank s = false := by
    decide +kernel
  rw [lowerOf] at hd
  split at hd
  · have hMem : d ∈ ['ς', 'σ'] := by
      rw [List.mem_singleton.mp hd]
      split <;> simp
    exact ⟨(hSigmas d hMem).1, fun _ => (hSigmas d hMem).2⟩
  · rw [mapCase] at hd
    split at hd
    · rename_i ns hLookup
      obtain ⟨n, hn, rfl⟩ := List.mem_map.mp hd
      obtain ⟨before, after, hSplit, -⟩ := List.lookup_eq_some_iff.mp hLookup
      have hFound := hExpanded (c.toNat, ns) (by simp [hSplit]) n hn
      exact ⟨hFound.1, fun _ => hFound.2⟩
    · rename_i hNone
      obtain rfl := List.mem_singleton.mp hd
      rcases mapRuns_cases lowerRuns c.toNat with ⟨hSame, hRuns⟩ | ⟨r, hr, hHolds, hImage⟩
      · rw [hSame, Char.ofNat_toNat]
        exact ⟨⟨hRuns, hNone⟩, id⟩
      · rw [hImage]
        exact ⟨(isSmall_image hr hHolds).1, fun _ => (isSmall_image hr hHolds).2⟩

theorem isSmall_of_mem_lowerAfter {seen cs : List Char} {d : Char} (hd : d ∈ lowerAfter seen cs) :
    IsSmall d := by
  induction cs generalizing seen with
  | nil => cases hd
  | cons c cs ih =>
      rw [lowerAfter_cons] at hd
      rcases List.mem_append.mp hd with hHere | hLater
      · exact (isSmall_of_mem_lowerOf hHere).1
      · exact ih hLater

theorem lowerAfter_eq_self {cs : List Char} (h : ∀ c ∈ cs, IsSmall c) (seen : List Char) :
    lowerAfter seen cs = cs := by
  induction cs generalizing seen with
  | nil => rfl
  | cons c cs ih =>
      rw [lowerAfter_cons, lowerOf_of_isSmall (h c (by simp)),
        ih fun d hd => h d (List.mem_cons_of_mem c hd)]
      rfl

/-- A text that ends with no blank ends with none in lower case. -/
theorem last_lowerAfter {cs : List Char} (h : ∀ c ∈ cs.getLast?, isBlank c = false)
    (seen : List Char) : ∀ d ∈ (lowerAfter seen cs).getLast?, isBlank d = false := by
  induction cs generalizing seen with
  | nil => simp [lowerAfter]
  | cons c cs ih =>
      rw [lowerAfter_cons]
      cases cs with
      | nil =>
          intro d hd
          rw [lowerAfter, List.append_nil] at hd
          exact (isSmall_of_mem_lowerOf (List.mem_of_getLast? hd)).2 (h c (by simp))
      | cons e cs =>
          have hMore : lowerAfter (c :: seen) (e :: cs) ≠ [] := by
            simp [lowerAfter_eq_nil_iff]
          rw [List.getLast?_append_of_ne_nil _ hMore]
          exact ih (by simpa using h) (c :: seen)

end ProjectAtlas.Text
