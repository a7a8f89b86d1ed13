import ProjectAtlas.Files.Volume

/-!
The path that names lead to from a directory. Its text goes on where the text of the directory ends, so
below a path that is too long to be looked up there is no other.
-/

namespace ProjectAtlas

theorem Text.byteCount_append (s t : String) :
    Text.byteCount (s ++ t) = Text.byteCount s + Text.byteCount t := by
  simp only [byteCount, String.toList_append]
  induction s.toList with
  | nil => simp
  | cons c cs ih => simp only [List.cons_append, List.foldr_cons, ih, Nat.add_assoc]

namespace Path

/-- The path that names lead to from a directory. -/
def descend (p : Path) (ns : List String) : Path :=
  ⟨p.anchor, p.parts ++ ns⟩

@[simp]
theorem descend_nil (p : Path) : p.descend [] = p := by
  simp [descend]

theorem descend_cons (p : Path) (n : String) (ns : List String) :
    p.descend (n :: ns) = (p.entry n).descend ns := by
  simp [descend, entry]

theorem entry_descend (p : Path) (ns : List String) (n : String) :
    (p.descend ns).entry n = p.descend (ns ++ [n]) := by
  simp [descend, entry]

/-- Of two paths down from one directory, one lies below the other if its names go on from those. -/
theorem below?_descend_descend (p : Path) (ns ms : List String) :
    (p.descend ms).below? (p.descend ns) =
      if ns <+: ms then some (ms.drop ns.length) else none := by
  by_cases hPrefix : ns <+: ms
  · have hWhole : p.parts ++ ns <+: p.parts ++ ms := (List.prefix_append_right_inj _).mpr hPrefix
    simp [below?, descend, hPrefix, List.isPrefixOf_iff_prefix.mpr hWhole, List.drop_append]
  · have hWhole : ¬ p.parts ++ ns <+: p.parts ++ ms := fun h =>
      hPrefix ((List.prefix_append_right_inj _).mp h)
    have hTest : (p.parts ++ ns).isPrefixOf (p.parts ++ ms) = false :=
      Bool.eq_false_iff.mpr fun h => hWhole (List.isPrefixOf_iff_prefix.mp h)
    simp [below?, descend, hPrefix, hTest]

@[simp]
theorem below?_descend (p : Path) (ns : List String) : (p.descend ns).below? p = some ns := by
  simpa using below?_descend_descend p [] ns

theorem relativeText_descend (p : Path) (ns : List String) :
    (p.descend ns).relativeText p = "/".intercalate ns := by
  rw [relativeText, below?_descend]

@[simp]
theorem parent_entry (p : Path) (n : String) : (p.entry n).parent = p := by
  simp [parent, entry]

@[simp]
theorem name_entry (p : Path) (n : String) : (p.entry n).name = n := by
  simp [name, entry]


theorem byteCount_intercalate_le (ns ms : List String) :
    Text.byteCount ("/".intercalate ns) ≤ Text.byteCount ("/".intercalate (ns ++ ms)) := by
  by_cases hFront : ns = []
  · subst hFront
    simp [Text.byteCount]
  by_cases hBack : ms = []
  · simp [hBack]
  rw [String.intercalate_append_of_ne_nil hFront hBack, Text.byteCount_append, Text.byteCount_append]
  omega

theorem toString_eq {p : Path} (h : ¬(p.anchor = .relative ∧ p.parts = [])) :
    p.toString = Anchor.text p.anchor ++ "/".intercalate p.parts := by
  rw [toString, if_neg (by simpa using h)]

end Path

namespace Volume

/-- What lies below a path that is too long has a path that is too long. -/
theorem isTooLong_descend {p : Path} (h : isTooLong p = true) (ns : List String) :
    isTooLong (p.descend ns) = true := by
  have hHere : ¬(p.anchor = .relative ∧ p.parts = []) := by
    rintro ⟨hAnchor, hParts⟩
    -- The text of the working directory is a single dot.
    have hDot : p.toString = "." := by simp [Path.toString, hAnchor, hParts]
    rw [isTooLong, hDot] at h
    exact absurd h (by decide)
  have hBelow : ¬((p.descend ns).anchor = .relative ∧ (p.descend ns).parts = []) := by
    rintro ⟨hAnchor, hParts⟩
    exact hHere ⟨hAnchor, (List.append_eq_nil_iff.mp hParts).1⟩
  have hMore := Path.byteCount_intercalate_le p.parts ns
  rw [isTooLong, decide_eq_true_eq, Path.toString_eq hHere, Text.byteCount_append] at h
  rw [isTooLong, decide_eq_true_eq, Path.toString_eq hBelow, Text.byteCount_append]
  simp only [Path.descend]
  omega

end Volume

end ProjectAtlas
