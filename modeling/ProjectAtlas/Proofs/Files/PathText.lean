import ProjectAtlas.Proofs.Files.Passage
import ProjectAtlas.Proofs.Text.Pieces

/-!
Paths and their texts. A path whose names could stand between slashes is named by its own text, and all
paths that are made of texts, entries, links and places of a volume are of that sort.
-/

namespace ProjectAtlas

namespace Path

/-- A name as it can stand between the slashes of a path; a double dot is one. -/
structure IsName (n : String) : Prop where
  nonempty : n ≠ ""
  noDot : n ≠ "."
  noSlash : '/' ∉ n.toList

/-- All names of the path can stand between slashes. -/
def IsProper (p : Path) : Prop :=
  ∀ n ∈ p.parts, IsName n

theorem isName_of_mem_names {s n : String} (hn : n ∈ names s) : IsName n := by
  obtain ⟨hPiece, hKept⟩ := List.mem_filter.mp hn
  obtain ⟨cs, hcs, rfl⟩ := List.mem_map.mp hPiece
  simp only [Bool.and_eq_true, bne_iff_ne] at hKept
  exact ⟨hKept.1, hKept.2, by simpa using Text.not_mem_of_mem_splitOn cs hcs⟩

theorem isProper_ofString (s : String) : (ofString s).IsProper :=
  fun _ hn => isName_of_mem_names hn

theorem IsProper.child {p : Path} (h : p.IsProper) (s : String) : (p.child s).IsProper := by
  unfold Path.child Path.join
  split
  · intro n hn
    rcases List.mem_append.mp hn with hn | hn
    · exact h n hn
    · exact isProper_ofString s n hn
  · exact isProper_ofString s

theorem IsProper.entry {p : Path} (h : p.IsProper) {n : String} (hName : IsName n) :
    (p.entry n).IsProper := by
  intro m hm
  rcases List.mem_append.mp hm with hm | hm
  · exact h m hm
  · rwa [List.mem_singleton.mp hm]

theorem names_slash (s : String) : names ("/" ++ s) = names s := by
  have hChars : ("/" ++ s).toList = '/' :: s.toList := by simp
  simp [names, hChars, List.splitOn_cons_eq_if_modifyHead]

theorem names_anchor (a : Anchor) (s : String) : names (Anchor.text a ++ s) = names s := by
  cases a with
  | relative => simp [Anchor.text]
  | root => exact names_slash s
  | doubleRoot =>
      have hText : Anchor.text .doubleRoot ++ s = "/" ++ ("/" ++ s) := by
        simp [Anchor.text, ← String.toList_inj]
      rw [hText, names_slash, names_slash]

theorem names_intercalate {ns : List String} (hNames : ∀ n ∈ ns, IsName n) :
    names ("/".intercalate ns) = ns := by
  cases ns with
  | nil => decide
  | cons n ns =>
      rw [names, Text.splitOn_slash_intercalate (by simp) fun m hm => (hNames m hm).noSlash,
        List.filter_eq_self]
      intro m hm
      simp [(hNames m hm).nonempty, (hNames m hm).noDot]

theorem takeWhile_slash_intercalate {ns : List String} (hNames : ∀ n ∈ ns, IsName n) :
    ("/".intercalate ns).toList.takeWhile (· == '/') = [] := by
  cases ns with
  | nil => decide
  | cons n ns =>
      obtain ⟨hSome, -, hSlash⟩ := hNames n (by simp)
      cases hChars : n.toList with
      | nil => exact absurd (String.toList_eq_nil_iff.mp hChars) hSome
      | cons c cs =>
          have hFirst : c ≠ '/' := by
            rintro rfl
            simp [hChars] at hSlash
          rw [String.toList_intercalate, List.map_cons, hChars]
          cases ns <;> simp [List.intercalate, hFirst]

/-- A path with proper names is the one that its own text names. -/
theorem ofString_toString {p : Path} (h : p.IsProper) : ofString p.toString = p := by
  obtain ⟨a, ns⟩ := p
  have hStart := takeWhile_slash_intercalate h
  by_cases hHere : a = .relative ∧ ns = []
  · obtain ⟨rfl, rfl⟩ := hHere
    decide
  · have hText : toString ⟨a, ns⟩ = Anchor.text a ++ "/".intercalate ns := by
      rw [toString, if_neg]
      simpa using hHere
    rw [ofString, hText, names_anchor, names_intercalate h, anchorOf, String.toList_append]
    generalize ("/".intercalate ns).toList = cs at hStart
    cases a <;> simp [Anchor.text, hStart]

end Path

theorem IsEntryName.isName {n : String} (h : IsEntryName n) : Path.IsName n :=
  ⟨h.nonempty, h.noDot, h.noSlash⟩

namespace Volume

open ProjectAtlas.Path

/-- The tree is one that a file system can hold, and what the volume knows of the working directory and
of homes could be written as paths. -/
structure WellPlaced (v : Volume) : Prop where
  tree : v.root.WellFormed
  workingDirectory : ∀ n ∈ v.workingDirectory, IsName n
  homes : ∀ h ∈ v.homes, h.2.IsProper

variable {v : Volume}

/-- The names at which a search for a canonical path ended, in a circle of links or not. -/
def reached : Except LinkStop (List String) → List String
  | .ok ns => ns
  | .error (.circle ns) => ns
  | .error .tooDeep => []

theorem isName_reached_canonicalAlong
    {follow : List (List String) → List String → List String → Except LinkStop (List String)}
    (hFollow : ∀ active here ns, (∀ n ∈ here, IsName n) → (∀ n ∈ ns, IsName n) →
      ∀ n ∈ reached (follow active here ns), IsName n)
    (active : List (List String)) {here ns : List String} (hHere : ∀ n ∈ here, IsName n)
    (hNames : ∀ n ∈ ns, IsName n) :
    ∀ n ∈ reached (v.canonicalAlong follow active here ns), IsName n := by
  induction ns generalizing here with
  | nil => exact hHere
  | cons n ns ih =>
      obtain ⟨hName, hRest⟩ := List.forall_mem_cons.mp hNames
      have hPlace : ∀ m ∈ here ++ [n], IsName m := by
        simpa [or_imp, forall_and, hName] using hHere
      simp only [canonicalAlong]
      split
      · exact ih (fun m hm => hHere m (List.dropLast_subset here hm)) hRest
      · split
        · rename_i target hAt
          split
          · exact List.forall_mem_append.mpr ⟨hPlace, hRest⟩
          · -- The link starts at the root or here, and goes on along the names in its text.
            have hStart : ∀ m ∈ (linkStart target here).1, IsName m := by
              simp only [linkStart]
              split
              · exact hHere
              · simp
            have hThere := hFollow ((here ++ [n]) :: active) _ (linkStart target here).2 hStart
              (isProper_ofString target)
            split
            · rename_i there hFound
              rw [hFound] at hThere
              exact ih hThere hRest
            · rename_i there hFound
              rw [hFound] at hThere
              exact List.forall_mem_append.mpr ⟨hThere, hRest⟩
            · simp [reached]
        · exact ih hPlace hRest

theorem isName_reached_canonicalFrom (levels : Nat) (active : List (List String))
    {here ns : List String} (hHere : ∀ n ∈ here, IsName n) (hNames : ∀ n ∈ ns, IsName n) :
    ∀ n ∈ reached (v.canonicalFrom levels active here ns), IsName n := by
  induction levels generalizing active here ns with
  | zero => simp [canonicalFrom, reached]
  | succ levels ih =>
      exact isName_reached_canonicalAlong (fun active here ns hHere hNames => ih active hHere hNames)
        active hHere hNames

theorem isName_withoutUps {ns : List String} (hNames : ∀ n ∈ ns, IsName n) :
    ∀ n ∈ withoutUps ns, IsName n := by
  have hRun : ∀ done : List String, (∀ n ∈ done, IsName n) →
      ∀ n ∈ ns.foldl (fun done n => if n = ".." then done.dropLast else done ++ [n]) done,
        IsName n := by
    induction ns with
    | nil => exact fun _ hDone => hDone
    | cons n ns ih =>
        obtain ⟨hName, hRest⟩ := List.forall_mem_cons.mp hNames
        intro done hDone
        rw [List.foldl_cons]
        refine ih hRest _ ?_
        by_cases hUp : n = ".."
        · simp only [hUp, if_true]
          exact fun m hm => hDone m (List.dropLast_subset done hm)
        · simp only [hUp, if_false]
          simpa [or_imp, forall_and, hName] using hDone
  exact hRun [] (by simp)

theorem isName_startOf (hPlaced : v.WellPlaced) (p : Path) : ∀ n ∈ v.startOf p, IsName n := by
  unfold startOf
  split
  · exact hPlaced.workingDirectory
  · simp

theorem isProper_of_canonical (hPlaced : v.WellPlaced) {p q : Path} (hPath : p.IsProper)
    (h : v.canonical p = .ok q) : q.IsProper := by
  have hReached : ∀ n ∈ reached (v.canonicalFrom (v.host.room .links p + 1) [] (v.startOf p) p.parts),
      IsName n :=
    isName_reached_canonicalFrom _ _ (isName_startOf hPlaced p) hPath
  simp only [canonical] at h
  split at h
  · rename_i ns hFound
    cases h
    rwa [hFound] at hReached
  · cases h
  · rename_i ns hFound
    rw [hFound] at hReached
    have hLeft := isName_withoutUps hReached
    split at h
    · cases h
    · cases h
      exact hLeft

theorem isProper_of_expandHome (hPlaced : v.WellPlaced) {given p : Path} (hPath : given.IsProper)
    (h : v.expandHome given = .ok p) : p.IsProper := by
  simp only [expandHome] at h
  split at h
  · rename_i n ns hAnchor hParts
    split at h
    · split at h
      · rename_i home hHome
        cases h
        have hRest : ∀ m ∈ ns, IsName m := fun m hm => hPath m (by simp [hParts, hm])
        obtain ⟨front, back, hHomes, -⟩ := List.lookup_eq_some_iff.mp hHome
        have hMem : (String.ofList (n.toList.drop 1), home) ∈ v.homes := by simp [hHomes]
        exact List.forall_mem_append.mpr ⟨hPlaced.homes _ hMem, hRest⟩
      · cases h
    · cases h
      exact hPath
  · cases h
    exact hPath

/-- Where a path starts from is what is left of it without links, once its home directory is filled in. -/
theorem exists_canonical_of_startFrom {given root : Path} (h : v.startFrom given = .ok root) :
    ∃ p, v.expandHome given = .ok p ∧ v.canonical p = .ok root := by
  cases hHome : v.expandHome given with
  | error fault => simp [startFrom, hHome, Except.bind] at h
  | ok p =>
      simp only [startFrom, hHome, Except.bind, resolve] at h
      refine ⟨p, rfl, ?_⟩
      split at h
      · cases h
      · cases hFound : v.canonical p with
        | error left =>
            rw [hFound] at h
            cases h
        | ok q =>
            rw [hFound] at h
            cases h
            rfl

/-- A path to start from is named by its own text. -/
theorem isProper_of_startFrom (hPlaced : v.WellPlaced) {given root : Path} (hPath : given.IsProper)
    (h : v.startFrom given = .ok root) : root.IsProper := by
  obtain ⟨p, hHome, hFound⟩ := exists_canonical_of_startFrom h
  exact isProper_of_canonical hPlaced (isProper_of_expandHome hPlaced hPath hHome) hFound

end Volume

end ProjectAtlas
