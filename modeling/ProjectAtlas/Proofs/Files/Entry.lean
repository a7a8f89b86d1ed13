import ProjectAtlas.Proofs.Files.Place

/-!
Going from a directory that was found to what stands in it. As long as no link stands there, an entry is
found exactly where its name is listed, however the directory itself was come to; only the length of a
name and of its path can keep it from being looked up.
-/

namespace ProjectAtlas

namespace Volume

variable {v : Volume} {p : Path} {entries : List (String × Node)} {locked : Bool}

theorem wellFormed_of_find (hTree : v.root.WellFormed) {node : Node} (hFind : v.find p = .ok node) :
    node.WellFormed := by
  obtain ⟨place, -, hAt⟩ := locate_of_find hFind
  exact hTree.at? hAt

/-- What can be listed is an open directory. -/
theorem find_of_list {names : List String} (h : v.list p = .ok names) :
    ∃ entries, v.find p = .ok (.dir entries false) ∧ entries.map (·.1) = names := by
  rw [list] at h
  split at h
  · cases h
  · rename_i entries locked hFind
    cases locked with
    | true => cases h
    | false =>
        cases h
        exact ⟨entries, hFind, rfl⟩
  · cases h
  · cases h

theorem isEntryName_of_list (hTree : v.root.WellFormed) {names : List String}
    (h : v.list p = .ok names) : ∀ n ∈ names, IsEntryName n := by
  obtain ⟨entries, hFind, rfl⟩ := find_of_list h
  intro n hn
  obtain ⟨e, he, rfl⟩ := List.mem_map.mp hn
  exact ((wellFormed_of_find hTree hFind).2.of_mem he).1

/-- The names behind a directory that was found are looked for from its place on, unless the path is too
long; a link may still be followed. -/
theorem exists_stepAlong_of_locate {place : List String} (hFound : v.locate p = .ok place) :
    ∃ follow, ∀ n, isUnnameable n = false → isTooLong (p.entry n) = false →
      v.locate (p.entry n) = v.stepAlong follow place [n] := by
  obtain ⟨hNames, -, hWay⟩ := locate_eq_ok_iff.mp hFound
  obtain ⟨left, -, hGo⟩ := exists_locateFrom_append hWay
  have hHere := hGo []
  rw [List.append_nil, hWay] at hHere
  cases left with
  | zero => cases hHere
  | succ left =>
      refine ⟨v.locateFrom left, fun n hn hShort => ?_⟩
      have hAll : (p.entry n).parts.any isUnnameable = false := by
        simp [Path.entry, List.any_append, hNames, hn]
      rw [locate, hAll, hShort]
      exact hGo [n]

/-- What a name looks up in a directory is found at the entry of that name, unless it is a link. -/
theorem find_entry_of_lookup (hTree : v.root.WellFormed)
    (hFind : v.find p = .ok (.dir entries locked)) {n : String} {child : Node}
    (hEntry : entries.lookup n = some child) (hEnd : ∀ target, child ≠ .link target)
    (hShort : isTooLong (p.entry n) = false) : v.find (p.entry n) = .ok child := by
  obtain ⟨place, hFound, hAt⟩ := locate_of_find hFind
  obtain ⟨follow, hStep⟩ := exists_stepAlong_of_locate hFound
  have hName := ((hTree.at? hAt).2.of_mem (Node.mem_of_lookup hEntry)).1
  have hThere : v.root.at? (place ++ [n]) = some child := by
    rw [Node.at?_append, hAt]
    simp [Node.at?, Node.entry?, hEntry]
  have hWay : v.stepAlong follow place ([n] ++ []) = v.stepAlong follow (place ++ [n]) [] :=
    stepAlong_append_of_at? follow place hThere hEnd (by simpa using hName.noUp) []
  have hLocate : v.locate (p.entry n) = .ok (place ++ [n]) := by
    rw [hStep n hName.nameable hShort]
    exact hWay
  exact find_of_locate hLocate hThere

/-- A name that is not listed in a directory leads nowhere. -/
theorem find_entry_missing (hFind : v.find p = .ok (.dir entries locked)) {n : String}
    (hUp : n ≠ "..") (hName : isUnnameable n = false) (hNone : entries.lookup n = none)
    (hShort : isTooLong (p.entry n) = false) :
    v.find (p.entry n) =
      .error (if maxNameBytes < Text.byteCount n then .nameTooLong else .missing) := by
  obtain ⟨place, hFound, hAt⟩ := locate_of_find hFind
  obtain ⟨follow, hStep⟩ := exists_stepAlong_of_locate hFound
  rw [find, hStep n hName hShort]
  simp [stepAlong, hAt, hUp, hNone, Except.bind]

/-- A path that is too long leads nowhere, whatever stands there. -/
theorem find_of_isTooLong (hNames : p.parts.any isUnnameable = false) (hLong : isTooLong p = true) :
    v.find p = .error .nameTooLong := by
  rw [find, locate, hNames, hLong]
  rfl

end Volume

/-- What a name looks up in a directory with these entries and without links. -/
def lookUp (p : Path) (entries : List (String × Node)) (n : String) : Except FileCause Node :=
  if Volume.isTooLong (p.entry n) then .error .nameTooLong
  else match entries.lookup n with
    | some child => .ok child
    | none => .error (if Volume.maxNameBytes < Text.byteCount n then .nameTooLong else .missing)

/-- There is a directory with these entries at the path, and no link below it. -/
structure HoldsEntries (v : Volume) (p : Path) (entries : List (String × Node)) (locked : Bool) :
    Prop where
  tree : v.root.WellFormed
  found : v.find p = .ok (.dir entries locked)
  noLinks : Node.linkCounts entries = 0

namespace HoldsEntries

variable {v u : Volume} {p : Path} {entries : List (String × Node)} {locked : Bool} {n : String}

theorem wellFormed (h : HoldsEntries v p entries locked) : (Node.dir entries locked).WellFormed :=
  Volume.wellFormed_of_find h.tree h.found

theorem isEntryName (h : HoldsEntries v p entries locked) {e : String × Node} (he : e ∈ entries) :
    IsEntryName e.1 :=
  (h.wellFormed.2.of_mem he).1

theorem noLink_of_mem (h : HoldsEntries v p entries locked) {e : String × Node} (he : e ∈ entries) :
    e.2.linkCount = 0 := by
  have hFew := Node.linkCount_le_of_mem he
  rw [h.noLinks] at hFew
  omega

theorem ne_link_of_lookup (h : HoldsEntries v p entries locked) {child : Node}
    (hEntry : entries.lookup n = some child) (target : String) : child ≠ .link target := by
  rintro rfl
  cases h.noLink_of_mem (Node.mem_of_lookup hEntry)

/-- Whatever is asked of an entry is answered from what its name looks up. -/
theorem find_entry_eq (h : HoldsEntries v p entries locked) (hUp : n ≠ "..")
    (hName : Volume.isUnnameable n = false) : v.find (p.entry n) = lookUp p entries n := by
  obtain ⟨place, hFound, -⟩ := Volume.locate_of_find h.found
  obtain ⟨hNames, -, -⟩ := Volume.locate_eq_ok_iff.mp hFound
  rw [lookUp]
  cases hShort : Volume.isTooLong (p.entry n) with
  | true => exact Volume.find_of_isTooLong (by simp [Path.entry, hNames, hName]) hShort
  | false =>
      cases hEntry : entries.lookup n with
      | none => simpa using Volume.find_entry_missing h.found hUp hName hEntry hShort
      | some child =>
          exact Volume.find_entry_of_lookup h.tree h.found hEntry (h.ne_link_of_lookup hEntry) hShort

theorem find_entry_of_mem (h : HoldsEntries v p entries locked) {e : String × Node} (he : e ∈ entries)
    (hShort : Volume.isTooLong (p.entry e.1) = false) : v.find (p.entry e.1) = .ok e.2 := by
  rw [h.find_entry_eq (h.isEntryName he).noUp (h.isEntryName he).nameable, lookUp, hShort,
    Node.lookup_of_mem h.wellFormed.1 he]
  rfl

end HoldsEntries

/-- There is this directory at the path, and no link below it. -/
structure HoldsDirectory (v : Volume) (p : Path) (node : Node) : Prop where
  tree : v.root.WellFormed
  found : v.find p = .ok node
  isDir : node.isDir = true
  noLinks : node.linkCount = 0

namespace HoldsDirectory

variable {v u : Volume} {p : Path} {node : Node} {n : String}

end HoldsDirectory

/-- A subdirectory is a directory without links itself. -/
theorem HoldsEntries.below {v : Volume} {p : Path} {entries : List (String × Node)} {locked : Bool}
    (h : HoldsEntries v p entries locked) {n : String} {node : Node}
    (hEntry : entries.lookup n = some node) (hDir : node.isDir = true)
    (hShort : Volume.isTooLong (p.entry n) = false) : HoldsDirectory v (p.entry n) node where
  tree := h.tree
  found := h.find_entry_of_mem (Node.mem_of_lookup hEntry) hShort
  isDir := hDir
  noLinks := h.noLink_of_mem (Node.mem_of_lookup hEntry)

end ProjectAtlas
