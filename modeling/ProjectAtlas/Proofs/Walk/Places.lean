import ProjectAtlas.Proofs.Files.Place
import ProjectAtlas.Proofs.Text.Pieces
import ProjectAtlas.Proofs.Walk.Visits

/-!
What identifies a file on a walk: its path relative to the root of the walk, and its place, unless links
lead to that place as well.
-/

namespace ProjectAtlas

namespace Walk

variable {v : Volume} {w : Walk}

theorem exists_place_of_filesMet {f : Path × String} (hMet : f ∈ filesMet (w.met v)) :
    ∃ place top, v.locate w.root = .ok place ∧ v.root.at? place = some top ∧
      f ∈ filesMet (below v w place w.root top) := by
  cases hPlace : v.locate w.root with
  | error cause => simp [met_of_locate_eq_error hPlace, filesMet] at hMet
  | ok place =>
      cases hAt : v.root.at? place with
      | none => simp [met, top?, hPlace, hAt, filesMet] at hMet
      | some top =>
          rw [met_eq_below hPlace hAt] at hMet
          exact ⟨place, top, rfl, hAt, hMet⟩

/-- Every file that is met is an entry of a directory below the root of the walk, by names that a file
system allows, and its relative path joins these names. -/
theorem exists_names_of_filesMet (hTree : v.root.WellFormed) {f : Path × String}
    (hMet : f ∈ filesMet (w.met v)) :
    ∃ place ns child entries locked, v.locate w.root = .ok place ∧
      v.root.at? place = some (.dir entries locked) ∧
      v.root.at? (place ++ ns) = some child ∧ v.countsAsFile (place ++ ns) child = true ∧
      ns ≠ [] ∧ (∀ n ∈ ns, IsEntryName n) ∧ f = (w.root.descend ns, "/".intercalate ns) := by
  obtain ⟨place, top, hPlace, hTop, hBelow⟩ := exists_place_of_filesMet hMet
  have hMeets := meets_below v w place (hTree.at? hTop)
  rw [hMeets.filesMet_eq, List.mem_map] at hBelow
  obtain ⟨⟨directory, name⟩, hFile, rfl⟩ := hBelow
  obtain ⟨entries, child, hReach, -, hEntry, hCounts, -⟩ := (hMeets.mem_files_iff directory name).mp hFile
  have hDir : v.root.at? (place ++ directory) = some (.dir entries false) := by
    rw [Node.at?_append, hTop]
    exact hReach.leads
  have hChild : v.root.at? (place ++ (directory ++ [name])) = some child := by
    rw [← List.append_assoc, Node.at?_append, hDir]
    simp [Node.at?, Node.entry?, Node.lookup_of_mem (hTree.at? hDir).1 hEntry]
  have hNames : ∀ n ∈ directory ++ [name], IsEntryName n := fun n hn =>
    hTree.isEntryName_of_at? hChild n (List.mem_append_right place hn)
  obtain ⟨above, locked, rfl⟩ : ∃ above locked, top = .dir above locked := by
    cases directory with
    | nil => exact ⟨entries, false, (Option.some.inj hReach.leads)⟩
    | cons n ns =>
        obtain ⟨above, -, rfl, -⟩ := reaches_cons.mp hReach
        exact ⟨above, false, rfl⟩
  exact ⟨place, directory ++ [name], child, above, locked, hPlace, hTop, hChild,
    by simpa using hCounts, by simp, hNames, rfl⟩

/-- Names that a file system allows are told apart by their join. -/
theorem eq_of_intercalate_eq {ns ms : List String} (hNames : ∀ n ∈ ns, IsEntryName n)
    (hOthers : ∀ m ∈ ms, IsEntryName m) (hSome : ns ≠ []) (hOther : ms ≠ [])
    (hSame : "/".intercalate ns = "/".intercalate ms) : ns = ms := by
  have hFirst := Text.splitOn_slash_intercalate hSome fun n hn => (hNames n hn).noSlash
  have hSecond := Text.splitOn_slash_intercalate hOther fun m hm => (hOthers m hm).noSlash
  rw [← hFirst, ← hSecond, hSame]

/-- No two files that are met have one relative path. -/
theorem nodup_relative (v : Volume) (w : Walk) (hTree : v.root.WellFormed) :
    ((filesMet (w.met v)).map (·.2)).Nodup := by
  have hOnce : (filesMet (w.met v)).Nodup := by
    cases hFiles : filesMet (w.met v) with
    | nil => exact List.nodup_nil
    | cons f fs =>
        obtain ⟨place, top, hPlace, hTop, -⟩ :=
          exists_place_of_filesMet (w := w) (f := f) (hFiles ▸ List.mem_cons_self)
        rw [← hFiles, met_eq_below hPlace hTop]
        exact (meets_below v w place (hTree.at? hTop)).once.of_map
  refine List.Nodup.map_on (fun f hf g hg hSame => ?_) hOnce
  obtain ⟨_, ns, _, _, _, _, _, _, _, hSome, hNames, rfl⟩ := exists_names_of_filesMet hTree hf
  obtain ⟨_, ms, _, _, _, _, _, _, _, hOther, hOthers, rfl⟩ := exists_names_of_filesMet hTree hg
  rw [eq_of_intercalate_eq hNames hOthers hSome hOther hSame]

/-- A file at a place to which no link leads is met once at most. -/
theorem eq_of_locate_eq (hTree : v.root.WellFormed) {place : List String}
    (hNoLink : v.NoLinkTo place) {f g : Path × String} (hf : f ∈ filesMet (w.met v))
    (hg : g ∈ filesMet (w.met v)) (hFirst : v.locate f.1 = .ok place)
    (hSecond : v.locate g.1 = .ok place) : f = g := by
  have hPlace : ∀ {f}, f ∈ filesMet (w.met v) → v.locate f.1 = .ok place →
      ∃ here ns, v.locate w.root = .ok here ∧ place = here ++ ns ∧
        f = (w.root.descend ns, "/".intercalate ns) := by
    intro f hf hFound
    obtain ⟨here, ns, child, entries, locked, hHere, hTop, hChild, hCounts, -, -, rfl⟩ :=
      exists_names_of_filesMet hTree hf
    have hThrough := Volume.reach_through hTree hHere hTop hFound
    cases child with
    | dir _ _ | sealed => cases hCounts
    | link target => exact absurd hThrough (hNoLink _ target hChild)
    | file content shut =>
        have hSelf := Volume.reach_of_at? hTree hChild (by simp)
        exact ⟨here, ns, hHere, Except.ok.inj (hThrough.symm.trans hSelf), rfl⟩
  obtain ⟨here, ns, hHere, hEnd, rfl⟩ := hPlace hf hFirst
  obtain ⟨there, ms, hThere, hOther, rfl⟩ := hPlace hg hSecond
  obtain rfl : here = there := Except.ok.inj (hHere.symm.trans hThere)
  rw [List.append_cancel_left (hEnd.symm.trans hOther)]

end Walk

end ProjectAtlas
