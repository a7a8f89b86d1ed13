import ProjectAtlas.Proofs.Files.Frame
import ProjectAtlas.Proofs.Walk.Visits
import ProjectAtlas.Scanner.Basic

/-!
A walk depends on the frame of the files alone: names are sorted before anything else is done with
them, and nothing is read. So neither the order in which directories list their entries nor the bytes of
files change what is met.
-/

namespace ProjectAtlas

/-- Pairs with different names are sorted to one list, in whatever order they are given. -/
theorem sortByName_eq_of_perm {α : Type} {xs ys : List (String × α)} (hPerm : xs.Perm ys)
    (hNames : (ys.map (·.1)).Nodup) : sortByName xs = sortByName ys := by
  have hOther : (xs.map (·.1)).Nodup := (hPerm.map _).nodup_iff.mpr hNames
  have hSorted : (sortByName xs).Perm (sortByName ys) :=
    (List.mergeSort_perm xs _).trans (hPerm.trans (List.mergeSort_perm ys _).symm)
  refine hSorted.eq_of_pairwise (fun a b _ _ hLess hMore => ?_) (sortByName_pairwise_lt hOther)
    (sortByName_pairwise_lt hNames)
  exact absurd hMore (String.lt_asymm hLess)

/-- Names are sorted to one list, in whatever order they are given. -/
theorem mergeSort_eq_of_perm {xs ys : List String} (hPerm : xs.Perm ys) :
    xs.mergeSort = ys.mergeSort := by
  have hBoth : xs.mergeSort.Perm ys.mergeSort :=
    (List.mergeSort_perm xs _).trans (hPerm.trans (List.mergeSort_perm ys _).symm)
  refine hBoth.eq_of_pairwise (fun a b _ _ hab hba => ?_) (Text.pairwise_le_mergeSort id xs)
    (Text.pairwise_le_mergeSort id ys)
  exact String.le_antisymm hab hba

namespace Walk

variable {v u : Volume} {entries listed : List (String × Node)} {locked shut : Bool}

/-- The names of the files in one directory, by what is said of each entry. -/
theorem ownNames_eq_of_pairs (v : Volume) (w : Walk) (place : List String) (here : Path)
    (entries : List (String × Node)) :
    ownNames v w place here entries =
      ((sortByName ((entries.map fun e => (e.1, v.countsAsFile (place ++ [e.1]) e.2)).filter
        (·.2))).filter fun e => w.yields here e.1).map (·.1) := by
  have hPairs : ((entries.map fun e => (e.1, v.countsAsFile (place ++ [e.1]) e.2)).filter (·.2)) =
      (entries.filter fun e => v.countsAsFile (place ++ [e.1]) e.2).map fun e =>
        (e.1, v.countsAsFile (place ++ [e.1]) e.2) := by
    rw [List.filter_map]
    rfl
  rw [hPairs, sortByName_map, List.filter_map, List.map_map]
  rfl

/-- A link counts as a file in both volumes, or in neither. -/
theorem countsAsFile_eq (h : v.SameFrame u) (place : List String) {a b : Node}
    (hAlike : a.Alike b) : u.countsAsFile place b = v.countsAsFile place a := by
  cases hAlike with
  | file | dir | shut => rfl
  | link => simp only [Volume.countsAsFile, h.showsDir_eq]

theorem ownFiles_eq (h : v.SameFrame u) (w : Walk) (place : List String) (here : Path)
    (hDirectory : (Node.dir entries locked).SameFrame (.dir listed shut))
    (hNames : (entries.map (·.1)).Nodup) :
    ownFiles u w place here listed = ownFiles v w place here entries := by
  have hPerm := hDirectory.perm_map hNames
    (f := fun e => v.countsAsFile (place ++ [e.1]) e.2)
    (g := fun e => u.countsAsFile (place ++ [e.1]) e.2) fun n child other _ hFrame =>
      countsAsFile_eq h (place ++ [n]) hFrame.alike
  have hPairs : (((entries.map fun e => (e.1, v.countsAsFile (place ++ [e.1]) e.2)).filter
      (·.2)).map (·.1)).Nodup := by
    refine (List.filter_sublist.map _).nodup ?_
    simpa [Function.comp_def] using hNames
  rw [ownFiles_eq_map, ownFiles_eq_map, ownNames_eq_of_pairs, ownNames_eq_of_pairs,
    sortByName_eq_of_perm (hPerm.filter _) hPairs]

/-- What is met in two directories with one frame is the same, one file or directory after the
other. -/
theorem below_eq (h : v.SameFrame u) (w : Walk) {a b : Node} (hFrame : a.SameFrame b)
    (hTree : a.WellFormed) (place : List String) (here : Path) :
    below u w place here b = below v w place here a := by
  induction a using Node.entryInduction generalizing b place here with
  | file content locked =>
      cases hFrame.alike
      rfl
  | shut =>
      cases hFrame.alike
      rfl
  | link target =>
      cases hFrame.alike
      rfl
  | dir entries locked ih =>
      cases hFrame.alike with
      | @dir _ listed _ order =>
      have hCause : barred? here (.dir listed locked) = barred? here (.dir entries locked) := by
        cases locked <;> rfl
      simp only [below, hCause]
      cases barred? here (.dir entries locked) with
      | some cause => rfl
      | none =>
          -- The two listings give the same pairs of a name and what is met below it, in some order,
          -- and sorting by name forgets the order.
          have hPerm := hFrame.perm_map hTree.1
            (f := fun e => below v w (place ++ [e.1]) (here.entry e.1) e.2)
            (g := fun e => below u w (place ++ [e.1]) (here.entry e.1) e.2)
            fun n child other hMem hChild =>
              ih (n, child) hMem hChild (hTree.2.of_mem hMem).2 (place ++ [n]) (here.entry n)
          have hNames : ((entries.map fun e =>
              (e.1, below v w (place ++ [e.1]) (here.entry e.1) e.2)).map (·.1)).Nodup := by
            simpa [Function.comp_def] using hTree.1
          rw [ownFiles_eq h w place here hFrame hTree.1, belowEach_eq_map, belowEach_eq_map,
            sortByName_eq_of_perm hPerm hNames]

theorem levelsEach_eq_foldr (w : Walk) (here : Path) (entries : List (String × Node)) :
    levelsEach w here entries =
      (entries.map fun e => (e.1, if w.enters here e.1 then levels w (here.entry e.1) e.2 else 0)).foldr
        (fun e n => max e.2 n) 0 := by
  induction entries with
  | nil => rfl
  | cons e es ih => simp [levelsEach, ih]

/-- Directories with one frame lie inside one another equally deep. -/
theorem levels_eq (w : Walk) {a b : Node} (hFrame : a.SameFrame b) (hTree : a.WellFormed)
    (here : Path) : levels w here b = levels w here a := by
  induction a using Node.entryInduction generalizing b here with
  | file content locked =>
      cases hFrame.alike
      rfl
  | shut =>
      cases hFrame.alike
      rfl
  | link target =>
      cases hFrame.alike
      rfl
  | dir entries locked ih =>
      cases hFrame.alike with
      | @dir _ listed _ order =>
      have hCause : barred? here (.dir listed locked) = barred? here (.dir entries locked) := by
        cases locked <;> rfl
      have hPerm := hFrame.perm_map hTree.1
        (f := fun e => if w.enters here e.1 then levels w (here.entry e.1) e.2 else 0)
        (g := fun e => if w.enters here e.1 then levels w (here.entry e.1) e.2 else 0)
        fun n child other hMem hChild => by
          simp only [ih (n, child) hMem hChild (hTree.2.of_mem hMem).2 (here.entry n)]
      have hEach : levelsEach w here listed = levelsEach w here entries := by
        rw [levelsEach_eq_foldr, levelsEach_eq_foldr]
        refine hPerm.foldr_eq' ?_ 0
        intro x _ y _ z
        omega
      simp only [levels, hCause, hEach]

/-- What a walk starts from looks alike in volumes with one frame. -/
theorem top?_cases (h : v.SameFrame u) (w : Walk) :
    (w.top? v = none ∧ w.top? u = none) ∨
      ∃ place a b, w.top? v = some (place, a) ∧ w.top? u = some (place, b) ∧
        v.root.at? place = some a ∧ a.SameFrame b := by
  simp only [top?, h.locate_eq]
  cases hPlace : v.locate w.root with
  | error cause => exact .inl ⟨rfl, rfl⟩
  | ok place =>
      rcases h.root.at?_cases place with ⟨hFirst, hSecond⟩ | ⟨a, b, hFirst, hSecond, hFrame⟩
      · exact .inl ⟨by simp [hFirst], by simp [hSecond]⟩
      · exact .inr ⟨place, a, b, by simp [hFirst], by simp [hSecond], hFirst, hFrame⟩

/-- A walk gives the same in volumes with one frame, in the same order. -/
theorem run_eq (h : v.SameFrame u) (hTree : v.root.WellFormed) (w : Walk) : w.run u = w.run v := by
  have hMet : w.met u = w.met v ∧ w.depth u = w.depth v := by
    simp only [met, depth]
    rcases top?_cases h w with ⟨hFirst, hSecond⟩ | ⟨place, a, b, hFirst, hSecond, hAt, hFrame⟩
    · simp only [hFirst, hSecond, and_self]
    · simp only [hFirst, hSecond]
      exact ⟨below_eq h w hFrame (hTree.at? hAt) place w.root, levels_eq w hFrame (hTree.at? hAt) w.root⟩
  simp only [run, h.isDir_eq, h.host, hMet.1, hMet.2]

end Walk

/-- What scanners are given of a walk depends on the frame alone. -/
theorem scanMet_eq {v u : Volume} (h : v.SameFrame u) (hTree : v.root.WellFormed) (w : Walk) :
    scanMet u w = scanMet v w := by
  rw [scanMet, Walk.run_eq h hTree]
  rfl

end ProjectAtlas
