import ProjectAtlas.Manifest.Project
import ProjectAtlas.Proofs.Files.Entry
import ProjectAtlas.Proofs.Scanner.Traversal
import ProjectAtlas.Proofs.Walk.Frame

/-!
The names in a directory that pass a test. The test of each name can fail, and then the first name in
order whose test fails counts, so that the order of the listing does not matter.
-/

namespace ProjectAtlas

variable {v : Volume} {directory : Path} {test : String → Except FileFault Bool}

theorem mergeSort_filter (keep : String → Bool) (names : List String) :
    (names.filter keep).mergeSort = names.mergeSort.filter keep := by
  have hSorted : (names.mergeSort.filter keep).Pairwise fun a b => decide (a ≤ b) = true := by
    simpa using (Text.pairwise_le_mergeSort id names).filter keep
  rw [mergeSort_eq_of_perm ((List.mergeSort_perm names _).symm.filter keep)]
  exact List.mergeSort_of_pairwise hSorted

/-- Testing the names as they are listed, and then putting them in order, comes to testing them in
order. -/
theorem namesPassing_eq (v : Volume) (directory : Path) (test : String → Except FileFault Bool) :
    namesPassing v directory test =
      (v.list directory).bind fun names => names.mergeSort.filterM test := by
  unfold namesPassing
  refine congrArg (v.list directory).bind (funext fun names => ?_)
  cases hListed : names.filterM test with
  | error fault => rfl
  | ok passing =>
      obtain ⟨-, hAll, -⟩ := sublist_of_filterM hListed
      have hKeep : ∀ n ∈ names, test n = .ok ((test n).toOption.getD false) := by
        intro n hn
        obtain ⟨kept, hKept⟩ := hAll n hn
        rw [hKept]
        rfl
      rw [filterM_eq_ok_filter hKeep] at hListed
      cases hListed
      rw [filterM_eq_ok_filter fun n hn => hKeep n (List.mem_mergeSort.mp hn), ← mergeSort_filter]

/-- What the names that pass say: all names could be tested, and they are some of them, in order. -/
theorem listed_of_namesPassing {names : List String} (h : namesPassing v directory test = .ok names) :
    ∃ listed, v.list directory = .ok listed ∧ names.Sublist listed.mergeSort ∧
      (∀ n ∈ listed, ∃ kept, test n = .ok kept) ∧ ∀ n, n ∈ names ↔ n ∈ listed ∧ test n = .ok true := by
  rw [namesPassing_eq] at h
  obtain ⟨listed, hList, hPassing⟩ := bind_eq_ok_iff.mp h
  obtain ⟨hSublist, hAll, hMem⟩ := sublist_of_filterM hPassing
  refine ⟨listed, hList, hSublist, fun n hn => hAll n (List.mem_mergeSort.mpr hn), fun n => ?_⟩
  rw [hMem, List.mem_mergeSort]

theorem isEntryName_of_namesPassing (hTree : v.root.WellFormed) {names : List String}
    (h : namesPassing v directory test = .ok names) : ∀ n ∈ names, IsEntryName n := by
  obtain ⟨listed, hList, -, -, hMem⟩ := listed_of_namesPassing h
  exact fun n hn => Volume.isEntryName_of_list hTree hList n ((hMem n).mp hn).1

/-- Two volumes in which the names in a directory are the same, and are tested alike, give the same
names. -/
theorem namesPassing_congr {u : Volume} {other : String → Except FileFault Bool}
    {listed relisted : List String} (hFirst : v.list directory = .ok listed)
    (hSecond : u.list directory = .ok relisted) (hPerm : relisted.Perm listed)
    (hTest : ∀ n ∈ listed, other n = test n) :
    namesPassing u directory other = namesPassing v directory test := by
  rw [namesPassing_eq, namesPassing_eq, hFirst, hSecond]
  show relisted.mergeSort.filterM other = listed.mergeSort.filterM test
  rw [mergeSort_eq_of_perm hPerm]
  exact filterM_congr fun n hn => hTest n (List.mem_mergeSort.mp hn)

section Entries

variable {entries : List (String × Node)} {asks : String → Bool} {tests : Node → Bool}

end Entries

end ProjectAtlas
