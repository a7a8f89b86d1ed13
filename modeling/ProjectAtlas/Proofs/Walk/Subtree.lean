import Mathlib.Data.List.Nodup
import ProjectAtlas.Proofs.Files.Passage

/-!
A walk of a subdirectory beside the walk of a whole tree, both under the rules of the whole tree.

The whole walk tests every directory on the way down before it enters it; the walk of the subdirectory
starts below them and never tests its own root. The two meet the same files in the subdirectory exactly
when no directory on the way is excluded, or when the subdirectory gives no files anyway.
-/

namespace ProjectAtlas

/-- A thing that was met, with its path given as seen from another root. -/
def Met.seenFrom (root : Path) : Met → Met
  | .file path _ => .file path (joinRelative (path.parent.relativeText root) path.name)
  | .unlisted fault => .unlisted fault

/-- A file strictly below the directory `root`, with its path relative to that. -/
def fileBelow? (root : Path) (f : Path × String) : Option (Path × String) :=
  match f.1.below? root with
  | some (n :: ns) => some (f.1, "/".intercalate (n :: ns))
  | _ => none

private theorem intercalate_eq_empty_iff {ms : List String} (hNames : ∀ m ∈ ms, m ≠ "") :
    "/".intercalate ms = "" ↔ ms = [] := by
  constructor
  · intro hEmpty
    cases ms with
    | nil => rfl
    | cons m ms =>
        cases ms with
        | nil =>
            rw [String.intercalate_singleton] at hEmpty
            exact absurd hEmpty (hNames m (by simp))
        | cons k ms =>
            have hChars := congrArg String.toList hEmpty
            simp [String.intercalate_cons_cons] at hChars
  · rintro rfl
    exact String.intercalate_nil

/-- Joining a name to the relative path of its directory makes its own relative path. -/
theorem joinRelative_intercalate {ms : List String} (hNames : ∀ m ∈ ms, m ≠ "") (n : String) :
    joinRelative ("/".intercalate ms) n = "/".intercalate (ms ++ [n]) := by
  unfold joinRelative
  by_cases hNil : ms = []
  · subst hNil
    simp
  · have hSome : ("/".intercalate ms).isEmpty = false := by
      rw [← Bool.not_eq_true, String.isEmpty_iff, intercalate_eq_empty_iff hNames]
      exact hNil
    rw [hSome, if_neg Bool.false_ne_true, String.intercalate_append_of_ne_nil hNil (by simp),
      String.intercalate_singleton]

namespace Walk

/-- The same walk, started from another directory. -/
def startingAt (w : Walk) (root : Path) : Walk :=
  { w with root }

/-- Files are met in the same places; only their relative paths depend on where the walk starts. -/
theorem ownFiles_startingAt (v : Volume) (w : Walk) (root : Path) (place : List String)
    (here : Path) (entries : List (String × Node)) :
    ownFiles v (w.startingAt root) place here entries =
      (ownFiles v w place here entries).map (Met.seenFrom root) := by
  simp [ownFiles, startingAt, yields, Met.seenFrom, Function.comp_def]

/-- Sorting does not look at what goes with the names. -/
theorem sortByName_map {α β : Type} (f : String × α → β) (xs : List (String × α)) :
    sortByName (xs.map fun e => (e.1, f e)) = (sortByName xs).map fun e => (e.1, f e) := by
  unfold sortByName
  exact (List.map_mergeSort (f := fun e : String × α => (e.1, f e)) fun a _ b _ => rfl).symm

mutual

/-- What a walk meets does not depend on where it was started, relative paths apart. -/
theorem below_startingAt (v : Volume) (w : Walk) (root : Path) (place : List String)
    (here : Path) : (node : Node) →
    below v (w.startingAt root) place here node =
      (below v w place here node).map (Met.seenFrom root)
  | .file _ _ => by simp [below]
  | .sealed => by simp [below, barred?, barredMet, Met.seenFrom]
  | .link _ => by simp [below]
  | .dir entries locked => by
      simp only [below]
      cases barred? here (.dir entries locked) with
      | some cause => simp [barredMet, Met.seenFrom]
      | none =>
          simp only [List.map_append]
          rw [ownFiles_startingAt, belowEach_startingAt v w root place here entries,
            sortByName_map, List.filter_map, List.flatMap_map, List.map_flatMap]
          rfl

theorem belowEach_startingAt (v : Volume) (w : Walk) (root : Path) (place : List String)
    (here : Path) : (entries : List (String × Node)) →
    belowEach v (w.startingAt root) place here entries =
      (belowEach v w place here entries).map fun e => (e.1, e.2.map (Met.seenFrom root))
  | [] => rfl
  | (n, node) :: es => by
      simp only [belowEach, List.map_cons]
      rw [below_startingAt v w root, belowEach_startingAt v w root place here es]

end

/-- The entries of the walk over subdirectories are those of the directory, in its order. -/
theorem belowEach_eq_map (v : Volume) (w : Walk) (place : List String) (here : Path)
    (entries : List (String × Node)) :
    belowEach v w place here entries =
      entries.map fun e => (e.1, below v w (place ++ [e.1]) (here.entry e.1) e.2) := by
  induction entries with
  | nil => rfl
  | cons e es ih => simp [belowEach, ih]

/-- A file in the directory `here` has the path of one of its entries. -/
theorem mem_ownFiles {v : Volume} {w : Walk} {place : List String} {here : Path}
    {entries : List (String × Node)} {path : Path} {relative : String}
    (h : .file path relative ∈ ownFiles v w place here entries) :
    ∃ e ∈ entries, path = here.entry e.1 ∧
      relative = joinRelative (here.relativeText w.root) e.1 := by
  simp only [ownFiles, sortByName, List.mem_map, List.mem_filter, List.mem_mergeSort,
    Met.file.injEq] at h
  obtain ⟨e, ⟨⟨he, -⟩, -⟩, hPath, hRelative⟩ := h
  exact ⟨e, he, hPath.symm, hRelative.symm⟩

/-- A directory is listed at a path if it is open and the path is not too long. -/
theorem barred?_dir_eq_none_iff {here : Path} {entries : List (String × Node)} {locked : Bool} :
    barred? here (.dir entries locked) = none ↔
      locked = false ∧ Volume.isTooLong here = false := by
  cases locked <;> simp [barred?]

theorem barred?_open {here : Path} (hShort : Volume.isTooLong here = false)
    (entries : List (String × Node)) : barred? here (.dir entries false) = none :=
  barred?_dir_eq_none_iff.mpr ⟨rfl, hShort⟩

/-- Below a directory that is not listed no file is met. -/
theorem filesMet_below_of_isTooLong (v : Volume) (w : Walk) (place : List String) {here : Path}
    (hLong : Volume.isTooLong here = true) (node : Node) :
    filesMet (below v w place here node) = [] := by
  cases node with
  | file | link => simp [below, filesMet]
  | sealed => simp [below, barred?, barredMet, filesMet]
  | dir entries locked => cases locked <;> simp [below, barred?, hLong, barredMet, filesMet]

/-- A file that a walk meets in a directory is met in it directly or in a subdirectory. -/
theorem file_mem_below_dir {v : Volume} {w : Walk} {place : List String} {here : Path}
    {entries : List (String × Node)} {locked : Bool} {path : Path} {relative : String}
    (h : .file path relative ∈ below v w place here (.dir entries locked)) :
    .file path relative ∈ ownFiles v w place here entries ∨
      ∃ e ∈ entries, w.enters here e.1 ∧
        .file path relative ∈ below v w (place ++ [e.1]) (here.entry e.1) e.2 := by
  simp only [below] at h
  cases hBarred : barred? here (.dir entries locked) with
  | some cause => simp [hBarred, barredMet] at h
  | none =>
      simp only [hBarred, belowEach_eq_map, sortByName, List.mem_append, List.mem_flatMap,
        List.mem_filter, List.mem_mergeSort, List.mem_map] at h
      rcases h with hOwn | ⟨_, ⟨⟨e, he, rfl⟩, hEnters⟩, hMet⟩
      · exact .inl hOwn
      · exact .inr ⟨e, he, hEnters, hMet⟩

/-- Every file that is met lies strictly below the directory, at allowed names, and its relative path
is its path as seen from where the walk starts. -/
theorem path_of_mem_below (v : Volume) (w : Walk) (place : List String) (here : Path) (node : Node)
    (hTree : node.WellFormed) {path : Path} {relative : String}
    (h : .file path relative ∈ below v w place here node) :
    ∃ ms n, path = here.descend (ms ++ [n]) ∧ (∀ m ∈ ms ++ [n], IsEntryName m) ∧
      relative = joinRelative ((here.descend ms).relativeText w.root) n := by
  induction node using Node.entryInduction generalizing place here with
  | file | link => simp [below] at h
  | shut => simp [below, barred?, barredMet] at h
  | dir entries locked ih =>
      rcases file_mem_below_dir h with hOwn | ⟨e, he, -, hMet⟩
      · obtain ⟨e, he, rfl, rfl⟩ := mem_ownFiles hOwn
        refine ⟨[], e.1, by simp [Path.descend, Path.entry], ?_, by simp⟩
        simpa using (hTree.2.of_mem he).1
      · obtain ⟨hName, hChild⟩ := hTree.2.of_mem he
        obtain ⟨ms, n, rfl, hNames, rfl⟩ := ih e he (place ++ [e.1]) (here.entry e.1) hChild hMet
        refine ⟨e.1 :: ms, n, ?_, ?_, ?_⟩
        · rw [List.cons_append, Path.descend_cons]
        · intro m hm
          rcases List.mem_cons.mp hm with rfl | hm
          · exact hName
          · exact hNames m hm
        · rw [Path.descend_cons]

end Walk

@[simp]
theorem filesMet_append (ms ns : List Met) : filesMet (ms ++ ns) = filesMet ms ++ filesMet ns :=
  List.filterMap_append

theorem mem_filesMet {ms : List Met} {f : Path × String} :
    f ∈ filesMet ms ↔ .file f.1 f.2 ∈ ms := by
  simp only [filesMet, List.mem_filterMap]
  constructor
  · rintro ⟨met, hMet, hFile⟩
    cases met with
    | file path relative =>
        cases hFile
        exact hMet
    | unlisted fault => cases hFile
  · exact fun h => ⟨_, h, rfl⟩

theorem mem_unlistedMet {ms : List Met} {fault : FileFault} :
    fault ∈ unlistedMet ms ↔ .unlisted fault ∈ ms := by
  simp only [unlistedMet, List.mem_filterMap]
  constructor
  · rintro ⟨met, hMet, hFault⟩
    cases met with
    | file path relative => cases hFault
    | unlisted other =>
        cases hFault
        exact hMet
  · exact fun h => ⟨_, h, rfl⟩

theorem filesMet_map_seenFrom (root : Path) (ms : List Met) :
    filesMet (ms.map (Met.seenFrom root)) =
      (filesMet ms).map fun f => (f.1, joinRelative (f.1.parent.relativeText root) f.1.name) := by
  induction ms with
  | nil => rfl
  | cons met ms ih =>
      cases met with
      | file path relative => simpa [filesMet, Met.seenFrom] using ih
      | unlisted fault => simpa [filesMet, Met.seenFrom] using ih

/-- A file strictly below a directory is seen from there by the names that lead to it. -/
theorem fileBelow?_descend (root : Path) {ms : List String} (hSome : ms ≠ []) (relative : String) :
    fileBelow? root (root.descend ms, relative) = some (root.descend ms, "/".intercalate ms) := by
  cases ms with
  | nil => exact absurd rfl hSome
  | cons m ms => simp [fileBelow?]

/-- A file whose way branches off is not below the directory, and neither is the directory itself. -/
theorem fileBelow?_eq_none (p : Path) {n m : String} {ns ms : List String} (relative : String)
    (hApart : m ≠ n ∨ ms = []) :
    fileBelow? (p.descend (n :: ns)) (p.descend (m :: ms), relative) = none := by
  unfold fileBelow?
  rw [Path.below?_descend_descend]
  split
  · rename_i hRest
    split at hRest
    · rename_i hPrefix
      rw [List.cons_prefix_cons] at hPrefix
      rcases hApart with hName | rfl
      · exact absurd hPrefix.1.symm hName
      · simp at hRest
    · cases hRest
  · rfl

namespace Walk

/-- Below the directory where it starts, a walk meets what another walk meets there, with the relative
paths replaced. -/
theorem filterMap_fileBelow?_here (v : Volume) (w : Walk) (place : List String) (here : Path)
    (node : Node) (hTree : node.WellFormed) :
    (filesMet (below v w place here node)).filterMap (fileBelow? here) =
      filesMet (below v (w.startingAt here) place here node) := by
  rw [below_startingAt, filesMet_map_seenFrom, ← List.filterMap_eq_map]
  refine List.filterMap_congr fun f hf => ?_
  obtain ⟨path, relative⟩ := f
  obtain ⟨ms, n, rfl, hNames, -⟩ :=
    path_of_mem_below v w place here node hTree (mem_filesMet.mp hf)
  have hSplit := (here.entry_descend ms n).symm
  have hBefore : ∀ m ∈ ms, m ≠ "" := fun m hm => (hNames m (by simp [hm])).nonempty
  rw [fileBelow?_descend here (by simp)]
  simp only [Function.comp, hSplit, Path.parent_entry, Path.name_entry,
    Path.relativeText_descend, joinRelative_intercalate hBefore]

/-- The walk enters every directory on the way down from the directory `here`. -/
def isClear (w : Walk) : Path → List String → Bool
  | _, [] => true
  | here, n :: ns => w.enters here n && w.isClear (here.entry n) ns

/-- If only one item of a list gives anything, the list gives what that item gives. -/
theorem flatMap_eq_of_only {α β : Type} {xs : List α} {a : α} {f : α → List β} (hDistinct : xs.Nodup)
    (ha : a ∈ xs) (hOther : ∀ b ∈ xs, b ≠ a → f b = []) : xs.flatMap f = f a := by
  obtain ⟨front, back, rfl⟩ := List.append_of_mem ha
  rw [List.nodup_middle, List.nodup_cons, List.mem_append, not_or] at hDistinct
  have hFront : front.flatMap f = [] := List.flatMap_eq_nil_iff.mpr fun b hb =>
    hOther b (by simp [hb]) fun hSame => hDistinct.1.1 (hSame ▸ hb)
  have hBack : back.flatMap f = [] := List.flatMap_eq_nil_iff.mpr fun b hb =>
    hOther b (by simp [hb]) fun hSame => hDistinct.1.2 (hSame ▸ hb)
  rw [List.flatMap_append, List.flatMap_cons, hFront, hBack, List.nil_append, List.append_nil]

/-- The subdirectories that a walk enters, in its order, each with what is met in it. -/
def entered (v : Volume) (w : Walk) (place : List String) (here : Path)
    (entries : List (String × Node)) : List (String × List Met) :=
  (sortByName (belowEach v w place here entries)).filter fun e => w.enters here e.1

theorem mem_entered {v : Volume} {w : Walk} {place : List String} {here : Path}
    {entries : List (String × Node)} {x : String × List Met} :
    x ∈ entered v w place here entries ↔
      ∃ e ∈ entries, w.enters here e.1 ∧
        x = (e.1, below v w (place ++ [e.1]) (here.entry e.1) e.2) := by
  simp only [entered, sortByName, belowEach_eq_map, List.mem_filter, List.mem_mergeSort,
    List.mem_map]
  constructor
  · rintro ⟨⟨e, he, rfl⟩, hEnters⟩
    exact ⟨e, he, hEnters, rfl⟩
  · rintro ⟨e, he, hEnters, rfl⟩
    exact ⟨⟨e, he, rfl⟩, hEnters⟩

theorem nodup_entered (v : Volume) (w : Walk) (place : List String) (here : Path)
    {entries : List (String × Node)} (hNames : (entries.map (·.1)).Nodup) :
    (entered v w place here entries).Nodup := by
  have hEach : ((belowEach v w place here entries).map (·.1)).Nodup := by
    simpa [belowEach_eq_map, Function.comp_def] using hNames
  exact ((List.mergeSort_perm _ _).nodup_iff.mpr hEach.of_map).filter _

/-- An entry that is entered is known by its name. -/
theorem eq_of_mem_entered {v : Volume} {w : Walk} {place : List String} {here : Path}
    {entries : List (String × Node)} (hNames : (entries.map (·.1)).Nodup) {n : String} {child : Node}
    (hEntry : entries.lookup n = some child) {x : String × List Met}
    (hx : x ∈ entered v w place here entries) (hName : x.1 = n) :
    x = (n, below v w (place ++ [n]) (here.entry n) child) := by
  obtain ⟨⟨m, node⟩, he, -, rfl⟩ := mem_entered.mp hx
  obtain rfl : m = n := hName
  have hSame : some node = some child := by
    rw [← Node.lookup_of_mem hNames he, ← hEntry]
  cases hSame
  rfl

/-- The files in a directory itself lie below none of its subdirectories. -/
theorem filterMap_fileBelow?_ownFiles (v : Volume) (w : Walk) (place : List String) (here : Path)
    (entries : List (String × Node)) (n : String) (ns : List String) :
    (filesMet (ownFiles v w place here entries)).filterMap
      (fileBelow? (here.descend (n :: ns))) = [] := by
  rw [List.filterMap_eq_nil_iff]
  rintro ⟨path, relative⟩ hf
  obtain ⟨e, -, rfl, -⟩ := mem_ownFiles (mem_filesMet.mp hf)
  have hPath : here.entry e.1 = here.descend [e.1] := rfl
  rw [hPath]
  exact fileBelow?_eq_none here relative (.inr rfl)

/-- The files in one subdirectory do not lie below another. -/
theorem filterMap_fileBelow?_entered {v : Volume} {w : Walk} {place : List String} {here : Path}
    {entries : List (String × Node)} (hTree : Node.EntriesWellFormed entries)
    {x : String × List Met} (hx : x ∈ entered v w place here entries) {n : String}
    (hName : x.1 ≠ n) (ns : List String) :
    (filesMet x.2).filterMap (fileBelow? (here.descend (n :: ns))) = [] := by
  obtain ⟨e, he, -, rfl⟩ := mem_entered.mp hx
  rw [List.filterMap_eq_nil_iff]
  rintro ⟨path, relative⟩ hf
  obtain ⟨ms, m, rfl, -⟩ := path_of_mem_below v w _ _ e.2 (hTree.of_mem he).2 (mem_filesMet.mp hf)
  rw [← Path.descend_cons]
  exact fileBelow?_eq_none here relative (.inl hName)

/-- The files below a place further down come from the subdirectories that are entered. -/
theorem filterMap_fileBelow?_dir (v : Volume) (w : Walk) (place : List String) {here : Path}
    (hShort : Volume.isTooLong here = false) (entries : List (String × Node)) (n : String)
    (ns : List String) :
    (filesMet (below v w place here (.dir entries false))).filterMap
        (fileBelow? (here.descend (n :: ns))) =
      (entered v w place here entries).flatMap fun x =>
        (filesMet x.2).filterMap (fileBelow? (here.descend (n :: ns))) := by
  simp only [below, barred?_open hShort, filesMet_append, List.filterMap_append,
    filterMap_fileBelow?_ownFiles, List.nil_append]
  rw [filesMet, List.filterMap_flatMap, List.filterMap_flatMap]
  rfl

/-- Of the files met on the way down a passage those below its end are the files met there, if the
walk gets that far, and none otherwise. -/
theorem filterMap_fileBelow?_passage (v : Volume) (w : Walk) {node target : Node}
    {ns : List String} (h : Node.Passage node ns target) (hTree : node.WellFormed)
    (place : List String) (here : Path) :
    (filesMet (below v w place here node)).filterMap (fileBelow? (here.descend ns)) =
      if w.isClear here ns then
        filesMet (below v (w.startingAt (here.descend ns)) (place ++ ns) (here.descend ns) target)
      else [] := by
  induction h generalizing place here with
  | here entries locked =>
      simp only [Path.descend_nil, isClear, if_true, List.append_nil]
      exact filterMap_fileBelow?_here v w place here _ hTree
  | @down entries n ns child target entry kept rest ih =>
      have hEntry := Node.mem_of_lookup entry
      have hChild := (hTree.2.of_mem hEntry).2
      cases hLong : Volume.isTooLong here with
      | true =>
          -- Nothing is met below such a directory, on either walk.
          have hEnd := Volume.isTooLong_descend hLong (n :: ns)
          simp [filesMet_below_of_isTooLong v _ _ hLong, filesMet_below_of_isTooLong v _ _ hEnd]
      | false =>
      rw [filterMap_fileBelow?_dir v w place hLong]
      by_cases hEnters : w.enters here n
      · have hMem : (n, below v w (place ++ [n]) (here.entry n) child) ∈
            entered v w place here entries := mem_entered.mpr ⟨_, hEntry, hEnters, rfl⟩
        rw [flatMap_eq_of_only (nodup_entered v w place here hTree.1) hMem]
        · rw [Path.descend_cons, ih hChild]
          simp [isClear, hEnters]
        · intro x hx hApart
          exact filterMap_fileBelow?_entered hTree.2 hx
            (fun hName => hApart (eq_of_mem_entered hTree.1 entry hx hName)) ns
      · have hBlocked : w.isClear here (n :: ns) = false := by simp [isClear, hEnters]
        rw [hBlocked, if_neg Bool.false_ne_true, List.flatMap_eq_nil_iff]
        intro x hx
        refine filterMap_fileBelow?_entered hTree.2 hx (fun hName => hEnters ?_) ns
        obtain ⟨e, -, hEntered, rfl⟩ := mem_entered.mp hx
        exact hName ▸ hEntered

/-- A walk whose root leads to a node meets what is met in that node. -/
theorem met_eq_below {v : Volume} {w : Walk} {place : List String} {node : Node}
    (hFound : v.locate w.root = .ok place) (hAt : v.root.at? place = some node) :
    w.met v = below v w place w.root node := by
  simp [met, top?, hFound, hAt]

theorem met_of_locate_eq_error {v : Volume} {w : Walk} {cause : FileCause}
    (hLost : v.locate w.root = .error cause) : w.met v = [] := by
  simp [met, top?, hLost]

/-- A walk that starts at something that is there can only be stopped by the depth of its directories. -/
theorem run_of_find {v : Volume} {w : Walk} {node : Node} (hRoot : v.find w.root = .ok node) :
    w.run v = if v.host.room .tree w.root < w.depth v then .error .tooDeep else .ok (w.met v) := by
  simp only [run, Volume.isDir, Volume.passes, hRoot]

/-- A walk whose root has too long a path does not start. -/
theorem run_of_isTooLong {v : Volume} {w : Walk} (hLost : v.locate w.root = .error .nameTooLong) :
    w.run v = .error (.unreachable ⟨.nameTooLong, w.root.toString⟩) := by
  simp [run, Volume.isDir, Volume.passes, Volume.find, hLost, Except.bind, FileCause.isAbsence]

/-- The files below the end of a passage, met on a walk from its start. -/
theorem filterMap_fileBelow?_met (v : Volume) (w : Walk) {node target : Node} {ns : List String}
    (hTree : v.root.WellFormed) (hRoot : v.find w.root = .ok node)
    (h : Node.Passage node ns target) :
    (filesMet (w.met v)).filterMap (fileBelow? (w.root.descend ns)) =
      if w.isClear w.root ns then filesMet ((w.startingAt (w.root.descend ns)).met v) else [] := by
  obtain ⟨place, hFound, hAt⟩ := Volume.locate_of_find hRoot
  have hNode := hTree.at? hAt
  have hBelow := Volume.locate_append v h hNode hAt hFound
  have hPart : filesMet ((w.startingAt (w.root.descend ns)).met v) =
      filesMet (below v (w.startingAt (w.root.descend ns)) (place ++ ns) (w.root.descend ns) target) := by
    cases hLong : Volume.isTooLong (w.root.descend ns) with
    | true =>
        rw [hLong, if_pos rfl] at hBelow
        rw [met_of_locate_eq_error hBelow, filesMet_below_of_isTooLong v _ _ hLong]
        rfl
    | false =>
        rw [hLong, if_neg Bool.false_ne_true] at hBelow
        have hEnd : v.root.at? (place ++ ns) = some target := by
          rw [Node.at?_append, hAt]
          exact h.at?
        rw [met_eq_below hBelow hEnd]
        rfl
  rw [met_eq_below hFound hAt, filterMap_fileBelow?_passage v w h hNode, hPart]

/-- Under rules that see paths relative to `base`, a walk enters the directories on the way down from
there if the rules exclude none of them. -/
theorem isClear_iff (w : Walk) {node target : Node} {ns : List String}
    (h : Node.Passage node ns target) (hTree : node.WellFormed) (done : List String)
    (hDone : ∀ n ∈ done, n ≠ "") :
    w.isClear (w.base.descend done) ns = true ↔
      ∀ front, front <+: ns → front ≠ [] →
        shouldIgnore w.rules ("/".intercalate (done ++ front)) true = false := by
  induction h generalizing done with
  | here =>
      simp only [isClear, true_iff]
      intro front hPrefix hSome
      exact absurd (List.prefix_nil.mp hPrefix) hSome
  | @down entries n ns child target entry kept rest ih =>
      obtain ⟨hName, hChild⟩ := hTree.2.of_mem (Node.mem_of_lookup entry)
      have hNext : ∀ m ∈ done ++ [n], m ≠ "" := by
        intro m hm
        rcases List.mem_append.mp hm with hm | hm
        · exact hDone m hm
        · exact List.mem_singleton.mp hm ▸ hName.nonempty
      have hEnters : w.enters (w.base.descend done) n = true ↔
          shouldIgnore w.rules ("/".intercalate (done ++ [n])) true = false := by
        simp [enters, kept, Path.relativeText_descend, joinRelative_intercalate hDone]
      rw [isClear, Bool.and_eq_true, hEnters, Path.entry_descend, ih hChild _ hNext]
      constructor
      · rintro ⟨hFirst, hRest⟩ front hPrefix hSome
        cases front with
        | nil => exact absurd rfl hSome
        | cons m front =>
            obtain ⟨rfl, hTail⟩ := List.cons_prefix_cons.mp hPrefix
            cases front with
            | nil => exact hFirst
            | cons k front => simpa using hRest _ hTail (by simp)
      · intro hAll
        refine ⟨hAll [n] (by simp) (by simp), fun front hPrefix _ => ?_⟩
        have hLonger : n :: front <+: n :: ns := List.cons_prefix_cons.mpr ⟨rfl, hPrefix⟩
        simpa using hAll _ hLonger (by simp)

end Walk

/-- Let `base` lead to a directory from which names lead down to a subdirectory, through directories
that can be listed and that no walk leaves out. A walk of the subdirectory, under rules that see paths
relative to `base`, meets the files below it that a walk of `base` meets, exactly if the rules exclude
no directory on the way, or if it meets nothing. In the other case the walk of `base` meets no file
below the subdirectory.

Both walks give what they meet unless the stack has no room for their directories; that of the
subdirectory is also stopped by too long a path to start from, and then meets nothing. -/
theorem filesMet_subdirectory_iff (v : Volume) (base : Path) (rules : List IgnoreRule)
    (admits : Path → Bool) {node target : Node} {ns : List String}
    (hTree : v.root.WellFormed) (hBase : v.find base = .ok node)
    (hWay : Node.Passage node ns target) :
    let whole : Walk := { root := base, base, rules, admits }
    let part : Walk := { root := base.descend ns, base, rules, admits }
    let excluded : Prop :=
      ∃ front, front <+: ns ∧ front ≠ [] ∧ shouldIgnore rules ("/".intercalate front) true = true
    (filesMet (part.met v) = (filesMet (whole.met v)).filterMap (fileBelow? (base.descend ns)) ↔
        ¬ excluded ∨ filesMet (part.met v) = []) ∧
      (excluded → (filesMet (whole.met v)).filterMap (fileBelow? (base.descend ns)) = []) ∧
      whole.run v =
        (if v.host.room .tree base < whole.depth v then .error .tooDeep else .ok (whole.met v)) ∧
      part.run v =
        (if Volume.isTooLong (base.descend ns) then
          .error (.unreachable ⟨.nameTooLong, (base.descend ns).toString⟩)
        else if v.host.room .tree (base.descend ns) < part.depth v then .error .tooDeep
        else .ok (part.met v)) := by
  intro whole part excluded
  obtain ⟨place, hFound, hAt⟩ := Volume.locate_of_find hBase
  have hClear : whole.isClear base ns = true ↔ ¬ excluded := by
    have hIff := whole.isClear_iff hWay (hTree.at? hAt) [] (by simp)
    rw [Path.descend_nil] at hIff
    rw [hIff]
    simp only [excluded, List.nil_append, not_exists, not_and, Bool.not_eq_true]
    rfl
  have hPartRun : part.run v = (if Volume.isTooLong (base.descend ns) then
      .error (.unreachable ⟨.nameTooLong, (base.descend ns).toString⟩)
      else if v.host.room .tree (base.descend ns) < part.depth v then .error .tooDeep
      else .ok (part.met v)) := by
    have hPlace := Volume.locate_append v hWay (hTree.at? hAt) hAt hFound
    split at hPlace
    · rename_i hLong
      rw [if_pos hLong]
      exact Walk.run_of_isTooLong hPlace
    · rename_i hShort
      have hEnd : v.root.at? (place ++ ns) = some target := by
        rw [Node.at?_append, hAt]
        exact hWay.at?
      rw [if_neg hShort]
      exact Walk.run_of_find (w := part) (Volume.find_of_locate hPlace hEnd)
  have hWholeRun := Walk.run_of_find (w := whole) hBase
  have hBelow := Walk.filterMap_fileBelow?_met v whole hTree hBase hWay
  have hPart : whole.startingAt (base.descend ns) = part := rfl
  simp only [hPart, show whole.root = base from rfl] at hBelow
  by_cases hExcluded : excluded
  · have hNot : whole.isClear base ns ≠ true := fun h => hClear.mp h hExcluded
    rw [if_neg hNot] at hBelow
    rw [hBelow]
    exact ⟨by simp [hExcluded], fun _ => rfl, hWholeRun, hPartRun⟩
  · rw [if_pos (hClear.mpr hExcluded)] at hBelow
    rw [hBelow]
    exact ⟨by simp [hExcluded], fun h => absurd h hExcluded, hWholeRun, hPartRun⟩

/-- A project whose sources hold a directory of generated files. -/
def generatedTree : Volume where
  root := .dir [("MyGame", .dir [("Source", .dir [("Generated",
    .dir [("a.h", .file (.bytes []) false)] false)] false)] false)] false

/-- The rule for the directories named `Generated` keeps the walk of the project from the file in one,
but not the walk that starts in that directory, though it follows the same rules. -/
theorem excludedDirectory_walked :
    let base : Path := ⟨.root, ["MyGame"]⟩
    let whole : Walk := { root := base, base, rules := ignoreRules ["Generated/"] }
    let part : Walk := whole.startingAt (base.descend ["Source", "Generated"])
    (whole.run generatedTree).map filesMet = .ok [] ∧
      (part.run generatedTree).map filesMet =
        .ok [(base.descend ["Source", "Generated", "a.h"], "a.h")] := by
  decide +kernel

/-- The statement on subdirectories, for the directory of generated files: it is excluded, and the two
walks differ. -/
theorem filesMet_generated :
    let base : Path := ⟨.root, ["MyGame"]⟩
    let rules := ignoreRules ["Generated/"]
    let whole : Walk := { root := base, base, rules }
    let part : Walk := { root := base.descend ["Source", "Generated"], base, rules }
    let target : Node := .dir [("a.h", .file (.bytes []) false)] false
    let node : Node := .dir [("Source", .dir [("Generated", target)] false)] false
    generatedTree.root.WellFormed ∧ generatedTree.find base = .ok node ∧
      Node.Passage node ["Source", "Generated"] target ∧
      filesMet (part.met generatedTree) ≠
        (filesMet (whole.met generatedTree)).filterMap
          (fileBelow? (base.descend ["Source", "Generated"])) := by
  intro base rules whole part target node
  have hNames : ∀ n ∈ ["MyGame", "Source", "Generated", "a.h"], IsEntryName n := by
    intro n hn
    simp only [List.mem_cons, List.not_mem_nil, or_false] at hn
    rcases hn with rfl | rfl | rfl | rfl <;> constructor <;> decide
  have hTree : generatedTree.root.WellFormed := by
    simp [generatedTree, Node.WellFormed, Node.EntriesWellFormed, hNames]
  have hPlace : generatedTree.locate base = .ok ["MyGame"] := by
    decide +kernel
  have hBase : generatedTree.find base = .ok node := Volume.find_of_locate hPlace rfl
  have hWay : Node.Passage node ["Source", "Generated"] target :=
    .down rfl (by decide) (.down rfl (by decide) (.here _ _))
  have hIff := (filesMet_subdirectory_iff generatedTree base rules (fun _ => true) hTree hBase
    hWay).1
  refine ⟨hTree, hBase, hWay, fun hSame => ?_⟩
  rcases hIff.mp hSame with hAllowed | hNothing
  · exact hAllowed ⟨["Source", "Generated"], List.prefix_refl _, by simp, by decide +kernel⟩
  · exact absurd hNothing (by decide +kernel)

end ProjectAtlas
