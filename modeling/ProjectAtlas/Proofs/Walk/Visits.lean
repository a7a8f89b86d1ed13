import ProjectAtlas.Proofs.Text.Pieces
import ProjectAtlas.Proofs.Walk.Subtree

/-!
Which directories a walk comes to, and what it meets there.

A walk is split in two: the directories that it comes to, each with the names that lead to it, and what
it meets in each of them alone. The directories are those that names lead to through kept and listable
directories; their names grow in lexicographic order, so a directory comes before all that lies below
it. From this follow the files that a walk meets, each once and in order, the directories that it
cannot list, and whether its directories lie inside one another too deep.
-/

namespace ProjectAtlas

/-- The entry at this place counts as a file: all that is not a directory and no link to one. -/
def Volume.countsAsFile (v : Volume) (place : List String) : Node → Bool
  | .dir _ _ | .sealed => false
  | .file _ _ => true
  | .link _ => !v.showsDir ⟨.root, place⟩

theorem sortByName_pairwise_lt {α : Type} {xs : List (String × α)}
    (hNames : (xs.map (·.1)).Nodup) : (sortByName xs).Pairwise fun a b => a.1 < b.1 := by
  have hPerm : (sortByName xs).Perm xs := List.mergeSort_perm xs _
  have hApart : (sortByName xs).Pairwise fun a b => a.1 ≠ b.1 :=
    List.pairwise_map.mp ((hPerm.map _).nodup_iff.mpr hNames)
  have hSorted : (sortByName xs).Pairwise fun a b => a.1 ≤ b.1 :=
    Text.pairwise_le_mergeSort (fun e : String × α => e.1) xs
  exact Text.pairwise_lt_of_apart (fun e : String × α => e.1) hSorted hApart

namespace Walk

/-- The name of an entry as the rules see it, in the directory that names lead to from the root of the
walk: behind the relative path of that directory. -/
def seenAs (w : Walk) (directory : List String) (name : String) : String :=
  joinRelative ((w.root.descend directory).relativeText w.base) name

/-- Names lead from the directory `here`, in which `node` stands, to a place that the walk comes to: no
link is followed, every directory on the way can be listed and has a path that is not too long, and
neither a built-in name nor a rule excludes one of those that are entered. -/
structure Reaches (w : Walk) (here : Path) (node : Node) (ns : List String) (target : Node) :
    Prop where
  leads : node.at? ns = some target
  listable : ∀ front, front <+: ns → front ≠ ns →
    Volume.isTooLong (here.descend front) = false ∧
      ∃ entries, node.at? front = some (.dir entries false)
  kept : ∀ front n, front ++ [n] <+: ns → n ∉ excludedDirectories ∧
    shouldIgnore w.rules (joinRelative ((here.descend front).relativeText w.base) n) true = false

variable {v : Volume} {w : Walk}

theorem enters_iff {here : Path} {n : String} :
    w.enters here n = true ↔ n ∉ excludedDirectories ∧
      shouldIgnore w.rules (joinRelative (here.relativeText w.base) n) true = false := by
  simp [enters]

theorem yields_iff {here : Path} {n : String} :
    w.yields here n = true ↔ n ∉ excludedFiles ∧
      shouldIgnore w.rules (joinRelative (here.relativeText w.base) n) false = false ∧
        w.admits (here.entry n) = true := by
  simp [yields, and_assoc]

theorem reaches_nil {here : Path} {node target : Node} :
    w.Reaches here node [] target ↔ target = node := by
  constructor
  · intro h
    exact (Option.some.inj h.leads).symm
  · rintro rfl
    refine ⟨rfl, fun front hPrefix hApart => ?_, fun front n hPrefix => ?_⟩
    · exact absurd (List.prefix_nil.mp hPrefix) hApart
    · simp at hPrefix

/-- A way down is a step into a subdirectory and a way down from there. -/
theorem reaches_cons {here : Path} {node target : Node} {n : String} {ns : List String} :
    w.Reaches here node (n :: ns) target ↔
      ∃ entries child, node = .dir entries false ∧ Volume.isTooLong here = false ∧
        entries.lookup n = some child ∧ w.enters here n = true ∧
          w.Reaches (here.entry n) child ns target := by
  constructor
  · intro h
    obtain ⟨hShort, entries, hNode⟩ := h.listable [] (by simp) (by simp)
    rw [Path.descend_nil] at hShort
    obtain rfl : node = .dir entries false := Option.some.inj hNode
    have hLeads := h.leads
    simp only [Node.at?, Node.entry?] at hLeads
    cases hEntry : entries.lookup n with
    | none => simp [hEntry] at hLeads
    | some child =>
        rw [hEntry] at hLeads
        have hLonger : ∀ front, front <+: ns → n :: front <+: n :: ns := fun front hPrefix =>
          List.cons_prefix_cons.mpr ⟨rfl, hPrefix⟩
        refine ⟨entries, child, rfl, hShort, hEntry, ?_, hLeads, fun front hPrefix hApart => ?_,
          fun front m hPrefix => ?_⟩
        · simpa [enters_iff] using h.kept [] n (by simp)
        · have hNext := h.listable (n :: front) (hLonger front hPrefix) (by simpa using hApart)
          simpa [Node.at?, Node.entry?, hEntry, Path.descend_cons] using hNext
        · have hNext := h.kept (n :: front) m (hLonger (front ++ [m]) hPrefix)
          rwa [Path.descend_cons] at hNext
  · rintro ⟨entries, child, rfl, hShort, hEntry, hEnters, h⟩
    refine ⟨?_, fun front hPrefix hApart => ?_, fun front m hPrefix => ?_⟩
    · simpa [Node.at?, Node.entry?, hEntry] using h.leads
    · cases front with
      | nil => exact ⟨by simpa using hShort, entries, rfl⟩
      | cons k front =>
          obtain ⟨rfl, hRest⟩ := List.cons_prefix_cons.mp hPrefix
          simpa [Node.at?, Node.entry?, hEntry, Path.descend_cons] using
            h.listable front hRest (fun hSame => hApart (by rw [hSame]))
    · cases front with
      | nil =>
          obtain ⟨rfl, -⟩ := List.cons_prefix_cons.mp hPrefix
          simpa using enters_iff.mp hEnters
      | cons k front =>
          obtain ⟨rfl, hRest⟩ := List.cons_prefix_cons.mp hPrefix
          rw [Path.descend_cons]
          exact h.kept front m hRest

mutual

/-- The directories that a walk comes to from the directory `here`, that itself included, in its order,
each with the names that lead to it. -/
def visited (w : Walk) (here : Path) : Node → List (List String × Node)
  | .dir entries locked =>
    ([], .dir entries locked) ::
      if (barred? here (.dir entries locked)).isSome then []
      else
        ((sortByName (visitedEach w here entries)).filter fun e => w.enters here e.1).flatMap
          fun e => e.2.map fun d => (e.1 :: d.1, d.2)
  | .sealed => [([], .sealed)]
  | .file _ _ | .link _ => []

/-- The directories that a walk comes to in each of the entries of `here`. -/
def visitedEach (w : Walk) (here : Path) :
    List (String × Node) → List (String × List (List String × Node))
  | [] => []
  | (n, node) :: es => (n, visited w (here.entry n) node) :: visitedEach w here es

end

theorem visitedEach_eq_map (w : Walk) (here : Path) (entries : List (String × Node)) :
    visitedEach w here entries = entries.map fun e => (e.1, visited w (here.entry e.1) e.2) := by
  induction entries with
  | nil => rfl
  | cons e es ih => simp [visitedEach, ih]

/-- The entries that a walk tries to enter, in its order. -/
def tried (w : Walk) (here : Path) (entries : List (String × Node)) : List (String × Node) :=
  (sortByName entries).filter fun e => w.enters here e.1

theorem mem_tried {here : Path} {entries : List (String × Node)} {e : String × Node} :
    e ∈ w.tried here entries ↔ e ∈ entries ∧ w.enters here e.1 = true := by
  simp [tried, sortByName]

theorem tried_pairwise_lt (w : Walk) (here : Path) {entries : List (String × Node)}
    (hNames : (entries.map (·.1)).Nodup) : (w.tried here entries).Pairwise fun a b => a.1 < b.1 :=
  (sortByName_pairwise_lt hNames).filter _

private theorem filter_sortByName_map {β : Type} (w : Walk) (here : Path)
    (f : String × Node → β) (entries : List (String × Node)) :
    (sortByName (entries.map fun e => (e.1, f e))).filter (fun e => w.enters here e.1) =
      (w.tried here entries).map fun e => (e.1, f e) := by
  rw [sortByName_map, List.filter_map]
  rfl

theorem visited_open {here : Path} (hShort : Volume.isTooLong here = false) (w : Walk)
    (entries : List (String × Node)) :
    visited w here (.dir entries false) = ([], .dir entries false) ::
      (w.tried here entries).flatMap fun e =>
        (visited w (here.entry e.1) e.2).map fun d => (e.1 :: d.1, d.2) := by
  simp only [visited, barred?_open hShort, Option.isSome_none, Bool.false_eq_true, if_false]
  rw [visitedEach_eq_map, filter_sortByName_map, List.flatMap_map]

theorem below_open (v : Volume) (w : Walk) (place : List String) {here : Path}
    (hShort : Volume.isTooLong here = false) (entries : List (String × Node)) :
    below v w place here (.dir entries false) = ownFiles v w place here entries ++
      (w.tried here entries).flatMap fun e =>
        below v w (place ++ [e.1]) (here.entry e.1) e.2 := by
  simp only [below, barred?_open hShort]
  rw [belowEach_eq_map, filter_sortByName_map, List.flatMap_map]

theorem visited_barred {here : Path} {entries : List (String × Node)} {locked : Bool}
    {cause : FileCause} (hBarred : barred? here (.dir entries locked) = some cause) :
    visited w here (.dir entries locked) = [([], .dir entries locked)] := by
  simp [visited, hBarred]

/-- What a walk meets in one of the directories that it comes to, not going further down. -/
def metIn (v : Volume) (w : Walk) (place : List String) (here : Path)
    (d : List String × Node) : List Met :=
  match barred? (here.descend d.1) d.2, d.2 with
  | some cause, _ => [barredMet (here.descend d.1) cause]
  | none, .dir entries _ => ownFiles v w (place ++ d.1) (here.descend d.1) entries
  | none, _ => []

theorem metIn_cons (v : Volume) (w : Walk) (place : List String) (here : Path) (n : String)
    (d : List String × Node) :
    metIn v w place here (n :: d.1, d.2) = metIn v w (place ++ [n]) (here.entry n) d := by
  simp [metIn, Path.descend_cons]

/-- What a walk meets is what it meets in each of the directories that it comes to, one after the
other. -/
theorem below_eq_flatMap_visited (v : Volume) (w : Walk) (place : List String) (here : Path)
    (node : Node) :
    below v w place here node = (visited w here node).flatMap (metIn v w place here) := by
  induction node using Node.entryInduction generalizing place here with
  | file | link => rfl
  | shut => simp [below, visited, metIn, barred?]
  | dir entries locked ih =>
      cases hBarred : barred? here (.dir entries locked) with
      | some cause => simp [below, visited_barred hBarred, metIn, hBarred]
      | none =>
          obtain ⟨rfl, hShort⟩ := barred?_dir_eq_none_iff.mp hBarred
          rw [below_open v w place hShort, visited_open hShort, List.flatMap_cons, List.flatMap_assoc]
          congr 1
          · simp [metIn, hBarred]
          · refine List.flatMap_congr fun e he => ?_
            rw [ih e (mem_tried.mp he).1, List.flatMap_map]
            simp only [metIn_cons]

/-- A walk comes to exactly the directories that it reaches. -/
theorem mem_visited {here : Path} {node : Node} (hTree : node.WellFormed) {ns : List String}
    {target : Node} :
    (ns, target) ∈ visited w here node ↔
      target.isDir = true ∧ w.Reaches here node ns target := by
  induction node using Node.entryInduction generalizing here ns with
  | file | link =>
      cases ns with
      | nil =>
          simp only [visited, List.not_mem_nil, reaches_nil, false_iff, not_and]
          rintro hDir rfl
          simp [Node.isDir] at hDir
      | cons n ns => simp [visited, reaches_cons]
  | shut =>
      cases ns with
      | nil => simp +contextual [visited, reaches_nil, Node.isDir]
      | cons n ns => simp [visited, reaches_cons]
  | dir entries locked ih =>
      cases hBarred : barred? here (.dir entries locked) with
      | some cause =>
          rw [visited_barred hBarred]
          cases ns with
          | nil => simp +contextual [reaches_nil, Node.isDir]
          | cons n ns =>
              simp only [List.mem_singleton, Prod.mk.injEq, List.cons_ne_nil, false_and, reaches_cons,
                false_iff, not_and, not_exists]
              rintro - more child hNode hShort
              cases hNode
              rw [barred?_open hShort] at hBarred
              cases hBarred
      | none =>
          obtain ⟨rfl, hShort⟩ := barred?_dir_eq_none_iff.mp hBarred
          rw [visited_open hShort]
          cases ns with
          | nil => simp +contextual [reaches_nil, Node.isDir]
          | cons n ns =>
              rw [reaches_cons]
              constructor
              · intro h
                obtain ⟨e, he, hBelow⟩ : ∃ e ∈ w.tried here entries,
                    (n :: ns, target) ∈
                      (visited w (here.entry e.1) e.2).map fun d => (e.1 :: d.1, d.2) := by
                  simpa using h
                obtain ⟨d, hd, hSame⟩ := List.mem_map.mp hBelow
                cases hSame
                obtain ⟨hEntry, hEnters⟩ := mem_tried.mp he
                obtain ⟨hDir, hReach⟩ := (ih e hEntry (hTree.2.of_mem hEntry).2).mp hd
                exact ⟨hDir, entries, e.2, rfl, hShort, Node.lookup_of_mem hTree.1 hEntry, hEnters, hReach⟩
              · rintro ⟨hDir, _, child, hNode, -, hLookup, hEnters, hReach⟩
                cases hNode
                have hEntry := Node.mem_of_lookup hLookup
                have hBelow : (ns, target) ∈ visited w (here.entry n) child :=
                  (ih (n, child) hEntry (hTree.2.of_mem hEntry).2).mpr ⟨hDir, hReach⟩
                exact List.mem_cons_of_mem _ (List.mem_flatMap.mpr ⟨(n, child),
                  mem_tried.mpr ⟨hEntry, hEnters⟩, List.mem_map.mpr ⟨_, hBelow, rfl⟩⟩)

/-- The directories that a walk comes to follow one another in the lexicographic order of their
names. -/
theorem visited_pairwise_lt (w : Walk) (here : Path) {node : Node} (hTree : node.WellFormed) :
    (visited w here node).Pairwise fun a b => a.1 < b.1 := by
  induction node using Node.entryInduction generalizing here with
  | file | shut | link => simp [visited]
  | dir entries locked ih =>
      cases hBarred : barred? here (.dir entries locked) with
      | some cause => simp [visited_barred hBarred]
      | none =>
          obtain ⟨rfl, hShort⟩ := barred?_dir_eq_none_iff.mp hBarred
          rw [visited_open hShort, List.pairwise_cons, List.pairwise_flatMap]
          refine ⟨fun d hd => ?_, fun e he => ?_, ?_⟩
          · obtain ⟨e, -, hBelow⟩ := List.mem_flatMap.mp hd
            obtain ⟨b, -, rfl⟩ := List.mem_map.mp hBelow
            exact List.nil_lt_cons _ _
          · -- Within one subdirectory the first names are equal, so the others decide.
            have hEntry := (mem_tried.mp he).1
            rw [List.pairwise_map]
            refine (ih e hEntry (here.entry e.1) (hTree.2.of_mem hEntry).2).imp fun hLess => ?_
            exact List.cons_lt_cons_iff.mpr (.inr ⟨rfl, hLess⟩)
          · refine (tried_pairwise_lt w here hTree.1).imp fun hLess a ha b hb => ?_
            obtain ⟨a, -, rfl⟩ := List.mem_map.mp ha
            obtain ⟨b, -, rfl⟩ := List.mem_map.mp hb
            exact List.cons_lt_cons_iff.mpr (.inl hLess)

/-- The names of the files that a walk meets in one directory, in its order. -/
def ownNames (v : Volume) (w : Walk) (place : List String) (here : Path)
    (entries : List (String × Node)) : List String :=
  ((sortByName (entries.filter fun e => v.countsAsFile (place ++ [e.1]) e.2)).filter fun e =>
    w.yields here e.1).map (·.1)

theorem ownFiles_eq_map (v : Volume) (w : Walk) (place : List String) (here : Path)
    (entries : List (String × Node)) :
    ownFiles v w place here entries = (ownNames v w place here entries).map fun n =>
      .file (here.entry n) (joinRelative (here.relativeText w.root) n) := by
  have hSame : (entries.filter fun e => match e.2 with
      | .dir _ _ | .sealed => false
      | .file _ _ => true
      | .link _ => !v.showsDir ⟨.root, place ++ [e.1]⟩) =
      entries.filter fun e => v.countsAsFile (place ++ [e.1]) e.2 := by
    refine List.filter_congr fun e _ => ?_
    cases e.2 <;> rfl
  rw [ownNames, List.map_map, ← hSame]
  rfl

theorem mem_ownNames {place : List String} {here : Path} {entries : List (String × Node)}
    {n : String} :
    n ∈ ownNames v w place here entries ↔ ∃ child, (n, child) ∈ entries ∧
      v.countsAsFile (place ++ [n]) child = true ∧ w.yields here n = true := by
  simp [ownNames, sortByName, and_assoc]

theorem ownNames_pairwise_lt (v : Volume) (w : Walk) (place : List String) (here : Path)
    {entries : List (String × Node)} (hNames : (entries.map (·.1)).Nodup) :
    (ownNames v w place here entries).Pairwise (· < ·) := by
  have hFewer : ((entries.filter fun e => v.countsAsFile (place ++ [e.1]) e.2).map (·.1)).Nodup :=
    (List.filter_sublist.map _).nodup hNames
  exact List.pairwise_map.mpr ((sortByName_pairwise_lt hFewer).filter _)

/-- The files that a walk meets in one of the directories that it comes to: the names that lead to the
directory, and the name of the file. -/
def filesIn (v : Volume) (w : Walk) (place : List String) (here : Path)
    (d : List String × Node) : List (List String × String) :=
  match barred? (here.descend d.1) d.2, d.2 with
  | none, .dir entries _ =>
    (ownNames v w (place ++ d.1) (here.descend d.1) entries).map fun n => (d.1, n)
  | _, _ => []

/-- The names of a directory that is not listed, and why it is not. -/
def unlisted? (here : Path) (d : List String × Node) : Option (List String × FileCause) :=
  (barred? (here.descend d.1) d.2).map fun cause => (d.1, cause)

theorem filesMet_metIn {place : List String} {d : List String × Node}
    (hNames : ∀ n ∈ d.1, n ≠ "") :
    filesMet (metIn v w place w.root d) = (filesIn v w place w.root d).map fun f =>
      (w.root.descend (f.1 ++ [f.2]), "/".intercalate (f.1 ++ [f.2])) := by
  obtain ⟨ns, node⟩ := d
  simp only [metIn, filesIn]
  cases barred? (w.root.descend ns) node with
  | some cause => rfl
  | none =>
      cases node with
      | file | sealed | link => rfl
      | dir entries locked =>
          simp only [ownFiles_eq_map, filesMet, List.filterMap_map, List.map_map]
          rw [← List.filterMap_eq_map]
          refine List.filterMap_congr fun n _ => ?_
          simp only [Function.comp, Path.entry_descend, Path.relativeText_descend,
            joinRelative_intercalate hNames]

theorem unlistedMet_metIn (v : Volume) (w : Walk) (place : List String) (here : Path)
    (d : List String × Node) :
    unlistedMet (metIn v w place here d) = (unlisted? here d).toList.map fun u =>
      ⟨u.2, (here.descend u.1).toString⟩ := by
  obtain ⟨ns, node⟩ := d
  simp only [metIn, unlisted?]
  cases barred? (here.descend ns) node with
  | some cause => rfl
  | none =>
      cases node with
      | file | sealed | link => rfl
      | dir entries locked => simp [ownFiles_eq_map, unlistedMet]

theorem mem_filesIn {place : List String} {here : Path} {d : List String × Node}
    {f : List String × String} :
    f ∈ filesIn v w place here d ↔ ∃ entries, d = (f.1, .dir entries false) ∧
      Volume.isTooLong (here.descend f.1) = false ∧
        f.2 ∈ ownNames v w (place ++ f.1) (here.descend f.1) entries := by
  obtain ⟨ns, node⟩ := d
  obtain ⟨ms, n⟩ := f
  simp only [filesIn]
  cases node with
  | file | sealed | link => cases hBarred : barred? _ _ <;> simp
  | dir entries locked =>
      cases hBarred : barred? (here.descend ns) (.dir entries locked) with
      | some cause =>
          simp only [List.not_mem_nil, Prod.mk.injEq, Node.dir.injEq, false_iff, not_exists, not_and]
          rintro _ ⟨rfl, rfl, rfl⟩ hShort
          rw [barred?_open hShort] at hBarred
          cases hBarred
      | none =>
          obtain ⟨rfl, hShort⟩ := barred?_dir_eq_none_iff.mp hBarred
          simp only [List.mem_map, Prod.mk.injEq, Node.dir.injEq, and_true]
          constructor
          · rintro ⟨m, hOwn, rfl, rfl⟩
            exact ⟨entries, ⟨rfl, rfl⟩, hShort, hOwn⟩
          · rintro ⟨_, ⟨rfl, rfl⟩, -, hOwn⟩
            exact ⟨n, hOwn, rfl, rfl⟩

/-- The files of a walk: the directories that the walk reaches, with the files that it yields in each. -/
theorem mem_flatMap_filesIn {place : List String} {node : Node} (hTree : node.WellFormed)
    {f : List String × String} :
    f ∈ (visited w w.root node).flatMap (filesIn v w place w.root) ↔
      ∃ entries child, w.Reaches w.root node f.1 (.dir entries false) ∧
        Volume.isTooLong (w.root.descend f.1) = false ∧ (f.2, child) ∈ entries ∧
        v.countsAsFile (place ++ f.1 ++ [f.2]) child = true ∧
        w.yields (w.root.descend f.1) f.2 = true := by
  simp only [List.mem_flatMap, mem_filesIn, mem_ownNames]
  constructor
  · rintro ⟨_, hVisited, entries, rfl, hShort, child, hEntry, hFile, hYields⟩
    exact ⟨entries, child, ((mem_visited hTree).mp hVisited).2, hShort, hEntry, hFile, hYields⟩
  · rintro ⟨entries, child, hReach, hShort, hEntry, hFile, hYields⟩
    exact ⟨(f.1, .dir entries false), (mem_visited hTree).mpr ⟨rfl, hReach⟩, entries, rfl, hShort,
      child, hEntry, hFile, hYields⟩

theorem flatMap_filesIn_pairwise (v : Volume) (w : Walk) (place : List String) {node : Node}
    (hTree : node.WellFormed) :
    ((visited w w.root node).flatMap (filesIn v w place w.root)).Pairwise fun f g =>
      f.1 < g.1 ∨ f.1 = g.1 ∧ f.2 < g.2 := by
  have hFirst : ∀ d, ∀ f ∈ filesIn v w place w.root d, f.1 = d.1 := by
    intro d f hf
    obtain ⟨entries, rfl, -⟩ := mem_filesIn.mp hf
    rfl
  rw [List.pairwise_flatMap]
  constructor
  · rintro ⟨ns, target⟩ hVisited
    simp only [filesIn]
    split
    · rename_i entries locked _
      have hReach := ((mem_visited hTree).mp hVisited).2
      have hNames := (hTree.at? hReach.leads).1
      exact List.pairwise_map.mpr
        ((ownNames_pairwise_lt v w _ _ hNames).imp fun hLess => .inr ⟨rfl, hLess⟩)
    · exact .nil
  · refine (visited_pairwise_lt w w.root hTree).imp fun {a b} hLess f hf g hg => .inl ?_
    rwa [hFirst a f hf, hFirst b g hg]

theorem nodup_of_pairwise_lex {files : List (List String × String)}
    (hGrows : files.Pairwise fun f g => f.1 < g.1 ∨ f.1 = g.1 ∧ f.2 < g.2) : files.Nodup := by
  refine hGrows.imp ?_
  rintro f _ (hLess | ⟨-, hLess⟩) rfl
  · exact List.lt_irrefl _ hLess
  · exact String.lt_irrefl _ hLess

theorem unlisted?_eq_some_iff {here : Path} {d : List String × Node} {u : List String × FileCause} :
    unlisted? here d = some u ↔ d.1 = u.1 ∧ barred? (here.descend u.1) d.2 = some u.2 := by
  obtain ⟨ns, cause⟩ := u
  simp only [unlisted?, Option.map_eq_some_iff, Prod.mk.injEq]
  constructor
  · rintro ⟨_, hBarred, rfl, rfl⟩
    exact ⟨rfl, hBarred⟩
  · rintro ⟨rfl, hBarred⟩
    exact ⟨cause, hBarred, rfl, rfl⟩

theorem isDir_of_barred? {here : Path} {node : Node} {cause : FileCause}
    (h : barred? here node = some cause) : node.isDir = true := by
  cases node with
  | file | link => cases h
  | dir | sealed => rfl

/-- The unlisted directories of a walk are those that it reaches and that are barred. -/
theorem mem_filterMap_unlisted? {node : Node} (hTree : node.WellFormed)
    {u : List String × FileCause} :
    u ∈ (visited w w.root node).filterMap (unlisted? w.root) ↔
      ∃ target, w.Reaches w.root node u.1 target ∧
        barred? (w.root.descend u.1) target = some u.2 := by
  simp only [List.mem_filterMap, unlisted?_eq_some_iff]
  constructor
  · rintro ⟨⟨ns, target⟩, hVisited, rfl, hBarred⟩
    exact ⟨target, ((mem_visited hTree).mp hVisited).2, hBarred⟩
  · rintro ⟨target, hReach, hBarred⟩
    exact ⟨(u.1, target), (mem_visited hTree).mpr ⟨isDir_of_barred? hBarred, hReach⟩, rfl, hBarred⟩

theorem nodup_filterMap_unlisted? (w : Walk) {node : Node} (hTree : node.WellFormed) :
    (((visited w w.root node).filterMap (unlisted? w.root)).map (·.1)).Nodup := by
  rw [List.Nodup, List.pairwise_map]
  refine List.pairwise_filterMap.mpr ((visited_pairwise_lt w w.root hTree).imp ?_)
  rintro a b hLess u hu t ht hSame
  rw [(unlisted?_eq_some_iff.mp hu).1, (unlisted?_eq_some_iff.mp ht).1, hSame] at hLess
  exact List.lt_irrefl _ hLess

/-- What is met on a walk from the directory `top`, which stands at `place`. The files are those that a
walk reaches the directory of and can list it, that are no directories and no links to one, and that
neither a built-in name nor a rule nor the admission excludes. Each is met once. They come in the order
of their directories, and in one directory of their names; a directory comes before those below it, and
those in the order of the names in which they part. Unlisted are the directories that a walk reaches
and that are barred, each once and with the cause. -/
structure Meets (v : Volume) (w : Walk) (place : List String) (top : Node) (ms : List Met)
    (files : List (List String × String)) (unlisted : List (List String × FileCause)) : Prop where
  filesMet_eq : filesMet ms = files.map fun f =>
    (w.root.descend (f.1 ++ [f.2]), "/".intercalate (f.1 ++ [f.2]))
  mem_files_iff : ∀ directory name, (directory, name) ∈ files ↔ ∃ entries child,
    w.Reaches w.root top directory (.dir entries false) ∧
      Volume.isTooLong (w.root.descend directory) = false ∧ (name, child) ∈ entries ∧
      v.countsAsFile (place ++ directory ++ [name]) child = true ∧ name ∉ excludedFiles ∧
        shouldIgnore w.rules (w.seenAs directory name) false = false ∧
          w.admits (w.root.descend (directory ++ [name])) = true
  once : ((filesMet ms).map (·.1)).Nodup
  ordered : files.Pairwise fun f g => f.1 < g.1 ∨ f.1 = g.1 ∧ f.2 < g.2
  issues_eq : (unlistedMet ms).map unlistedIssue = unlisted.map fun u =>
    { kind := .directoryUnreadable
      path := (w.root.descend u.1).toString
      detail := FileFault.message ⟨u.2, (w.root.descend u.1).toString⟩ }
  mem_unlisted_iff : ∀ ns cause, (ns, cause) ∈ unlisted ↔
    ∃ target, w.Reaches w.root top ns target ∧ barred? (w.root.descend ns) target = some cause
  unlisted_once : (unlisted.map (·.1)).Nodup

theorem meets_below (v : Volume) (w : Walk) (place : List String) {top : Node}
    (hTree : top.WellFormed) :
    Meets v w place top (below v w place w.root top)
      ((visited w w.root top).flatMap (filesIn v w place w.root))
      ((visited w w.root top).filterMap (unlisted? w.root)) := by
  have hNames : ∀ d ∈ visited w w.root top, ∀ n ∈ d.1, n ≠ "" := by
    intro d hd n hn
    have hReach := ((mem_visited hTree).mp hd).2
    exact (hTree.isEntryName_of_at? hReach.leads n hn).nonempty
  have hFiles : filesMet (below v w place w.root top) =
      ((visited w w.root top).flatMap (filesIn v w place w.root)).map fun f =>
        (w.root.descend (f.1 ++ [f.2]), "/".intercalate (f.1 ++ [f.2])) := by
    rw [below_eq_flatMap_visited, filesMet, List.filterMap_flatMap, List.map_flatMap]
    exact List.flatMap_congr fun d hd => filesMet_metIn (hNames d hd)
  refine ⟨hFiles, fun directory name => ?_, ?_, flatMap_filesIn_pairwise v w place hTree, ?_,
    fun ns cause => mem_filterMap_unlisted? hTree, nodup_filterMap_unlisted? w hTree⟩
  · rw [mem_flatMap_filesIn hTree]
    simp only [yields_iff, seenAs, Path.entry_descend]
  · rw [hFiles, List.map_map]
    refine (nodup_of_pairwise_lex (flatMap_filesIn_pairwise v w place hTree)).map ?_
    rintro ⟨ns, n⟩ ⟨ms, m⟩ hSame
    simpa [Path.descend] using hSame
  · rw [below_eq_flatMap_visited, unlistedMet, List.filterMap_flatMap, List.map_flatMap,
      List.filterMap_eq_flatMap_toList, List.map_flatMap]
    refine List.flatMap_congr fun d _ => ?_
    rw [← unlistedMet, unlistedMet_metIn, List.map_map]
    rfl

/-- A walk whose root is no directory meets nothing. -/
theorem met_of_not_isDir (hRoot : v.isDir w.root = .ok false) : w.met v = [] := by
  cases hPlace : v.locate w.root with
  | error cause => exact met_of_locate_eq_error hPlace
  | ok place =>
      cases hAt : v.root.at? place with
      | none => simp [met, top?, hPlace, hAt]
      | some node =>
          have hNode : node.isDir = false := by
            simpa [Volume.isDir, Volume.passes, Volume.find_of_locate hPlace hAt] using hRoot
          rw [met_eq_below hPlace hAt]
          cases node with
          | dir | sealed => cases hNode
          | file | link => rfl

/-- A walk whose root is no directory enters none. -/
theorem depth_of_not_isDir (hRoot : v.isDir w.root = .ok false) : w.depth v = 0 := by
  cases hPlace : v.locate w.root with
  | error cause => simp [depth, top?, hPlace]
  | ok place =>
      cases hAt : v.root.at? place with
      | none => simp [depth, top?, hPlace, hAt]
      | some node =>
          have hNode : node.isDir = false := by
            simpa [Volume.isDir, Volume.passes, Volume.find_of_locate hPlace hAt] using hRoot
          simp only [depth, top?, hPlace, hAt, Option.map_some]
          cases node with
          | dir | sealed => cases hNode
          | file | link => rfl

theorem run_of_not_isDir (hRoot : v.isDir w.root = .ok false) : w.run v = .ok [] := by
  simp [run, hRoot, met_of_not_isDir hRoot, depth_of_not_isDir hRoot]

end Walk

end ProjectAtlas
