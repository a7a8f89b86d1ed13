import ProjectAtlas.Proofs.Files.Descent
import ProjectAtlas.Walk.Basic

/-!
Directory trees as a file system can hold them, and the way from a directory down to one of its
subdirectories. A place that was found stays the start of all places below it, whatever links lead
to it.
-/

namespace ProjectAtlas

/-- A name that an entry of a directory can have. -/
structure IsEntryName (n : String) : Prop where
  nonempty : n ≠ ""
  noDot : n ≠ "."
  noUp : n ≠ ".."
  noSlash : '/' ∉ n.toList
  nameable : Volume.isUnnameable n = false

instance : DecidablePred IsEntryName := fun n =>
  decidable_of_iff
    (n ≠ "" ∧ n ≠ "." ∧ n ≠ ".." ∧ '/' ∉ n.toList ∧ Volume.isUnnameable n = false)
    ⟨fun ⟨h₁, h₂, h₃, h₄, h₅⟩ => ⟨h₁, h₂, h₃, h₄, h₅⟩, fun ⟨h₁, h₂, h₃, h₄, h₅⟩ => ⟨h₁, h₂, h₃, h₄, h₅⟩⟩

namespace Node

mutual

/-- The entries of every directory have names of their own, and names that a file system allows. -/
def WellFormed : Node → Prop
  | .dir entries _ => (entries.map (·.1)).Nodup ∧ EntriesWellFormed entries
  | .file _ _ | .sealed | .link _ => True

/-- Every entry has an allowed name, and what stands there is well formed. -/
def EntriesWellFormed : List (String × Node) → Prop
  | [] => True
  | (n, child) :: es => IsEntryName n ∧ child.WellFormed ∧ EntriesWellFormed es

end

mutual

instance decidableWellFormed : (node : Node) → Decidable node.WellFormed
  | .dir entries _ =>
      have := decidableEntriesWellFormed entries
      inferInstanceAs (Decidable ((entries.map (·.1)).Nodup ∧ EntriesWellFormed entries))
  | .file _ _ => .isTrue trivial
  | .sealed => .isTrue trivial
  | .link _ => .isTrue trivial

instance decidableEntriesWellFormed :
    (entries : List (String × Node)) → Decidable (EntriesWellFormed entries)
  | [] => .isTrue trivial
  | (n, child) :: es =>
      have := decidableWellFormed child
      have := decidableEntriesWellFormed es
      inferInstanceAs (Decidable (IsEntryName n ∧ child.WellFormed ∧ EntriesWellFormed es))

end

/-- What holds of files, links and sealed directories, and of every other directory if it holds of what
stands in it, holds of every node. -/
@[elab_as_elim]
theorem entryInduction {motive : Node → Prop}
    (file : ∀ content locked, motive (.file content locked))
    (shut : motive .sealed)
    (link : ∀ target, motive (.link target))
    (dir : ∀ entries locked, (∀ e ∈ entries, motive e.2) → motive (.dir entries locked)) :
    ∀ node, motive node
  | .file content locked => file content locked
  | .sealed => shut
  | .link target => link target
  | .dir entries locked => dir entries locked fun e he =>
      have : sizeOf e.2 < sizeOf e := by
        cases e
        simp only [Prod.mk.sizeOf_spec]
        omega
      have : sizeOf e < sizeOf entries := List.sizeOf_lt_of_mem he
      entryInduction file shut link dir e.2
termination_by node => sizeOf node
decreasing_by
  simp only [Node.dir.sizeOf_spec]
  omega

theorem EntriesWellFormed.of_mem {entries : List (String × Node)} (h : EntriesWellFormed entries)
    {e : String × Node} (he : e ∈ entries) : IsEntryName e.1 ∧ e.2.WellFormed := by
  induction entries with
  | nil => cases he
  | cons head rest ih =>
      obtain ⟨hName, hChild, hRest⟩ := h
      rcases List.mem_cons.mp he with rfl | he
      · exact ⟨hName, hChild⟩
      · exact ih hRest he

theorem mem_of_lookup {entries : List (String × Node)} {n : String} {child : Node}
    (h : entries.lookup n = some child) : (n, child) ∈ entries := by
  obtain ⟨front, back, rfl, -⟩ := List.lookup_eq_some_iff.mp h
  simp

/-- In a directory whose entries have different names, an entry is what its name looks up. -/
theorem lookup_of_mem {entries : List (String × Node)} (hNames : (entries.map (·.1)).Nodup)
    {e : String × Node} (he : e ∈ entries) : entries.lookup e.1 = some e.2 := by
  obtain ⟨front, back, rfl⟩ := List.append_of_mem he
  refine List.lookup_eq_some_iff.mpr ⟨front, back, rfl, ?_⟩
  intro other hOther
  rw [List.map_append, List.nodup_append] at hNames
  have hApart : other.1 ≠ e.1 := hNames.2.2 _ (List.mem_map_of_mem hOther) _ (by simp)
  simpa using hApart.symm

theorem at?_append (node : Node) (ns ms : List String) :
    node.at? (ns ++ ms) = (node.at? ns).bind (·.at? ms) := by
  induction ns generalizing node with
  | nil => rfl
  | cons n ns ih =>
      simp only [List.cons_append, at?]
      cases node.entry? n with
      | none => rfl
      | some child => exact ih child

theorem WellFormed.at? {node child : Node} (h : node.WellFormed) {ns : List String}
    (hAt : node.at? ns = some child) : child.WellFormed := by
  induction ns generalizing node with
  | nil =>
      cases hAt
      exact h
  | cons n ns ih =>
      cases node with
      | dir entries locked =>
          simp only [Node.at?, entry?] at hAt
          cases hEntry : entries.lookup n with
          | none => simp [hEntry] at hAt
          | some next =>
              rw [hEntry] at hAt
              exact ih (h.2.of_mem (mem_of_lookup hEntry)).2 hAt
      | file _ _ | sealed | link _ => simp [Node.at?, entry?] at hAt

/-- Names that lead somewhere are names of entries. -/
theorem WellFormed.isEntryName_of_at? {node child : Node} (h : node.WellFormed) {ns : List String}
    (hAt : node.at? ns = some child) : ∀ n ∈ ns, IsEntryName n := by
  induction ns generalizing node with
  | nil => simp
  | cons n ns ih =>
      cases node with
      | dir entries locked =>
          simp only [Node.at?, entry?] at hAt
          cases hEntry : entries.lookup n with
          | none => simp [hEntry] at hAt
          | some next =>
              rw [hEntry] at hAt
              obtain ⟨hName, hNext⟩ := h.2.of_mem (mem_of_lookup hEntry)
              exact List.forall_mem_cons.mpr ⟨hName, ih hNext hAt⟩
      | file _ _ | sealed | link _ => simp [Node.at?, entry?] at hAt

/-- The names lead from one directory down to another. Every directory that is passed on the way can
be listed, and no name on the way, the last one included, is one that walks leave out. -/
inductive Passage : Node → List String → Node → Prop where
  | here (entries : List (String × Node)) (locked : Bool) :
      Passage (.dir entries locked) [] (.dir entries locked)
  | down {entries : List (String × Node)} {n : String} {ns : List String} {child target : Node}
      (entry : entries.lookup n = some child) (kept : n ∉ excludedDirectories)
      (rest : Passage child ns target) :
      Passage (.dir entries false) (n :: ns) target

theorem Passage.at? {node target : Node} {ns : List String} (h : Passage node ns target) :
    node.at? ns = some target := by
  induction h with
  | here => rfl
  | down entry kept rest ih => simpa [Node.at?, entry?, entry] using ih

theorem Passage.start_isDir {node target : Node} {ns : List String} (h : Passage node ns target) :
    ∃ entries locked, node = .dir entries locked := by
  cases h with
  | here entries locked => exact ⟨entries, locked, rfl⟩
  | down entry kept rest => exact ⟨_, _, rfl⟩

theorem Passage.isEntryName {node target : Node} {ns : List String} (h : Passage node ns target)
    (hTree : node.WellFormed) : ∀ n ∈ ns, IsEntryName n :=
  hTree.isEntryName_of_at? h.at?

end Node

namespace Volume

open Node

/-- What a path finds stands at the place that it leads to. -/
theorem locate_of_find {v : Volume} {p : Path} {node : Node} (h : v.find p = .ok node) :
    ∃ place, v.locate p = .ok place ∧ v.root.at? place = some node := by
  simp only [find, Except.bind] at h
  split at h
  · cases h
  · rename_i place hPlace
    refine ⟨place, hPlace, ?_⟩
    split at h
    · rename_i hAt
      cases h
      exact hAt
    · cases h

theorem find_of_locate {v : Volume} {p : Path} {place : List String} {node : Node}
    (hPlace : v.locate p = .ok place) (hAt : v.root.at? place = some node) : v.find p = .ok node := by
  simp only [find, hPlace, Except.bind, hAt]

/-- Going on from a place along a passage takes one name after the other; no link is met. -/
theorem stepAlong_passage (v : Volume)
    (follow : List String → List String → Except FileCause (List String)) {node target : Node}
    {ns : List String} (h : Passage node ns target) (hTree : node.WellFormed) {place : List String}
    (hPlace : v.root.at? place = some node) : v.stepAlong follow place ns = .ok (place ++ ns) := by
  induction h generalizing place with
  | here => simp [stepAlong]
  | @down entries n ns child target entry kept rest ih =>
      obtain ⟨hName, hChild⟩ := hTree.2.of_mem (mem_of_lookup entry)
      have hNext : v.root.at? (place ++ [n]) = some child := by
        rw [at?_append, hPlace]
        simp [Node.at?, entry?, entry]
      obtain ⟨childEntries, childLocked, rfl⟩ := rest.start_isDir
      simp only [stepAlong, hPlace, hName.noUp, if_false, entry]
      rw [ih hChild hNext, List.append_assoc, List.singleton_append]

/-- A way that ends at a place goes on along a passage from there, also if links lead to the place. -/
theorem locateFrom_append (v : Volume) {node target : Node} {ns : List String}
    (h : Passage node ns target) (hTree : node.WellFormed) {place : List String}
    (hPlace : v.root.at? place = some node) {links : Nat} {start names : List String}
    (hFound : v.locateFrom links start names = .ok place) :
    v.locateFrom links start (names ++ ns) = .ok (place ++ ns) := by
  induction links generalizing start names with
  | zero => simp [locateFrom] at hFound
  | succ links ihLinks =>
      simp only [locateFrom] at hFound ⊢
      induction names generalizing start with
      | nil =>
          cases hFound
          exact stepAlong_passage v _ h hTree hPlace
      | cons m names ih =>
          simp only [List.cons_append, stepAlong] at hFound ⊢
          split at hFound
          · split at hFound
            · rename_i hUp
              rw [if_pos hUp]
              exact ih hFound
            · rename_i hUp
              rw [if_neg hUp]
              split at hFound
              · cases hFound
              · rw [← List.append_assoc]
                exact ihLinks hFound
              · exact ih hFound
          · cases hFound
          · cases hFound
          · cases hFound

/-- A path that leads somewhere has names that can be looked up, and is not too long. -/
theorem locate_eq_ok_iff {v : Volume} {p : Path} {place : List String} :
    v.locate p = .ok place ↔ p.parts.any isUnnameable = false ∧ isTooLong p = false ∧
      v.locateFrom (maxLinks + 1) (v.startOf p) p.parts = .ok place := by
  simp only [locate]
  cases p.parts.any isUnnameable <;> cases isTooLong p <;> simp

/-- The place of a path below a path that leads to the start of a passage, unless the path is too
long. -/
theorem locate_append (v : Volume) {node target : Node} {ns : List String}
    (h : Passage node ns target) (hTree : node.WellFormed) {place : List String}
    (hPlace : v.root.at? place = some node) {p : Path} (hFound : v.locate p = .ok place) :
    v.locate (p.descend ns) =
      if isTooLong (p.descend ns) then .error .nameTooLong else .ok (place ++ ns) := by
  obtain ⟨hNames, -, hWay⟩ := locate_eq_ok_iff.mp hFound
  have hMore : ns.any isUnnameable = false := by
    rw [List.any_eq_false]
    intro n hn
    simp [(h.isEntryName hTree n hn).nameable]
  have hAll : (p.descend ns).parts.any isUnnameable = false := by
    rw [Path.descend, List.any_append, hMore, Bool.or_false]
    exact hNames
  simp only [locate, hAll, Bool.false_eq_true, if_false]
  congr 1
  exact locateFrom_append v h hTree hPlace hWay

end Volume

end ProjectAtlas
