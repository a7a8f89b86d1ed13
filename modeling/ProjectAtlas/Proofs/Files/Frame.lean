import Mathlib.Data.List.Nodup
import ProjectAtlas.Proofs.Files.Passage

/-!
Two file trees with one frame: at every place stands the same sort of thing, and links lead to the same
targets. The bytes of files may differ, and so may the order in which directories list their entries.

The frame alone decides where paths lead. What is read at their ends is the same wherever the bytes are.
-/

namespace ProjectAtlas

namespace Node

/-- The nodes look alike: files with the same lock, directories with the same lock and the same names
in any order, sealed directories, or links to the same target. -/
inductive Alike : Node → Node → Prop where
  | file (before after : Content) (locked : Bool) : Alike (.file before locked) (.file after locked)
  | dir {entries listed : List (String × Node)} (locked : Bool)
      (order : (listed.map (·.1)).Perm (entries.map (·.1))) :
      Alike (.dir entries locked) (.dir listed locked)
  | shut : Alike .sealed .sealed
  | link (target : String) : Alike (.link target) (.link target)

theorem Alike.refl (a : Node) : a.Alike a := by
  cases a with
  | file content locked => exact .file content content locked
  | dir entries locked => exact .dir locked (.refl _)
  | sealed => exact .shut
  | link target => exact .link target

theorem Alike.isDir_eq {a b : Node} (h : a.Alike b) : b.isDir = a.isDir := by
  cases h <;> rfl

theorem Alike.isFile_eq {a b : Node} (h : a.Alike b) : b.isFile = a.isFile := by
  cases h <;> rfl

/-- The same names lead to nodes that look alike, or to nothing in both trees. -/
def SameFrame (a b : Node) : Prop :=
  ∀ place, Option.Rel Alike (a.at? place) (b.at? place)

theorem SameFrame.refl (a : Node) : a.SameFrame a := by
  intro place
  cases a.at? place with
  | none => exact .none
  | some node => exact .some (.refl node)

theorem SameFrame.alike {a b : Node} (h : a.SameFrame b) : a.Alike b := by
  have hHere := h []
  simp only [at?] at hHere
  cases hHere with
  | some hAlike => exact hAlike

/-- What the same names lead to has the same frame, too. -/
theorem SameFrame.at?_cases {a b : Node} (h : a.SameFrame b) (place : List String) :
    (a.at? place = none ∧ b.at? place = none) ∨
      ∃ c d, a.at? place = some c ∧ b.at? place = some d ∧ c.SameFrame d := by
  cases hFirst : a.at? place <;> cases hSecond : b.at? place <;>
    have hBoth := h place <;> rw [hFirst, hSecond] at hBoth
  case none.none => exact .inl ⟨rfl, rfl⟩
  case some.some c d =>
    refine .inr ⟨c, d, rfl, rfl, fun ns => ?_⟩
    have hBelow := h (place ++ ns)
    rwa [at?_append, at?_append, hFirst, hSecond] at hBelow
  all_goals cases hBoth

theorem SameFrame.lookup_cases {entries listed : List (String × Node)} {locked shut : Bool}
    (h : (Node.dir entries locked).SameFrame (.dir listed shut)) (n : String) :
    (entries.lookup n = none ∧ listed.lookup n = none) ∨
      ∃ child other, entries.lookup n = some child ∧ listed.lookup n = some other ∧
        child.SameFrame other := by
  have hAt (es : List (String × Node)) (shut : Bool) : (dir es shut).at? [n] = es.lookup n := by
    simp only [at?, entry?]
    cases es.lookup n <;> rfl
  simpa only [hAt] using h.at?_cases [n]

private theorem nodup_map_pair {β : Type} {entries : List (String × Node)}
    (hNames : (entries.map (·.1)).Nodup) (f : String × Node → β) :
    (entries.map fun e => (e.1, f e)).Nodup := by
  have hFirsts : ((entries.map fun e => (e.1, f e)).map (·.1)).Nodup := by
    simpa [Function.comp_def] using hNames
  exact hFirsts.of_map

/-- Two directories with one frame give the same pairs of a name and what a function says about the
entry, in some order, if the function does not tell frames apart. -/
theorem SameFrame.perm_map {β : Type} {entries listed : List (String × Node)} {locked shut : Bool}
    (h : (Node.dir entries locked).SameFrame (.dir listed shut))
    (hNames : (entries.map (·.1)).Nodup) {f g : String × Node → β}
    (hSame : ∀ n child other, (n, child) ∈ entries → child.SameFrame other →
      g (n, other) = f (n, child)) :
    (listed.map fun e => (e.1, g e)).Perm (entries.map fun e => (e.1, f e)) := by
  have hListed : (listed.map (·.1)).Nodup := by
    cases h.alike with
    | dir _ order => exact order.nodup_iff.mpr hNames
  refine (List.perm_ext_iff_of_nodup (nodup_map_pair hListed g) (nodup_map_pair hNames f)).mpr ?_
  rintro ⟨n, b⟩
  simp only [List.mem_map, Prod.mk.injEq]
  constructor
  · rintro ⟨⟨m, other⟩, hMem, rfl, rfl⟩
    have hFound := lookup_of_mem hListed hMem
    rcases h.lookup_cases m with ⟨-, hNone⟩ | ⟨child, second, hEntry, hSecond, hFrame⟩
    · rw [hFound] at hNone
      cases hNone
    · obtain rfl : other = second := Option.some.inj (hFound.symm.trans hSecond)
      have hChild := mem_of_lookup hEntry
      exact ⟨(m, child), hChild, rfl, (hSame m child other hChild hFrame).symm⟩
  · rintro ⟨⟨m, child⟩, hMem, rfl, rfl⟩
    have hFound := lookup_of_mem hNames hMem
    rcases h.lookup_cases m with ⟨hNone, -⟩ | ⟨first, other, hFirst, hOther, hFrame⟩
    · rw [hFound] at hNone
      cases hNone
    · obtain rfl : child = first := Option.some.inj (hFound.symm.trans hFirst)
      exact ⟨(m, other), mem_of_lookup hOther, rfl, hSame m child other hMem hFrame⟩

end Node

namespace Volume

/-- The volumes have one frame and are read by the same host. Paths start at the same places in both. -/
structure SameFrame (v u : Volume) : Prop where
  host : u.host = v.host
  workingDirectory : u.workingDirectory = v.workingDirectory
  homes : u.homes = v.homes
  root : v.root.SameFrame u.root

variable {v u : Volume}

namespace SameFrame

theorem stepAlong_eq (h : v.SameFrame u)
    (follow : List String → List String → Except FileCause (List String))
    (here names : List String) : u.stepAlong follow here names = v.stepAlong follow here names := by
  induction names generalizing here with
  | nil => rfl
  | cons n ns ih =>
      simp only [stepAlong]
      rcases h.root.at?_cases here with ⟨hFirst, hSecond⟩ | ⟨a, b, hFirst, hSecond, hFrame⟩
      · simp only [hFirst, hSecond]
      · simp only [hFirst, hSecond]
        cases hFrame.alike with
        | file | shut | link => rfl
        | @dir entries listed locked order =>
            by_cases hUp : n = ".."
            · simp only [hUp, if_true]
              exact ih here.dropLast
            · simp only [hUp, if_false]
              rcases hFrame.lookup_cases n with
                ⟨hEntry, hListed⟩ | ⟨child, other, hEntry, hListed, hChild⟩
              · simp only [hEntry, hListed]
              · simp only [hEntry, hListed]
                cases hChild.alike with
                | file | dir | shut => exact ih (here ++ [n])
                | link => rfl

theorem locateFrom_eq (h : v.SameFrame u) (links : Nat) :
    u.locateFrom links = v.locateFrom links := by
  induction links with
  | zero => rfl
  | succ links ih =>
      funext start names
      rw [locateFrom, locateFrom, ih]
      exact h.stepAlong_eq _ start names

/-- A path leads to the same place in both volumes. -/
theorem locate_eq (h : v.SameFrame u) : u.locate = v.locate := by
  funext p
  simp only [locate, startOf, h.locateFrom_eq, h.workingDirectory]

/-- A path leads nowhere in both volumes, or to nodes that look alike. -/
theorem find_cases (h : v.SameFrame u) (p : Path) :
    (∃ cause, v.find p = .error cause ∧ u.find p = .error cause) ∨
      ∃ place a b, v.locate p = .ok place ∧ v.root.at? place = some a ∧
        u.root.at? place = some b ∧ v.find p = .ok a ∧ u.find p = .ok b ∧ a.Alike b := by
  simp only [find, h.locate_eq]
  cases hPlace : v.locate p with
  | error cause => exact .inl ⟨cause, rfl, rfl⟩
  | ok place =>
      simp only [Except.bind]
      rcases h.root.at?_cases place with ⟨hFirst, hSecond⟩ | ⟨a, b, hFirst, hSecond, hFrame⟩
      · exact .inl ⟨.missing, by simp only [hFirst], by simp only [hSecond]⟩
      · exact .inr ⟨place, a, b, rfl, hFirst, hSecond, by simp only [hFirst],
          by simp only [hSecond], hFrame.alike⟩

/-- A test that does not tell alike nodes apart is passed by the same paths in both volumes. -/
theorem passes_eq (h : v.SameFrame u) {test : Node → Bool}
    (hTest : ∀ {a b : Node}, a.Alike b → test b = test a) : u.passes test = v.passes test := by
  funext p
  rcases h.find_cases p with ⟨cause, hFirst, hSecond⟩ | ⟨_, a, b, _, _, _, hFirst, hSecond, hAlike⟩
  · simp only [passes, hFirst, hSecond]
  · simp only [passes, hFirst, hSecond, hTest hAlike]

theorem isDir_eq (h : v.SameFrame u) : u.isDir = v.isDir :=
  h.passes_eq Node.Alike.isDir_eq

theorem isFile_eq (h : v.SameFrame u) : u.isFile = v.isFile :=
  h.passes_eq Node.Alike.isFile_eq

theorem showsDir_eq (h : v.SameFrame u) : u.showsDir = v.showsDir := by
  funext p
  rcases h.find_cases p with ⟨cause, hFirst, hSecond⟩ | ⟨_, a, b, _, _, _, hFirst, hSecond, hAlike⟩
  · simp only [showsDir, hFirst, hSecond]
  · simp only [showsDir, hFirst, hSecond, hAlike.isDir_eq]

/-- A directory lists the same names in both volumes, or cannot be listed for the same reason. -/
theorem list_cases (h : v.SameFrame u) (p : Path) :
    (∃ fault, v.list p = .error fault ∧ u.list p = .error fault) ∨
      ∃ names listed, v.list p = .ok names ∧ u.list p = .ok listed ∧ listed.Perm names := by
  simp only [list]
  rcases h.find_cases p with ⟨cause, hFirst, hSecond⟩ | ⟨_, a, b, _, _, _, hFirst, hSecond, hAlike⟩
  · simp [hFirst, hSecond]
  · simp only [hFirst, hSecond]
    cases hAlike with
    | file | shut | link => simp
    | @dir entries listed locked order =>
        cases locked with
        | true => simp
        | false => exact .inr ⟨_, _, rfl, rfl, order⟩

theorem canonicalAlong_eq (h : v.SameFrame u)
    (follow : List (List String) → List String → List String → Except LinkStop (List String))
    (active : List (List String)) (here names : List String) :
    u.canonicalAlong follow active here names = v.canonicalAlong follow active here names := by
  induction names generalizing here with
  | nil => rfl
  | cons n ns ih =>
      simp only [canonicalAlong]
      by_cases hUp : n = ".."
      · simp only [hUp, if_true]
        exact ih here.dropLast
      · simp only [hUp, if_false]
        rcases h.root.at?_cases (here ++ [n]) with
          ⟨hFirst, hSecond⟩ | ⟨a, b, hFirst, hSecond, hFrame⟩
        · simp only [hFirst, hSecond]
          exact ih (here ++ [n])
        · simp only [hFirst, hSecond]
          cases hFrame.alike with
          | file | dir | shut => exact ih (here ++ [n])
          | link target => simp only [ih]

theorem canonicalFrom_eq (h : v.SameFrame u) (levels : Nat) :
    u.canonicalFrom levels = v.canonicalFrom levels := by
  induction levels with
  | zero => rfl
  | succ levels ih =>
      funext active here names
      rw [canonicalFrom, canonicalFrom, ih]
      exact h.canonicalAlong_eq _ active here names

theorem canonical_eq (h : v.SameFrame u) : u.canonical = v.canonical := by
  funext p
  simp only [canonical, startOf, h.host, h.workingDirectory, h.locate_eq, h.canonicalFrom_eq]

theorem resolve_eq (h : v.SameFrame u) : u.resolve = v.resolve := by
  funext p
  simp only [resolve, h.canonical_eq]

theorem expandHome_eq (h : v.SameFrame u) : u.expandHome = v.expandHome := by
  funext p
  simp only [expandHome, h.homes]

end SameFrame

/-- The volumes have one frame, and all files have the same bytes, but for those at changed places. -/
structure AgreeOutside (changed : List String → Prop) (v u : Volume) : Prop extends SameFrame v u where
  bytes : ∀ place content locked, ¬ changed place →
    v.root.at? place = some (.file content locked) → u.root.at? place = some (.file content locked)

namespace AgreeOutside

variable {changed : List String → Prop}

/-- A path that leads to no changed place finds the same in both volumes, or else no file in either. -/
theorem find_cases_unchanged (h : AgreeOutside changed v u) {p : Path}
    (hPath : ∀ place, v.locate p = .ok place → ¬ changed place) :
    u.find p = v.find p ∨
      ∃ a b, v.find p = .ok a ∧ u.find p = .ok b ∧ a.isFile = false ∧ b.isFile = false := by
  rcases h.toSameFrame.find_cases p with ⟨cause, hFirst, hSecond⟩ |
    ⟨place, a, b, hPlace, hAt, hOther, hFirst, hSecond, hAlike⟩
  · exact .inl (hSecond.trans hFirst.symm)
  · cases hAlike with
    | file before after locked =>
        have hBytes := h.bytes place before locked (hPath place hPlace) hAt
        rw [hOther] at hBytes
        rw [hFirst, hSecond, Option.some.inj hBytes]
        exact .inl rfl
    | dir | shut | link => exact .inr ⟨_, _, hFirst, hSecond, rfl, rfl⟩

theorem read_eq (h : AgreeOutside changed v u) {p : Path}
    (hPath : ∀ place, v.locate p = .ok place → ¬ changed place) : u.read p = v.read p := by
  rcases h.find_cases_unchanged hPath with hSame | ⟨a, b, hFirst, hSecond, hNoFile, hNoOther⟩
  · simp only [read, hSame]
  · simp only [read, hFirst, hSecond]
    cases a <;> cases hNoFile <;> cases b <;> cases hNoOther <;> rfl

theorem size_eq (h : AgreeOutside changed v u) {p : Path}
    (hPath : ∀ place, v.locate p = .ok place → ¬ changed place) : u.size p = v.size p := by
  rcases h.find_cases_unchanged hPath with hSame | ⟨a, b, hFirst, hSecond, hNoFile, hNoOther⟩
  · simp only [size, hSame]
  · simp only [size, hFirst, hSecond]
    cases a <;> cases hNoFile <;> cases b <;> cases hNoOther <;> rfl

end AgreeOutside

end Volume

end ProjectAtlas
