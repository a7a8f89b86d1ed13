import ProjectAtlas.Proofs.Files.Passage

/-!
Paths that go through one place. From there on they lead where the names from the root through that
place lead, as long as the links on the way are not too many.
-/

namespace ProjectAtlas

namespace Node

theorem linkCount_le_of_mem {entries : List (String × Node)} {e : String × Node}
    (he : e ∈ entries) : e.2.linkCount ≤ linkCounts entries := by
  induction entries with
  | nil => cases he
  | cons head rest ih =>
      rcases List.mem_cons.mp he with rfl | he
      · exact Nat.le_add_right _ _
      · exact Nat.le_trans (ih he) (Nat.le_add_left _ _)

/-- Where a link stands, the tree has a link. -/
theorem linkCount_pos_of_at? {node : Node} {ns : List String} {target : String}
    (hLink : node.at? ns = some (.link target)) : 0 < node.linkCount := by
  induction ns generalizing node with
  | nil =>
      cases hLink
      exact Nat.one_pos
  | cons n ns ih =>
      cases node with
      | file _ _ | sealed | link _ => cases hLink
      | dir entries locked =>
          simp only [at?, entry?] at hLink
          cases hEntry : entries.lookup n with
          | none => simp [hEntry] at hLink
          | some child =>
              rw [hEntry] at hLink
              exact Nat.lt_of_lt_of_le (ih hLink) (linkCount_le_of_mem (mem_of_lookup hEntry))

end Node

namespace Volume

variable {v : Volume}

/-- The place that names lead to from the root, by links as well, however long their path is. -/
def reach (v : Volume) (ns : List String) : Except FileCause (List String) :=
  v.locateFrom (maxLinks + 1) [] ns

/-- No link in the volume leads to the place. -/
def NoLinkTo (v : Volume) (place : List String) : Prop :=
  ∀ ns target, v.root.at? ns = some (.link target) → v.reach ns ≠ .ok place

theorem noLinkTo_of_linkCount (hNone : v.root.linkCount = 0) (place : List String) :
    v.NoLinkTo place := by
  intro ns target hLink
  have hSome := Node.linkCount_pos_of_at? hLink
  omega

/-- What can be found following few links is found following more. -/
theorem locateFrom_mono {few many : Nat} (hMore : few ≤ many) {start names place : List String}
    (hFound : v.locateFrom few start names = .ok place) :
    v.locateFrom many start names = .ok place := by
  -- On the links that are left, and within them on the names: only a link uses one up.
  induction few generalizing many start names with
  | zero => cases hFound
  | succ few ihLinks =>
      obtain ⟨many, rfl⟩ : ∃ n, many = n + 1 := ⟨many - 1, by omega⟩
      simp only [locateFrom] at hFound ⊢
      induction names generalizing start with
      | nil => exact hFound
      | cons n names ih =>
          simp only [stepAlong] at hFound ⊢
          split at hFound
          · split at hFound
            · rename_i hUp
              rw [if_pos hUp]
              exact ih hFound
            · rename_i hUp
              rw [if_neg hUp]
              split at hFound
              · cases hFound
              · exact ihLinks (by omega) hFound
              · exact ih hFound
          · cases hFound
          · cases hFound
          · cases hFound

/-- A way that ends at a place goes on from there; some links may be used up by then. -/
theorem exists_locateFrom_append {links : Nat} {start names place : List String}
    (hFound : v.locateFrom links start names = .ok place) :
    ∃ left ≤ links, ∀ rest,
      v.locateFrom links start (names ++ rest) = v.locateFrom left place rest := by
  induction links generalizing start names with
  | zero => cases hFound
  | succ links ihLinks =>
      simp only [locateFrom] at hFound ⊢
      induction names generalizing start with
      | nil =>
          cases hFound
          exact ⟨links + 1, Nat.le_refl _, fun rest => rfl⟩
      | cons n names ih =>
          simp only [List.cons_append, stepAlong] at hFound ⊢
          split at hFound
          · split at hFound
            · rename_i hUp
              simp only [if_pos hUp]
              exact ih hFound
            · rename_i hUp
              simp only [if_neg hUp]
              split at hFound
              · cases hFound
              · obtain ⟨left, hLeft, hRest⟩ := ihLinks hFound
                refine ⟨left, by omega, fun rest => ?_⟩
                rw [← List.append_assoc]
                exact hRest rest
              · exact ih hFound
          · cases hFound
          · cases hFound
          · cases hFound

/-- Names that lead down without any link are taken one after the other. -/
theorem stepAlong_append_of_at?
    (follow : List String → List String → Except FileCause (List String))
    (here : List String) {ns : List String} {node : Node} (hAt : v.root.at? (here ++ ns) = some node)
    (hEnd : ∀ target, node ≠ .link target) (hNames : ∀ n ∈ ns, n ≠ "..") (rest : List String) :
    v.stepAlong follow here (ns ++ rest) = v.stepAlong follow (here ++ ns) rest := by
  induction ns generalizing here with
  | nil => simp
  | cons n ns ih =>
      have hNext : v.root.at? ((here ++ [n]) ++ ns) = some node := by simpa using hAt
      have hGo := ih (here ++ [n]) hNext fun m hm => hNames m (by simp [hm])
      rw [Node.at?_append, Option.bind_eq_some_iff] at hAt hNext
      obtain ⟨top, hTop, hBelow⟩ := hAt
      obtain ⟨child, hChild, hRest⟩ := hNext
      rw [Node.at?_append, hTop] at hChild
      cases top with
      | file _ _ | sealed | link _ => cases hBelow
      | dir entries locked =>
          simp only [Option.bind_some, Node.at?, Node.entry?] at hChild
          cases hEntry : entries.lookup n with
          | none => simp [hEntry] at hChild
          | some found =>
              rw [hEntry] at hChild
              cases hChild
              simp only [List.cons_append, stepAlong, hTop, hNames n (by simp), if_false, hEntry]
              cases child with
              | file _ _ | dir _ _ | sealed => simpa using hGo
              | link target =>
                  -- Nothing stands below a link, so it could only be the last name.
                  cases ns with
                  | nil =>
                      cases hRest
                      exact absurd rfl (hEnd target)
                  | cons m ns => cases hRest

/-- The names of a place lead to what stands there, if it is no link. -/
theorem reach_of_at? (hTree : v.root.WellFormed) {place : List String} {node : Node}
    (hAt : v.root.at? place = some node) (hEnd : ∀ target, node ≠ .link target) :
    v.reach place = .ok place := by
  have hWalk := stepAlong_append_of_at? (v.locateFrom maxLinks) [] hAt hEnd
    (fun n hn => (hTree.isEntryName_of_at? hAt n hn).noUp) []
  simpa [reach, locateFrom, stepAlong] using hWalk

/-- If a path that goes on from a directory leads somewhere, then so do the names from the root through
the place of that directory. -/
theorem reach_through (hTree : v.root.WellFormed) {p : Path} {place : List String}
    {entries : List (String × Node)} {locked : Bool} (hFound : v.locate p = .ok place)
    (hAt : v.root.at? place = some (.dir entries locked)) {ns target : List String}
    (hBelow : v.locate (p.descend ns) = .ok target) : v.reach (place ++ ns) = .ok target := by
  obtain ⟨-, -, hWay⟩ := locate_eq_ok_iff.mp hFound
  obtain ⟨-, -, hRest⟩ := locate_eq_ok_iff.mp hBelow
  -- From the place on, the path has the links left that its first part did not use.
  obtain ⟨left, hLeft, hGo⟩ := exists_locateFrom_append hWay
  have hOn : v.locateFrom left place ns = .ok target := (hGo ns).symm.trans hRest
  have hWalk := stepAlong_append_of_at? (v.locateFrom maxLinks) [] hAt (by simp)
    (fun n hn => (hTree.isEntryName_of_at? hAt n hn).noUp) ns
  rw [reach, locateFrom, hWalk]
  exact locateFrom_mono hLeft hOn

end Volume

end ProjectAtlas
