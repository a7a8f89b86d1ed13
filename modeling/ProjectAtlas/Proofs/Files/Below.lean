import ProjectAtlas.Proofs.Files.Entry
import ProjectAtlas.Proofs.Files.PathText

/-!
Paths that only go down. Below a directory that holds no links such a path cannot leave the directory,
and it is the sort of path whose text as seen from there is relative and has no double dot.
-/

namespace ProjectAtlas

namespace Path

/-- The path starts where it is seen from, and has no double dot. -/
structure GoesDown (p : Path) : Prop where
  relative : p.anchor = .relative
  noUp : ".." ∉ p.parts

instance : DecidablePred GoesDown := fun p =>
  decidable_of_iff (p.anchor = .relative ∧ ".." ∉ p.parts)
    ⟨fun h => ⟨h.1, h.2⟩, fun h => ⟨h.1, h.2⟩⟩

/-- The path is `root`, or goes down from there. -/
def IsBelow (p root : Path) : Prop :=
  ∃ ns, p = root.descend ns ∧ ".." ∉ ns

theorem isBelow_self (p : Path) : p.IsBelow p :=
  ⟨[], (descend_nil p).symm, List.not_mem_nil⟩

theorem descend_descend (p : Path) (ns ms : List String) :
    (p.descend ns).descend ms = p.descend (ns ++ ms) := by
  simp [descend]

theorem IsBelow.descend {p root : Path} (h : p.IsBelow root) {ms : List String} (hUps : ".." ∉ ms) :
    (p.descend ms).IsBelow root := by
  obtain ⟨ns, rfl, hNone⟩ := h
  exact ⟨ns ++ ms, descend_descend root ns ms, by simp [hNone, hUps]⟩

theorem child_of_relative {s : String} (h : (ofString s).anchor = .relative) (p : Path) :
    p.child s = p.descend (ofString s).parts := by
  rw [child, join, h]
  rfl

theorem IsBelow.child {p root : Path} (h : p.IsBelow root) {s : String}
    (hDown : (ofString s).GoesDown) : (p.child s).IsBelow root := by
  rw [child_of_relative hDown.relative]
  exact h.descend hDown.noUp

theorem IsProper.descend {p : Path} (h : p.IsProper) {ns : List String} (hNames : ∀ n ∈ ns, IsName n) :
    (p.descend ns).IsProper :=
  List.forall_mem_append.mpr ⟨h, hNames⟩

/-- What is seen from a path that starts at the root starts at the root. -/
theorem anchor_child_ne_relative {p : Path} (h : p.anchor ≠ .relative) (s : String) :
    (p.child s).anchor ≠ .relative := by
  unfold child join
  split
  · exact h
  · assumption

/-- A relative text names the names that it joins. -/
theorem ofString_intercalate {ns : List String} (hNames : ∀ n ∈ ns, IsName n) :
    ofString ("/".intercalate ns) = ⟨.relative, ns⟩ := by
  rw [ofString, names_intercalate hNames, anchorOf, takeWhile_slash_intercalate hNames]
  rfl

theorem eq_descend_of_below? {p root : Path} {ns : List String} (h : p.below? root = some ns) :
    p = root.descend ns := by
  obtain ⟨anchor, parts⟩ := p
  simp only [below?, Bool.and_eq_true, decide_eq_true_eq, List.isPrefixOf_iff_prefix,
    Option.ite_none_right_eq_some, Option.some.injEq] at h
  obtain ⟨⟨rfl, more, rfl⟩, hDrop⟩ := h
  rw [List.drop_left] at hDrop
  rw [descend, hDrop]

/-- The text of a path as seen from a directory shows whether the path goes down from there. -/
theorem goesDown_relativeText_iff {p root : Path} (hStart : p.anchor ≠ .relative) (hProper : p.IsProper) :
    (ofString (p.relativeText root)).GoesDown ↔ p.IsBelow root := by
  cases hBelow : p.below? root with
  | some ns =>
      obtain rfl := eq_descend_of_below? hBelow
      have hNames : ∀ n ∈ ns, IsName n := fun n hn => hProper n (List.mem_append_right _ hn)
      rw [relativeText_descend, ofString_intercalate hNames]
      constructor
      · exact fun hDown => ⟨ns, rfl, hDown.noUp⟩
      · rintro ⟨ms, hSame, hUps⟩
        have hNs : ns = ms := List.append_cancel_left (congrArg Path.parts hSame)
        exact ⟨rfl, hNs ▸ hUps⟩
  | none =>
      rw [relativeText, hBelow, ofString_toString hProper]
      constructor
      · exact fun hDown => absurd hDown.relative hStart
      · rintro ⟨ms, rfl, -⟩
        simp at hBelow

end Path

namespace Volume

variable {v : Volume}

/-- The path leads to a place below the place to which `root` leads. -/
def IsInside (v : Volume) (root p : Path) : Prop :=
  ∃ place ns, v.locate root = .ok place ∧ v.locate p = .ok (place ++ ns)

/-- Where no links are, a way without double dots takes one name after the other. -/
theorem eq_append_of_stepAlong
    {follow : List String → List String → Except FileCause (List String)} {here there ns : List String}
    {node : Node} (hAt : v.root.at? here = some node) (hNoLinks : node.linkCount = 0)
    (hUps : ".." ∉ ns) (hFound : v.stepAlong follow here ns = .ok there) : there = here ++ ns := by
  induction ns generalizing here node with
  | nil => simpa [stepAlong] using hFound.symm
  | cons n ns ih =>
      rw [List.mem_cons, not_or] at hUps
      cases node with
      | file _ _ | sealed | link _ => simp [stepAlong, hAt] at hFound
      | dir entries locked =>
          simp only [stepAlong, hAt, if_neg (Ne.symm hUps.1)] at hFound
          cases hEntry : entries.lookup n with
          | none => simp [hEntry] at hFound
          | some child =>
              have hNext : v.root.at? (here ++ [n]) = some child := by
                rw [Node.at?_append, hAt]
                simp [Node.at?, Node.entry?, hEntry]
              have hFew : child.linkCount ≤ 0 :=
                hNoLinks ▸ Node.linkCount_le_of_mem (Node.mem_of_lookup hEntry)
              cases child with
              | link target => simp [Node.linkCount] at hFew
              | file _ _ | dir _ _ | sealed =>
                  simp only [hEntry] at hFound
                  rw [ih hNext (Nat.le_zero.mp hFew) hUps.2 hFound, List.append_assoc,
                    List.singleton_append]

/-- A path that goes down from a directory without links stays inside it. -/
theorem isInside_of_isBelow {root p : Path} {entries : List (String × Node)} {locked : Bool}
    (h : HoldsEntries v root entries locked) (hBelow : p.IsBelow root) {there : List String}
    (hFound : v.locate p = .ok there) : v.IsInside root p := by
  obtain ⟨ns, rfl, hUps⟩ := hBelow
  obtain ⟨place, hPlace, hAt⟩ := locate_of_find h.found
  refine ⟨place, ns, hPlace, ?_⟩
  obtain ⟨-, -, hStart⟩ := locate_eq_ok_iff.mp hPlace
  obtain ⟨-, -, hWay⟩ := locate_eq_ok_iff.mp hFound
  -- From the place of the directory on, the rest of the way is looked up name by name.
  obtain ⟨left, -, hGo⟩ := exists_locateFrom_append hStart
  have hHere := hGo []
  rw [List.append_nil, hStart] at hHere
  have hOn : v.locateFrom left place ns = .ok there := (hGo ns).symm.trans hWay
  cases left with
  | zero => cases hHere
  | succ left => rw [hFound, eq_append_of_stepAlong hAt h.noLinks hUps hOn]

theorem exists_locate_of_read {p : Path} {bytes : List UInt8} (h : v.read p = .ok bytes) :
    ∃ place, v.locate p = .ok place := by
  cases hFound : v.locate p with
  | ok place => exact ⟨place, rfl⟩
  | error cause => simp [read, find, hFound, Except.bind] at h

/-- A path to start from starts at the root. -/
theorem anchor_ne_relative_of_startFrom {given root : Path} (h : v.startFrom given = .ok root) :
    root.anchor ≠ .relative := by
  obtain ⟨p, -, hFound⟩ := exists_canonical_of_startFrom h
  simp only [canonical] at hFound
  split at hFound
  · cases hFound
    cases p.anchor <;> simp
  · cases hFound
  · split at hFound
    · cases hFound
    · cases hFound
      cases p.anchor <;> simp

end Volume

end ProjectAtlas
