import ProjectAtlas.Files.Change
import ProjectAtlas.Proofs.Files.Frame

/-!
Writing other bytes into one file changes nothing else: every other place holds what it held, and links
lead where they led.
-/

namespace ProjectAtlas

variable {f : Option Node → Option Node}

/-- Changing an entry that is there to another node keeps the names and all other entries. -/
theorem changeEntry_of_lookup {n : String} {entries : List (String × Node)} {old new : Node}
    (hEntry : entries.lookup n = some old) (hNew : f (some old) = some new) :
    (changeEntry n f entries).map (·.1) = entries.map (·.1) ∧
      (changeEntry n f entries).lookup n = some new ∧
      ∀ m, m ≠ n → (changeEntry n f entries).lookup m = entries.lookup m := by
  induction entries with
  | nil => cases hEntry
  | cons e entries ih =>
      obtain ⟨k, child⟩ := e
      by_cases hSame : k = n
      · subst hSame
        simp only [List.lookup_cons_self, Option.some.injEq] at hEntry
        subst hEntry
        simp only [changeEntry, if_true, hNew, List.map_cons, List.lookup_cons_self, true_and]
        intro m hm
        have hApart : (m == k) = false := beq_eq_false_iff_ne.mpr hm
        simp only [List.lookup_cons, hApart]
      · have hOther : (n == k) = false := beq_eq_false_iff_ne.mpr (Ne.symm hSame)
        have hRest : entries.lookup n = some old := by
          simpa only [List.lookup_cons, hOther] using hEntry
        obtain ⟨hNames, hHere, hElse⟩ := ih hRest
        simp only [changeEntry, hSame, if_false, List.map_cons, hNames, true_and]
        refine ⟨by simpa only [List.lookup_cons, hOther] using hHere, fun m hm => ?_⟩
        simp only [List.lookup_cons, hElse m hm]

namespace Node

/-- With other bytes in the file at a place, every other place holds a node of the same sort. -/
theorem change_file {node : Node} {place : List String} {before : Content} (after : Content)
    {locked : Bool} (hFile : node.at? place = some (.file before locked)) :
    ∃ other, change (fun _ => some (.file after locked)) place (some node) = some other ∧
      node.SameFrame other ∧ other.at? place = some (.file after locked) ∧
      ∀ ns, ns ≠ place → ∀ content shut,
        node.at? ns = some (.file content shut) → other.at? ns = some (.file content shut) := by
  induction place generalizing node with
  | nil =>
      cases hFile
      refine ⟨.file after locked, rfl, fun ns => ?_, rfl, fun ns hns content shut hAt => ?_⟩
      · cases ns with
        | nil => exact .some (.file before after locked)
        | cons n ns => exact .none
      · cases ns with
        | nil => exact absurd rfl hns
        | cons n ns => cases hAt
  | cons n place ih =>
      cases node with
      | file _ _ | sealed | link _ => cases hFile
      | dir entries shut =>
          simp only [at?, entry?] at hFile
          cases hEntry : entries.lookup n with
          | none => simp [hEntry] at hFile
          | some child =>
              rw [hEntry] at hFile
              obtain ⟨other, hChange, hFrame, hHere, hElse⟩ := ih hFile
              obtain ⟨hNames, hSame, hOthers⟩ := changeEntry_of_lookup hEntry hChange
              refine ⟨_, rfl, fun ns => ?_, ?_, fun ns hns content shut hAt => ?_⟩
              · cases ns with
                | nil => exact .some (.dir shut (.of_eq hNames))
                | cons m ns =>
                    simp only [at?, entry?]
                    by_cases hName : m = n
                    · subst hName
                      rw [hEntry, hSame]
                      exact hFrame ns
                    · rw [hOthers m hName]
                      cases entries.lookup m with
                      | none => exact .none
                      | some sibling => exact SameFrame.refl sibling ns
              · simp only [at?, entry?, hSame, hHere]
              · cases ns with
                | nil => cases hAt
                | cons m ns =>
                    simp only [at?, entry?] at hAt ⊢
                    by_cases hName : m = n
                    · subst hName
                      rw [hEntry] at hAt
                      rw [hSame]
                      exact hElse ns (fun h => hns (by rw [h])) content shut hAt
                    · rw [hOthers m hName]
                      exact hAt

end Node

namespace Volume

/-- The volume with other bytes in the file at a place. -/
def rewritten (v : Volume) (place : List String) (after : Content) (locked : Bool) : Volume :=
  v.changeAt place fun _ => some (.file after locked)

theorem agreeOutside_rewritten {v : Volume} {place : List String} {before : Content} {locked : Bool}
    (hFile : v.root.at? place = some (.file before locked)) (after : Content) :
    AgreeOutside (· = place) v (v.rewritten place after locked) := by
  obtain ⟨other, hChange, hFrame, -, hElse⟩ := Node.change_file after hFile
  have hRoot : (v.rewritten place after locked).root = other := by
    simp [rewritten, changeAt, hChange]
  refine ⟨⟨rfl, rfl, rfl, hRoot ▸ hFrame⟩, fun ns content shut hns hAt => ?_⟩
  rw [hRoot]
  exact hElse ns hns content shut hAt

end Volume

end ProjectAtlas
