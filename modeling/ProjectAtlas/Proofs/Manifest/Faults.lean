import ProjectAtlas.Manifest.Project
import ProjectAtlas.Proofs.Files.Entry
import ProjectAtlas.Proofs.Json.Excess
import ProjectAtlas.Proofs.Scanner.Traversal

/-!
What can go wrong on the way to a manifest, and in the check of a layout, beside the faults of the manifest
as such: the root is lost, something cannot be looked up, or reading the document goes beyond a limit.
-/

namespace ProjectAtlas

variable {v : Volume} {root : Path}

/-- Reading the document in a file goes beyond a limit of the reader, and the text of the file shows
it. -/
def DocumentExceeds (v : Volume) (file : Path) (e : Json.Excess) : Prop :=
  ∃ bytes text, v.read file = .ok bytes ∧ documentText bytes = .ok text ∧
    Json.parse (v.host.room .text file) text = .error (.excess e) ∧
    e.ShownBy (v.host.room .text file) text

theorem loadDocument_eq_excess_iff {α : Type} {rule : Rule α} {file : Path} {e : Json.Excess} :
    loadDocument rule v file = .error (.excess e) ↔ DocumentExceeds v file e := by
  constructor
  · intro h
    unfold loadDocument at h
    cases hRead : v.read file with
    | error fault => simp [hRead] at h
    | ok bytes =>
        cases hText : documentText bytes with
        | error fault => simp [hRead, hText] at h
        | ok text =>
            cases hParse : Json.parse (v.host.room .text file) text with
            | ok value =>
                simp only [hRead, hText, hParse] at h
                split at h <;> simp_all
                split at h <;> simp_all
            | error fault =>
                cases fault with
                | malformed cause line column offset => simp [hRead, hText, hParse] at h
                | excess found =>
                    simp only [hRead, hText, hParse, Except.error.injEq,
                      LoadFault.excess.injEq] at h
                    subst h
                    exact ⟨bytes, text, hRead, hText, hParse, Json.shownBy_of_parse hParse⟩
  · rintro ⟨bytes, text, hRead, hText, hParse, -⟩
    simp only [loadDocument, hRead, hText, hParse]

/-- Reading the manifest of the project at a canonical root goes beyond a limit of the reader. -/
def ManifestExceeds (v : Volume) (root : Path) (e : Json.Excess) : Prop :=
  ∃ manifest, findManifest v root = .ok manifest ∧ DocumentExceeds v manifest e

/-- Of these paths the first that cannot be looked up has this fault. -/
def LosesPath (v : Volume) (paths : List Path) (fault : FileFault) : Prop :=
  ∃ front p back, paths = front ++ p :: back ∧ (∀ q ∈ front, ∃ isDir, v.isDir q = .ok isDir) ∧
    v.isDir p = .error fault

theorem absenceLines_isOk_iff {p : Path} {line : String} :
    (∃ lines, absenceLines v p line = .ok lines) ↔ ∃ isDir, v.isDir p = .ok isDir := by
  cases hDir : v.isDir p <;> simp [absenceLines, hDir, Except.map]

/-- The layout of a project has no report exactly if a directory that is to be there cannot be looked
up. -/
theorem layoutIssues_eq_error_iff {directories : Directories} {manifest : Path}
    {document : ProjectDocument} {fault : FileFault} :
    layoutIssues v directories root manifest document = .error fault ↔
      LosesPath v ((layoutChecks directories root document).map (·.1)) fault := by
  rw [layoutIssues, map_eq_error_iff, mapM_eq_error_iff]
  simp only [absenceLines_isOk_iff]
  simp only [absenceLines, map_eq_error_iff, LosesPath]
  constructor
  · rintro ⟨front, c, back, hSplit, hFront, hFails⟩
    refine ⟨front.map (·.1), c.1, back.map (·.1), by simp [hSplit], ?_, hFails⟩
    simpa using hFront
  · rintro ⟨front, p, back, hSplit, hFront, hFails⟩
    obtain ⟨checked, rest, hChecks, rfl, hRest⟩ := List.map_eq_append_iff.mp hSplit
    obtain ⟨c, others, rfl, rfl, -⟩ := List.map_eq_cons_iff.mp hRest
    exact ⟨checked, c, others, hChecks, by simpa using hFront, hFails⟩

/-- Why the check of a layout ends without a report: the root is lost, reading the manifest goes beyond a
limit, or a directory that is to be there cannot be looked up. -/
inductive UnforeseenInLayout (v : Volume) (directories : Directories) (root : Path) :
    ProjectFault → Prop where
  | root {fault : RootFault} (hStart : v.startFrom root = .error fault) :
      UnforeseenInLayout v directories root (.root fault)
  | excess {start : Path} {e : Json.Excess} (hStart : v.startFrom root = .ok start)
      (hExceeds : ManifestExceeds v start e) : UnforeseenInLayout v directories root (.excess e)
  | unreachable {start manifest : Path} {document : ProjectDocument} {fault : FileFault}
      (hStart : v.startFrom root = .ok start) (hRead : readManifest v start = .ok (manifest, document))
      (hLoses : LosesPath v ((layoutChecks directories start document).map (·.1)) fault) :
      UnforeseenInLayout v directories root (.unreachable fault)

end ProjectAtlas
