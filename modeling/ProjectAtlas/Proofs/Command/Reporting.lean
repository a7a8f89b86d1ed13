import ProjectAtlas.Proofs.Command.Document
import ProjectAtlas.Proofs.Service.ScanAnswer

/-!
How command lines end. One that is accepted, and serves nothing, prints one document or is refused with a
message, unless something unforeseen leaves it; the service answers the same unforeseen things with 500.
-/

namespace ProjectAtlas.Command

/-- The project of a command line is at this root. -/
def Invocation.StartsAt (v : Volume) (i : Invocation) (root : Path) : Prop :=
  ∃ path, i.path = some path ∧ v.startFrom (Path.ofString path) = .ok root

/-- The message of a refusal: a fault of settings or manifest that they are known to have, or a name that
is not declared. A fault of the manifest is no refusal for a check, which reports on it. -/
inductive Refused (v : Volume) (i : Invocation) : String → Prop where
  | settings {root : Path} {fault : ConfigFault} (hTask : i.task = .validate)
      (hStart : i.StartsAt v root) (hLoad : loadConfig v root = .error fault)
      (hKnown : fault.isReported = true) : Refused v i fault.message
  | fault {root : Path} {fault : ScanFault} (hTask : i.task ≠ .validate)
      (hStart : i.StartsAt v root) (hFault : KnownInProject v root fault) :
      Refused v i s!"{programName} {i.task.verb.label} failed: {fault.message}"
  | undeclared {root : Path} {ix : Index} {name : String} (hTask : i.task = .hierarchy name)
      (hStart : i.StartsAt v root) (hIndex : (ProjectAtlas.scan v {} root).outcome = .ok ix)
      (hNone : ix.hierarchy name = []) : Refused v i s!"Declaration not found: {name}"

/-- The outcome prints one document, and says nothing else. -/
structure Outcome.Prints (o : Outcome) (document : Json) : Prop where
  output : ∃ text, document.indented? = some text ∧ o.output = text ++ "\n"
  message : o.message = none
  serving : o.serving = none

variable {v : Volume} {root : Path}

/-- A document is printed unless it holds an integer of too many digits. -/
theorem print_of_writable {document : Json} (hLong : document.holdsTooLong = false)
    (journal : List JournalEntry) (code : Nat) :
    ∃ o, print journal code document = .ok o ∧ o.code = code ∧ o.Prints document := by
  have hText : document.indented? = some (document.indented 0) := by
    simp [Json.indented?, hLong]
  simp only [print, hText]
  exact ⟨_, rfl, rfl, ⟨_, hText, rfl⟩, rfl, rfl⟩

theorem runScan_of_document {ix : Index} (hScan : (scan v {} root).outcome = .ok ix) {t : Task}
    (hTask : t.verb ≠ .serve) {document : Json} (hDocument : t.document ix = .ok document)
    (verbose : Bool) :
    runScan v { root } t verbose =
      print (written verbose (scan v {} root).journal) 0 document := by
  simp only [runScan, Indexer.scan, hScan]
  cases t with
  | serve host port => exact absurd rfl hTask
  | _ => simp only [hDocument]

variable {i : Invocation}

theorem run_of_scan (hTask : i.task ≠ .validate) (hStart : i.StartsAt v root) :
    i.run v = runScan v { root } i.task i.verbose := by
  obtain ⟨path, hPath, hStart⟩ := hStart
  simp only [Invocation.run, hPath, Indexer.atPath, hStart, Except.map]

end ProjectAtlas.Command
