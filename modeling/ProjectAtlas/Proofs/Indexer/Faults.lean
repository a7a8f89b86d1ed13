import ProjectAtlas.Indexer.Basic
import ProjectAtlas.Proofs.Config.Faults
import ProjectAtlas.Proofs.Indexer.BestEffort

/-!
The faults that nothing reports. A scan, like the check of a layout, ends in a fault of the settings or of
the manifest that is reported, or in one of those that are listed here, each with its cause in the files.
-/

namespace ProjectAtlas

variable {v : Volume} {root : Path}

/-- A fault of settings or manifest that they are known to have. It is reported as such. -/
inductive KnownInProject (v : Volume) (root : Path) : ScanFault → Prop where
  | settings {fault : ConfigFault} (hLoad : loadConfig v root = .error fault)
      (hKnown : fault.isReported = true) :
      KnownInProject v root (.config fault)
  | manifest {loaded : Path × Config} {fault : ManifestFault}
      (hSettings : loadConfig v root = .ok loaded)
      (hRead : readProject v loaded.2.directories root = .error (.manifest fault)) :
      KnownInProject v root (.project (.manifest fault))

/-- A fault on the way to the check of a layout, or in it, that is not reported. The manifest is only looked
for if there are settings. -/
inductive UnforeseenInCheck (v : Volume) (root : Path) : ScanFault → Prop where
  | settings {fault : ConfigFault} (hSettings : UnforeseenInSettings v root fault) :
      UnforeseenInCheck v root (.config fault)
  | layout {loaded : Path × Config} {fault : ProjectFault}
      (hSettings : loadConfig v root = .ok loaded)
      (hLayout : UnforeseenInLayout v loaded.2.directories root fault) :
      UnforeseenInCheck v root (.project fault)

theorem UnforeseenInCheck.isReported {fault : ScanFault} (h : UnforeseenInCheck v root fault) :
    fault.isReported = false := by
  cases h with
  | settings hSettings => exact (loadConfig_unforeseen_iff.mpr hSettings).2
  | layout _ hLayout => cases hLayout <;> rfl

end ProjectAtlas
