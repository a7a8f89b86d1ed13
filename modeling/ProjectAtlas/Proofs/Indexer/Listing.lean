import ProjectAtlas.Indexer.Basic
import ProjectAtlas.Proofs.Files.Listing
import ProjectAtlas.Proofs.Manifest.Names
import ProjectAtlas.Proofs.Scanner.Selection

/-!
A scan does not depend on the order in which directories are listed. Every directory that is listed at
all has its names sorted before anything is done with them: the root for the manifest, the trees of
sources and content, the directory of plugins, and the directory of each plugin.
-/

namespace ProjectAtlas

variable {v u : Volume}

namespace Volume.SameFrame

theorem namesPassing_eq (h : v.SameFrame u) : namesPassing u = namesPassing v := by
  funext directory test
  rcases h.list_cases directory with ⟨fault, hFirst, hSecond⟩ | ⟨_, _, hFirst, hSecond, hPerm⟩
  · simp only [namesPassing, hFirst, hSecond]
  · exact namesPassing_congr hFirst hSecond hPerm fun _ _ => rfl

theorem locateConfig_eq (h : v.SameFrame u) : locateConfig u = locateConfig v := by
  funext location
  simp only [locateConfig, configFile, h.expandHome_eq, h.resolve_eq, h.isDir_eq]

end Volume.SameFrame

namespace Volume.Relists

theorem loadConfig_eq (h : v.Relists u) : loadConfig u = loadConfig v := by
  funext location
  simp only [loadConfig, readConfigFile, h.locateConfig_eq, h.canonical_eq, h.isFile_eq, h.read_eq,
    h.toSameFrame.host]

end Volume.Relists

end ProjectAtlas
