import ProjectAtlas.Proofs.Plugin.Directory
import ProjectAtlas.Proofs.Plugin.Distinct

/-!
The scan of the plugin directory as a map over its subdirectories: each gives its outcome on its own, and
the outcomes are put together in the order of the names.
-/

namespace ProjectAtlas

/-- The names of the subdirectories among entries, in order. -/
def directoryNames (entries : List (String × Node)) : List String :=
  ((entries.filter (·.2.isDir)).map (·.1)).mergeSort

section Names

variable {entries : List (String × Node)}

variable {v : Volume} {root : Path}

end Names

section Scan

variable {config : Config} {v : Volume} {p : Project} {entries : List (String × Node)}
  {report : Report}

end Scan

end ProjectAtlas
