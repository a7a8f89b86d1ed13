import ProjectAtlas.Proofs.Indexer.Faults
import ProjectAtlas.Service.Basic

/-!
How a request for a scan is answered. The answer explains itself unless a fault is unforeseen, or what is
to be said cannot be sent.
-/

namespace ProjectAtlas.Service

variable {v : Volume} {root : Path}

section Request

variable (s : Service) {r : Request} (hRoute : Route.ofPath? r.path = some .scan)
  (hMethod : r.method = "POST")

include hRoute hMethod

end Request

end ProjectAtlas.Service
