import Mathlib.Data.List.Basic
import ProjectAtlas.Proofs.Index.Table
import ProjectAtlas.Proofs.Scanner.Selection
import ProjectAtlas.Proofs.Text.Pieces

/-!
Which candidates for scanners are built. The candidates are looked at one after the other: the first of
each wanted name is built, until one cannot be built, and no other candidate is touched.
-/

namespace ProjectAtlas

variable {α : Type} {wanted : Option (List String)}

namespace Builds

variable {taken : List String} {cs tried : List (Candidate α)} {result : Except DiscoveryFault (List α)}

end Builds

end ProjectAtlas
