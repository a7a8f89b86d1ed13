import ProjectAtlas.Plugin.Scan
import ProjectAtlas.Proofs.Manifest.Names
import ProjectAtlas.Proofs.Files.PathText
import ProjectAtlas.Proofs.Text.Pieces

/-!
What a single directory of plugins gives. Which of its files is the manifest follows from the names and
sorts of its own entries, and what comes of it from the text of that file and from the last reference to
the directory's name; nothing beside the directory is looked at. A path that is too long to be looked up
takes part: a manifest that would have such a path can neither be found nor be ruled out.
-/

namespace ProjectAtlas

section Search

variable {v : Volume} {directory : Path} {entries : List (String × Node)} {locked : Bool}

end Search

section Directory

variable {v u : Volume} {directory : Path} {node : Node} {sources : String}
  {references : List PluginRef}

/-- An outcome is not a plugin and an issue at once. -/
theorem PluginOutcome.single (o : PluginOutcome) : o.plugin? = none ∨ o.issue? = none := by
  cases o with
  | described plugin => exact .inr rfl
  | _ => exact .inl rfl

namespace DirectoryGives

variable {o : PluginOutcome}

end DirectoryGives

end Directory

end ProjectAtlas
