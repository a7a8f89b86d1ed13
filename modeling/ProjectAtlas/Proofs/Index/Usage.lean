import ProjectAtlas.Proofs.Index.Ancestry
import ProjectAtlas.Proofs.Text.Pieces

/-!
The files that use a name: exactly those of the declarations that it is the parent of, and of the
functions in whose types it stands.

What an entity refers to is first said of the entity alone; the references of an index are those of
what it lists, so replaced entities have no part in them.
-/

namespace ProjectAtlas

namespace Index

end Index

end ProjectAtlas
