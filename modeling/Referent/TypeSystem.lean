import Referent.Imports
import Referent.Member

/-!
# Type systems

A type system answers questions about declared types: what a name stands for, what a type
inherits from, and what members it declares. How it knows is left open.

* `TypeSystem` — the questions.
* `TypeSystem.empty` — the type system without types.
* `TypeSystem.findType?` — a type by its qualified name or through imports.
-/

namespace Referent

/-- What is known about declared types (`ScriptTypeSystem`). -/
structure TypeSystem where
  /-- The type of a qualified name (`get_type_info`). -/
  typeOf? : String → Option TypeDecl
  /-- The qualified name that a simple name stands for under imports (`resolve_type_name`). -/
  resolve? : Imports → String → Option String
  /-- All types that a type inherits from, nearer ones first (`walk_ancestors`). -/
  ancestors : String → List String
  /-- The members of a name that a type itself declares (`get_members`). -/
  membersNamed : String → String → List Member
  /-- All members that a type itself declares (`get_all_members`). -/
  members : String → List Member

namespace TypeSystem

/-- No type is known (`NoOpTypeSystem`). -/
def empty : TypeSystem where
  typeOf? _ := none
  resolve? _ _ := none
  ancestors _ := []
  membersNamed _ _ := []
  members _ := []

/-- The type of a qualified name, or else the one that the name stands for under imports
(`find_type`). -/
def findType? (ts : TypeSystem) (imports : Imports) (name : String) : Option TypeDecl :=
  (ts.typeOf? name).or ((ts.resolve? imports name).bind ts.typeOf?)

end TypeSystem

end Referent
