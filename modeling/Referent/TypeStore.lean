import Referent.Hierarchy
import Referent.Lookup

/-!
# Type stores

A type system held in memory: declared types in the order in which they were inserted.

* `TypeStore.register` — one more type, brought into normal form, or the reason why not.
* `TypeStore.insert`, `TypeStore.tryInsert` — what registering a type gives, and what it leaves.
* `TypeStore.ofList` — types inserted one after the other.
* `TypeStore.system` — the type system that the store is.
-/

namespace Referent

/-- Why a type cannot be inserted (`ApiError::InvalidArgument` of `insert`). -/
inductive InsertError where
  | unnamedType
  | duplicateType (name : String)
  | unnamedMember (type : String)
  /-- The member, by its qualified name, says that another type declares it. -/
  | misplacedMember (name type : String)
  deriving DecidableEq, Repr

namespace InsertError

/-- The error in words, as `InMemoryTypeSystem::insert` puts it. -/
def message : InsertError → String
  | .unnamedType => "type with empty fqn"
  | .duplicateType name => "duplicate type `" ++ name ++ "`"
  | .unnamedMember type => "member with empty name in `" ++ type ++ "`"
  | .misplacedMember name type => "member `" ++ name ++ "` listed under `" ++ type ++ "`"

end InsertError

namespace Member

/-- The parameter list, empty if a method or constructor does not say (`insert`). -/
def normalParameters (m : Member) : Option (List Parameter) :=
  if m.kind = .field then m.parameters else some m.parameterList

/-- The member as the type of this name declares it: the owner is filled in, and a method or
constructor has a parameter list (one turn of the loop in `insert`). -/
def normalize (type : String) (m : Member) : Except InsertError Member :=
  if m.name = "" then .error (.unnamedMember type)
  else if m.owner = "" ∨ m.owner = type then
    .ok { m with owner := type, parameters := m.normalParameters }
  else .error (.misplacedMember m.qualifiedName type)

end Member

/-- Declared types in the order of insertion (`InMemoryTypeSystem`). -/
structure TypeStore where
  decls : List TypeDecl
  deriving DecidableEq, Repr, Inhabited

namespace TypeStore

/-- No type is declared (`InMemoryTypeSystem::new`). -/
def empty : TypeStore :=
  ⟨[]⟩

/-- How many types are declared (`len`). -/
def size (s : TypeStore) : Nat :=
  s.decls.length

/-- The names of the types. -/
def names (s : TypeStore) : List String :=
  s.decls.map (·.name)

/-- The type of a qualified name (`get_type_info`). -/
def find? (s : TypeStore) (name : String) : Option TypeDecl :=
  s.decls.find? (·.name == name)

/-- A type of this name is declared (`contains_key`). -/
def contains (s : TypeStore) (name : String) : Bool :=
  (s.find? name).isSome

/-- Registers a type behind the others, in normal form (`InMemoryTypeSystem::insert`). The store is
what an attempt leaves of it, whether that fails or not. -/
def register (d : TypeDecl) : ExceptT InsertError (StateM TypeStore) Unit := do
  if d.name = "" then throw .unnamedType
  if (← get).contains d.name then throw (.duplicateType d.name)
  let members ← MonadExcept.ofExcept (d.members.mapM (Member.normalize d.name))
  modify fun s => ⟨s.decls ++ [{ d with members }]⟩

/-- An attempt to register a type: how it ends, and the store that it leaves. -/
def attempt (s : TypeStore) (d : TypeDecl) : Except InsertError Unit × TypeStore :=
  (register d).run s

/-- The store with one more type, or why the type cannot be registered. -/
def insert (s : TypeStore) (d : TypeDecl) : Except InsertError TypeStore :=
  (s.attempt d).1.map fun _ => (s.attempt d).2

/-- The store after an attempt to register a type. -/
def tryInsert (s : TypeStore) (d : TypeDecl) : TypeStore :=
  (s.attempt d).2

/-- The types inserted in order, up to the first that cannot be (the loop of `type_system`). -/
def ofList (decls : List TypeDecl) : Except InsertError TypeStore :=
  decls.foldlM insert empty

/-! ## Questions -/

/-- The direct supertypes of a type, none of an undeclared one (`direct_supertypes`). -/
def supertypes (s : TypeStore) (name : String) : List String :=
  ((s.find? name).map (·.supertypes)).getD []

/-- The members that a type itself declares, none of an undeclared one (`get_all_members`). -/
def members (s : TypeStore) (name : String) : List Member :=
  ((s.find? name).map (·.members)).getD []

theorem find?_eq_none_of_not_mem {s : TypeStore} {name : String} (h : name ∉ s.names) :
    s.find? name = none := by
  unfold find?
  rw [List.find?_eq_none]
  intro d hd heq
  exact h (List.mem_map.2 ⟨d, hd, by simpa using heq⟩)

/-- The hierarchy of the declared types. -/
def hierarchy (s : TypeStore) : Hierarchy where
  declared := s.names
  supertypes := s.supertypes
  supertypes_of_not_declared name h := by
    unfold supertypes
    rw [find?_eq_none_of_not_mem h]
    rfl

/-- The type system of the store (the providers that `InMemoryTypeSystem` implements). -/
def system (s : TypeStore) : TypeSystem where
  typeOf? := s.find?
  resolve? imports name := (imports.candidates name).find? s.contains
  ancestors := s.hierarchy.ancestors
  membersNamed type name := (s.members type).filter (·.name == name)
  members := s.members

end TypeStore

end Referent
