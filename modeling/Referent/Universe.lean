import Referent.Delegate.Codec
import Referent.Imports.Codec
import Referent.Member.Codec
import Referent.TypeStore

/-!
# Universes

A universe describes what a script can see: the types, the imports under which delegates are
looked up, and delegates of single closures. It is loaded from a JSON document.
-/

namespace Referent

/-- What a script can see (`TypeUniverse`). -/
structure Universe where
  imports : List String
  types : List TypeDecl
  closures : List RecordedDelegate
  deriving DecidableEq, Repr, Inhabited

namespace Universe

/-- A universe without types. -/
def empty : Universe :=
  ⟨[], [], []⟩

/-- The universe as a document holds it. -/
def toJson (u : Universe) : Json :=
  .record [("imports", .strings u.imports), ("types", .array (u.types.map (·.toJson))),
    ("closures", .array (u.closures.map (·.toJson)))]

/-- The universe that a value holds (`TypeUniverse::from_json`). -/
def ofJson : Json → Decoded Universe :=
  Record.decode ["imports", "types", "closures"] fun r =>
    Universe.mk <$> r.withDefault "imports" (Json.list Json.text) [] <*>
      r.withDefault "types" (Json.list TypeDecl.ofJson) [] <*>
      r.withDefault "closures" (Json.list RecordedDelegate.ofJson) []

/-- The types in a store, or why one of them cannot be inserted (`type_system`). -/
def store (u : Universe) : Except InsertError TypeStore :=
  TypeStore.ofList u.types

/-- The delegates of the closures (`TypeUniverse::delegation`). -/
def delegation (u : Universe) : Delegation :=
  RecordedDelegate.delegation u.closures

/-- The imports of the universe, outside of any package (`TypeUniverse::context`). -/
def context (u : Universe) : Imports :=
  .ofStatements u.imports

/-- The imports under which the delegates of a script are looked up: those that every script has come
after those of the universe (`resolution_context`). -/
def resolutionContext (u : Universe) : Imports :=
  u.context.append Delegation.scriptImports

end Universe

end Referent
