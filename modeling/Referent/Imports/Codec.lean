import Referent.Imports
import Referent.Json.Record

/-!
# Imports in JSON documents

The derived `Serialize` and `Deserialize` of `TypeResolutionContext`.
-/

namespace Referent.Imports

/-- The imports as a document holds them. -/
def toJson (imports : Imports) : Json :=
  .record [("package", .ofOption imports.package), ("imports", .strings imports.statements)]

/-- The imports that a value holds. -/
def ofJson : Json → Decoded Imports :=
  Record.decode ["package", "imports"] fun r =>
    Imports.mk <$> r.withDefault "package" (Json.orNull Json.text) none <*>
      r.withDefault "imports" (Json.list Json.text) []

end Referent.Imports
