import Referent.Json.Record
import Referent.TypeExpr.Printer

/-!
# Types in JSON documents

A type is written as a string, its source text.
-/

namespace Referent.TypeExpr

/-- The type as a document holds it (`TypeRef` into `String`). -/
def toJson (t : TypeExpr) : Json :=
  .string t.text

/-- The type that a value holds (`TypeRef::try_from`). -/
def ofJson (v : Json) : Decoded TypeExpr := do
  let text ← v.text
  (parse text).mapError .badType

end Referent.TypeExpr
