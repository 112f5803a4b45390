import Referent.Reference
import Referent.TypeExpr.Codec

/-!
# References in JSON documents

The derived `Serialize` and `Deserialize` of `Usage`, `ScopeId`, `ClosureScope`, `CallExpression`,
`SyntacticParent` and `Reference`. A parent is told apart by its field `kind`; a call has its own
fields beside it. In an array the kind comes first and the fields of the call after it.
-/

namespace Referent

/-! ## Usages and scopes -/

namespace Usage

/-- The usage as a word. -/
def name : Usage → String
  | .read => "read"
  | .write => "write"

/-- The usages by their words. -/
def table : List (String × Usage) :=
  [("read", .read), ("write", .write)]

/-- The usage as a document holds it. -/
def toJson (u : Usage) : Json :=
  .string u.name

/-- The usage that a value holds. -/
def ofJson : Json → Decoded Usage :=
  Json.variant table

end Usage

namespace ClosureId

/-- The number of a closure as a document holds it. -/
def toJson (id : ClosureId) : Json :=
  .natural id.toNat

/-- The number of a closure that a value holds. -/
def ofJson : Json → Decoded ClosureId :=
  Json.word32

end ClosureId

/-! ## Closures -/

namespace Closure

/-- A block that is there as a field. -/
def blockField : Option String → List (String × Json)
  | none => []
  | some name => [("enclosing_call", .string name)]

/-- The closure as a document holds it. -/
def toJson (c : Closure) : Json :=
  .record ([("id", ClosureId.toJson c.id)] ++ blockField c.block)

/-- The closure that a value holds. -/
def ofJson : Json → Decoded Closure :=
  Record.decode ["id", "enclosing_call"] fun r =>
    Closure.mk <$> r.required "id" ClosureId.ofJson <*>
      r.withDefault "enclosing_call" (Json.orNull Json.text) none

end Closure

/-! ## Calls -/

namespace Call

/-- The fields of a call. -/
def fields (c : Call) : List (String × Json) :=
  [("invoked", .ofOption c.invoked), ("argument_types", .array (c.arguments.map (·.toJson)))]

/-- The names of the fields of a call. -/
def fieldNames : List String :=
  ["invoked", "argument_types"]

/-- The call whose fields a record holds. -/
def ofRecord (r : Record) : Fitting Call :=
  Call.mk <$> r.nullable "invoked" Json.text <*>
    r.withDefault "argument_types" (Json.list TypeExpr.ofJson) []

/-- The call as a document holds it. -/
def toJson (c : Call) : Json :=
  .record c.fields

/-- The call that a value holds. -/
def ofJson : Json → Decoded Call :=
  Record.decode fieldNames ofRecord

end Call

/-! ## Parents -/

namespace Parent

/-- What a parent can be, by the words for it; a call has fields of its own. -/
inductive Kind where
  | methodCall
  | other
  deriving DecidableEq, Repr

/-- The kind that a value holds. -/
def Kind.ofJson : Json → Decoded Kind
  | .string name => Json.lookupVariant [("method_call", .methodCall), ("other", .other)] name
  | _ => .error .malformed

/-- The parent as a document holds it (`SyntacticParent`, tagged by `kind`). -/
def toJson : Parent → Json
  | .methodCall call => .record (("kind", .string "method_call") :: call.fields)
  | .other => .record [("kind", .string "other")]

/-- The parent that a value holds. What stands beside the kind is held before it is looked at. -/
def ofJson : Json → Decoded Parent
  | .object entries => do
    let (kind, others) ← Record.apart "kind" Kind.ofJson entries
    match kind with
    | .methodCall => .methodCall <$> Record.build Call.fieldNames (.named others) Call.ofRecord
    | .other => return .other
  | .array [] => .error (.missing "kind")
  | .array (first :: others) => do
    let kind ← Kind.ofJson first
    if !Json.areHeld others then throw .malformed
    match kind with
    | .methodCall => .methodCall <$> Record.build Call.fieldNames (.ordered others) Call.ofRecord
    | .other => if others.isEmpty then return .other else throw .malformed
  | _ => .error .malformed

end Parent

/-! ## References -/

namespace Reference

/-- The reference as a document holds it. -/
def toJson (r : Reference) : Json :=
  .record [("name", .string r.name), ("usage", r.usage.toJson), ("parent", r.parent.toJson),
    ("enclosing_closures", .array (r.closures.map (·.toJson))),
    ("textual_candidates", .natural r.textualCandidates.toNat)]

/-- The reference that a value holds. -/
def ofJson : Json → Decoded Reference :=
  Record.decode ["name", "usage", "parent", "enclosing_closures", "textual_candidates"] fun r =>
    Reference.mk <$> r.required "name" Json.text <*> r.withDefault "usage" Usage.ofJson .read <*>
      r.withDefault "parent" Parent.ofJson .other <*>
      r.withDefault "enclosing_closures" (Json.list Closure.ofJson) [] <*>
      r.withDefault "textual_candidates" Json.word64 1

end Reference

end Referent
