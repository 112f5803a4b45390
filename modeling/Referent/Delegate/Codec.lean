import Referent.Delegate
import Referent.Reference.Codec

/-!
# Delegates in JSON documents

The derived `Serialize` and `Deserialize` of `DelegationStrategy`, `DelegateTarget` and
`ClosureDelegate`. A delegate recorded for a closure has the closure's number as a field beside its
own.
-/

namespace Referent

namespace Strategy

/-- The strategy as a word. -/
def name : Strategy → String
  | .ownerFirst => "owner_first"
  | .delegateFirst => "delegate_first"
  | .ownerOnly => "owner_only"
  | .delegateOnly => "delegate_only"

/-- The strategies by their words. -/
def table : List (String × Strategy) :=
  [("owner_first", .ownerFirst), ("delegate_first", .delegateFirst), ("owner_only", .ownerOnly),
   ("delegate_only", .delegateOnly)]

/-- The strategy as a document holds it. -/
def toJson (s : Strategy) : Json :=
  .string s.name

/-- The strategy that a value holds. -/
def ofJson : Json → Decoded Strategy :=
  Json.variant table

end Strategy

namespace Delegate

/-- The fields of a delegate. -/
def fields (d : Delegate) : List (String × Json) :=
  [("type", .string d.type), ("strategy", d.strategy.toJson)]

/-- The names of the fields of a delegate. -/
def fieldNames : List String :=
  ["type", "strategy"]

/-- The delegate whose fields a record holds. -/
def ofRecord (readStrategy : Json → Decoded Strategy) (r : Record) : Fitting Delegate :=
  Delegate.mk <$> r.required "type" Json.text <*>
    r.withDefault "strategy" readStrategy .delegateFirst

/-- The delegate as a document holds it. -/
def toJson (d : Delegate) : Json :=
  .record d.fields

/-- The delegate that a value holds. -/
def ofJson : Json → Decoded Delegate :=
  Record.decode fieldNames (ofRecord Strategy.ofJson)

end Delegate

/-- A delegate recorded for the closure of a number (`ClosureDelegate`). -/
structure RecordedDelegate where
  closure : ClosureId
  delegate : Delegate
  deriving DecidableEq, Repr, Inhabited

namespace RecordedDelegate

/-- The record as a document holds it (`ClosureDelegate`, its target flattened). -/
def toJson (r : RecordedDelegate) : Json :=
  .record (("scope", ClosureId.toJson r.closure) :: r.delegate.fields)

/-- The field is one of a delegate. -/
def isDelegateField (field : Option String × Json) : Bool :=
  match field.1 with
  | some name => Delegate.fieldNames.contains name
  | none => false

/-- The record that a value holds. What stands beside the number is held before it is looked at. -/
def ofJson : Json → Decoded RecordedDelegate
  | .object entries => do
    let (closure, others) ← Record.apart "scope" ClosureId.ofJson entries
    let delegate ← Record.build Delegate.fieldNames (.named (others.filter isDelegateField))
      (Delegate.ofRecord (Json.heldVariant Strategy.table))
    return ⟨closure, delegate⟩
  | _ => .error .malformed

/-- The delegation that the records make up (`ExplicitDelegation::from_iter`). -/
def delegation (records : List RecordedDelegate) : Delegation :=
  .explicit (records.map fun r => (r.closure, r.delegate))

end RecordedDelegate

end Referent
