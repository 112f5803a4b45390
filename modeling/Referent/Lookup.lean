import Referent.Acceptance

/-!
# Members of a type and its ancestors

* `TypeSystem.methodsNamed` — declared and inherited methods of a name; overridden ones are kept.
* `TypeSystem.visibleMembers` — every member, overridden ones left out.
* `TypeSystem.methodsAccepting` — the methods of a name that a call can mean.
-/

namespace Referent.TypeSystem

/-- The methods of a name that a type itself declares (`find_methods` without inherited ones). -/
def declaredMethods (ts : TypeSystem) (type name : String) : List Member :=
  (ts.membersNamed type name).filter (·.isMethod)

/-- The methods of a name: those of the type, then those of each ancestor. A method that is
declared again lower down is there once for each declaration (`find_methods`). -/
def methodsNamed (ts : TypeSystem) (type name : String) : List Member :=
  ts.declaredMethods type name ++ (ts.ancestors type).flatMap (ts.declaredMethods · name)

/-- What makes a member an override of another: name, kind and parameters (the key of
`find_all_members`). -/
structure OverrideKey where
  name : String
  kind : MemberKind
  signature : ErasedSignature
  deriving DecidableEq

/-- The key under which a member overrides others. -/
def overrideKey (m : Member) : OverrideKey :=
  ⟨m.name, m.kind, m.key⟩

/-- The members whose key is not among those seen and that of no earlier one (the loop of
`find_all_members`). -/
def withoutOverridden (seen : List OverrideKey) : List Member → List Member
  | [] => []
  | m :: ms =>
    if overrideKey m ∈ seen then withoutOverridden seen ms
    else m :: withoutOverridden (overrideKey m :: seen) ms

/-- Every member that can be seen on a type: its own and then each ancestor's, less those that an
earlier one overrides (`find_all_members`). -/
def visibleMembers (ts : TypeSystem) (type : String) : List Member :=
  withoutOverridden [] ((type :: ts.ancestors type).flatMap ts.members)

/-- The methods of a name, inherited ones included, that accept the arguments
(`applicable_methods`). -/
def methodsAccepting (ts : TypeSystem) (type name : String) (args : List TypeExpr) :
    List Member :=
  (ts.methodsNamed type name).filter (ts.accepts · args)

end Referent.TypeSystem
