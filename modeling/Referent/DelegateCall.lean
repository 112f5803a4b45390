import Referent.Delegate
import Referent.Lookup

/-!
# Calls that a delegate can serve

* `Convention` — how a name is served: as a method, a getter or a setter.
* `TypeSystem.serves?` — the first convention by which a type serves a call.
-/

namespace Referent

/-- The way in which a type serves a call (`ProbeHit`). -/
inductive Convention where
  | method
  | getter
  | setter
  deriving DecidableEq, Repr

namespace TypeSystem

/-- The name is short for a getter of the type (the second stage of `probe`). -/
def hasGetter (ts : TypeSystem) (type name : String) : Bool :=
  (Property.getters name).any fun getter =>
    (ts.methodsNamed type getter).any (·.isPropertyGetter)

/-- The name is short for a setter of the type that takes the argument (the third stage of
`probe`). -/
def hasSetter (ts : TypeSystem) (type name : String) (args : List TypeExpr) : Bool :=
  (Property.setters name).any fun setter =>
    (ts.methodsNamed type setter).any (ts.acceptsValue · args)

/-- How a receiver serves a call of the name: by a method that accepts the arguments, or else by a
getter, or else by a setter. A primitive receiver counts as its wrapper class, and a malformed call
is never served (`DelegateMethodProber::probe`). -/
def serves? (ts : TypeSystem) (name : String) (call : Call) (receiver : String) :
    Option Convention :=
  let type := Boxing.boxName receiver
  if call.invoked.isNone then none
  else if !(ts.methodsAccepting type name call.arguments).isEmpty then some .method
  else if ts.hasGetter type name then some .getter
  else if ts.hasSetter type name call.arguments then some .setter
  else none

end TypeSystem

end Referent
