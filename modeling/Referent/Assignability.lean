import Referent.Boxing
import Referent.TypeSystem

/-!
# Subtyping and assignability

* `TypeSystem.isSubtype` — identity, the top class, widening of primitives, the declared hierarchy,
  erasure of generic types, and covariant arrays.
* `TypeSystem.isAssignable` — moreover boxing, unboxing, `null`, wildcards and unknown types.
-/

namespace Referent.TypeSystem

/-- The class is the other one or inherits from it (`is_class_subtype`). -/
def inherits (ts : TypeSystem) (sub sup : String) : Bool :=
  sub == sup || (ts.ancestors sub).contains sup

/-- Every value of the first type is one of the second. A generic type counts as its base, and an
array is covariant unless its elements are primitive (`is_subtype`). -/
def isSubtype (ts : TypeSystem) (sub sup : TypeExpr) : Bool :=
  if sub = sup then true
  else if sup.isObject then !sub.isPrimitive
  else match sub, sup with
    | .basic a, .basic b => Boxing.widens a b
    | .declared a, .declared b => ts.inherits a b
    | .generic base _, sup => ts.isSubtype base sup
    | sub, .generic base _ => ts.isSubtype sub base
    | .array a m, .array b n => m == n && (a == b || (!a.isPrimitive && ts.isSubtype a b))
    | _, _ => false
termination_by sizeOf sub + sizeOf sup

/-- A value of the first type, once boxed or unboxed, is one of the second (the last rules of
`is_assignable`). -/
def isConvertible (ts : TypeSystem) (arg param : TypeExpr) : Bool :=
  match arg with
  | .basic name =>
    if param.isPrimitive then false
    else match Boxing.boxed? name with
      | some wrapper => ts.isSubtype (.declared wrapper) param
      | none => false
  | .declared wrapper =>
    match param, Boxing.unboxed? wrapper with
    | .basic name, some primitive => primitive == name || Boxing.widens primitive name
    | _, _ => false
  | _ => false

/-- The type is a wildcard of any kind (`TypeRef::Wildcard`). -/
def isWildcard : TypeExpr → Bool
  | .wildcard _ | .bounded _ _ => true
  | _ => false

/-- An argument of the first type may be passed where the second is expected (`is_assignable`). -/
def isAssignable (ts : TypeSystem) (arg param : TypeExpr) : Bool :=
  if arg = .unknown || param = .unknown then true
  else if isWildcard param then true
  else if arg.isNull then !param.isPrimitive
  else ts.isSubtype arg param || ts.isConvertible arg param

end Referent.TypeSystem
