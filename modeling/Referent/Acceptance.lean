import Referent.Assignability
import Referent.Property

/-!
# Which calls a member can serve

Only the number of arguments and their types decide; of several members that can serve a call none
is preferred.

* `TypeSystem.accepts` — a call with arguments, at fixed arity or with a varargs tail.
* `Member.isPropertyGetter` — reading a property.
* `TypeSystem.acceptsValue` — writing a property.
-/

namespace Referent

namespace TypeExpr

/-- The type with one dimension fewer: an array of one or no dimension becomes its element (the
`element` of `matches_varargs_arity`). -/
def withoutDimension : TypeExpr → Option TypeExpr
  | .array element dimensions =>
    some (if 1 < dimensions then .array element (dimensions - 1) else element)
  | _ => none

end TypeExpr

namespace TypeSystem

/-- As many arguments as parameters, each assignable to its parameter (`matches_fixed_arity`). -/
def acceptsFixed (ts : TypeSystem) : List Parameter → List TypeExpr → Bool
  | [], [] => true
  | p :: ps, a :: as => ts.isAssignable a p.type && ts.acceptsFixed ps as
  | _, _ => false

/-- The arguments after the fixed ones fit a varargs parameter: there is none, or a single array,
or each is an element (the end of `matches_varargs_arity`). -/
def acceptsTail (ts : TypeSystem) (last : Parameter) (element : TypeExpr) : List TypeExpr → Bool
  | [] => true
  | [a] => ts.isAssignable a last.type || ts.isAssignable a element
  | args => args.all (ts.isAssignable · element)

/-- The last parameter takes any number of arguments, and those before it one each
(`matches_varargs_arity`). -/
def acceptsVarargs (ts : TypeSystem) (params : List Parameter) (args : List TypeExpr) : Bool :=
  match params.getLast? with
  | none => false
  | some last =>
    match last.isVarargs, last.type.withoutDimension with
    | true, some element =>
      let fixed := params.length - 1
      fixed ≤ args.length && ts.acceptsFixed (params.take fixed) (args.take fixed) &&
        ts.acceptsTail last element (args.drop fixed)
    | _, _ => false

/-- The member can be called with arguments of these types. One without a parameter list cannot be
called at all (`is_applicable`). -/
def accepts (ts : TypeSystem) (m : Member) (args : List TypeExpr) : Bool :=
  match m.parameters with
  | none => false
  | some params => ts.acceptsFixed params args || ts.acceptsVarargs params args

/-- The member writes a property: a method of one parameter that takes the one argument
(`is_applicable_setter`). -/
def acceptsValue (ts : TypeSystem) (m : Member) (args : List TypeExpr) : Bool :=
  m.isMethod &&
    match m.parameters, args with
    | some [param], [value] => ts.isAssignable value param.type
    | _, _ => false

end TypeSystem

namespace Member

/-- The member reads a property: a method without parameters that returns something, and a boolean
if it is called `isX` (`is_applicable_getter`). -/
def isPropertyGetter (m : Member) : Bool :=
  m.isMethod && m.arity == 0 && !m.type.isVoid &&
    (!Property.isBooleanGetter m.name || m.type.isBoolean)

end Member

end Referent
