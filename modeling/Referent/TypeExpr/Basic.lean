/-!
# Type expressions

The types that a script's source and its libraries write down: primitive names, declared types,
generic instances, arrays and wildcards.

* `Dimensions` — how many dimensions an array has, in a machine word.
* `TypeExpr` — a type as it is written (`TypeRef`), with decidable equality.
* `TypeExpr.ofName` — a bare name, told apart into a basic and a declared type.
* `TypeExpr.arrayOf` — one more array dimension; nested arrays share one node.
* `TypeExpr.erasure` — the type without its generic arguments, which identifies a parameter.
-/

namespace Referent

/-- How many dimensions an array has: a machine word, which starts again at zero behind the greatest
one. -/
abbrev Dimensions : Type :=
  UInt64

namespace Dimensions

instance : CoeOut Dimensions Nat :=
  ⟨UInt64.toNat⟩

instance : NatCast Dimensions :=
  ⟨UInt64.ofNat⟩

/-- The greatest number of dimensions. -/
def greatest : Dimensions :=
  0xFFFFFFFFFFFFFFFF

end Dimensions

/-- A type as it is written (`TypeRef`). -/
inductive TypeExpr where
  /-- A name that stands for itself: a primitive type or `null`. -/
  | basic (name : String)
  /-- A class, interface or other declared type, by its name. -/
  | declared (name : String)
  /-- A generic type with its arguments, `List<String>`. -/
  | generic (base : TypeExpr) (args : List TypeExpr)
  /-- An array with its number of dimensions, `String[][]`. -/
  | array (element : TypeExpr) (dimensions : Dimensions)
  /-- A wildcard without a bound, `?`. -/
  | wildcard (upper : Bool)
  /-- A wildcard with a bound: `? extends T` if it is an upper bound, `? super T` if not. -/
  | bounded (upper : Bool) (bound : TypeExpr)
  /-- A type that inference could not find. -/
  | unknown
  deriving Repr, Inhabited

namespace TypeExpr

/-! ## Equality -/

mutual

/-- Both types are written with the same nodes (`==` on `TypeRef`). -/
def same : TypeExpr → TypeExpr → Bool
  | .basic a, .basic b => a == b
  | .declared a, .declared b => a == b
  | .generic a as, .generic b bs => same a b && sameAll as bs
  | .array a m, .array b n => same a b && m == n
  | .wildcard u, .wildcard v => u == v
  | .bounded u a, .bounded v b => u == v && same a b
  | .unknown, .unknown => true
  | _, _ => false

/-- The lists hold the same types in the same order. -/
def sameAll : List TypeExpr → List TypeExpr → Bool
  | [], [] => true
  | a :: as, b :: bs => same a b && sameAll as bs
  | _, _ => false

end

mutual

theorem same_iff (a b : TypeExpr) : same a b = true ↔ a = b := by
  cases a with
  | generic a as =>
    cases b with
    | generic b bs => simp [same, same_iff a b, sameAll_iff as bs]
    | _ => simp [same]
  | array a m =>
    cases b with
    | array b n => simp [same, same_iff a b]
    | _ => simp [same]
  | bounded u a =>
    cases b with
    | bounded v b => simp [same, same_iff a b]
    | _ => simp [same]
  | _ => cases b <;> simp [same]

theorem sameAll_iff (as bs : List TypeExpr) : sameAll as bs = true ↔ as = bs := by
  cases as with
  | nil => cases bs <;> simp [sameAll]
  | cons a as =>
    cases bs with
    | nil => simp [sameAll]
    | cons b bs => simp [sameAll, same_iff a b, sameAll_iff as bs]

end

instance : DecidableEq TypeExpr := fun a b => decidable_of_iff _ (same_iff a b)

/-! ## Names -/

/-- The primitive types of the language, `void` among them (`PRIMITIVE_NAMES`). -/
def primitiveNames : List String :=
  ["boolean", "byte", "char", "short", "int", "long", "float", "double", "void"]

/-- The type of the literal `null`, as call arguments show it (`NULL_TYPE`). -/
def nullName : String := "null"

/-- The class at the top of every hierarchy (`OBJECT`). -/
def objectName : String := "java.lang.Object"

/-- The name is one of a primitive type or of `null`. -/
def isBasicName (name : String) : Bool :=
  primitiveNames.contains name || name == nullName

/-- The type that a bare name denotes (`named`). -/
def ofName (name : String) : TypeExpr :=
  if isBasicName name then .basic name else .declared name

/-- The type of a method that returns nothing (`TypeRef::void`). -/
def void : TypeExpr := .basic "void"

/-- An array of the type: one more dimension if it is an array already (`array_of`). An array of the
greatest number of dimensions is left with none. -/
def arrayOf : TypeExpr → TypeExpr
  | .array element dimensions => .array element (dimensions + 1)
  | element => .array element 1

/-- The type is an array that cannot count one more dimension. -/
def isFull : TypeExpr → Bool
  | .array _ dimensions => dimensions == .greatest
  | _ => false

/-- The type is called `void` (`is_void`). -/
def isVoid : TypeExpr → Bool
  | .basic name | .declared name => name == "void"
  | _ => false

/-- The type is a primitive one (`is_primitive`). -/
def isPrimitive : TypeExpr → Bool
  | .basic name => primitiveNames.contains name
  | _ => false

/-- The type is that of the literal `null` (`is_null`). -/
def isNull : TypeExpr → Bool
  | .basic name => name == nullName
  | _ => false

/-- The type is `boolean` or its wrapper class (`is_boolean`). -/
def isBoolean : TypeExpr → Bool
  | .basic name | .declared name => name == "boolean" || name == "java.lang.Boolean"
  | _ => false

/-- The name of the type, or of a generic type's base (`as_fqn`). -/
def name? : TypeExpr → Option String
  | .basic name | .declared name => some name
  | .generic base _ => base.name?
  | _ => none

/-- The top class or a generic instance of it, as `is_subtype` asks. A basic name is never the top
class. -/
def isObject : TypeExpr → Bool
  | .basic _ => false
  | t => t.name? == some objectName

/-! ## Erasure -/

/-- A pair of brackets for each array dimension. -/
def brackets (dimensions : Nat) : String :=
  String.join (List.replicate dimensions "[]")

/-- The type as text without generic arguments (`erasure`); a wildcard and an unknown type are both
`?`. -/
def erasure : TypeExpr → String
  | .basic name | .declared name => name
  | .generic base _ => base.erasure
  | .array element dimensions => element.erasure ++ brackets dimensions
  | .wildcard _ | .bounded _ _ | .unknown => "?"

end TypeExpr

end Referent
