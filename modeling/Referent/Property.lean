/-!
# Names of accessors

A property `version` is read by `getVersion` or `isVersion` and written by `setVersion`. Only an
ASCII letter changes its case; a digit, `_`, `$` or another letter stays as it is. A bare `get`,
`set` or `is` is a plain name.

* `isGetter`, `isSetter`, `isBooleanGetter` — the shapes of names.
* `base` — the property of a getter.
* `getters`, `setters` — the accessors that a name may be short for.
-/

namespace Referent.Property

/-! ## Shapes -/

/-- What follows `get`, if anything does. -/
def afterGet? (name : String) : Option String :=
  match name.toList with
  | 'g' :: 'e' :: 't' :: c :: cs => some (String.ofList (c :: cs))
  | _ => none

/-- What follows `set`, if anything does. -/
def afterSet? (name : String) : Option String :=
  match name.toList with
  | 's' :: 'e' :: 't' :: c :: cs => some (String.ofList (c :: cs))
  | _ => none

/-- What follows `is`, if it starts with an upper-case ASCII letter. -/
def afterIs? (name : String) : Option String :=
  match name.toList with
  | 'i' :: 's' :: c :: cs => if c.isUpper then some (String.ofList (c :: cs)) else none
  | _ => none

/-- The name starts with `get` and goes on (`is_getter_name`). -/
def isGetter (name : String) : Bool :=
  (afterGet? name).isSome

/-- The name starts with `set` and goes on (`is_setter_name`). -/
def isSetter (name : String) : Bool :=
  (afterSet? name).isSome

/-- The name starts with `is` and goes on with an upper-case ASCII letter, unlike `island`
(`is_boolean_getter_name`). -/
def isBooleanGetter (name : String) : Bool :=
  (afterIs? name).isSome

/-! ## Case of the first letter -/

/-- The name with another first character. -/
def mapFirst (f : Char → Char) (name : String) : String :=
  match name.toList with
  | [] => ""
  | c :: cs => String.ofList (f c :: cs)

/-- The name with its first letter in upper case (`capitalize`). -/
def capitalize (name : String) : String :=
  mapFirst Char.toUpper name

/-- The name with its first letter in lower case (`decapitalize`). -/
def decapitalize (name : String) : String :=
  mapFirst Char.toLower name

/-! ## From property to accessor and back -/

/-- The property of a getter, `foo` of `getFoo`; any other name is its own (`to_base_name`). -/
def base (name : String) : String :=
  match afterGet? name with
  | some rest => decapitalize rest
  | none => name

/-- The getter `getFoo` of `foo` (`to_getter_name`). -/
def getter (base : String) : String :=
  "get" ++ capitalize base

/-- The setter `setFoo` of `foo` (`to_setter_name`). -/
def setter (base : String) : String :=
  "set" ++ capitalize base

/-- The getter `isFoo` of `foo` (`to_boolean_getter_name`). -/
def booleanGetter (base : String) : String :=
  "is" ++ capitalize base

/-- The getters that a name may be short for: a getter stands for itself, any other name for its
two getters (`suggest_getter_names`). -/
def getters (name : String) : List String :=
  if name = "" then []
  else if isGetter name || isBooleanGetter name then [name]
  else [getter name, booleanGetter name]

/-- The setters that a name may be short for: a setter stands for itself, a getter for the setter
beside it, any other name for its setter (`suggest_setter_names`). -/
def setters (name : String) : List String :=
  if name = "" then []
  else if isSetter name then [name]
  else match afterGet? name, afterIs? name with
    | some rest, _ => ["set" ++ rest]
    | none, some rest => ["set" ++ rest]
    | none, none => [setter name]

end Referent.Property
