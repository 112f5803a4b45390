/-!
# JSON documents

A JSON document as a tree that keeps the order of its fields, repeated fields, and the spelling of
numbers. Text need not be JSON to the end: a tree also tells where reading had to stop, so that
what stands before the fault can still be looked at.

* `Json` — the tree.
* `Json.isIntact` — the text did not break off anywhere in the value.
* `Json.isHeld` — moreover every part of the value has a representation in memory.
* `Json.limited` — the value with what is too deep inside it taken away.
-/

namespace Referent

/-- A value of a JSON document. -/
inductive Json where
  | null
  | bool (value : Bool)
  /-- A number of digits alone. -/
  | natural (value : Nat)
  /-- Any other number, as it is written. -/
  | decimal (literal : String)
  | string (text : String)
  | array (items : List Json)
  /-- The fields in order. A name is `none` if it is not there, or is half a surrogate pair. -/
  | object (fields : List (Option String × Json))
  /-- A value in order that cannot be held: a number beyond double precision, a string with half a
  surrogate pair, or an array or object too deep inside others. -/
  | unheld
  /-- The place where the text stops being JSON. Nothing stands after it. -/
  | broken
  deriving Repr, Inhabited

namespace Json

mutual

/-- The text of the value does not break off. -/
def isIntact : Json → Bool
  | .array items => areIntact items
  | .object fields => fieldsIntact fields
  | .broken => false
  | _ => true

/-- Every value is intact. -/
def areIntact : List Json → Bool
  | [] => true
  | v :: vs => v.isIntact && areIntact vs

/-- The value of every field is intact. -/
def fieldsIntact : List (Option String × Json) → Bool
  | [] => true
  | (_, v) :: fs => v.isIntact && fieldsIntact fs

end

mutual

/-- The value can be held in memory as a whole. -/
def isHeld : Json → Bool
  | .array items => areHeld items
  | .object fields => fieldsHeld fields
  | .unheld | .broken => false
  | _ => true

/-- Every value can be held. -/
def areHeld : List Json → Bool
  | [] => true
  | v :: vs => v.isHeld && areHeld vs

/-- The name and the value of every field can be held. -/
def fieldsHeld : List (Option String × Json) → Bool
  | [] => true
  | (name, v) :: fs => name.isSome && v.isHeld && fieldsHeld fs

end

/-- An array or object that there is no room for: only whether it is intact shows. -/
def tooDeep (isIntact : Bool) : Json :=
  if isIntact then .unheld else .broken

mutual

/-- The value with room for so many arrays and objects inside one another. -/
def limited : Nat → Json → Json
  | 0, .array items => tooDeep (areIntact items)
  | 0, .object fields => tooDeep (fieldsIntact fields)
  | room + 1, .array items => .array (areLimited room items)
  | room + 1, .object fields => .object (fieldsLimited room fields)
  | _, v => v

/-- The values with as much room each. -/
def areLimited (room : Nat) : List Json → List Json
  | [] => []
  | v :: vs => limited room v :: areLimited room vs

/-- The fields with as much room for the value of each. -/
def fieldsLimited (room : Nat) : List (Option String × Json) → List (Option String × Json)
  | [] => []
  | (name, v) :: fs => (name, limited room v) :: fieldsLimited room fs

end

/-- An object with these fields. -/
def record (fields : List (String × Json)) : Json :=
  .object (fields.map fun (name, v) => (some name, v))

/-- An array of strings. -/
def strings (texts : List String) : Json :=
  .array (texts.map .string)

/-- A string, or `null` for none. -/
def ofOption (text : Option String) : Json :=
  text.elim .null .string

end Json

end Referent
