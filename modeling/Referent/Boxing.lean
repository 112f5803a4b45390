/-!
# Primitive types and their wrapper classes

* `boxes` — each primitive type with its wrapper class.
* `boxed?`, `unboxed?` — from one to the other.
* `widens` — the widening conversions between primitive types.
-/

namespace Referent.Boxing

/-- Each primitive type with its wrapper class (`BOXES`). -/
def boxes : List (String × String) :=
  [("boolean", "java.lang.Boolean"), ("byte", "java.lang.Byte"), ("char", "java.lang.Character"),
   ("short", "java.lang.Short"), ("int", "java.lang.Integer"), ("long", "java.lang.Long"),
   ("float", "java.lang.Float"), ("double", "java.lang.Double"), ("void", "java.lang.Void")]

/-- The wrapper class of a primitive type (`boxed_name`). -/
def boxed? (primitive : String) : Option String :=
  boxes.lookup primitive

/-- The primitive type of a wrapper class (`unboxed_name`). -/
def unboxed? (wrapper : String) : Option String :=
  (boxes.find? (·.2 == wrapper)).map (·.1)

/-- The wrapper class of a primitive type; any other type as it is (`box_type_name`). -/
def boxName (name : String) : String :=
  (boxed? name).getD name

/-- A primitive type is boxed to its wrapper class, which is left as it is. -/
theorem boxName_of_mem {primitive wrapper : String} (h : (primitive, wrapper) ∈ boxes) :
    boxName primitive = wrapper ∧ boxName wrapper = wrapper := by
  have hall : ∀ box ∈ boxes, boxName box.1 = box.2 ∧ boxName box.2 = box.2 := by decide +kernel
  exact hall _ h

/-- The wider types that values of a primitive type convert to (the table of
`is_primitive_subtype`). -/
def wider : String → List String
  | "byte" => ["short", "int", "long", "float", "double"]
  | "short" => ["int", "long", "float", "double"]
  | "char" => ["int", "long", "float", "double"]
  | "int" => ["long", "float", "double"]
  | "long" => ["float", "double"]
  | "float" => ["double"]
  | _ => []

/-- Values of the first type convert to the second, which is wider (`is_primitive_subtype`). -/
def widens (sub sup : String) : Bool :=
  (wider sub).contains sup

end Referent.Boxing
