import Referent.Json.Printer

/-!
# The schema of universe files

What a universe file holds, as a JSON schema.
-/

namespace Referent.CommandLine

/-- A description in front of other entries. -/
def described (text : String) (entries : List (String × Json)) : Json :=
  .record (("description", .string text) :: entries)

/-- The schema of a type that is defined beside the root. -/
def refersTo (name : String) : String × Json :=
  ("$ref", .string ("#/$defs/" ++ name))

/-- A schema of a simple type. -/
def ofType (name : String) : String × Json :=
  ("type", .string name)

/-- An array of items of one schema. -/
def arrayOf (items : String × Json) : List (String × Json) :=
  [ofType "array", ("items", .record [items])]

/-- An array of items of one schema, empty if it is left out. -/
def arrayOrEmpty (items : String × Json) : List (String × Json) :=
  [ofType "array", ("default", .array []), ("items", .record [items])]

/-- A value that may be `null`. -/
def orNullType (name : String) : String × Json :=
  ("type", .strings [name, "null"])

/-- An object with its properties, and the names of those that must be there. -/
def objectOf (properties : List (String × Json)) (required : List String) :
    List (String × Json) :=
  [ofType "object", ("properties", .record properties), ("required", .strings required)]

/-- A string that is one of some words. -/
def wordOf (words : List String) : List (String × Json) :=
  [ofType "string", ("enum", .strings words)]

/-! ## Definitions -/

/-- A delegate of a closure (`ClosureDelegate`). -/
def closureDelegateSchema : Json :=
  .record <| objectOf
    [("scope", .record [refersTo "ScopeId"]),
     ("strategy", .record [refersTo "DelegationStrategy", ("default", .string "delegate_first")]),
     ("type", described "Qualified (or simple) name of the delegate type" [ofType "string"])]
    ["scope", "type"]

/-- How a closure consults its delegate (`DelegationStrategy`). -/
def strategySchema : Json :=
  described
    ("How a closure consults its owner and its delegate.\n\n" ++
      "Declaration resolution only distinguishes `OwnerOnly`: with any other\n" ++
      "strategy a delegate that can serve a call claims it ahead of the owner.")
    (wordOf ["owner_first", "delegate_first", "owner_only", "delegate_only"])

/-- A member of a type (`MemberInfo`). -/
def memberSchema : Json :=
  described "Information about a member (field, method, constructor)" <| objectOf
    [("declaring_type",
       described
         ("The type that declares this member (may differ from lookup type due to " ++
           "inheritance).\nFilled in from the enclosing type when loading a universe.")
         [ofType "string", ("default", .string "")]),
     ("kind", .record [refersTo "MemberKind", ("default", .string "method")]),
     ("name", described "Simple name, e.g., \"getVersion\"" [ofType "string"]),
     ("parameters",
       described "Method parameters (None for fields)"
         [orNullType "array", ("items", .record [refersTo "ParameterInfo"])]),
     ("type",
       described "Field type or method return type"
         [refersTo "TypeRef", ("default", .string "<unknown>")])]
    ["name"]

/-- A parameter of a method (`ParameterInfo`). -/
def parameterSchema : Json :=
  described "Information about a method parameter" <| objectOf
    [("is_varargs",
       described "True when this parameter is declared with `...` varargs syntax."
         [ofType "boolean"]),
     ("name",
       described "Parameter name (may be synthetic like \"arg0\")"
         [ofType "string", ("default", .string "")]),
     ("type", .record [refersTo "TypeRef"])]
    ["type"]

/-- The number of a closure (`ScopeId`). -/
def closureIdSchema : Json :=
  described "Opaque handle of a closure block in the syntax tree."
    [ofType "integer", ("format", .string "uint32"), ("minimum", .natural 0)]

/-- A declared type (`TypeInfo`). -/
def typeSchema : Json :=
  described "Information about a declared type (class, interface, enum, ...)" <| objectOf
    [("fqn",
       described "Fully qualified name, e.g., \"org.gradle.api.Project\"" [ofType "string"]),
     ("interfaces", .record (arrayOf (ofType "string"))),
     ("kind", .record [refersTo "TypeKind", ("default", .string "class")]),
     ("members",
       described "Members declared directly on this type, in declaration order"
         (arrayOrEmpty (refersTo "MemberInfo"))),
     ("super_class",
       described "Direct superclass, `None` for `java.lang.Object` and interfaces"
         [orNullType "string"])]
    ["fqn"]

/-- The text of a type (`TypeRef::json_schema`). -/
def typeTextSchema : Json :=
  described
    "Type text, e.g. `int`, `java.util.List<java.lang.String>`, `java.lang.String[]`"
    [ofType "string"]

/-! ## The whole -/

/-- The schema of universe files (`TypeUniverse`). -/
def universeSchema : Json :=
  .record
    [("$schema", .string "https://json-schema.org/draft/2020-12/schema"),
     ("title", .string "TypeUniverse"),
     ("description", .string "Serialized description of the types visible to a script."),
     ofType "object",
     ("properties", .record
       [("closures",
          described "Closure delegates keyed by closure scope id"
            (arrayOrEmpty (refersTo "ClosureDelegate"))),
        ("imports",
          described "Imports used to resolve simple delegate type names"
            (arrayOrEmpty (ofType "string"))),
        ("types", .record (arrayOrEmpty (refersTo "TypeInfo")))]),
     ("$defs", .record
       [("ClosureDelegate", closureDelegateSchema),
        ("DelegationStrategy", strategySchema),
        ("MemberInfo", memberSchema),
        ("MemberKind", .record (wordOf ["field", "method", "constructor"])),
        ("ParameterInfo", parameterSchema),
        ("ScopeId", closureIdSchema),
        ("TypeInfo", typeSchema),
        ("TypeKind",
          .record (wordOf ["class", "interface", "enum", "annotation", "primitive"])),
        ("TypeRef", typeTextSchema)])]

end Referent.CommandLine
