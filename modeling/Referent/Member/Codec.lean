import Referent.Member
import Referent.TypeExpr.Codec

/-!
# Declared types in JSON documents

The derived `Serialize` and `Deserialize` of `MemberKind`, `TypeKind`, `ParameterInfo`, `MemberInfo`
and `TypeInfo`. Fields with a default may be left out of a document. When written, a superclass that
is none, an empty list of interfaces, a parameter list that is none and the mark of a parameter that
takes one argument are left out; the members are always there.
-/

namespace Referent

/-! ## Kinds -/

namespace MemberKind

/-- The kinds by their words. -/
def table : List (String × MemberKind) :=
  [("field", .field), ("method", .method), ("constructor", .constructor)]

/-- The kind as a document holds it. -/
def toJson (k : MemberKind) : Json :=
  .string k.name

/-- The kind that a value holds. -/
def ofJson : Json → Decoded MemberKind :=
  Json.variant table

end MemberKind

namespace TypeKind

/-- The kind as a word. -/
def name : TypeKind → String
  | .classType => "class"
  | .interfaceType => "interface"
  | .enumType => "enum"
  | .annotationType => "annotation"
  | .primitiveType => "primitive"

/-- The kinds by their words. -/
def table : List (String × TypeKind) :=
  [("class", .classType), ("interface", .interfaceType), ("enum", .enumType),
   ("annotation", .annotationType), ("primitive", .primitiveType)]

/-- The kind as a document holds it. -/
def toJson (k : TypeKind) : Json :=
  .string k.name

/-- The kind that a value holds. -/
def ofJson : Json → Decoded TypeKind :=
  Json.variant table

end TypeKind

/-! ## Parameters -/

namespace Parameter

/-- The parameter as a document holds it. -/
def toJson (p : Parameter) : Json :=
  .record ([("name", .string p.name), ("type", p.type.toJson)] ++
    if p.isVarargs then [("is_varargs", .bool true)] else [])

/-- The parameter that a value holds. -/
def ofJson : Json → Decoded Parameter :=
  Record.decode ["name", "type", "is_varargs"] fun r =>
    Parameter.mk <$> r.withDefault "name" Json.text "" <*> r.required "type" TypeExpr.ofJson <*>
      r.withDefault "is_varargs" Json.truth false

end Parameter

/-! ## Members -/

namespace Member

/-- A parameter list that is there as a field. -/
def parametersField : Option (List Parameter) → List (String × Json)
  | none => []
  | some ps => [("parameters", .array (ps.map (·.toJson)))]

/-- The member as a document holds it. -/
def toJson (m : Member) : Json :=
  .record ([("name", .string m.name), ("kind", m.kind.toJson), ("declaring_type", .string m.owner),
    ("type", m.type.toJson)] ++ parametersField m.parameters)

/-- The member that a value holds. -/
def ofJson : Json → Decoded Member :=
  Record.decode ["name", "kind", "declaring_type", "type", "parameters"] fun r =>
    Member.mk <$> r.required "name" Json.text <*> r.withDefault "kind" MemberKind.ofJson .method <*>
      r.withDefault "declaring_type" Json.text "" <*>
      r.withDefault "type" TypeExpr.ofJson .unknown <*>
      r.withDefault "parameters" (Json.orNull (Json.list Parameter.ofJson)) none

end Member

/-! ## Types -/

namespace TypeDecl

/-- A superclass that is there as a field. -/
def superclassField : Option String → List (String × Json)
  | none => []
  | some name => [("super_class", .string name)]

/-- Interfaces that are there as a field. -/
def interfacesField : List String → List (String × Json)
  | [] => []
  | names => [("interfaces", .strings names)]

/-- The type as a document holds it. -/
def toJson (d : TypeDecl) : Json :=
  .record ([("fqn", .string d.name), ("kind", d.kind.toJson)] ++ superclassField d.superclass ++
    interfacesField d.interfaces ++ [("members", .array (d.members.map (·.toJson)))])

/-- The type that a value holds. -/
def ofJson : Json → Decoded TypeDecl :=
  Record.decode ["fqn", "kind", "super_class", "interfaces", "members"] fun r =>
    TypeDecl.mk <$> r.required "fqn" Json.text <*>
      r.withDefault "kind" TypeKind.ofJson .classType <*>
      r.withDefault "super_class" (Json.orNull Json.text) none <*>
      r.withDefault "interfaces" (Json.list Json.text) [] <*>
      r.withDefault "members" (Json.list Member.ofJson) []

end TypeDecl

end Referent
