import Referent.TypeExpr.Printer

/-!
# Declared types and their members

* `TypeDecl` — a class, interface or other type, its direct supertypes and its own members.
* `Member` — a field, method or constructor; a field has no parameter list.
* `Member.signature` — a member as people read it, `setVersion(java.lang.Object): void`.
* `Member.key` — what makes two members duplicates: the erased types of their parameters.
-/

namespace Referent

/-! ## Parameters -/

/-- A parameter of a method or constructor (`ParameterInfo`). -/
structure Parameter where
  name : String
  type : TypeExpr
  /-- The parameter takes any number of arguments, `T...`; its type is then the array. -/
  isVarargs : Bool
  deriving DecidableEq, Repr, Inhabited

namespace Parameter

/-- A parameter that takes one argument (`ParameterInfo::new`). -/
def single (name : String) (type : TypeExpr) : Parameter :=
  ⟨name, type, false⟩

/-- A parameter that takes any number of arguments of a type, kept as an array of them
(`ParameterInfo::varargs`). -/
def varargs (name : String) (element : TypeExpr) : Parameter :=
  ⟨name, element.arrayOf, true⟩

/-- The type as a signature shows it (`signature`). One dimension of an array of one is shown as
dots, an array of more dimensions keeps them all in front of the dots. -/
def shown (p : Parameter) : String :=
  if p.isVarargs then
    match p.type with
    | .array element 1 => element.text ++ "..."
    | other => other.text ++ "..."
  else p.type.text

end Parameter

/-! ## Members -/

/-- What a member is (`MemberKind`). -/
inductive MemberKind where
  | field
  | method
  | constructor
  deriving DecidableEq, Repr, Inhabited

namespace MemberKind

/-- The kind as a word (`Display` of `MemberKind`). -/
def name : MemberKind → String
  | .field => "field"
  | .method => "method"
  | .constructor => "constructor"

end MemberKind

/-- A member of a declared type (`MemberInfo`). -/
structure Member where
  name : String
  kind : MemberKind
  /-- The name of the type that declares the member. -/
  owner : String
  /-- The type of a field, or what a method returns. -/
  type : TypeExpr
  /-- The parameters in order; none for a field. -/
  parameters : Option (List Parameter)
  deriving DecidableEq, Repr, Inhabited

/-- What tells members of one name apart: the erased types of the parameters, in order
(`SignatureKey`). -/
structure ErasedSignature where
  erasures : List String
  deriving DecidableEq, Repr, Inhabited

namespace ErasedSignature

/-- The key as a parameter list (`Display` of `SignatureKey`). -/
def text (k : ErasedSignature) : String :=
  "(" ++ ", ".intercalate k.erasures ++ ")"

end ErasedSignature

namespace Member

/-- A method with its parameters and what it returns (`MemberInfo::method`). -/
def method (owner name : String) (parameters : List Parameter) (returns : TypeExpr) : Member :=
  ⟨name, .method, owner, returns, some parameters⟩

/-- A field with its type (`MemberInfo::field`). -/
def field (owner name : String) (type : TypeExpr) : Member :=
  ⟨name, .field, owner, type, none⟩

/-- The name with that of the declaring type in front, `org.gradle.api.Project#version` (`fqn`). -/
def qualifiedName (m : Member) : String :=
  m.owner ++ "#" ++ m.name

/-- The member is a method (`is_method`). -/
def isMethod (m : Member) : Bool :=
  m.kind == .method

/-- The parameters; a member without a parameter list has none. -/
def parameterList (m : Member) : List Parameter :=
  m.parameters.getD []

/-- The types of the parameters (`parameter_types`). -/
def parameterTypes (m : Member) : List TypeExpr :=
  m.parameterList.map (·.type)

/-- How many parameters the member has (`arity`). -/
def arity (m : Member) : Nat :=
  m.parameterList.length

/-- The member with its types (`signature`). -/
def signature (m : Member) : String :=
  match m.parameters with
  | some ps => m.name ++ "(" ++ ", ".intercalate (ps.map (·.shown)) ++ "): " ++ m.type.text
  | none => m.name ++ ": " ++ m.type.text

/-- The key of the member (`SignatureKey::of`). -/
def key (m : Member) : ErasedSignature :=
  ⟨m.parameterTypes.map (·.erasure)⟩

end Member

/-! ## Types -/

/-- What a declared type is (`TypeKind`). -/
inductive TypeKind where
  | classType
  | interfaceType
  | enumType
  | annotationType
  | primitiveType
  deriving DecidableEq, Repr, Inhabited

/-- A declared type (`TypeInfo`). -/
structure TypeDecl where
  /-- The fully qualified name. -/
  name : String
  kind : TypeKind
  superclass : Option String
  interfaces : List String
  /-- The members that the type itself declares, in order. -/
  members : List Member
  deriving DecidableEq, Repr, Inhabited

namespace TypeDecl

/-- A class without supertypes and members (`TypeInfo::class`). -/
def ofClass (name : String) : TypeDecl :=
  ⟨name, .classType, none, [], []⟩

/-- An interface without supertypes and members (`TypeInfo::interface`). -/
def ofInterface (name : String) : TypeDecl :=
  ⟨name, .interfaceType, none, [], []⟩

/-- The direct supertypes: the superclass, then the interfaces in order (`direct_supertypes`). -/
def supertypes (d : TypeDecl) : List String :=
  d.superclass.toList ++ d.interfaces

end TypeDecl

end Referent
