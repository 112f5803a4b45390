/-!
# Imports

The imports of a script tell which qualified names a simple name may stand for.

* `Imports` — a package and import statements: `a.b.C` imports one type, `a.b.*` a package on
  demand.
* `Imports.candidates` — the qualified names to try for a simple name, in order.
-/

namespace Referent

/-- The package and the imports in effect at a place (`TypeResolutionContext`). -/
structure Imports where
  package : Option String
  statements : List String
  deriving DecidableEq, Repr, Inhabited

namespace Imports

/-- No package and no imports. -/
def empty : Imports :=
  ⟨none, []⟩

/-- Imports outside of any package (`with_imports`). -/
def ofStatements (statements : List String) : Imports :=
  ⟨none, statements⟩

/-- The name after the last point. -/
def lastSegment (name : String) : String :=
  String.ofList (name.toList.reverse.takeWhile (· ≠ '.')).reverse

/-- The package that a statement imports on demand (one pass of `candidate_fqns`). -/
def package? (statement : String) : Option String :=
  match statement.toList.reverse with
  | '*' :: '.' :: rest => some (String.ofList rest.reverse)
  | _ => none

/-- The statement imports the one type of this simple name (the other pass of `candidate_fqns`). -/
def importsType (name statement : String) : Bool :=
  (package? statement).isNone && lastSegment statement == name

/-- A name in a package. -/
def qualify (name package : String) : String :=
  package ++ "." ++ name

/-- What a simple name may stand for: single types that are imported, then the package's own, then
those of packages imported on demand (`candidate_fqns`). -/
def candidates (imports : Imports) (name : String) : List String :=
  imports.statements.filter (importsType name) ++ imports.package.toList.map (qualify name) ++
    (imports.statements.filterMap package?).map (qualify name)

/-- The imports with more statements after them. -/
def append (imports : Imports) (statements : List String) : Imports :=
  { imports with statements := imports.statements ++ statements }

end Imports

end Referent
