import Referent.TypeExpr.Basic

/-!
# References

A reference is a place in a script where a name is used, with what its surroundings say about it:
whether it is read or written, whether it is called, and which closures enclose it.
-/

namespace Referent

/-- What a reference does with what it names (`Usage`). -/
inductive Usage where
  | read
  | write
  deriving DecidableEq, Repr, Inhabited

/-- The number that tells a closure of a script from the others (`ScopeId`). -/
abbrev ClosureId : Type := UInt32

/-- A closure around a reference (`ClosureScope`). -/
structure Closure where
  id : ClosureId
  /-- The method that the closure is passed to, `dependencies` for `dependencies { ... }`. -/
  block : Option String
  deriving DecidableEq, Repr, Inhabited

/-- A method call, as far as its arguments go (`CallExpression`). -/
structure Call where
  /-- The text of what is called; none if the call is malformed. -/
  invoked : Option String
  /-- The types of the arguments, unknown where they could not be inferred. -/
  arguments : List TypeExpr
  deriving DecidableEq, Repr, Inhabited

/-- What a reference is a direct part of (`SyntacticParent`). -/
inductive Parent where
  | methodCall (call : Call)
  | other
  deriving DecidableEq, Repr, Inhabited

/-- A use of a name in a script (`Reference`). -/
structure Reference where
  name : String
  usage : Usage
  parent : Parent
  /-- The enclosing closures, innermost first. -/
  closures : List Closure
  /-- How many declarations the text around the reference offers. -/
  textualCandidates : UInt64
  deriving DecidableEq, Repr, Inhabited

namespace Reference

/-- A name that is read outside of any closure (`Reference::read`). -/
def read (name : String) : Reference :=
  ⟨name, .read, .other, [], 1⟩

/-- A name that is written outside of any closure (`Reference::write`). -/
def write (name : String) : Reference :=
  { read name with usage := .write }

/-- A name that is called with arguments (`Reference::call`). -/
def call (name : String) (arguments : List TypeExpr) : Reference :=
  { read name with parent := .methodCall ⟨some name, arguments⟩ }

/-- The reference inside one more closure, outside of those around it so far (`inside`). -/
def inside (r : Reference) (closure : Closure) : Reference :=
  { r with closures := r.closures ++ [closure] }

/-- The name is assigned to (`is_write`). -/
def isWrite (r : Reference) : Bool :=
  r.usage == .write

/-- The innermost closure (`nearest_closure`). -/
def nearestClosure? (r : Reference) : Option Closure :=
  r.closures.head?

/-- The call whose method the name is (`call_expression`). -/
def call? (r : Reference) : Option Call :=
  match r.parent with
  | .methodCall call => some call
  | .other => none

end Reference

end Referent
