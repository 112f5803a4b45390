/-!
# Hierarchies

Which types a type inherits from, when only finitely many types are declared. Types may inherit
from undeclared ones, from each other in a cycle, and from one type by several ways.

* `Hierarchy` — the direct supertypes of each type.
* `Hierarchy.ancestors` — all types that one inherits from, breadth first and each once.
-/

namespace Referent

/-- Direct supertypes, which only declared types have (`InheritanceProvider`). -/
structure Hierarchy where
  declared : List String
  supertypes : String → List String
  supertypes_of_not_declared : ∀ name, name ∉ declared → supertypes name = []

namespace Hierarchy

/-- The declared types that have not been visited. -/
def fresh (h : Hierarchy) (visited : List String) : List String :=
  h.declared.filter (· ∉ visited)

theorem fresh_cons (h : Hierarchy) (name : String) (visited : List String) :
    h.fresh (name :: visited) = (h.fresh visited).filter (· ≠ name) := by
  unfold fresh
  rw [List.filter_filter]
  exact List.filter_congr fun x _ => by simp

theorem length_fresh_cons_lt {h : Hierarchy} {name : String} {visited : List String}
    (hdeclared : name ∈ h.declared) (hnew : name ∉ visited) :
    (h.fresh (name :: visited)).length < (h.fresh visited).length := by
  rw [fresh_cons, List.length_filter_lt_length_iff_exists]
  exact ⟨name, List.mem_filter.2 ⟨hdeclared, by simpa using hnew⟩, by simp⟩

theorem fresh_cons_of_not_declared {h : Hierarchy} {name : String} (visited : List String)
    (hdeclared : name ∉ h.declared) : h.fresh (name :: visited) = h.fresh visited := by
  rw [fresh_cons]
  refine List.filter_eq_self.2 fun x hx => ?_
  have hx' : x ∈ h.declared := (List.mem_filter.1 hx).1
  exact decide_eq_true fun heq => hdeclared (heq ▸ hx')

/-- The types still to come: the front of the queue unless it was visited, and then what its
supertypes add behind the queue (the loop of `walk_ancestors`). -/
def walk (h : Hierarchy) (visited queue : List String) : List String :=
  match queue with
  | [] => []
  | name :: rest =>
    if name ∈ visited then h.walk visited rest
    else name :: h.walk (name :: visited) (rest ++ h.supertypes name)
termination_by ((h.fresh visited).length, queue.length)
decreasing_by
  · exact Prod.Lex.right _ (by simp)
  · rename_i hnew
    by_cases hdeclared : name ∈ h.declared
    · exact Prod.Lex.left _ _ (length_fresh_cons_lt hdeclared hnew)
    · rw [fresh_cons_of_not_declared visited hdeclared,
        h.supertypes_of_not_declared name hdeclared]
      exact Prod.Lex.right _ (by simp)

/-- All types that a type inherits from, itself excepted (`walk_ancestors`). -/
def ancestors (h : Hierarchy) (name : String) : List String :=
  h.walk [name] (h.supertypes name)

end Hierarchy

end Referent
