import Referent.Proofs.TypeExpr.RoundTrip

/-!
# Types without generic arguments

* `erased` — the type without its generic arguments; bounds of wildcards are left as they are.
* `NoBasicBase` — no generic type has a primitive one or `null` as its base.

Results:
* `erasure_erased`: a type and the erased type have the same erasure.
* `erased_erased`: an erased type has no generic arguments left.
* `WellFormed.declaredBases`: generic types that can be written have declared types as bases, if
  these are not basic.
-/

namespace Referent.TypeExpr

/-- The type without its generic arguments. -/
def erased : TypeExpr → TypeExpr
  | .generic base _ => base.erased
  | .array element dimensions => .array element.erased dimensions
  | t => t

theorem erasure_erased (t : TypeExpr) : t.erased.erasure = t.erasure := by
  fun_induction erased with
  | case1 base args ih => rw [ih, erasure]
  | case2 element dimensions ih => rw [erasure, ih, erasure]
  | case3 t _ _ => rfl

theorem erased_erased (t : TypeExpr) : t.erased.erased = t.erased := by
  fun_induction erased t with
  | case1 base args ih => exact ih
  | case2 element dimensions ih => rw [erased, ih]
  | case3 t hgeneric harray => exact erased.eq_3 t hgeneric harray

theorem erased_ne_generic (t base : TypeExpr) (args : List TypeExpr) :
    t.erased ≠ .generic base args := by
  fun_induction erased t with
  | case1 base args ih => exact ih
  | case2 element dimensions ih => simp
  | case3 t hgeneric harray => exact hgeneric base args

theorem erased_of_isPrimitive {t : TypeExpr} (h : t.isPrimitive = true) : t.erased = t := by
  cases t with
  | basic name => rfl
  | _ => cases h

section

variable {t : TypeExpr} (ht : ∀ base args, t ≠ .generic base args)

include ht

/-- A type that is not generic is erased already, unless it is an array. -/
theorem eq_of_erased {u : TypeExpr} (heq : t.erased = u)
    (hu : ∀ element dimensions, u ≠ .array element dimensions) : t = u := by
  cases t with
  | generic base args => exact absurd rfl (ht base args)
  | array element dimensions => exact absurd heq.symm (hu element.erased dimensions)
  | _ => exact heq

theorem exists_array_of_erased {element : TypeExpr} {dimensions : Dimensions}
    (heq : t.erased = .array element dimensions) : ∃ u, t = .array u dimensions := by
  cases t with
  | generic base args => exact absurd rfl (ht base args)
  | array u n =>
    rw [erased, array.injEq] at heq
    exact ⟨u, by rw [heq.2]⟩
  | _ => cases heq

end

/-! ## Bases of generic types -/

/-- No generic type has a primitive one or `null` as its base, except in type arguments and in the
bounds of wildcards. -/
def NoBasicBase : TypeExpr → Prop
  | .generic base _ => ∀ name, base ≠ .basic name
  | .array element _ => element.NoBasicBase
  | _ => True

/-- All generic types have declared types as their bases, except in type arguments and in the
bounds of wildcards. -/
def DeclaredBases : TypeExpr → Prop
  | .generic base _ => ∃ name, base = .declared name
  | .array element _ => element.DeclaredBases
  | _ => True

theorem WellFormed.declaredBases {t : TypeExpr} (h : WellFormed t) (hbases : t.NoBasicBase) :
    t.DeclaredBases := by
  induction h with
  | @generic base args _ hbare _ _ _ _ =>
    cases base with
    | basic name => exact absurd rfl (hbases name)
    | declared name => exact ⟨name, rfl⟩
    | _ => cases hbare
  | array _ _ _ ih => exact ih hbases
  | _ => trivial

theorem DeclaredBases.isObject_iff {t : TypeExpr} (h : t.DeclaredBases) :
    t.isObject = true ↔ t.erased = .declared objectName := by
  cases t with
  | generic base args =>
    obtain ⟨name, rfl⟩ := h
    simp [isObject, name?, erased]
  | _ => simp [isObject, name?, erased]

theorem DeclaredBases.erased {t : TypeExpr} (h : t.DeclaredBases) : t.erased.DeclaredBases := by
  fun_induction TypeExpr.erased t with
  | case1 base args ih =>
    obtain ⟨name, rfl⟩ := h
    trivial
  | case2 element dimensions ih => exact ih h
  | case3 t _ _ => exact h

theorem DeclaredBases.isObject_erased {t : TypeExpr} (h : t.DeclaredBases) :
    t.erased.isObject = t.isObject := by
  rw [Bool.eq_iff_iff, h.isObject_iff, h.erased.isObject_iff, erased_erased]

theorem DeclaredBases.isPrimitive_erased {t : TypeExpr} (h : t.DeclaredBases) :
    t.erased.isPrimitive = t.isPrimitive := by
  cases t with
  | generic base args =>
    obtain ⟨name, rfl⟩ := h
    rfl
  | _ => rfl

/-- A primitive type is not written in any other way. -/
theorem DeclaredBases.eq_of_isPrimitive {t u : TypeExpr} (h : u.DeclaredBases)
    (ht : t.isPrimitive = true) (heq : t.erased = u.erased) : t = u := by
  cases t with
  | basic name =>
    cases u with
    | generic base args =>
      obtain ⟨name', rfl⟩ := h
      cases heq
    | array element dimensions => cases heq
    | _ => exact heq
  | _ => cases ht

end Referent.TypeExpr
