import Referent.Proofs.TypeExpr.Erased
import Referent.Acceptance

/-!
# Types named by erasures

The erasure of a type is type text itself. The type that it names holds all that the erasure tells:
no generic arguments, and `?` for any wildcard and for an unknown type.

* `isOpen` — a wildcard or an unknown type.
* `plain` — the type that the erasure names.
* `GenericFree` — a type without generic parts, as plain types are.
* `Regular` — a type that can be written, with declared types as bases of generic ones.

Results:
* `text_plain`, `WellFormed.parse_erasure`: the erasure is the text of the plain type, and it is read
  as this type.
* `erasure_plain`, `genericFree_plain`: the plain type has the same erasure and no generic parts.
* `WellFormed.plain_eq_of_erasure_eq`: types with one erasure have one plain type.
* `Regular.plain_eq_erased`: the plain type of any other than an open type is the erased type.
-/

namespace Referent.TypeExpr

/-! ## The type that an erasure names -/

/-- A wildcard of any kind, or an unknown type. -/
def isOpen : TypeExpr → Bool
  | .wildcard _ | .bounded _ _ | .unknown => true
  | _ => false

/-- The type that the erasure names. -/
def plain : TypeExpr → TypeExpr
  | .basic name => .basic name
  | .declared name => .declared name
  | .generic base _ => base.plain
  | .array element dimensions => .array element.plain dimensions
  | .wildcard _ | .bounded _ _ | .unknown => .wildcard true

theorem plain_of_isOpen {t : TypeExpr} (h : t.isOpen = true) : t.plain = .wildcard true := by
  cases t with
  | wildcard _ => rfl
  | bounded _ _ => rfl
  | unknown => rfl
  | _ => cases h

theorem erased_of_isOpen {t : TypeExpr} (h : t.isOpen = true) : t.erased = t := by
  cases t with
  | generic base args => cases h
  | array element dimensions => cases h
  | _ => rfl

/-- A plain type is printed as the erasure. -/
theorem text_plain (t : TypeExpr) : t.plain.text = t.erasure := by
  fun_induction plain t with
  | case3 base args ih => rw [erasure, ih]
  | case4 element dimensions ih => rw [text, erasure, ih]
  | _ => rfl

/-- A plain type has the erasure that names it. -/
theorem erasure_plain (t : TypeExpr) : t.plain.erasure = t.erasure := by
  fun_induction plain t with
  | case3 base args ih => rw [ih, erasure]
  | case4 element dimensions ih => rw [erasure, ih, erasure]
  | _ => rfl

/-- No part of the type is generic. -/
def GenericFree : TypeExpr → Prop
  | .generic _ _ => False
  | .array element _ => element.GenericFree
  | .bounded _ bound => bound.GenericFree
  | .basic _ | .declared _ | .wildcard _ | .unknown => True

theorem genericFree_plain (t : TypeExpr) : t.plain.GenericFree := by
  fun_induction plain t with
  | case3 base args ih => exact ih
  | case4 element dimensions ih => exact ih
  | _ => trivial

theorem WellFormed.isBare_plain {t : TypeExpr} (h : WellFormed t)
    (hkind : t.isBare = true ∨ t.isGeneric = true) : t.plain.isBare = true := by
  cases h with
  | basic _ => rfl
  | declared _ _ => rfl
  | @generic base args _ hbare _ _ =>
    cases base with
    | basic _ => rfl
    | declared _ => rfl
    | _ => cases hbare
  | _ => simp [isBare, isGeneric] at hkind

theorem WellFormed.plain {t : TypeExpr} (h : WellFormed t) : WellFormed t.plain := by
  induction h with
  | basic h => exact .basic h
  | declared hname h => exact .declared hname h
  | generic _ _ _ _ ih _ => exact ih
  | array helement hkind hdimensions ih =>
    exact .array ih (.inl (helement.isBare_plain hkind)) hdimensions
  | wildcard => exact .wildcard
  | bounded _ _ => exact .wildcard
  | unknown => exact .wildcard

/-- The erasure of a type that can be written can be read. -/
theorem WellFormed.parse_erasure {t : TypeExpr} (h : WellFormed t) :
    parse t.erasure = .ok t.plain := by
  rw [← text_plain]
  exact h.plain.parse_text

theorem WellFormed.plain_eq_of_erasure_eq {t u : TypeExpr} (ht : WellFormed t) (hu : WellFormed u)
    (heq : t.erasure = u.erasure) : t.plain = u.plain := by
  have h : parse t.erasure = .ok u.plain := heq ▸ hu.parse_erasure
  exact Except.ok.inj (ht.parse_erasure.symm.trans h)

/-! ## Regular types -/

/-- A type that can be written, and in which generic types have declared types as their bases, except
in type arguments and in the bounds of wildcards. -/
structure Regular (t : TypeExpr) : Prop where
  wellFormed : WellFormed t
  declaredBases : t.DeclaredBases

theorem regular_of_parse {t : TypeExpr} (h : ∃ s, parse s = .ok t) (hbases : t.NoBasicBase) :
    t.Regular :=
  have hwell := exists_parse_iff_wellFormed.1 h
  ⟨hwell, hwell.declaredBases hbases⟩

/-- No array of a type that can be written has elements of an open type. -/
theorem WellFormed.isOpen_element {element : TypeExpr} {dimensions : Dimensions}
    (h : WellFormed (.array element dimensions)) : element.isOpen = false := by
  cases h with
  | array _ hkind _ =>
    cases element with
    | wildcard _ => simp [isBare, isGeneric] at hkind
    | bounded _ _ => simp [isBare, isGeneric] at hkind
    | unknown => simp [isBare, isGeneric] at hkind
    | _ => rfl

theorem Regular.element {element : TypeExpr} {dimensions : Dimensions}
    (h : (TypeExpr.array element dimensions).Regular) : element.Regular := by
  refine ⟨?_, h.declaredBases⟩
  cases h.wellFormed with
  | array helement _ _ => exact helement

/-- Only open types are named differently by their erasure than by themselves without generic
arguments. -/
theorem Regular.plain_eq_erased {t : TypeExpr} (h : t.Regular) (hopen : t.isOpen = false) :
    t.plain = t.erased := by
  fun_induction TypeExpr.plain t with
  | case1 name => rfl
  | case2 name => rfl
  | case3 base args ih =>
    obtain ⟨name, rfl⟩ := h.declaredBases
    rfl
  | case4 element dimensions ih => rw [erased, ih h.element h.wellFormed.isOpen_element]
  | _ => cases hopen

theorem DeclaredBases.isOpen_erased {t : TypeExpr} (h : t.DeclaredBases) :
    t.erased.isOpen = t.isOpen := by
  cases t with
  | generic base args =>
    obtain ⟨name, rfl⟩ := h
    rfl
  | _ => rfl

/-! ## One dimension less -/

theorem Regular.withoutDimension {t u : TypeExpr} (h : t.Regular)
    (hu : t.withoutDimension = some u) : u.Regular := by
  cases t with
  | array element dimensions =>
    rw [TypeExpr.withoutDimension, Option.some.injEq] at hu
    subst hu
    split_ifs with hmany
    · obtain ⟨hwell, hbases⟩ := h
      cases hwell with
      | array helement hkind _ => 
        exact ⟨.array helement hkind (Dimensions.one_le_sub_one hmany), hbases⟩
    · exact h.element
  | _ => cases hu

/-- A dimension may be taken away before or after generic arguments are. -/
theorem Regular.withoutDimension_plain {t : TypeExpr} (h : t.Regular) :
    t.plain.withoutDimension = t.withoutDimension.map TypeExpr.plain := by
  cases t with
  | generic base args =>
    obtain ⟨name, rfl⟩ := h.declaredBases
    rfl
  | array element dimensions =>
    rw [TypeExpr.plain, TypeExpr.withoutDimension, TypeExpr.withoutDimension, Option.map_some]
    split_ifs <;> rfl
  | _ => rfl

end Referent.TypeExpr
