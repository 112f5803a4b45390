import Referent.Proofs.Acceptance
import Referent.Proofs.TypeExpr.Erased
import Referent.Proofs.TypeStore.Inheritance

/-!
# The order of types

Types without generic arguments are ordered by five rules: identity, the top class, widening,
inheritance and covariance of arrays. The rules compose, since nothing but the top class is above it
and since nothing but primitive types is above a primitive type. Any other type is a subtype by its
erased type.

Results:
* `isSubtype_iff_below`: subtyping is the order of the erased types.
* `Below.trans`, `Below.antisymm`: that order is transitive, and antisymmetric without cycles.
* `isSubtype_preorder`: subtyping in a store is reflexive and transitive, and types that are
  subtypes of each other have one erasure if the hierarchy has no cycle.
-/

namespace Referent

/-! ## Widening -/

namespace Boxing

open TypeExpr (primitiveNames)

variable {a b c : String}

theorem mem_primitiveNames_of_widens (h : widens a b = true) : a ∈ primitiveNames := by
  unfold widens wider at h
  split at h
  case h_7 => cases h
  all_goals decide

/-- What a primitive type is widened to is a primitive type, another one, and can be widened no
further than the first. -/
theorem wider_primitive :
    ∀ a ∈ primitiveNames, ∀ b ∈ wider a, b ∈ primitiveNames ∧ b ≠ a ∧ wider b ⊆ wider a := by
  decide +kernel

theorem widens_spec (h : widens a b = true) :
    b ∈ primitiveNames ∧ b ≠ a ∧ wider b ⊆ wider a :=
  wider_primitive a (mem_primitiveNames_of_widens h) b (List.contains_iff_mem.1 h)

theorem widens_trans (hab : widens a b = true) (hbc : widens b c = true) : widens a c = true :=
  List.contains_iff_mem.2 ((widens_spec hab).2.2 (List.contains_iff_mem.1 hbc))

theorem not_widens_of_widens (hab : widens a b = true) : ¬widens b a = true :=
  fun hba => (widens_spec (widens_trans hab hba)).2.1 rfl

end Boxing

namespace TypeSystem

open TypeExpr (objectName)

variable {ts : TypeSystem} {a b c : TypeExpr}

/-! ## The rules -/

/-- A type without generic arguments is a subtype of another. -/
inductive Below (ts : TypeSystem) : TypeExpr → TypeExpr → Prop
  | refl (a : TypeExpr) : Below ts a a
  | object {a : TypeExpr} (h : a.isPrimitive = false) : Below ts a (.declared objectName)
  | widening {a b : String} (h : Boxing.widens a b = true) : Below ts (.basic a) (.basic b)
  | inheritance {a b : String} (h : ts.inherits a b = true) : Below ts (.declared a) (.declared b)
  | array {a b : TypeExpr} {n : Dimensions} (ha : a.isPrimitive = false) (h : Below ts a b) :
      Below ts (.array a n) (.array b n)

theorem below_array_iff {m n : Dimensions} :
    Below ts (.array a m) (.array b n) ↔
      m = n ∧ (a = b ∨ a.isPrimitive = false ∧ Below ts a b) := by
  constructor
  · rintro (_ | _ | _ | _ | ⟨ha, h⟩)
    · exact ⟨rfl, .inl rfl⟩
    · exact ⟨rfl, .inr ⟨ha, h⟩⟩
  · rintro ⟨rfl, rfl | ⟨ha, h⟩⟩
    · exact .refl _
    · exact .array ha h

/-- Above a primitive type there are primitive types only. -/
theorem Below.isPrimitive (h : Below ts a b) (ha : a.isPrimitive = true) :
    b.isPrimitive = true := by
  cases h with
  | refl _ => exact ha
  | object hobject =>
    rw [hobject] at ha
    cases ha
  | widening h => exact List.contains_iff_mem.2 (Boxing.widens_spec h).1
  | inheritance _ => cases ha
  | array _ _ => cases ha

/-- The order is transitive if inheritance is and the top class inherits from nothing. -/
theorem Below.trans (htop : ∀ b, ts.inherits objectName b = true → b = objectName)
    (htrans : ∀ a b c, ts.inherits a b = true → ts.inherits b c = true → ts.inherits a c = true)
    (hab : Below ts a b) (hbc : Below ts b c) : Below ts a c := by
  -- Which rules can end in the middle type depends on the rule that starts there.
  induction hbc generalizing a with
  | refl _ => exact hab
  | object hb =>
    refine .object ?_
    rw [← Bool.not_eq_true] at hb ⊢
    exact fun ha => hb (hab.isPrimitive ha)
  | widening hbc =>
    cases hab with
    | refl _ => exact .widening hbc
    | widening hab => exact .widening (Boxing.widens_trans hab hbc)
  | inheritance hbc =>
    cases hab with
    | refl _ => exact .inheritance hbc
    | object ha =>
      rw [htop _ hbc]
      exact .object ha
    | inheritance hab => exact .inheritance (htrans _ _ _ hab hbc)
  | array hb hbc ih =>
    cases hab with
    | refl _ => exact .array hb hbc
    | array ha hab => exact .array ha (ih hab)

/-- The order is antisymmetric if inheritance is and the top class inherits from nothing. -/
theorem Below.antisymm (htop : ∀ b, ts.inherits objectName b = true → b = objectName)
    (hanti : ∀ a b, ts.inherits a b = true → ts.inherits b a = true → a = b)
    (hab : Below ts a b) (hba : Below ts b a) : a = b := by
  induction hab with
  | refl _ => rfl
  | object _ =>
    cases hba with
    | refl _ => rfl
    | object _ => rfl
    | inheritance h => rw [htop _ h]
  | widening hab =>
    cases hba with
    | refl _ => rfl
    | widening hba => exact absurd hba (Boxing.not_widens_of_widens hab)
  | inheritance hab =>
    cases hba with
    | refl _ => rfl
    | object _ => rw [htop _ hab]
    | inheritance hba => rw [hanti _ _ hab hba]
  | array _ _ ih =>
    cases hba with
    | refl _ => rfl
    | array _ hba => rw [ih hba]

/-! ## Subtypes by erased types -/

/-- A rule for the erased types of types that are not generic applies to types of these kinds. -/
theorem Below.kinds (h : Below ts a.erased b.erased) (ha : ∀ base args, a ≠ .generic base args)
    (hb : ∀ base args, b ≠ .generic base args) :
    a = b ∨ b = .declared objectName ∨ (∃ x y, a = .basic x ∧ b = .basic y) ∨
      (∃ x y, a = .declared x ∧ b = .declared y) ∨ ∃ x m y n, a = .array x m ∧ b = .array y n := by
  generalize hx : a.erased = x at h
  generalize hy : b.erased = y at h
  cases h with
  | refl _ =>
    cases x with
    | array e n =>
      obtain ⟨e', rfl⟩ := TypeExpr.exists_array_of_erased ha hx
      obtain ⟨e'', rfl⟩ := TypeExpr.exists_array_of_erased hb hy
      exact .inr (.inr (.inr (.inr ⟨e', n, e'', n, rfl, rfl⟩)))
    | _ => exact .inl ((TypeExpr.eq_of_erased ha hx (by simp)).trans
        (TypeExpr.eq_of_erased hb hy (by simp)).symm)
  | object _ => exact .inr (.inl (TypeExpr.eq_of_erased hb hy (by simp)))
  | @widening x y _ =>
    exact .inr (.inr (.inl ⟨x, y, TypeExpr.eq_of_erased ha hx (by simp),
      TypeExpr.eq_of_erased hb hy (by simp)⟩))
  | @inheritance x y _ =>
    exact .inr (.inr (.inr (.inl ⟨x, y, TypeExpr.eq_of_erased ha hx (by simp),
      TypeExpr.eq_of_erased hb hy (by simp)⟩)))
  | @array _ _ n _ _ =>
    obtain ⟨e, rfl⟩ := TypeExpr.exists_array_of_erased ha hx
    obtain ⟨e', rfl⟩ := TypeExpr.exists_array_of_erased hb hy
    exact .inr (.inr (.inr (.inr ⟨e, n, e', n, rfl, rfl⟩)))

theorem below_array_erased_iff {m n : Dimensions} (ha : a.DeclaredBases) (hb : b.DeclaredBases) :
    Below ts (a.array m).erased (b.array n).erased ↔
      m = n ∧ (a = b ∨ a.isPrimitive = false ∧ Below ts a.erased b.erased) := by
  rw [TypeExpr.erased, TypeExpr.erased, below_array_iff, ha.isPrimitive_erased]
  refine and_congr_right fun _ => ⟨?_, ?_⟩
  · rintro (heq | h)
    · cases hprimitive : a.isPrimitive with
      | true => exact .inl (hb.eq_of_isPrimitive hprimitive heq)
      | false => exact .inr ⟨rfl, heq ▸ .refl _⟩
    · exact .inr h
  · rintro (rfl | h)
    · exact .inl rfl
    · exact .inr h

/-- One type is a subtype of another exactly if its erased type is below the other's. -/
theorem isSubtype_iff_below (ha : a.DeclaredBases) (hb : b.DeclaredBases) :
    ts.isSubtype a b = true ↔ Below ts a.erased b.erased := by
  induction a, b using isSubtype.induct with
  | case1 t => exact ⟨fun _ => .refl _, fun _ => ts.isSubtype_self t⟩
  | case2 a b hne hobject =>
    unfold isSubtype
    rw [if_neg hne, if_pos hobject, hb.isObject_iff.1 hobject, Bool.not_eq_true',
      ← ha.isPrimitive_erased]
    constructor
    · exact .object
    · intro h
      rw [← Bool.not_eq_true]
      exact fun hprimitive => Bool.false_ne_true (h.isPrimitive hprimitive)
  | case3 a b hobject hne =>
    rw [isSubtype, if_neg hne, if_neg hobject]
    constructor
    · exact .widening
    · rintro (_ | _ | h | _ | _)
      · exact absurd rfl hne
      · exact h
  | case4 a b hobject hne =>
    rw [isSubtype, if_neg hne, if_neg hobject]
    constructor
    · exact .inheritance
    · rintro (_ | _ | _ | h | _)
      · exact absurd rfl hne
      · exact absurd rfl hobject
      · exact h
  | case5 base args b hobject hne ih =>
    rw [isSubtype, if_neg hne, if_neg hobject]
    obtain ⟨name, rfl⟩ := ha
    exact ih trivial hb
  | case6 a base args ha' hobject hne ih =>
    rw [isSubtype, if_neg hne, if_neg hobject]
    · obtain ⟨name, rfl⟩ := hb
      exact ih ha trivial
    · exact ha'
  | case7 a m b n hobject hne ih =>
    rw [isSubtype, if_neg hne, if_neg hobject, Bool.and_eq_true, beq_iff_eq, Bool.or_eq_true,
      beq_iff_eq, Bool.and_eq_true, Bool.not_eq_true', ih ha hb]
    exact (below_array_erased_iff (a := a) (b := b) ha hb).symm
  | case8 a b hne hobject hgeneric hgeneric' hbasic hdeclared harray =>
    have hfalse : ts.isSubtype a b = false := by
      rw [isSubtype, if_neg hne, if_neg hobject] <;> assumption
    rw [hfalse, iff_false_left Bool.false_ne_true]
    intro h
    rcases h.kinds hgeneric hgeneric' with rfl | rfl | ⟨x, y, rfl, rfl⟩ | ⟨x, y, rfl, rfl⟩ |
      ⟨x, m, y, n, rfl, rfl⟩
    · exact hne rfl
    · exact hobject rfl
    · exact hbasic x y rfl rfl
    · exact hdeclared x y rfl rfl
    · exact harray x m y n rfl rfl

end TypeSystem

/-! ## Subtypes in a store -/

namespace TypeStore

open TypeExpr (objectName)

variable {s : TypeStore}

/-- The top class is not declared, or it is declared without supertypes. -/
def ObjectOnTop (s : TypeStore) : Prop :=
  ∀ d, s.find? objectName = some d → d.superclass = none ∧ d.interfaces = []

theorem ObjectOnTop.eq_of_inherits (htop : s.ObjectOnTop) {b : String}
    (h : s.system.inherits objectName b = true) : b = objectName := by
  rcases (inherits_iff.1 h).cases_head with heq | ⟨name, hname, -⟩
  · exact heq.symm
  · obtain ⟨d, hfind, hname⟩ := mem_supertypes_iff.1 hname
    obtain ⟨hsuperclass, hinterfaces⟩ := htop d hfind
    simp [TypeDecl.supertypes, hsuperclass, hinterfaces] at hname

/-- Subtyping in a store is reflexive and transitive on the types that can be written, whatever
cycles the hierarchy has, if the top class has no supertypes and no generic type has a basic one as
its base. Without cycles, two types that are subtypes of each other have the same erasure. -/
theorem isSubtype_preorder (htop : s.ObjectOnTop) {a b c : TypeExpr}
    (ha : (∃ text, TypeExpr.parse text = .ok a) ∧ a.NoBasicBase)
    (hb : (∃ text, TypeExpr.parse text = .ok b) ∧ b.NoBasicBase)
    (hc : (∃ text, TypeExpr.parse text = .ok c) ∧ c.NoBasicBase) :
    s.system.isSubtype a a = true ∧
      (s.system.isSubtype a b = true → s.system.isSubtype b c = true →
        s.system.isSubtype a c = true) ∧
      (s.hierarchy.Acyclic → s.system.isSubtype a b = true → s.system.isSubtype b a = true →
        a.erasure = b.erasure) := by
  have hdeclared {t : TypeExpr} (ht : (∃ text, TypeExpr.parse text = .ok t) ∧ t.NoBasicBase) :
      t.DeclaredBases := (TypeExpr.exists_parse_iff_wellFormed.1 ht.1).declaredBases ht.2
  have ha' := hdeclared ha
  have hb' := hdeclared hb
  have hc' := hdeclared hc
  refine ⟨s.system.isSubtype_self a, fun hab hbc => ?_, fun hacyclic hab hba => ?_⟩
  · rw [TypeSystem.isSubtype_iff_below ha' hb'] at hab
    rw [TypeSystem.isSubtype_iff_below hb' hc'] at hbc
    rw [TypeSystem.isSubtype_iff_below ha' hc']
    exact hab.trans (fun _ => htop.eq_of_inherits) (fun _ _ _ => inherits_trans) hbc
  · rw [TypeSystem.isSubtype_iff_below ha' hb'] at hab
    rw [TypeSystem.isSubtype_iff_below hb' ha'] at hba
    have heq : a.erased = b.erased :=
      hab.antisymm (fun _ => htop.eq_of_inherits) (fun _ _ => inherits_antisymm hacyclic) hba
    rw [← a.erasure_erased, heq, b.erasure_erased]

/-- The arguments of a generic class do not matter, and arrays of it are arrays of its base. -/
theorem isSubtype_preorder_scriptStore :
    let ts := scriptStore.system
    let a : TypeExpr := .array (.generic (.declared "a.Script") [.declared "T"]) 1
    let b : TypeExpr := .array (.declared "a.Script") 1
    let c : TypeExpr := .array (.declared "a.Base") 1
    ts.isSubtype a b = true ∧ ts.isSubtype b c = true ∧ ts.isSubtype a c = true ∧
      ts.isSubtype b a = true ∧ a.erasure = b.erasure := by
  intro ts a b c
  have htop : scriptStore.ObjectOnTop := by
    rintro d ⟨⟩
  have hscript : TypeExpr.WellFormed (.declared "a.Script") :=
    TypeExpr.wellFormed_declared_iff.2 (by decide +kernel)
  have hbase : TypeExpr.WellFormed (.declared "a.Base") :=
    TypeExpr.wellFormed_declared_iff.2 (by decide +kernel)
  have hargument : TypeExpr.WellFormed (.declared "T") :=
    TypeExpr.wellFormed_declared_iff.2 (by decide +kernel)
  have ha : TypeExpr.WellFormed a :=
    .array (.generic hscript rfl (by simp) (by simpa using hargument)) (.inr rfl) (by decide)
  have hb : TypeExpr.WellFormed b := .array hscript (.inl rfl) (by decide)
  have hc : TypeExpr.WellFormed c := .array hbase (.inl rfl) (by decide)
  have hbases : a.NoBasicBase := fun name h => by cases h
  have ha' : a.DeclaredBases := ha.declaredBases hbases
  have hb' : b.DeclaredBases := trivial
  have hc' : c.DeclaredBases := trivial
  have hab : ts.isSubtype a b = true := (TypeSystem.isSubtype_iff_below ha' hb').2 (.refl _)
  have hba : ts.isSubtype b a = true := (TypeSystem.isSubtype_iff_below hb' ha').2 (.refl _)
  have hbc : ts.isSubtype b c = true :=
    (TypeSystem.isSubtype_iff_below hb' hc').2 (.array rfl (.inheritance inherits_scriptStore))
  obtain ⟨-, htrans, hanti⟩ := isSubtype_preorder htop ⟨⟨_, ha.parse_text⟩, hbases⟩
    ⟨⟨_, hb.parse_text⟩, trivial⟩ ⟨⟨_, hc.parse_text⟩, trivial⟩
  exact ⟨hab, hbc, htrans hab hbc, hba, hanti acyclic_scriptStore hab hba⟩

end TypeStore

end Referent
