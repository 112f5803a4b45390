import Referent.Proofs.Assignability

/-!
# Subtyping by erasures

Subtyping does not look at generic arguments, so all that it sees of a type is in its erasure. Two
kinds of types are excepted. All wildcards and unknown types have the erasure `?`, but an open type
is seen as it is written (`isSubtype_of_isOpen_iff`). And a generic type on a primitive one is not
primitive, but the type that its erasure names is.

* `Erasable`: a type of neither kind that can be written.

Results:
* `isSubtype_congr_erasure`: erasable types with the same erasure can stand for each other.
* `erasure_determines_isSubtype`: the erasure of a type is read as a type without generic parts, and
  erasable types are subtypes exactly if their erasures name subtypes.
-/

namespace Referent

namespace TypeExpr

variable {t u : TypeExpr}

/-- A type that can be written and is not open, in which generic types have declared types as their
bases, except in type arguments. -/
structure Erasable (t : TypeExpr) : Prop extends Regular t where
  isOpen_eq : t.isOpen = false

theorem erasable_of_parse
    (h : (∃ text, parse text = .ok t) ∧ t.NoBasicBase ∧ t.isOpen = false) : t.Erasable :=
  ⟨regular_of_parse h.1 h.2.1, h.2.2⟩

theorem Erasable.plain_eq_erased (h : t.Erasable) : t.plain = t.erased :=
  h.toRegular.plain_eq_erased h.isOpen_eq

theorem Erasable.plain (h : t.Erasable) : t.plain.Erasable := by
  refine ⟨⟨h.wellFormed.plain, ?_⟩, ?_⟩
  · rw [h.plain_eq_erased]
    exact h.declaredBases.erased
  · rw [h.plain_eq_erased, h.declaredBases.isOpen_erased, h.isOpen_eq]

/-- The erasure tells the type without its generic arguments. -/
theorem Erasable.erased_eq_of_erasure_eq (ht : t.Erasable) (hu : u.Erasable)
    (heq : t.erasure = u.erasure) : t.erased = u.erased := by
  rw [← ht.plain_eq_erased, ← hu.plain_eq_erased]
  exact ht.wellFormed.plain_eq_of_erasure_eq hu.wellFormed heq

end TypeExpr

namespace TypeSystem

open TypeExpr (objectName)

variable {ts : TypeSystem} {a a' b b' : TypeExpr}

/-- Types with the same erasure can stand for each other on either side. -/
theorem isSubtype_congr_erasure (ha : a.Erasable) (ha' : a'.Erasable) (hb : b.Erasable)
    (hb' : b'.Erasable) (haeq : a.erasure = a'.erasure) (hbeq : b.erasure = b'.erasure) :
    ts.isSubtype a b = ts.isSubtype a' b' := by
  rw [Bool.eq_iff_iff, isSubtype_iff_below ha.declaredBases hb.declaredBases,
    isSubtype_iff_below ha'.declaredBases hb'.declaredBases, ha.erased_eq_of_erasure_eq ha' haeq,
    hb.erased_eq_of_erasure_eq hb' hbeq]

/-- The erasure of a type that can be written is itself read as a type, which has no generic parts
and has the same erasure. One type is a subtype of another exactly if the types that their erasures
name are, unless one of the two is open or has a generic type on a basic one, which may stand in
type arguments only. -/
theorem erasure_determines_isSubtype (ts : TypeSystem) :
    (∀ t, (∃ text, TypeExpr.parse text = .ok t) →
      TypeExpr.parse t.erasure = .ok t.plain ∧ t.plain.GenericFree ∧
        t.plain.erasure = t.erasure) ∧
      ∀ a b, ((∃ text, TypeExpr.parse text = .ok a) ∧ a.NoBasicBase ∧ a.isOpen = false) →
        ((∃ text, TypeExpr.parse text = .ok b) ∧ b.NoBasicBase ∧ b.isOpen = false) →
        ts.isSubtype a b = ts.isSubtype a.plain b.plain := by
  constructor
  · intro t ht
    have hwell : t.WellFormed := TypeExpr.exists_parse_iff_wellFormed.1 ht
    exact ⟨hwell.parse_erasure, t.genericFree_plain, t.erasure_plain⟩
  · intro a b ha hb
    have ha' := TypeExpr.erasable_of_parse ha
    have hb' := TypeExpr.erasable_of_parse hb
    exact isSubtype_congr_erasure ha' ha'.plain hb' hb'.plain a.erasure_plain.symm
      b.erasure_plain.symm

/-- Two wildcards share the erasure `?`, but neither is seen as the other. -/
example :
    let a : TypeExpr := .bounded true (.declared "T")
    let b : TypeExpr := .wildcard true
    a.erasure = b.erasure ∧ empty.isSubtype a b = false := by
  decide +kernel

/-- `int<T>` is an object, but `int` is not. -/
example :
    let a : TypeExpr := .generic (.basic "int") [.declared "T"]
    let object : TypeExpr := .declared objectName
    a.erasure = "int" ∧ empty.isSubtype a object = true ∧
      empty.isSubtype (.basic "int") object = false := by
  decide +kernel

end TypeSystem

namespace TypeStore

/-- Arrays of scripts are arrays of base classes, whatever the arguments of the two are. -/
theorem erasure_determines_isSubtype_script :
    let ts := scriptStore.system
    let a : TypeExpr := .array (.generic (.declared "a.Script") [.declared "T"]) 1
    let b : TypeExpr := .array (.generic (.declared "a.Base") [.bounded false (.declared "T")]) 1
    ((∃ text, TypeExpr.parse text = .ok a) ∧ a.NoBasicBase ∧ a.isOpen = false) ∧
      ((∃ text, TypeExpr.parse text = .ok b) ∧ b.NoBasicBase ∧ b.isOpen = false) ∧
      TypeExpr.parse "a.Script[]" = .ok (.array (.declared "a.Script") 1) ∧
      TypeExpr.parse "a.Base[]" = .ok (.array (.declared "a.Base") 1) ∧
      ts.isSubtype (.array (.declared "a.Script") 1) (.array (.declared "a.Base") 1) = true ∧
      ts.isSubtype a b = true := by
  intro ts a b
  have hscript : TypeExpr.WellFormed (.declared "a.Script") :=
    TypeExpr.wellFormed_declared_iff.2 (by decide +kernel)
  have hbase : TypeExpr.WellFormed (.declared "a.Base") :=
    TypeExpr.wellFormed_declared_iff.2 (by decide +kernel)
  have hargument : TypeExpr.WellFormed (.declared "T") :=
    TypeExpr.wellFormed_declared_iff.2 (by decide +kernel)
  have ha : TypeExpr.WellFormed a :=
    .array (.generic hscript rfl (by simp) (by simpa using hargument)) (.inr rfl) (by decide)
  have hb : TypeExpr.WellFormed b :=
    .array (.generic hbase rfl (by simp) (by simpa using .bounded hargument)) (.inr rfl) (by decide)
  have habases : a.NoBasicBase := fun name h => by cases h
  have hbbases : b.NoBasicBase := fun name h => by cases h
  have ha' : (∃ text, TypeExpr.parse text = .ok a) ∧ a.NoBasicBase ∧ a.isOpen = false :=
    ⟨⟨_, ha.parse_text⟩, habases, rfl⟩
  have hb' : (∃ text, TypeExpr.parse text = .ok b) ∧ b.NoBasicBase ∧ b.isOpen = false :=
    ⟨⟨_, hb.parse_text⟩, hbbases, rfl⟩
  have hplain : ts.isSubtype a.plain b.plain = true :=
    (TypeSystem.isSubtype_iff_below (a := a.plain) (b := b.plain) trivial trivial).2
      (.array rfl (.inheritance inherits_scriptStore))
  obtain ⟨herasure, hsubtype⟩ := ts.erasure_determines_isSubtype
  exact ⟨ha', hb', (herasure a ha'.1).1, (herasure b hb'.1).1, hplain,
    (hsubtype a b ha' hb').trans hplain⟩

end TypeStore

end Referent
