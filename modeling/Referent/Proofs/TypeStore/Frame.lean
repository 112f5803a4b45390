import Referent.Proofs.Hierarchy.Reach
import Referent.Proofs.Resolution.Deferral
import Referent.Proofs.TypeStore.Runs

/-!
# Insertions out of sight

All that is asked about a type is answered by looking up the type and those that it inherits from.
An insertion changes one lookup, so it is not seen from a type unless it inserts that type or one
that is reached from it. What the inserted type itself lists as supertypes is of no matter.

Results:
* `SameAbove.ancestors`: where lookups agree, the same types are reached, in the same order.
* `SameAbove.methodsNamed`, `SameAbove.visibleMembers`, `SameAbove.process`: hence members and
  resolutions are the same.
* `sameAbove_append`: lookups agree from each type that does not reach the inserted one.
* `insert_frame`: what an insertion leaves as it was.
-/

namespace Referent.TypeStore

universe u

variable {σ : Type u} {s t : TypeStore} {type : String}

/-! ## What is seen from a type -/

/-- A lookup from the type gives the same in both stores: the type itself is looked up, or a type that
it inherits from in the first. -/
def SameAbove (s t : TypeStore) (type : String) : Prop :=
  ∀ owner, owner = type ∨ owner ∈ s.system.ancestors type → s.find? owner = t.find? owner

namespace SameAbove

variable (h : s.SameAbove t type)

include h

theorem supertypes {owner : String} (howner : owner = type ∨ owner ∈ s.system.ancestors type) :
    s.supertypes owner = t.supertypes owner := by
  rw [TypeStore.supertypes, TypeStore.supertypes, h owner howner]

theorem members {owner : String} (howner : owner = type ∨ owner ∈ s.system.ancestors type) :
    s.members owner = t.members owner := by
  rw [TypeStore.members, TypeStore.members, h owner howner]

/-- The same types are reached, and in the same order. -/
theorem ancestors : s.system.ancestors type = t.system.ancestors type :=
  Hierarchy.ancestors_congr (h.supertypes (.inl rfl)) fun _ howner => h.supertypes (.inr howner)

theorem declaredMethods {owner : String}
    (howner : owner = type ∨ owner ∈ s.system.ancestors type) (name : String) :
    s.system.declaredMethods owner name = t.system.declaredMethods owner name := by
  show ((s.members owner).filter _).filter _ = ((t.members owner).filter _).filter _
  rw [h.members howner]

theorem methodsNamed (name : String) :
    s.system.methodsNamed type name = t.system.methodsNamed type name := by
  have hinherited : (s.system.ancestors type).flatMap (s.system.declaredMethods · name) =
      (t.system.ancestors type).flatMap (t.system.declaredMethods · name) := by
    rw [← h.ancestors]
    exact List.flatMap_congr fun owner howner => h.declaredMethods (.inr howner) name
  rw [TypeSystem.methodsNamed, TypeSystem.methodsNamed, h.declaredMethods (.inl rfl), hinherited]

theorem visibleMembers : s.system.visibleMembers type = t.system.visibleMembers type := by
  have hmembers : (type :: s.system.ancestors type).flatMap s.members =
      (type :: t.system.ancestors type).flatMap t.members := by
    rw [← h.ancestors]
    exact List.flatMap_congr fun owner howner => h.members (List.mem_cons.1 howner)
  exact congrArg (TypeSystem.withoutOverridden []) hmembers

/-- A reference that no delegate can claim has the same candidates. -/
theorem candidates (imports : Imports) (reference : Reference) (name : Option String) :
    (s.resolver .none imports).candidates type reference name =
      (t.resolver .none imports).candidates type reference name := by
  cases name with
  | none => exact h.visibleMembers
  | some name =>
    have hsteps (step : Step) : step.members s.system type = step.members t.system type := by
      rw [Step.members, Step.members, h.methodsNamed]
    simp only [Resolver.candidates, resolver, Resolver.isClaimed_none, hsteps]

theorem process (imports : Imports) (reference : Reference) (name : Option String)
    (v : Visitor σ) (state : σ) :
    (s.resolver .none imports).process type reference name v state =
        (t.resolver .none imports).process type reference name v state ∧
      (s.resolver .none imports).calls type reference name v state =
        (t.resolver .none imports).calls type reference name v state :=
  Resolver.process_congr_candidates (h.candidates imports reference name) v state

end SameAbove

/-! ## One more type -/

theorem find?_append_of_ne {d : TypeDecl} {owner : String} (hne : owner ≠ d.name) :
    (s.append d).find? owner = s.find? owner := by
  have hother : (d.complete.name == owner) = false := beq_eq_false_iff_ne.2 hne.symm
  show (s.decls ++ [d.complete]).find? (·.name == owner) = s.decls.find? (·.name == owner)
  rw [List.find?_append, List.find?_cons_of_neg (by rw [hother]; exact Bool.false_ne_true),
    List.find?_nil, Option.or_none]

theorem sameAbove_append {d : TypeDecl} (hother : type ≠ d.name)
    (hunseen : d.name ∉ s.system.ancestors type) : s.SameAbove (s.append d) type := by
  rintro owner (rfl | howner)
  · exact (find?_append_of_ne hother).symm
  · exact (find?_append_of_ne (ne_of_mem_of_not_mem howner hunseen)).symm

/-- An insertion is seen from the inserted type and from those that inherit from a type of its name,
and from no others: a type keeps its ancestors with their order, its methods of every name, those that
it inherits and those that it declares, and its visible members. A resolution on it without delegates
calls the visitor with the same members and ends in the same way, whatever the imports, the reference,
the name, the visitor and its state are. -/
theorem insert_frame {d : TypeDecl} (hinsert : s.insert d = .ok t) (hother : type ≠ d.name)
    (hunseen : d.name ∉ s.system.ancestors type) :
    s.system.ancestors type = t.system.ancestors type ∧
      (∀ name, s.system.methodsNamed type name = t.system.methodsNamed type name ∧
        s.system.declaredMethods type name = t.system.declaredMethods type name) ∧
      s.system.visibleMembers type = t.system.visibleMembers type ∧
      ∀ (imports : Imports) (reference : Reference) (name : Option String) (v : Visitor σ) (state : σ),
        (s.resolver .none imports).process type reference name v state =
            (t.resolver .none imports).process type reference name v state ∧
          (s.resolver .none imports).calls type reference name v state =
            (t.resolver .none imports).calls type reference name v state := by
  obtain ⟨-, rfl⟩ := insert_eq_ok_iff_accepts.1 hinsert
  have hsame : s.SameAbove (s.append d) type := sameAbove_append hother hunseen
  refine ⟨hsame.ancestors, fun name => ?_, hsame.visibleMembers, hsame.process⟩
  exact ⟨hsame.methodsNamed name, hsame.declaredMethods (.inl rfl) name⟩

/-- A class below the script that also lists the script's base class and overrides its method. It
inherits from both, but the script does not see it. -/
theorem insert_frame_child :
    let child : TypeDecl :=
      { name := "a.Child", kind := .classType, superclass := some "a.Script", interfaces := ["a.Base"],
        members := [.method "a.Child" "foo" [.single "v" (.basic "int")] .void] }
    let t := scriptStore.append child
    let r := scriptStore.resolver .none .empty
    let r' := t.resolver .none .empty
    scriptStore.insert child = .ok t ∧ "a.Script" ≠ child.name ∧
      child.name ∉ scriptStore.system.ancestors "a.Script" ∧
      t.system.ancestors "a.Child" = ["a.Script", "a.Base"] ∧
      t.system.ancestors "a.Script" = ["a.Base"] ∧
      r'.process "a.Script" (.read "foo") (some "foo") (collect none) [] =
        r.process "a.Script" (.read "foo") (some "foo") (collect none) [] := by
  intro child t r r'
  have hinsert : scriptStore.insert child = .ok t := by rfl
  have hother : "a.Script" ≠ child.name := by decide
  have hunseen : child.name ∉ scriptStore.system.ancestors "a.Script" := by
    rw [ancestors_scriptStore]
    decide
  obtain ⟨hancestors, -, -, hprocess⟩ := insert_frame hinsert hother hunseen
  refine ⟨hinsert, hother, hunseen, by cbv, ?_, ?_⟩
  · rw [← hancestors]
    exact ancestors_scriptStore
  · exact (hprocess .empty (.read "foo") (some "foo") (collect none) []).1.symm

end Referent.TypeStore
