import Referent.Proofs.Property
import Referent.Proofs.Resolution.Deferral

/-!
# Reading a property and reading its getter

A read of `foo` and a read of `getFoo` go through different steps. The first looks for `foo`, its
setters, `getFoo`, and `foo` once more, the second for the property that `getFoo` is cut down to,
its setters, and `getFoo`. They report the same if that property is `foo` again.

Results:
* `readSequence_of_plain`, `readSequence_getter`: what the two reads go through.
* `process_read_getter`: a visitor cannot tell the two reads apart.
-/

namespace Referent

open Property

universe u

variable {σ : Type u}

namespace TypeSystem

variable (ts : TypeSystem) (type : String) {property : String}

/-- The methods named like a property, its setters that return nothing, and its getters. -/
def propertySequence (property : String) : List Member :=
  ts.methodsNamed type property ++
    (ts.methodsNamed type (setter property)).filter (·.type.isVoid) ++
    ts.methodsNamed type (getter property)

/-- A read of the property goes through the methods of its name once more. -/
theorem readSequence_of_plain (hname : property ≠ "") (hget : isGetter property = false)
    (hset : isSetter property = false) :
    ts.readSequence type property =
      ts.propertySequence type property ++ ts.methodsNamed type property := by
  simp [readSequence, propertySequence, hname, hset, hget, base_of_not_isGetter hget]

/-- A read of the getter does not, if it gets back to the property. -/
theorem readSequence_getter (hname : property ≠ "") (hupper : ¬StartsUpper property) :
    ts.readSequence type (getter property) = ts.propertySequence type property := by
  have hget : isGetter (getter property) = true := isGetter_getter hname
  have hset : isSetter (getter property) = false := isSetter_of_isGetter hget
  have hbase : base (getter property) = property := (base_getter_iff hname).2 hupper
  have hempty : getter property ≠ "" := by
    intro h
    rw [h] at hget
    cases hget
  simp [readSequence, propertySequence, hempty, hset, hget, hbase]

theorem distinctBy_readSequence_getter (hname : property ≠ "") (hget : isGetter property = false)
    (hset : isSetter property = false) (hupper : ¬StartsUpper property) :
    distinctBy Member.key (ts.readSequence type property) =
      distinctBy Member.key (ts.readSequence type (getter property)) := by
  have hagain : ts.methodsNamed type property ⊆ ts.propertySequence type property := by
    intro m hm
    rw [propertySequence, List.append_assoc]
    exact List.mem_append_left _ hm
  rw [ts.readSequence_of_plain type hname hget hset, ts.readSequence_getter type hname hupper]
  exact distinctBy_append_of_subset hagain

end TypeSystem

namespace Resolver

/-- Without delegates, reading a property and reading its getter are the same to a visitor, with
every type system and wherever the two references stand. The property may be any name that is
neither a getter's nor a setter's and does not start with an upper-case letter. -/
theorem process_read_getter (ts : TypeSystem) (imports : Imports) (type : String)
    {property : String} (hname : property ≠ "") (hget : isGetter property = false)
    (hset : isSetter property = false) (hupper : ¬StartsUpper property)
    (reference reference' : Reference) (hread : reference.usage = .read)
    (hread' : reference'.usage = .read) (v : Visitor σ) (s : σ) :
    let r : Resolver := ⟨ts, .none, imports⟩
    r.process type reference (some property) v s =
        r.process type reference' (some (getter property)) v s ∧
      r.calls type reference (some property) v s =
        r.calls type reference' (some (getter property)) v s := by
  intro r
  apply process_congr_candidates
  rw [r.candidates_of_not_isClaimed _ _ _ isClaimed_none, hread,
    r.candidates_of_not_isClaimed _ _ _ isClaimed_none, hread']
  exact ts.distinctBy_readSequence_getter type hname hget hset hupper

end Resolver

namespace TypeStore

/-- A read of `foo` and one of `getFoo` on the script, by a visitor that counts and stops at a
setter. Both reads stop there, before the getter. -/
theorem process_read_getter_foo :
    let r : Resolver := ⟨scriptStore.system, .none, .empty⟩
    let v : Visitor ℕ := fun m n => (if m.name = "setFoo" then .stop else .proceed, n + 1)
    isGetter "foo" = false ∧ isSetter "foo" = false ∧ ¬StartsUpper "foo" ∧
      r.process "a.Script" (.read "foo") (some "foo") v 0 =
        r.process "a.Script" (.read "getFoo") (some "getFoo") v 0 ∧
      (r.calls "a.Script" (.read "getFoo") (some "getFoo") v 0).map (·.signature) =
        ["foo(int): void", "setFoo(java.lang.String): void"] := by
  intro r v
  have hget : isGetter "foo" = false := by rfl
  have hset : isSetter "foo" = false := by rfl
  have hupper : ¬StartsUpper "foo" := by
    rintro ⟨c, cs, h, hc⟩
    cases h
    cases hc
  obtain ⟨hprocess, hcalls⟩ :
      r.process "a.Script" (.read "foo") (some "foo") v 0 =
          r.process "a.Script" (.read "getFoo") (some "getFoo") v 0 ∧
        r.calls "a.Script" (.read "foo") (some "foo") v 0 =
          r.calls "a.Script" (.read "getFoo") (some "getFoo") v 0 :=
    Resolver.process_read_getter scriptStore.system .empty "a.Script" (by decide) hget hset hupper
      (.read "foo") (.read "getFoo") rfl rfl v 0
  have hcandidates : r.candidates "a.Script" (.read "foo") (some "foo") = [
      .method "a.Script" "foo" [.single "v" (.basic "int")] .void,
      .method "a.Script" "setFoo" [.single "v" (.declared "java.lang.String")] .void,
      .method "a.Script" "getFoo" [] (.declared "java.lang.String")] := by
    rw [r.candidates_of_not_isClaimed _ _ _ (by rfl)]
    exact distinctBy_sequence_foo
  refine ⟨hget, hset, hupper, hprocess, ?_⟩
  rw [← hcalls, Resolver.calls_eq_heard, hcandidates]
  rfl

end TypeStore

end Referent
