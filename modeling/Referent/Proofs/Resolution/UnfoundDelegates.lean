import Referent.Proofs.Resolution.Deferral

/-!
# Delegates whose type is not found

A closure whose delegate is of a type that cannot be found is documented to count as one without a
delegate. The nearest delegate is chosen before its type is looked up, however, so one that is not
found hides those of the closures further out.

Results:
* `process_onlyFound`: leaving out the delegates that are not found changes nothing, unless the
  nearest one is left out and the call is then deferred to one further out.
* `not_process_onlyFound`: in that case it does change the outcome.
-/

namespace Referent

universe u

variable {σ : Type u}

/-! ## Choosing the first value of a kind -/

section

variable {α β : Type} {f : α → Option β} {p : β → Bool} {l : List α}

theorem findSome?_filter_of_some {b : β} (h : l.findSome? f = some b) (hb : p b = true) :
    l.findSome? (fun a => (f a).filter p) = some b := by
  obtain ⟨before, a, after, hl, ha, hbefore⟩ := List.findSome?_eq_some_iff.1 h
  refine List.findSome?_eq_some_iff.2 ⟨before, a, after, hl, ?_, fun x hx => ?_⟩
  · rw [ha, Option.filter_some, if_pos hb]
  · rw [hbefore x hx, Option.filter_none]

theorem findSome?_filter_of_none (h : l.findSome? f = none) :
    l.findSome? (fun a => (f a).filter p) = none := by
  rw [List.findSome?_eq_none_iff] at h ⊢
  intro a ha
  rw [h a ha, Option.filter_none]

end

/-! ## Leaving delegates out -/

namespace Resolver

/-- The resolver with those delegates only whose type can be found. -/
def onlyFound (r : Resolver) : Resolver :=
  { r with
    delegation := fun closure => (r.delegation closure).filter (r.delegateType? · |>.isSome) }

/-- The resolver under which no closure has a delegate. -/
def undelegated (r : Resolver) : Resolver :=
  { r with delegation := .none }

/-- The nearest closure with a delegate has one of a type that cannot be found. -/
def NearestUnfound (r : Resolver) (reference : Reference) : Prop :=
  ∃ delegate, r.IsNearest reference delegate ∧ r.delegateType? delegate = none

variable {r r' : Resolver} {type : String} {reference : Reference}

/-- The nearest delegate stays the nearest if its type can be found. -/
theorem nearestDelegate?_onlyFound (h : ¬r.NearestUnfound reference) :
    r.onlyFound.nearestDelegate? reference = r.nearestDelegate? reference := by
  cases hnearest : r.nearestDelegate? reference with
  | none => exact findSome?_filter_of_none hnearest
  | some delegate =>
    have hfound : (r.delegateType? delegate).isSome = true := by
      rw [Option.isSome_iff_ne_none]
      exact fun hnone => h ⟨delegate, nearestDelegate?_eq_some_iff.1 hnearest, hnone⟩
    exact findSome?_filter_of_some hnearest hfound

/-- Of all delegates only the nearest has a say. -/
theorem isClaimed_congr {name : String} (hsystem : r.system = r'.system)
    (himports : r.imports = r'.imports)
    (hnearest : r.nearestDelegate? reference = r'.nearestDelegate? reference) :
    r.isClaimed type reference name = r'.isClaimed type reference name := by
  unfold isClaimed delegateType?
  rw [hsystem, himports, hnearest]

theorem isClaimed_of_nearestUnfound {name : String} (h : r.NearestUnfound reference) :
    r.isClaimed type reference name = false := by
  obtain ⟨delegate, hnearest, hunfound⟩ := h
  rw [← Bool.not_eq_true, isClaimed_iff]
  rintro ⟨-, delegate', d, call, hnearest', -, hfound, -⟩
  rw [← nearestDelegate?_eq_some_iff, hnearest', Option.some.injEq] at hnearest
  rw [hnearest, hunfound] at hfound
  cases hfound

variable (r r')

/-- Delegates matter to a resolution only by claiming the reference. -/
theorem process_congr {name : Option String} (hsystem : r.system = r'.system)
    (hclaim : ∀ n, name = some n →
      r.isClaimed type reference n = r'.isClaimed type reference n) (v : Visitor σ) (s : σ) :
    r.process type reference name v s = r'.process type reference name v s ∧
      r.calls type reference name v s = r'.calls type reference name v s :=
  process_congr_candidates (candidates_congr hsystem rfl hclaim) v s

variable (type reference)

/-- Leaving out the delegates that are not found changes neither the outcome nor the calls of the
visitor nor its state, unless the nearest delegate is one of them and the call is then deferred to
one further out. In any case, a nearest delegate that is not found lets the reference be resolved
as if no closure had a delegate. -/
theorem process_onlyFound (name : Option String) (v : Visitor σ) (s : σ) :
    (¬(r.NearestUnfound reference ∧
          ∃ n, name = some n ∧ r.onlyFound.isClaimed type reference n = true) →
      r.process type reference name v s = r.onlyFound.process type reference name v s ∧
        r.calls type reference name v s = r.onlyFound.calls type reference name v s) ∧
    (r.NearestUnfound reference →
      r.process type reference name v s = r.undelegated.process type reference name v s ∧
        r.calls type reference name v s = r.undelegated.calls type reference name v s) := by
  refine ⟨fun hvisible => process_congr r r.onlyFound rfl (fun n hn => ?_) v s,
    fun hunfound => process_congr r r.undelegated rfl (fun n _ => ?_) v s⟩
  · by_cases hunfound : r.NearestUnfound reference
    · -- Nothing is claimed on either side.
      have hfree : r.onlyFound.isClaimed type reference n = false := by
        rw [← Bool.not_eq_true]
        exact fun hclaimed => hvisible ⟨hunfound, n, hn, hclaimed⟩
      rw [isClaimed_of_nearestUnfound hunfound, hfree]
    · exact isClaimed_congr rfl rfl (nearestDelegate?_onlyFound hunfound).symm
  · rw [isClaimed_of_nearestUnfound hunfound]
    exact isClaimed_none.symm

end Resolver

namespace TypeStore

/-- A call `foo("...")` of the script in two closures. -/
def nestedCall : Reference :=
  ((Reference.call "foo" [.declared "java.lang.String"]).inside ⟨2, none⟩).inside ⟨1, none⟩

/-- The inner closure delegates to a type that is not declared, the outer one to the handler. -/
def nestedResolver : Resolver :=
  scriptStore.resolver (.explicit [(1, .ofType "a.Handler"), (2, .ofType "a.Missing")]) .empty

theorem nearestUnfound_nestedCall : nestedResolver.NearestUnfound nestedCall :=
  ⟨.ofType "a.Missing", ⟨[], ⟨2, none⟩, [⟨1, none⟩], rfl, by simp, rfl⟩, by rfl⟩

/-- In the inner closure alone, the delegate that is not found may be left out. In both closures
the call is the script's own, because the inner delegate hides the outer one. -/
theorem process_onlyFound_nested :
    let r := nestedResolver
    let single := (Reference.call "foo" [.declared "java.lang.String"]).inside ⟨2, none⟩
    ¬(r.NearestUnfound single ∧
        ∃ n, some "foo" = some n ∧ r.onlyFound.isClaimed "a.Script" single n = true) ∧
      r.process "a.Script" single (some "foo") (collect none) [] =
        r.onlyFound.process "a.Script" single (some "foo") (collect none) [] ∧
      r.NearestUnfound nestedCall ∧
      r.process "a.Script" nestedCall (some "foo") (collect none) [] =
        r.undelegated.process "a.Script" nestedCall (some "foo") (collect none) [] := by
  intro r single
  have hsingle : ¬(r.NearestUnfound single ∧
      ∃ n, some "foo" = some n ∧ r.onlyFound.isClaimed "a.Script" single n = true) := by
    rintro ⟨-, n, hn, hclaimed⟩
    cases hn
    exact Bool.false_ne_true hclaimed
  have hkept := r.process_onlyFound "a.Script" single (some "foo") (collect none) []
  have hhidden := r.process_onlyFound "a.Script" nestedCall (some "foo") (collect none) []
  exact ⟨hsingle, (hkept.1 hsingle).1, nearestUnfound_nestedCall,
    (hhidden.2 nearestUnfound_nestedCall).1⟩

/-- The call in both closures is resolved on the script. Once the inner delegate is left out, it is
deferred to the handler. -/
theorem not_process_onlyFound :
    ¬∀ (r : Resolver) (type : String) (reference : Reference) (name : Option String)
      (v : Visitor Collected) (s : Collected),
      r.process type reference name v s = r.onlyFound.process type reference name v s := by
  intro hall
  have hsame := hall nestedResolver "a.Script" nestedCall (some "foo") (collect none) []
  rw [Resolver.process_eq_visit, Resolver.process_eq_visit] at hsame
  have hclaimed : nestedResolver.onlyFound.isClaimed "a.Script" nestedCall "foo" = true := by
    let foo := Member.method "a.Handler" "foo" [.single "v" (.declared "java.lang.String")] .void
    have hnearest : nestedResolver.onlyFound.IsNearest nestedCall (.ofType "a.Handler") :=
      ⟨[⟨2, none⟩], ⟨1, none⟩, [], rfl, by simp; rfl, rfl⟩
    have hfoo : scriptStore.system.HasMethod "a.Handler" foo :=
      ⟨rfl, "a.Handler", .inl rfl, .head _⟩
    have hserves : scriptStore.system.Serves "foo" [.declared "java.lang.String"] foo :=
      .inl ⟨rfl, scriptStore.system.accepts_own_types (m := foo) rfl⟩
    exact isClaimed_iff_defers.2
      ⟨rfl, _, _, _, hnearest, by decide, rfl, by decide, rfl, by simp, foo, hfoo, hserves⟩
  have hdeferred : nestedResolver.onlyFound.candidates "a.Script" nestedCall (some "foo") = [] :=
    Resolver.candidates_of_isClaimed _ _ _ _ hclaimed
  have hown : nestedResolver.candidates "a.Script" nestedCall (some "foo") ≠ [] := by
    have hfree : nestedResolver.isClaimed "a.Script" nestedCall "foo" = false :=
      Resolver.isClaimed_of_nearestUnfound nearestUnfound_nestedCall
    have hfoo : Member.method "a.Script" "foo" [.single "v" (.basic "int")] .void ∈
        scriptStore.system.sequence "a.Script" "foo" .read :=
      mem_readSequence_iff.2
        ⟨⟨rfl, "a.Script", .inl rfl, .tail _ (.tail _ (.tail _ (.head _)))⟩, by decide, .inl rfl⟩
    rw [Resolver.candidates_of_not_isClaimed _ _ _ _ hfree, ← List.isEmpty_eq_false_iff,
      isEmpty_distinctBy, List.isEmpty_eq_false_iff_exists_mem]
    exact ⟨_, hfoo⟩
  rw [hdeferred] at hsame
  exact hown (by simpa using congrArg (·.1.resolved) hsame)

end TypeStore

end Referent
