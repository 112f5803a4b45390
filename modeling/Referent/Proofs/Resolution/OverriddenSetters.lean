import Referent.Proofs.Resolution.Candidates
import Referent.Proofs.TypeStore.VisibleMembers

/-!
# Overridden setters

A class without a name reports each member that can be seen. Of a name it reports methods from
several steps, and a step leaves out what it does not want before repeated parameters are passed
over. One step asks for something that methods with the same parameters need not share: the setters
of a read return nothing. If the setter that can be seen does return something, the step goes on to
one that it overrides.

Results:
* `exists_visible_of_first`: the first method of a step can be seen, or is overridden by one that the
  step leaves out.
* `reported_visible_iff`: what is reported of a name is also reported without a name, except for
  overridden setters.
* `not_reported_visible`: an overridden setter is reported of its property.
-/

namespace Referent

universe u

variable {σ : Type u}

namespace TypeSystem

/-- The method is a setter that a read of the name reports, as it returns nothing, and the type sees
another in its place that returns something. -/
def OverriddenSetter (ts : TypeSystem) (type : String) (usage : Usage) (name : String)
    (m : Member) : Prop :=
  usage = .read ∧ Property.isSetter name = false ∧
    m.name = Property.setter (Property.base name) ∧ m.type.isVoid = true ∧
    ∃ m' ∈ ts.visibleMembers type, overrideKey m' = overrideKey m ∧ m'.type.isVoid = false

theorem eq_of_overrideKey_eq {ts : TypeSystem} {type : String} {m m' : Member}
    (hm : m ∈ ts.visibleMembers type) (hm' : m' ∈ ts.visibleMembers type)
    (hkey : overrideKey m = overrideKey m') : m = m' := by
  rw [visibleMembers_eq_distinctBy] at hm hm'
  exact List.inj_on_of_nodup_map (nodup_map_distinctBy overrideKey _) hm hm' hkey

end TypeSystem

/-! ## Steps -/

namespace Step

/-- The step keeps a method according to its parameters alone. -/
def KeepsByKey (step : Step) : Prop :=
  ∀ m m' : Member, m.key = m'.key → step.keeps m = step.keeps m'

theorem keepsByKey_all (name : String) : (all name).KeepsByKey := fun _ _ _ => rfl

theorem keepsByKey_arity (name : String) (n : ℕ) : (Step.mk name (·.arity == n)).KeepsByKey := by
  intro m m' hkey
  have hlength : m.arity = m'.arity := by
    have := congrArg (·.erasures.length) hkey
    simpa [Member.key, Member.parameterTypes, Member.arity] using this
  simp only [hlength]

end Step

theorem keepsByKey_of_mem_writeSteps {name : String} {step : Step} (h : step ∈ writeSteps name) :
    step.KeepsByKey := by
  unfold writeSteps at h
  split_ifs at h with hplain
  · rw [List.mem_singleton.1 h]
    exact Step.keepsByKey_all name
  · simp only [List.mem_cons, List.not_mem_nil, or_false] at h
    rcases h with rfl | rfl
    · exact Step.keepsByKey_all name
    · exact Step.keepsByKey_arity _ 1

/-- All steps of a read keep methods according to their parameters, except for the one that asks for
setters that return nothing. -/
theorem keepsByKey_of_mem_readSteps {name : String} {step : Step} (h : step ∈ readSteps name) :
    step.KeepsByKey ∨ Property.isSetter name = false ∧
      step = ⟨Property.setter (Property.base name), (·.type.isVoid)⟩ := by
  have hall {n : String} (h : step = .all n) : step.KeepsByKey := h ▸ Step.keepsByKey_all n
  unfold readSteps at h
  split_ifs at h with hempty hsetter hgetter
  · cases h
  · exact .inl (hall (List.mem_singleton.1 h))
  · simp only [List.mem_append, List.mem_cons, List.not_mem_nil, or_false] at h
    rcases h with (h | h) | h
    · exact .inl (hall h)
    · exact .inr ⟨by simpa using hsetter, h⟩
    · exact .inl (hall h)
  · simp only [List.mem_append, List.mem_cons, List.not_mem_nil, or_false] at h
    rcases h with ((h | h) | h) | h
    · exact .inl (hall h)
    · exact .inr ⟨by simpa using hsetter, h⟩
    · exact .inl (hall h)
    · exact .inl (hall h)

/-- Only one step of a reference looks at more than parameters. -/
theorem keepsByKey_of_mem_steps {reference : Reference} {name : String} {step : Step}
    (h : step ∈ reference.steps name) :
    step.KeepsByKey ∨ reference.usage = .read ∧ Property.isSetter name = false ∧
      step = ⟨Property.setter (Property.base name), (·.type.isVoid)⟩ := by
  unfold Reference.steps Reference.isWrite at h
  cases husage : reference.usage with
  | write =>
    rw [husage] at h
    exact .inl (keepsByKey_of_mem_writeSteps h)
  | read =>
    rw [husage] at h
    exact (keepsByKey_of_mem_readSteps h).imp_right fun h => ⟨rfl, h⟩

namespace TypeStore

open TypeSystem

variable {store : TypeStore} {type : String} {m : Member}

/-! ## The first method of a step -/

/-- The first method of a step with its parameters can be seen, or one with the same name and
parameters can be seen that the step leaves out. -/
theorem exists_visible_of_first {step : Step}
    (hfirst : (step.members store.system type).find? (·.key == m.key) = some m) :
    m.name = step.name ∧ step.keeps m = true ∧
      ∃ m' ∈ store.system.visibleMembers type, overrideKey m' = overrideKey m ∧
        (step.keeps m' = true → m' = m) := by
  have hmem : m ∈ step.members store.system type := List.mem_of_find?_eq_some hfirst
  obtain ⟨hnamed, hkeeps⟩ := List.mem_filter.1 hmem
  obtain ⟨hmethod, hname⟩ := mem_methodsNamed.1 hnamed
  obtain ⟨m', hm', hkey⟩ := exists_mem_distinctBy Member.key hnamed
  have hnamed' : m' ∈ store.system.methodsNamed type step.name := mem_of_mem_distinctBy hm'
  obtain ⟨hmethod', hname'⟩ := mem_methodsNamed.1 hnamed'
  have hvisible : m' ∈ store.system.visibleMembers type := by
    rw [← filter_visibleMembers] at hm'
    exact (List.mem_filter.1 hm').1
  refine ⟨hname, hkeeps, m', hvisible,
    (overrideKey_eq_iff (hname'.trans hname.symm) (hmethod'.1.trans hmethod.1.symm)).2 hkey,
    fun hkeeps' => ?_⟩
  have hfirst' := find?_of_mem_distinctBy Member.key hm'
  rw [hkey] at hfirst'
  rw [Step.members, List.find?_filter] at hfirst
  have hfound := find?_of_imp (q := fun n => decide (step.keeps n = true ∧ (n.key == m.key) = true))
    hfirst' (by simp [hkeeps', hkey]) (by simp)
  exact Option.some.inj (hfound.symm.trans hfirst)

/-! ## Members of a name among all members -/

/-- What a reference may denote under a name can be seen, unless it is an overridden setter. -/
theorem mem_visibleMembers_iff {reference : Reference} {name : String}
    (hm : m ∈ distinctBy Member.key (store.system.sequence type name reference.usage)) :
    m ∈ store.system.visibleMembers type ↔
      ¬store.system.OverriddenSetter type reference.usage name m := by
  constructor
  · rintro hvisible ⟨-, -, -, hvoid, m', hm', hkey, hvoid'⟩
    rw [eq_of_overrideKey_eq hm' hvisible hkey, hvoid] at hvoid'
    cases hvoid'
  · intro hnot
    have hfirst := find?_of_mem_distinctBy Member.key hm
    rw [← flatMap_steps, List.find?_flatMap] at hfirst
    obtain ⟨step, hstep, hfirst⟩ := List.exists_of_findSome?_eq_some hfirst
    obtain ⟨hname, hkeeps, m', hm', hkey, heq⟩ := exists_visible_of_first hfirst
    cases hkeeps' : step.keeps m' with
    | true => exact heq hkeeps' ▸ hm'
    | false =>
      -- The step leaves out what can be seen, so that it looks at more than parameters.
      rcases keepsByKey_of_mem_steps hstep with hbyKey | ⟨husage, hsetter, rfl⟩
      · have hsame : m'.key = m.key := congrArg OverrideKey.signature hkey
        rw [hbyKey m' m hsame, hkeeps] at hkeeps'
        cases hkeeps'
      · exact absurd ⟨husage, hsetter, hname, hkeeps, m', hm', hkey, hkeeps'⟩ hnot

/-- What a visitor that never stops is told of a name it is also told without a name, except for the
setters that a read reports and that are overridden by ones that return something. These it is not
told of. -/
theorem reported_visible_iff (store : TypeStore) (delegation : Delegation) (imports : Imports)
    (type : String) (reference : Reference) (name : String) {v : Visitor σ} (hv : v.NeverStops)
    (s : σ) :
    let r := store.resolver delegation imports
    ∀ m ∈ r.calls type reference (some name) v s,
      m ∈ r.calls type reference none v s ↔
        ¬store.system.OverriddenSetter type reference.usage name m := by
  intro r m hm
  rw [Resolver.calls_of_neverStops _ _ _ _ hv] at hm ⊢
  cases hclaimed : r.isClaimed type reference name with
  | true =>
    rw [Resolver.candidates_of_isClaimed _ _ _ _ hclaimed] at hm
    cases hm
  | false =>
    rw [Resolver.candidates_of_not_isClaimed _ _ _ _ hclaimed] at hm
    exact mem_visibleMembers_iff hm

/-! ## A setter that is overridden -/

/-- A setter that returns something, or nothing. -/
def setterOf (type : String) (returns : TypeExpr) : Member :=
  .method type "setFoo" [.single "v" (.declared "java.lang.String")] returns

/-- A script that overrides a setter of its base class, which returns nothing. -/
def setterStore (returns : TypeExpr) : TypeStore where
  decls := [
    { name := "a.Base", kind := .classType, superclass := none, interfaces := [],
      members := [setterOf "a.Base" .void] },
    { name := "a.Script", kind := .classType, superclass := some "a.Base", interfaces := [],
      members := [setterOf "a.Script" returns] }]

theorem ancestors_setterStore (returns : TypeExpr) :
    (setterStore returns).system.ancestors "a.Script" = ["a.Base"] := by cbv

/-- The script's setter is the only member that can be seen. -/
theorem visibleMembers_setterStore (returns : TypeExpr) :
    (setterStore returns).system.visibleMembers "a.Script" = [setterOf "a.Script" returns] := by
  rw [TypeSystem.visibleMembers, ancestors_setterStore]
  rfl

/-- If the script's setter returns nothing too, a read of `foo` is told of it and not of the one that
it overrides. -/
theorem reported_visible_iff_foo :
    let r := (setterStore .void).resolver .none .empty
    let m := setterOf "a.Script" .void
    (collect none).NeverStops ∧ m ∈ r.calls "a.Script" (.read "foo") (some "foo") (collect none) [] ∧
      ¬r.system.OverriddenSetter "a.Script" .read "foo" m ∧
      m ∈ r.calls "a.Script" (.read "foo") none (collect none) [] := by
  intro r m
  have hv : (collect none).NeverStops := fun _ _ => rfl
  have hcalls : r.calls "a.Script" (.read "foo") (some "foo") (collect none) [] = [m] := by
    rw [r.calls_of_neverStops _ _ _ hv, r.candidates_of_not_isClaimed _ _ _ (by rfl)]
    simp only [r, resolver, TypeSystem.sequence, TypeSystem.readSequence, TypeSystem.methodsNamed,
      ancestors_setterStore]
    rfl
  have hm : m ∈ r.calls "a.Script" (.read "foo") (some "foo") (collect none) [] := by
    rw [hcalls]
    exact List.mem_singleton_self m
  have hnot : ¬r.system.OverriddenSetter "a.Script" .read "foo" m := by
    rintro ⟨-, -, -, -, m', hm', -, hvoid⟩
    have hvisible : r.system.visibleMembers "a.Script" = [m] := visibleMembers_setterStore .void
    rw [hvisible, List.mem_singleton] at hm'
    rw [hm'] at hvoid
    cases hvoid
  exact ⟨hv, hm, hnot,
    (reported_visible_iff (setterStore .void) .none .empty _ _ _ hv [] m hm).2 hnot⟩

/-- If the script's setter returns the script, a read of `foo` is told of the one that it
overrides. -/
theorem not_reported_visible :
    ¬∀ (store : TypeStore) (type : String) (reference : Reference) (name : String) (m : Member),
      store.Reachable → name ≠ "" →
      m ∈ (store.resolver .none .empty).calls type reference (some name) (collect none) [] →
      m ∈ (store.resolver .none .empty).calls type reference none (collect none) [] := by
  intro hall
  let store := setterStore (.declared "a.Script")
  let r := store.resolver .none .empty
  have hreachable : store.Reachable := ⟨store.decls, by rfl⟩
  have hv : (collect none).NeverStops := fun _ _ => rfl
  have hcalls : r.calls "a.Script" (.read "foo") (some "foo") (collect none) [] =
      [setterOf "a.Base" .void] := by
    rw [r.calls_of_neverStops _ _ _ hv, r.candidates_of_not_isClaimed _ _ _ (by rfl)]
    simp only [r, store, resolver, TypeSystem.sequence, TypeSystem.readSequence,
      TypeSystem.methodsNamed, ancestors_setterStore]
    rfl
  have hvisible : r.calls "a.Script" (.read "foo") none (collect none) [] =
      [setterOf "a.Script" (.declared "a.Script")] := by
    rw [r.calls_of_neverStops _ _ _ hv]
    exact visibleMembers_setterStore _
  have hm := hall store "a.Script" (.read "foo") "foo" (setterOf "a.Base" .void) hreachable
    (by decide) (by rw [hcalls]; exact List.mem_singleton_self _)
  rw [hvisible, List.mem_singleton] at hm
  exact absurd hm (by decide)

end TypeStore

end Referent
