import Referent.Proofs.Acceptance
import Referent.Proofs.Resolution.Candidates

/-!
# Deferring a call to a delegate

Results:
* `serves?_primitive`, `delegateType?_primitive`: a primitive type stands for its wrapper class, as
  the receiver of a call and as a delegate.
* `isSome_serves?_iff`: a type serves a call exactly if one of its methods does.
* `isClaimed_iff_defers`: a delegate claims a reference exactly under the documented condition.
* `process_eq_of_defers`: a deferred call reports nothing, and any other reference resolves as if no
  closure had a delegate.
-/

namespace Referent

universe u

variable {σ : Type u}

/-! ## Serving a call -/

/-- The method serves a call of the name: under the name itself with the arguments, as a getter of
the property, or as a setter of the property that takes the argument. -/
def TypeSystem.Serves (ts : TypeSystem) (name : String) (args : List TypeExpr) (m : Member) :
    Prop :=
  (m.name = name ∧ ts.accepts m args = true) ∨
    (m.name ∈ Property.getters name ∧ m.isPropertyGetter = true) ∨
    (m.name ∈ Property.setters name ∧ ts.acceptsValue m args = true)

/-- A primitive type serves the calls that its wrapper class serves, and by the same convention. -/
theorem TypeSystem.serves?_primitive (ts : TypeSystem) {primitive wrapper : String}
    (hbox : (primitive, wrapper) ∈ Boxing.boxes) (name : String) (call : Call) :
    ts.serves? name call primitive = ts.serves? name call wrapper := by
  obtain ⟨hprimitive, hwrapper⟩ := Boxing.boxName_of_mem hbox
  unfold serves?
  rw [hprimitive, hwrapper]

theorem TypeSystem.isSome_serves? (ts : TypeSystem) (name : String) (call : Call)
    (receiver : String) :
    (ts.serves? name call receiver).isSome =
      (call.invoked.isSome &&
        (!(ts.methodsAccepting (Boxing.boxName receiver) name call.arguments).isEmpty ||
          ts.hasGetter (Boxing.boxName receiver) name ||
          ts.hasSetter (Boxing.boxName receiver) name call.arguments)) := by
  unfold TypeSystem.serves?
  dsimp only
  cases call.invoked with
  | none => rfl
  | some text =>
    rw [if_neg (by simp)]
    split_ifs with hmethod hgetter hsetter <;> simp [*]

namespace TypeStore

variable {store : TypeStore} {type name : String} {args : List TypeExpr}

theorem isEmpty_methodsAccepting_iff :
    (!(store.system.methodsAccepting type name args).isEmpty) = true ↔
      ∃ m, store.system.HasMethod type m ∧ m.name = name ∧ store.system.accepts m args = true := by
  rw [Bool.not_eq_true', List.isEmpty_eq_false_iff_exists_mem]
  refine exists_congr fun m => ?_
  rw [TypeSystem.methodsAccepting, List.mem_filter, mem_methodsNamed, and_assoc]

/-- Some method under one of the names passes a test. -/
theorem any_methodsNamed_iff {names : List String} {p : Member → Bool} :
    (names.any fun n => (store.system.methodsNamed type n).any p) = true ↔
      ∃ m, store.system.HasMethod type m ∧ m.name ∈ names ∧ p m = true := by
  simp only [List.any_eq_true, mem_methodsNamed]
  constructor
  · rintro ⟨n, hn, m, ⟨hm, rfl⟩, hp⟩
    exact ⟨m, hm, hn, hp⟩
  · rintro ⟨m, hm, hn, hp⟩
    exact ⟨m.name, hn, m, ⟨hm, rfl⟩, hp⟩

theorem hasGetter_iff :
    store.system.hasGetter type name = true ↔
      ∃ m, store.system.HasMethod type m ∧ m.name ∈ Property.getters name ∧
        m.isPropertyGetter = true :=
  any_methodsNamed_iff

theorem hasSetter_iff :
    store.system.hasSetter type name args = true ↔
      ∃ m, store.system.HasMethod type m ∧ m.name ∈ Property.setters name ∧
        store.system.acceptsValue m args = true :=
  any_methodsNamed_iff

/-- A call is served by one of the methods of the receiver, which counts as its wrapper class if it
is primitive. A malformed call is not served. -/
theorem isSome_serves?_iff {call : Call} {receiver : String} :
    (store.system.serves? name call receiver).isSome = true ↔
      call.invoked ≠ none ∧
        ∃ m, store.system.HasMethod (Boxing.boxName receiver) m ∧
          store.system.Serves name call.arguments m := by
  rw [TypeSystem.isSome_serves?, Bool.and_eq_true, Bool.or_eq_true, Bool.or_eq_true,
    isEmpty_methodsAccepting_iff, hasGetter_iff, hasSetter_iff, Option.isSome_iff_ne_none]
  unfold TypeSystem.Serves
  simp only [and_or_left, exists_or, or_assoc]

/-- The handler serves a call `foo("...")` by its method. -/
theorem isSome_serves?_foo :
    (scriptStore.system.serves? "foo" ⟨some "foo", [.declared "java.lang.String"]⟩
      "a.Handler").isSome = true := by
  let foo := Member.method "a.Handler" "foo" [.single "v" (.declared "java.lang.String")] .void
  have hfoo : scriptStore.system.HasMethod "a.Handler" foo := ⟨rfl, "a.Handler", .inl rfl, .head _⟩
  have hserves : scriptStore.system.Serves "foo" [.declared "java.lang.String"] foo :=
    .inl ⟨rfl, scriptStore.system.accepts_own_types (m := foo) rfl⟩
  exact isSome_serves?_iff.2 ⟨by simp, foo, hfoo, hserves⟩

end TypeStore

/-! ## The condition of deferral -/

namespace Resolver

/-- The delegate of the nearest closure that has one. -/
def IsNearest (r : Resolver) (reference : Reference) (delegate : Delegate) : Prop :=
  ∃ inner closure outer, reference.closures = inner ++ closure :: outer ∧
    (∀ c ∈ inner, r.delegation c = none) ∧ r.delegation closure = some delegate

/-- The text offers one declaration, the nearest delegate is to be asked, its type is declared and
another one than the class, and a method of that type serves the call. -/
def Defers (r : Resolver) (type : String) (reference : Reference) (name : String) : Prop :=
  reference.textualCandidates = 1 ∧
    ∃ delegate d call, r.IsNearest reference delegate ∧ delegate.strategy ≠ .ownerOnly ∧
      r.system.findType? r.imports (Boxing.boxName delegate.type) = some d ∧ d.name ≠ type ∧
      reference.parent = .methodCall call ∧ call.invoked ≠ none ∧
      ∃ m, r.system.HasMethod (Boxing.boxName d.name) m ∧
        r.system.Serves name call.arguments m

variable {r : Resolver} {type name : String} {reference : Reference}

/-- A delegate of a primitive type is looked up as one of the wrapper class. -/
theorem delegateType?_primitive (r : Resolver) {primitive wrapper : String}
    (hbox : (primitive, wrapper) ∈ Boxing.boxes) (strategy : Strategy) :
    r.delegateType? ⟨primitive, strategy⟩ = r.delegateType? ⟨wrapper, strategy⟩ := by
  obtain ⟨hprimitive, hwrapper⟩ := Boxing.boxName_of_mem hbox
  unfold delegateType?
  rw [hprimitive, hwrapper]

theorem nearestDelegate?_eq_some_iff {delegate : Delegate} :
    r.nearestDelegate? reference = some delegate ↔ r.IsNearest reference delegate := by
  unfold nearestDelegate? IsNearest
  rw [List.findSome?_eq_some_iff]
  constructor
  · rintro ⟨inner, closure, outer, hclosures, hdelegate, hinner⟩
    exact ⟨inner, closure, outer, hclosures, hinner, hdelegate⟩
  · rintro ⟨inner, closure, outer, hclosures, hinner, hdelegate⟩
    exact ⟨inner, closure, outer, hclosures, hdelegate, hinner⟩

theorem call?_eq_some_iff {call : Call} :
    reference.call? = some call ↔ reference.parent = .methodCall call := by
  unfold Reference.call?
  cases reference.parent with
  | methodCall c => simp
  | other => simp

theorem isClaimed_iff :
    r.isClaimed type reference name = true ↔
      reference.textualCandidates = 1 ∧
        ∃ delegate d call, r.nearestDelegate? reference = some delegate ∧
          delegate.strategy ≠ .ownerOnly ∧ r.delegateType? delegate = some d ∧ d.name ≠ type ∧
          reference.call? = some call ∧ (r.system.serves? name call d.name).isSome = true := by
  unfold isClaimed
  by_cases htext : reference.textualCandidates = 1
  · rw [if_neg (by simpa using htext)]
    cases hnearest : r.nearestDelegate? reference with
    | none => simp
    | some delegate =>
      by_cases hstrategy : delegate.strategy = .ownerOnly
      · simp [hstrategy, Strategy.consultsDelegate]
      · cases htype : r.delegateType? delegate with
        | none => simp [htype]
        | some d =>
          cases hcall : reference.call? with
          | none => simp [htype]
          | some call => simp [htext, htype, hstrategy, Strategy.consultsDelegate]
  · rw [if_pos htext]
    simp [htext]

theorem isClaimed_none {ts : TypeSystem} {imports : Imports} :
    isClaimed ⟨ts, .none, imports⟩ type reference name = false := by
  have hnone : nearestDelegate? ⟨ts, .none, imports⟩ reference = none :=
    List.findSome?_eq_none_iff.2 fun _ _ => rfl
  simp [isClaimed, hnone]

end Resolver

namespace TypeStore

variable {store : TypeStore} {delegation : Delegation} {imports : Imports} {type name : String}
  {reference : Reference}

theorem isClaimed_iff_defers :
    (store.resolver delegation imports).isClaimed type reference name = true ↔
      (store.resolver delegation imports).Defers type reference name := by
  rw [Resolver.isClaimed_iff]
  unfold Resolver.Defers
  refine and_congr_right fun _ => exists_congr fun delegate => exists_congr fun d =>
    exists_congr fun call => ?_
  rw [Resolver.nearestDelegate?_eq_some_iff, Resolver.call?_eq_some_iff]
  exact and_congr_right fun _ => and_congr_right fun _ => and_congr_right fun _ =>
    and_congr_right fun _ => and_congr_right fun _ => isSome_serves?_iff

variable (store delegation imports type reference name)

/-- A call that is deferred to a delegate reports nothing: the visitor is not called, and the search
goes on elsewhere. Any other reference is resolved as if no closure had a delegate. -/
theorem process_eq_of_defers (v : Visitor σ) (s : σ) :
    let r := store.resolver delegation imports
    let undelegated := store.resolver .none imports
    (r.Defers type reference name →
      r.process type reference (some name) v s = (⟨true, false⟩, s) ∧
        r.calls type reference (some name) v s = []) ∧
    (¬r.Defers type reference name →
      r.process type reference (some name) v s =
          undelegated.process type reference (some name) v s ∧
        r.calls type reference (some name) v s =
          undelegated.calls type reference (some name) v s) := by
  intro r undelegated
  refine ⟨fun hdefers => ?_, fun hdefers => ?_⟩
  · have hnone : r.candidates type reference (some name) = [] :=
      r.candidates_of_isClaimed _ _ _ (isClaimed_iff_defers.2 hdefers)
    rw [Resolver.process_eq_visit, Resolver.calls_eq_heard, hnone]
    exact ⟨rfl, rfl⟩
  · have hfree : r.isClaimed type reference name = false := by
      rw [← Bool.not_eq_true, isClaimed_iff_defers]
      exact hdefers
    have hsame : r.candidates type reference (some name) =
        undelegated.candidates type reference (some name) :=
      (r.candidates_of_not_isClaimed _ _ _ hfree).trans
        (undelegated.candidates_of_not_isClaimed _ _ _ Resolver.isClaimed_none).symm
    rw [Resolver.process_eq_visit, Resolver.calls_eq_heard, Resolver.process_eq_visit,
      Resolver.calls_eq_heard, hsame]
    exact ⟨rfl, rfl⟩

/-- A call `foo("...")` in a closure that delegates to the handler is deferred, although the script
has a method `foo` of its own. If `foo` is only read there, it is the script's. A call `intValue()`
in a closure that delegates to a number of type `int` is deferred to the wrapper class. -/
theorem process_eq_of_defers_foo :
    let r := scriptStore.resolver (.explicit [(1, .ofType "a.Handler")]) .empty
    let undelegated := scriptStore.resolver .none .empty
    let called := (Reference.call "foo" [.declared "java.lang.String"]).inside ⟨1, none⟩
    let read := (Reference.read "foo").inside ⟨1, none⟩
    let intValue := Member.method "java.lang.Integer" "intValue" [] (.basic "int")
    let numbers : TypeStore :=
      ⟨[.ofClass "a.Script", { TypeDecl.ofClass "java.lang.Integer" with members := [intValue] }]⟩
    let primitive := numbers.resolver (.explicit [(1, .ofType "int")]) .empty
    let converted := (Reference.call "intValue" []).inside ⟨1, none⟩
    (r.Defers "a.Script" called "foo" ∧
        r.process "a.Script" called (some "foo") (collect none) [] = (⟨true, false⟩, [])) ∧
      ¬r.Defers "a.Script" read "foo" ∧
        r.process "a.Script" read (some "foo") (collect none) [] =
          undelegated.process "a.Script" read (some "foo") (collect none) [] ∧
      primitive.Defers "a.Script" converted "intValue" ∧
        primitive.process "a.Script" converted (some "intValue") (collect none) [] =
          (⟨true, false⟩, []) := by
  intro r undelegated called read intValue numbers primitive converted
  have hdefers : r.Defers "a.Script" called "foo" := by
    let foo := Member.method "a.Handler" "foo" [.single "v" (.declared "java.lang.String")] .void
    have hnearest : r.IsNearest called (.ofType "a.Handler") :=
      ⟨[], ⟨1, none⟩, [], rfl, by simp, rfl⟩
    have hfoo : r.system.HasMethod "a.Handler" foo := ⟨rfl, "a.Handler", .inl rfl, .head _⟩
    have hserves : r.system.Serves "foo" [.declared "java.lang.String"] foo :=
      .inl ⟨rfl, r.system.accepts_own_types (m := foo) rfl⟩
    exact ⟨rfl, _, _, _, hnearest, by decide, rfl, by decide, rfl, by simp, foo, hfoo, hserves⟩
  have hfree : ¬r.Defers "a.Script" read "foo" := by
    rw [← isClaimed_iff_defers, Bool.not_eq_true]
    rfl
  have hprimitive : primitive.Defers "a.Script" converted "intValue" := by
    have hnearest : primitive.IsNearest converted (.ofType "int") :=
      ⟨[], ⟨1, none⟩, [], rfl, by simp, rfl⟩
    have hintValue : primitive.system.HasMethod "java.lang.Integer" intValue :=
      ⟨rfl, "java.lang.Integer", .inl rfl, .head _⟩
    have hserves : primitive.system.Serves "intValue" [] intValue := .inl ⟨rfl, rfl⟩
    exact ⟨rfl, _, _, _, hnearest, by decide, rfl, by decide, rfl, by simp, intValue, hintValue,
      hserves⟩
  have hcalled := process_eq_of_defers scriptStore (.explicit [(1, .ofType "a.Handler")]) .empty
    "a.Script" "foo" called (collect none) []
  have hread := process_eq_of_defers scriptStore (.explicit [(1, .ofType "a.Handler")]) .empty
    "a.Script" "foo" read (collect none) []
  have hconverted := process_eq_of_defers numbers (.explicit [(1, .ofType "int")]) .empty
    "a.Script" "intValue" converted (collect none) []
  exact ⟨⟨hdefers, (hcalled.1 hdefers).1⟩, hfree, (hread.2 hfree).1, hprimitive,
    (hconverted.1 hprimitive).1⟩

end TypeStore

end Referent
