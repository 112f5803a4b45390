import Referent.Proofs.Resolution.Deferral

/-!
# Only the nearest delegate matters

The closures around a reference are searched from the inside for the first that has a delegate. Of
that delegate a resolution asks two things: the name of its type, and whether calls are left to it
at all. Nothing else about closures and delegates has a say.

Results:
* `isClaimed_congr_query`: a claim depends on the two answers alone.
* `findSome?_filter_isSome`, `findSome?_append_cons`: what the search for the delegate passes over.
* `resolveIn_nearest`: closures without a delegate, closures further out, and differences between
  strategies that ask the delegate change nothing.
-/

namespace Referent

universe u

variable {σ : Type u}

/-! ## What a resolution asks of a delegate -/

namespace Strategy

theorem consultsDelegate_eq_iff {a b : Strategy} :
    a.consultsDelegate = b.consultsDelegate ↔ (a = .ownerOnly ↔ b = .ownerOnly) := by
  cases a <;> cases b <;> decide

end Strategy

namespace Delegate

/-- The name of the delegate's type, and whether calls may be left to it. -/
def query (d : Delegate) : String × Bool :=
  (d.type, d.strategy.consultsDelegate)

theorem query_withStrategy {d : Delegate} {strategy : Strategy}
    (h : strategy = .ownerOnly ↔ d.strategy = .ownerOnly) :
    query { d with strategy } = d.query := by
  unfold query
  rw [Strategy.consultsDelegate_eq_iff.2 h]

end Delegate

namespace Resolver

variable {r r' : Resolver} {type name : String} {reference reference' : Reference}

/-- Of all delegates only the nearest has a say, by its type and by whether it is asked. -/
theorem isClaimed_congr_query (hsystem : r.system = r'.system) (himports : r.imports = r'.imports)
    (hparent : reference.parent = reference'.parent)
    (htextual : reference.textualCandidates = reference'.textualCandidates)
    (hquery : (r.nearestDelegate? reference).map Delegate.query =
      (r'.nearestDelegate? reference').map Delegate.query) :
    r.isClaimed type reference name = r'.isClaimed type reference' name := by
  unfold isClaimed delegateType? Reference.call?
  rw [hsystem, himports, hparent, htextual]
  cases hnearest : r.nearestDelegate? reference with
  | none =>
    rw [hnearest, Option.map_none, eq_comm, Option.map_eq_none_iff] at hquery
    rw [hquery]
  | some d =>
    rw [hnearest, Option.map_some, eq_comm, Option.map_eq_some_iff] at hquery
    obtain ⟨d', hnearest', hsame⟩ := hquery
    obtain ⟨htype, hconsults⟩ := Prod.mk.inj hsame
    rw [hnearest']
    dsimp only
    rw [htype, hconsults]

end Resolver

/-! ## Searching closures -/

section

variable {α β : Type} {f g : α → Option β}

/-- What has no value is passed over. -/
theorem findSome?_filter_isSome (f : α → Option β) (l : List α) :
    (l.filter (f · |>.isSome)).findSome? f = l.findSome? f := by
  induction l with
  | nil => rfl
  | cons a l ih =>
    cases ha : f a with
    | none => rw [List.filter_cons_of_neg (by simp [ha]), List.findSome?_cons, ha, ih]
    | some b =>
      rw [List.filter_cons_of_pos (by simp [ha]), List.findSome?_cons, List.findSome?_cons, ha]

/-- Nothing is looked at behind the first value. -/
theorem findSome?_append_cons {a : α} {b : β} (inner outer : List α) (ha : f a = some b) :
    (inner ++ a :: outer).findSome? f = (inner.findSome? f).or (some b) := by
  rw [List.findSome?_append, List.findSome?_cons, ha]

end

/-! ## Resolution in closures -/

namespace TypeSystem

/-- The resolution of a reference inside closures with delegates: its outcome and the state that it
leaves, and the members that the visitor is called with. -/
def resolveIn (ts : TypeSystem) (imports : Imports) (type : String) (reference : Reference)
    (name : Option String) (v : Visitor σ) (s : σ) (delegation : Delegation)
    (closures : List Closure) : (Outcome × σ) × List Member :=
  let r : Resolver := ⟨ts, delegation, imports⟩
  let reference := { reference with closures }
  (r.process type reference name v s, r.calls type reference name v s)

variable (ts : TypeSystem) (imports : Imports) (type : String) (reference : Reference)
  (name : Option String) (v : Visitor σ) (s : σ)

theorem resolveIn_congr {delegation delegation' : Delegation} {closures closures' : List Closure}
    (h : (closures.findSome? delegation).map Delegate.query =
      (closures'.findSome? delegation').map Delegate.query) :
    ts.resolveIn imports type reference name v s delegation closures =
      ts.resolveIn imports type reference name v s delegation' closures' := by
  let r : Resolver := ⟨ts, delegation, imports⟩
  let r' : Resolver := ⟨ts, delegation', imports⟩
  have hcandidates : r.candidates type { reference with closures := closures } name =
      r'.candidates type { reference with closures := closures' } name :=
    Resolver.candidates_congr rfl rfl fun _ _ => Resolver.isClaimed_congr_query rfl rfl rfl rfl h
  obtain ⟨hprocess, hcalls⟩ := Resolver.process_congr_candidates hcandidates v s
  exact Prod.ext hprocess hcalls

/-- A call that is left to a delegate calls no visitor. -/
theorem resolveIn_of_isClaimed {name : String} {delegation : Delegation} {closures : List Closure}
    (h : Resolver.isClaimed ⟨ts, delegation, imports⟩ type { reference with closures } name =
      true) :
    ts.resolveIn imports type reference (some name) v s delegation closures =
      ((⟨true, false⟩, s), []) := by
  have hnone := Resolver.candidates_of_isClaimed _ _ _ _ h
  unfold resolveIn
  dsimp only
  rw [Resolver.process_eq_visit, Resolver.calls_eq_heard, hnone]
  rfl

/-- Three changes of closures and delegates that a visitor cannot notice, whatever the type system,
the imports, the class, the reference and the name are. Closures without a delegate may be put in or
left out anywhere. Outside of a closure that has a delegate there may be any closures instead. And
its delegate may have any other strategy, if both strategies or neither of them keep to the owner;
closures further out may get any delegates on the way. -/
theorem resolveIn_nearest :
    let run := ts.resolveIn imports type reference name v s
    (∀ (delegation : Delegation) (closures closures' : List Closure),
      closures.filter (delegation · |>.isSome) = closures'.filter (delegation · |>.isSome) →
        run delegation closures = run delegation closures') ∧
    (∀ (delegation : Delegation) (inner : List Closure) (closure : Closure)
      (outer outer' : List Closure), delegation closure ≠ none →
        run delegation (inner ++ closure :: outer) =
          run delegation (inner ++ closure :: outer')) ∧
    ∀ (delegation delegation' : Delegation) (inner : List Closure) (closure : Closure)
      (outer : List Closure) (delegate : Delegate) (strategy : Strategy),
      delegation closure = some delegate →
        delegation' closure = some { delegate with strategy } →
        (∀ c ∈ inner, delegation' c = delegation c) →
        (strategy = .ownerOnly ↔ delegate.strategy = .ownerOnly) →
          run delegation (inner ++ closure :: outer) =
            run delegation' (inner ++ closure :: outer) := by
  intro run
  refine ⟨?_, ?_, ?_⟩
  · intro delegation closures closures' hfilter
    apply resolveIn_congr
    rw [← findSome?_filter_isSome delegation closures, hfilter,
      findSome?_filter_isSome delegation closures']
  · intro delegation inner closure outer outer' hclosure
    obtain ⟨delegate, hdelegate⟩ := Option.ne_none_iff_exists'.1 hclosure
    apply resolveIn_congr
    rw [findSome?_append_cons inner outer hdelegate, findSome?_append_cons inner outer' hdelegate]
  · intro delegation delegation' inner closure outer delegate strategy hdelegate hdelegate' hinner
      hstrategy
    apply resolveIn_congr
    have hsame : inner.findSome? delegation' = inner.findSome? delegation := by
      rw [← List.head?_filterMap, ← List.head?_filterMap, List.filterMap_congr hinner]
    rw [findSome?_append_cons inner outer hdelegate, findSome?_append_cons inner outer hdelegate',
      hsame]
    cases inner.findSome? delegation with
    | none => simp [Delegate.query_withStrategy hstrategy]
    | some d => rfl

end TypeSystem

namespace TypeStore

/-- A call `foo("...")` is left to a handler in the closure 1. It still is if there is a closure
without a delegate inside of it, if closures 2 and 3 are put around it, and if the handler is the
only one to be asked. If the handler is not to be asked, the call is the script's, and it still is
if there is a closure without a delegate inside of it, or one around it with the handler as its
delegate. -/
theorem resolveIn_nearest_handler :
    let call := Reference.call "foo" [.declared "java.lang.String"]
    let run := scriptStore.system.resolveIn .empty "a.Script" call (some "foo") (collect none) []
    let delegates (strategy : Strategy) : Delegation :=
      .explicit [(1, ⟨"a.Handler", strategy⟩), (2, .ofType "a.Script"), (4, .ofType "a.Handler")]
    let deferred : (Outcome × Collected) × List Member := ((⟨true, false⟩, []), [])
    let foo := Member.method "a.Script" "foo" [.single "v" (.basic "int")] .void
    let setFoo :=
      Member.method "a.Script" "setFoo" [.single "v" (.declared "java.lang.String")] .void
    let getFoo := Member.method "a.Script" "getFoo" [] (.declared "java.lang.String")
    let found := ((⟨true, true⟩, [foo, setFoo, getFoo]), [foo, setFoo, getFoo])
    (run (delegates .delegateFirst) [⟨1, none⟩] = deferred ∧
      run (delegates .delegateFirst) [⟨3, some "tasks"⟩, ⟨1, none⟩] = deferred ∧
      run (delegates .delegateFirst) [⟨1, none⟩, ⟨2, none⟩, ⟨3, none⟩] = deferred ∧
      run (delegates .delegateOnly) [⟨1, none⟩] = deferred) ∧
    run (delegates .ownerOnly) [⟨1, none⟩] = found ∧
      run (delegates .ownerOnly) [⟨3, some "tasks"⟩, ⟨1, none⟩] = found ∧
      run (delegates .ownerOnly) [⟨1, none⟩, ⟨4, none⟩] = found := by
  intro call run delegates deferred foo setFoo getFoo found
  have hdeferred : run (delegates .delegateFirst) [⟨1, none⟩] = deferred := by
    apply scriptStore.system.resolveIn_of_isClaimed
    exact Resolver.isClaimed_iff.2
      ⟨rfl, _, _, _, rfl, by decide, rfl, by decide, rfl, isSome_serves?_foo⟩
  have hfound : run (delegates .ownerOnly) [⟨1, none⟩] = found := by
    let r := scriptStore.resolver (delegates .ownerOnly) .empty
    let reference := { call with closures := [⟨1, none⟩] }
    have hcandidates : r.candidates "a.Script" reference (some "foo") = [foo, setFoo, getFoo] := by
      rw [r.candidates_of_not_isClaimed _ _ _ (by rfl)]
      exact distinctBy_sequence_foo
    show (r.process "a.Script" reference (some "foo") (collect none) [],
      r.calls "a.Script" reference (some "foo") (collect none) []) = found
    rw [Resolver.process_eq_visit, Resolver.calls_eq_heard, hcandidates]
    rfl
  obtain ⟨hinserted, houter, hstrategy⟩ :=
    scriptStore.system.resolveIn_nearest .empty "a.Script" call (some "foo") (collect none) []
  refine ⟨⟨hdeferred, ?_, ?_, ?_⟩, hfound, ?_, ?_⟩
  · exact (hinserted (delegates .delegateFirst) _ _ rfl).trans hdeferred
  · exact (houter (delegates .delegateFirst) [] ⟨1, none⟩ _ [] (by decide)).trans hdeferred
  · rw [← hdeferred]
    exact (hstrategy (delegates .delegateFirst) (delegates .delegateOnly) [] ⟨1, none⟩ []
      ⟨"a.Handler", .delegateFirst⟩ .delegateOnly rfl rfl (by simp) (by decide)).symm
  · exact (hinserted (delegates .ownerOnly) _ _ rfl).trans hfound
  · exact (houter (delegates .ownerOnly) [] ⟨1, none⟩ _ [] (by decide)).trans hfound

end TypeStore

end Referent
