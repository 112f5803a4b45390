import Referent.DelegateCall

/-!
# Resolution

Which members of a class a reference may denote. A property name also stands for its accessors, and
a call inside a closure may be left to the closure's delegate.

A read of `n` that is not a setter's name reports, in this order,

1. the methods named like the property of `n`;
2. the methods without a value named like the property's setter;
3. unless `n` is a getter's name, the methods named like its getter;
4. the methods named `n`.

A read of a setter's name reports only the last of these. A write of `n` reports the methods named
`n`, then the setters of `n` with one parameter. In all of them a method whose key was reported
before is passed over.

* `Visitor` — what is done with each member that is reported, and whether to go on.
* `Step`, `readSteps`, `writeSteps` — what is reported, in order.
* `Resolver.process` — one resolution.
* `collect` — a visitor that keeps the members.
-/

namespace Referent

universe u

/-! ## Visitors -/

/-- Whether reporting goes on (`Flow`). -/
inductive Signal where
  | proceed
  | stop
  deriving DecidableEq, Repr

/-- What is done with a reported member: the state after it, and whether reporting goes on
(`DeclarationProcessor`). -/
abbrev Visitor (σ : Type u) : Type u := Member → σ → Signal × σ

/-- How far reporting has come (`Reporter`). -/
structure Progress (σ : Type u) where
  /-- The keys of the members that steps have reported. -/
  seen : List ErasedSignature
  /-- Some member was reported. -/
  resolved : Bool
  state : σ

namespace Visitor

variable {σ : Type u}

/-- One member reported (`Reporter::emit`). -/
def announce (v : Visitor σ) (m : Member) (s : Progress σ) : Signal × Progress σ :=
  let (signal, state) := v m s.state
  (signal, { s with resolved := true, state })

/-- Members reported one after the other until the visitor stops (the loop of `process_all`). -/
def announceAll (v : Visitor σ) : List Member → Progress σ → Signal × Progress σ
  | [], s => (.proceed, s)
  | m :: ms, s =>
    match v.announce m s with
    | (.stop, t) => (.stop, t)
    | (.proceed, t) => v.announceAll ms t

/-- Members reported until the visitor stops, those passed over whose key has been seen
(`Reporter::report`). -/
def announceNew (v : Visitor σ) : List Member → Progress σ → Signal × Progress σ
  | [], s => (.proceed, s)
  | m :: ms, s =>
    if m.key ∈ s.seen then v.announceNew ms s
    else
      match v.announce m { s with seen := m.key :: s.seen } with
      | (.stop, t) => (.stop, t)
      | (.proceed, t) => v.announceNew ms t

end Visitor

/-! ## Steps -/

/-- The methods of one name that a predicate holds of, which one call of `Reporter::report` is
given. -/
structure Step where
  name : String
  keeps : Member → Bool

namespace Step

/-- All methods of a name. -/
def all (name : String) : Step :=
  ⟨name, fun _ => true⟩

/-- The members of a class that the step reports (`find_methods`, and the filter of
`Reporter::report`). -/
def members (ts : TypeSystem) (type : String) (step : Step) : List Member :=
  (ts.methodsNamed type step.name).filter step.keeps

end Step

/-- The steps of a read (`process_read`). -/
def readSteps (name : String) : List Step :=
  if name = "" then []
  else if Property.isSetter name then [.all name]
  else
    let base := Property.base name
    [.all base, ⟨Property.setter base, (·.type.isVoid)⟩] ++
      (if Property.isGetter name then [] else [.all (Property.getter name)]) ++
      [.all name]

/-- The steps of a write (`process_write`). -/
def writeSteps (name : String) : List Step :=
  .all name ::
    if name = "" ∨ Property.isSetter name then []
    else [⟨Property.setter name, (·.arity == 1)⟩]

/-- The steps of a reference under a name (`process_declarations`). -/
def Reference.steps (r : Reference) (name : String) : List Step :=
  if r.isWrite then writeSteps name else readSteps name

/-- The steps taken one after the other until the visitor stops. -/
def Visitor.takeSteps {σ : Type u} (v : Visitor σ) (ts : TypeSystem) (type : String) :
    List Step → Progress σ → Signal × Progress σ
  | [], s => (.proceed, s)
  | step :: steps, s =>
    match v.announceNew (step.members ts type) s with
    | (.stop, t) => (.stop, t)
    | (.proceed, t) => v.takeSteps ts type steps t

/-! ## Resolvers -/

/-- What is known about a resolution when it ends (`ResolveOutcome`). -/
structure Outcome where
  /-- The search may go on elsewhere: no visitor stopped it. -/
  shouldContinue : Bool
  /-- Some member was reported. -/
  resolved : Bool
  deriving DecidableEq, Repr

/-- What resolution depends on: the types, the delegates of closures, and the imports under which
simple names of delegates are looked up (`DeclarationResolver`). -/
structure Resolver where
  system : TypeSystem
  delegation : Delegation
  imports : Imports

namespace Resolver

/-- The delegate of the nearest closure that has one (the search in `delegate_claims`). -/
def nearestDelegate? (r : Resolver) (reference : Reference) : Option Delegate :=
  reference.closures.findSome? r.delegation

/-- The type of a delegate; a primitive one counts as its wrapper class (the `find_type` of
`delegate_claims`). -/
def delegateType? (r : Resolver) (delegate : Delegate) : Option TypeDecl :=
  r.system.findType? r.imports (Boxing.boxName delegate.type)

/-- The nearest delegate is of another type than the class and can serve the call itself. If the
text offers several declarations, no delegate is asked (`delegate_claims`). -/
def isClaimed (r : Resolver) (type : String) (reference : Reference) (name : String) : Bool :=
  if reference.textualCandidates ≠ 1 then false
  else match r.nearestDelegate? reference with
    | none => false
    | some delegate =>
      if !delegate.strategy.consultsDelegate then false
      else match r.delegateType? delegate, reference.call? with
        | some d, some call =>
          d.name != type && (r.system.serves? name call d.name).isSome
        | _, _ => false

/-- The members of a class that a reference may denote under a name, or all members of the class if
there is none, reported to a visitor (`process_declarations`). -/
def process {σ : Type u} (r : Resolver) (type : String) (reference : Reference)
    (name : Option String) (v : Visitor σ) (state : σ) : Outcome × σ :=
  let start : Progress σ := ⟨[], false, state⟩
  let (signal, final) :=
    match name with
    | none => v.announceAll (r.system.visibleMembers type) start
    | some name =>
      if r.isClaimed type reference name then (.proceed, start)
      else v.takeSteps r.system type (reference.steps name) start
  (⟨signal == .proceed, final.resolved⟩, final.state)

/-- The members that a reference may denote under its own name (`resolve`). -/
def resolve {σ : Type u} (r : Resolver) (type : String) (reference : Reference)
    (v : Visitor σ) (state : σ) : Outcome × σ :=
  r.process type reference (some reference.name) v state

end Resolver

/-! ## Collecting -/

/-- The members that were reported so far (`into_candidates`). -/
abbrev Collected : Type := List Member

/-- Keeps each member, and stops once there are as many as the limit (`CollectingProcessor`). -/
def collect (limit : Option Nat) : Visitor Collected :=
  fun m members =>
    let members := members ++ [m]
    match limit with
    | some n => (if n ≤ members.length then .stop else .proceed, members)
    | none => (.proceed, members)

end Referent
