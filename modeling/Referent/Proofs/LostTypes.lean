import Referent.DelegateCall
import Referent.Proofs.Assignability
import Referent.Proofs.TypeStore.Insert

/-!
# Arguments whose types are lost

An argument of which no type is known passes everywhere. A call that is accepted or served goes on
to be if the types of some of its arguments are lost, since each argument then passes wherever it
did before. What changes is only that a convention may serve the call that is tried before the one
that served it with the types.

* `LosesTypes`: some of the arguments have lost their types, and the others are the same.
* `Convention.rank`: the order in which the conventions are tried.

Results:
* `TypeSystem.exists_serves?_of_servesBy`: a call is served by the first convention that can serve
  it.
* `TypeSystem.servesBy_mono`: each convention goes on to serve a call if its arguments pass wherever
  they did.
* `TypeSystem.served_of_losesTypes`: no match is lost with the types of arguments.
-/

namespace Referent

/-! ## Lost types -/

/-- The arguments of the second list are those of the first, or unknown in their places. -/
def LosesTypes : List TypeExpr → List TypeExpr → Prop :=
  List.Forall₂ fun a a' => a' = a ∨ a' = .unknown

/-- The place of a convention among the three, which are tried one after the other. -/
def Convention.rank : Convention → ℕ
  | .method => 0
  | .getter => 1
  | .setter => 2

namespace TypeSystem

variable {ts : TypeSystem} {args args' : List TypeExpr}

theorem passesWherever_of_losesTypes (h : LosesTypes args args') :
    List.Forall₂ (PassesWherever ts ts) args args' := by
  refine h.imp fun a a' ha param hpasses => ?_
  rcases ha with rfl | rfl
  · exact hpasses
  · exact isAssignable_iff_passes.2 (.unknown param)

/-! ## Conventions -/

/-- A type serves a call by a convention, whether or not by one that comes before it as well. -/
def ServesBy (ts : TypeSystem) (type name : String) (args : List TypeExpr) : Convention → Prop
  | .method => (!(ts.methodsAccepting type name args).isEmpty) = true
  | .getter => ts.hasGetter type name = true
  | .setter => ts.hasSetter type name args = true

variable {type name receiver : String} {call : Call} {c : Convention}

theorem servesBy_of_serves? (h : ts.serves? name call receiver = some c) :
    ¬call.invoked.isNone = true ∧ ts.ServesBy (Boxing.boxName receiver) name call.arguments c := by
  unfold serves? at h
  dsimp only at h
  split_ifs at h with hinvoked hmethod hgetter hsetter <;> cases h
  · exact ⟨hinvoked, hmethod⟩
  · exact ⟨hinvoked, hgetter⟩
  · exact ⟨hinvoked, hsetter⟩

/-- A call that a convention can serve is served by the first one that can. -/
theorem exists_serves?_of_servesBy (hinvoked : ¬call.invoked.isNone = true)
    (h : ts.ServesBy (Boxing.boxName receiver) name call.arguments c) :
    ∃ c', ts.serves? name call receiver = some c' ∧ c'.rank ≤ c.rank := by
  unfold serves?
  dsimp only
  rw [if_neg hinvoked]
  split_ifs with hmethod hgetter hsetter
  · exact ⟨.method, rfl, Nat.zero_le _⟩
  · refine ⟨.getter, rfl, ?_⟩
    cases c with
    | method => exact absurd h hmethod
    | getter => exact le_rfl
    | setter => decide
  · refine ⟨.setter, rfl, ?_⟩
    cases c with
    | method => exact absurd h hmethod
    | getter => exact absurd h hgetter
    | setter => exact le_rfl
  · cases c with
    | method => exact absurd h hmethod
    | getter => exact absurd h hgetter
    | setter => exact absurd h hsetter

/-- A getter does not look at the arguments. -/
theorem servesBy_mono (hargs : List.Forall₂ (PassesWherever ts ts) args args')
    (h : ts.ServesBy type name args c) : ts.ServesBy type name args' c := by
  cases c with
  | method =>
    unfold ServesBy methodsAccepting at h ⊢
    rw [Bool.not_eq_true', List.isEmpty_eq_false_iff_exists_mem] at h ⊢
    obtain ⟨m, hm⟩ := h
    obtain ⟨hnamed, haccepts⟩ := List.mem_filter.1 hm
    exact ⟨m, List.mem_filter.2 ⟨hnamed, accepts_mono hargs haccepts⟩⟩
  | getter => exact h
  | setter =>
    simp only [ServesBy, hasSetter, List.any_eq_true] at h ⊢
    obtain ⟨setter, hsetter, m, hm, hvalue⟩ := h
    exact ⟨setter, hsetter, m, hm, acceptsValue_mono hargs hvalue⟩

/-! ## Matches -/

/-- Whatever types of arguments are lost, a member that accepts the arguments or their value still
does, and a call that is served still is, if only by a convention that comes before the one that
served it. -/
theorem served_of_losesTypes (ts : TypeSystem) (hargs : LosesTypes args args') :
    (∀ m, ts.accepts m args = true → ts.accepts m args' = true) ∧
      (∀ m, ts.acceptsValue m args = true → ts.acceptsValue m args' = true) ∧
      ∀ name invoked receiver c, ts.serves? name ⟨invoked, args⟩ receiver = some c →
        ∃ c', ts.serves? name ⟨invoked, args'⟩ receiver = some c' ∧ c'.rank ≤ c.rank := by
  have hpasses : List.Forall₂ (PassesWherever ts ts) args args' :=
    passesWherever_of_losesTypes hargs
  refine ⟨fun m => accepts_mono hpasses, fun m => acceptsValue_mono hpasses, ?_⟩
  intro name invoked receiver c h
  obtain ⟨hinvoked, hserves⟩ := servesBy_of_serves? h
  exact exists_serves?_of_servesBy hinvoked (servesBy_mono hpasses hserves)

end TypeSystem

namespace TypeStore

/-- The method of a handler that takes a switch. -/
def handlerLevel : Member :=
  .method "a.Handler" "level" [.single "strict" (.basic "boolean")] .void

/-- Its setter, which takes a number. -/
def handlerSetLevel : Member :=
  .method "a.Handler" "setLevel" [.single "level" (.basic "int")] .void

/-- A handler with a method and a setter of one name. -/
def levelStore : TypeStore where
  decls := [{ TypeDecl.ofInterface "a.Handler" with members := [handlerLevel, handlerSetLevel] }]

theorem ancestors_levelStore : levelStore.system.ancestors "a.Handler" = [] := by cbv

theorem methodsNamed_level :
    levelStore.system.methodsNamed "a.Handler" "level" = [handlerLevel] := by
  rw [TypeSystem.methodsNamed, ancestors_levelStore]
  rfl

theorem methodsNamed_setLevel :
    levelStore.system.methodsNamed "a.Handler" "setLevel" = [handlerSetLevel] := by
  rw [TypeSystem.methodsNamed, ancestors_levelStore]
  rfl

theorem acceptsValue_setLevel (ts : TypeSystem) :
    ts.acceptsValue handlerSetLevel [.basic "int"] = true :=
  ts.acceptsValue_own_type (m := handlerSetLevel) rfl rfl

/-- A number is no switch, and there is no getter. -/
theorem serves?_number :
    levelStore.system.serves? "level" ⟨some "level", [.basic "int"]⟩ "a.Handler" =
      some .setter := by
  have hbox : Boxing.boxName "a.Handler" = "a.Handler" := by decide +kernel
  have hgetters : Property.getters "level" = ["getLevel", "isLevel"] := by decide +kernel
  have hsetters : Property.setters "level" = ["setLevel"] := by decide +kernel
  have hmethod : levelStore.system.methodsAccepting "a.Handler" "level" [.basic "int"] = [] := by
    have hlevel : levelStore.system.accepts handlerLevel [.basic "int"] = false := by decide +kernel
    simp [TypeSystem.methodsAccepting, methodsNamed_level, hlevel]
  have hgetter : levelStore.system.hasGetter "a.Handler" "level" = false := by
    simp only [TypeSystem.hasGetter, hgetters, TypeSystem.methodsNamed, ancestors_levelStore]
    rfl
  have hsetter : levelStore.system.hasSetter "a.Handler" "level" [.basic "int"] = true := by
    simp [TypeSystem.hasSetter, hsetters, methodsNamed_setLevel, acceptsValue_setLevel]
  simp [TypeSystem.serves?, hbox, hmethod, hgetter, hsetter]

/-- What is not known could be a switch, and the method comes before the setter. -/
theorem serves?_unknown :
    levelStore.system.serves? "level" ⟨some "level", [.unknown]⟩ "a.Handler" = some .method := by
  have hbox : Boxing.boxName "a.Handler" = "a.Handler" := by decide +kernel
  have hlevel : levelStore.system.accepts handlerLevel [.unknown] = true := by decide +kernel
  simp [TypeSystem.serves?, hbox, TypeSystem.methodsAccepting, methodsNamed_level, hlevel]

/-- A call that the setter serves goes over to the method when the type of its argument is lost. -/
theorem served_of_losesTypes_level :
    let ts := levelStore.system
    let int : TypeExpr := .basic "int"
    LosesTypes [int] [.unknown] ∧
      (ts.accepts handlerSetLevel [int] = true ∧
        ts.accepts handlerSetLevel [.unknown] = true) ∧
      (ts.acceptsValue handlerSetLevel [int] = true ∧
        ts.acceptsValue handlerSetLevel [.unknown] = true) ∧
      ts.serves? "level" ⟨some "level", [int]⟩ "a.Handler" = some .setter ∧
      (∃ c, ts.serves? "level" ⟨some "level", [.unknown]⟩ "a.Handler" = some c ∧
        c.rank ≤ Convention.setter.rank) ∧
      ts.serves? "level" ⟨some "level", [.unknown]⟩ "a.Handler" = some .method := by
  intro ts int
  have hargs : LosesTypes [int] [.unknown] := .cons (.inr rfl) .nil
  have haccepts : ts.accepts handlerSetLevel [int] = true :=
    ts.accepts_own_types (m := handlerSetLevel) rfl
  have hvalue : ts.acceptsValue handlerSetLevel [int] = true := acceptsValue_setLevel ts
  obtain ⟨haccepts', hvalue', hserved'⟩ := ts.served_of_losesTypes hargs
  exact ⟨hargs, ⟨haccepts, haccepts' _ haccepts⟩, ⟨hvalue, hvalue' _ hvalue⟩,
    serves?_number, hserved' _ _ _ _ serves?_number, serves?_unknown⟩

end TypeStore

end Referent
