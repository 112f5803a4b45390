import Referent.Acceptance
import Mathlib.Data.List.Forall2

/-!
# What every member accepts

Results:
* `isAssignable_self`: a value may be passed where its own type is expected.
* `accepts_own_types`, `acceptsValue_own_type`: a member can be called with arguments of exactly its
  parameter types, and a setter be given a value of its type.
* `accepts_mono`, `acceptsValue_mono`: what a member accepts it also accepts with arguments that pass
  wherever those did.
-/

namespace Referent.TypeSystem

variable (ts : TypeSystem)

theorem isSubtype_self (t : TypeExpr) : ts.isSubtype t t = true := by
  unfold isSubtype
  rw [if_pos rfl]

/-- The literal `null` is not of a primitive type, so it may be passed as itself too. -/
theorem isAssignable_self (t : TypeExpr) : ts.isAssignable t t = true := by
  unfold isAssignable
  split_ifs with hunknown hwildcard hnull
  · rfl
  · rfl
  · cases t with
    | basic name =>
      have hname : name = TypeExpr.nullName := by simpa [TypeExpr.isNull] using hnull
      rw [hname]
      rfl
    | _ => rfl
  · rw [isSubtype_self, Bool.true_or]

theorem acceptsFixed_own_types (params : List Parameter) :
    ts.acceptsFixed params (params.map (·.type)) = true := by
  induction params with
  | nil => rfl
  | cons p ps ih => rw [List.map_cons, acceptsFixed, isAssignable_self, ih, Bool.and_self]

/-- Only a field, which has no parameter list, does not accept what it declares. -/
theorem accepts_own_types {m : Member} (h : m.parameters.isSome = true) :
    ts.accepts m m.parameterTypes = true := by
  obtain ⟨params, hparams⟩ := Option.isSome_iff_exists.1 h
  rw [accepts, Member.parameterTypes, Member.parameterList, hparams, Bool.or_eq_true]
  exact .inl (ts.acceptsFixed_own_types params)

/-- A setter takes a value of the type that it declares. -/
theorem acceptsValue_own_type {m : Member} {param : Parameter} (hkind : m.isMethod = true)
    (h : m.parameters = some [param]) : ts.acceptsValue m [param.type] = true := by
  unfold acceptsValue
  rw [hkind, h]
  exact ts.isAssignable_self param.type

/-! ## Arguments that pass wherever others do -/

/-- Wherever a value of the first type may be passed by the first type system, one of the second
type may be by the second. -/
def PassesWherever (ts ts' : TypeSystem) (a a' : TypeExpr) : Prop :=
  ∀ param, ts.isAssignable a param = true → ts'.isAssignable a' param = true

variable {ts} {ts' : TypeSystem} {params : List Parameter} {args args' : List TypeExpr}

theorem acceptsFixed_mono (hargs : List.Forall₂ (PassesWherever ts ts') args args')
    (h : ts.acceptsFixed params args = true) : ts'.acceptsFixed params args' = true := by
  induction hargs generalizing params with
  | nil =>
    cases params with
    | nil => rfl
    | cons p ps => cases h
  | cons ha _ ih =>
    cases params with
    | nil => cases h
    | cons p ps =>
      rw [acceptsFixed, Bool.and_eq_true] at h ⊢
      exact ⟨ha p.type h.1, ih h.2⟩

theorem all_isAssignable_mono {element : TypeExpr}
    (hargs : List.Forall₂ (PassesWherever ts ts') args args')
    (h : args.all (ts.isAssignable · element) = true) :
    args'.all (ts'.isAssignable · element) = true := by
  induction hargs with
  | nil => rfl
  | cons ha _ ih =>
    rw [List.all_cons, Bool.and_eq_true] at h ⊢
    exact ⟨ha element h.1, ih h.2⟩

/-- The three forms of a tail are told apart by its length, which stays. -/
theorem acceptsTail_mono {last : Parameter} {element : TypeExpr}
    (hargs : List.Forall₂ (PassesWherever ts ts') args args')
    (h : ts.acceptsTail last element args = true) : ts'.acceptsTail last element args' = true := by
  cases hargs with
  | nil => rfl
  | cons ha hrest =>
    cases hrest with
    | nil =>
      rw [acceptsTail, Bool.or_eq_true] at h ⊢
      exact h.imp (ha last.type) (ha element)
    | cons hb hrest => exact all_isAssignable_mono (.cons ha (.cons hb hrest)) h

theorem acceptsVarargs_mono (hargs : List.Forall₂ (PassesWherever ts ts') args args')
    (h : ts.acceptsVarargs params args = true) : ts'.acceptsVarargs params args' = true := by
  unfold acceptsVarargs at h ⊢
  cases hlast : params.getLast? with
  | none =>
    rw [hlast] at h
    cases h
  | some last =>
    rw [hlast] at h
    dsimp only at h ⊢
    split at h
    · simp only [Bool.and_eq_true, decide_eq_true_eq] at h ⊢
      obtain ⟨⟨hlength, hfixed⟩, htail⟩ := h
      refine ⟨⟨?_, ?_⟩, ?_⟩
      · rwa [← hargs.length_eq]
      · exact acceptsFixed_mono (List.forall₂_take _ hargs) hfixed
      · exact acceptsTail_mono (List.forall₂_drop _ hargs) htail
    · cases h

/-- A member that can be called goes on to be if each argument passes wherever it did before. -/
theorem accepts_mono {m : Member} (hargs : List.Forall₂ (PassesWherever ts ts') args args')
    (h : ts.accepts m args = true) : ts'.accepts m args' = true := by
  unfold accepts at h ⊢
  cases hparams : m.parameters with
  | none =>
    rw [hparams] at h
    cases h
  | some params =>
    rw [hparams] at h
    rw [Bool.or_eq_true] at h ⊢
    exact h.imp (acceptsFixed_mono hargs) (acceptsVarargs_mono hargs)

theorem acceptsValue_mono {m : Member} (hargs : List.Forall₂ (PassesWherever ts ts') args args')
    (h : ts.acceptsValue m args = true) : ts'.acceptsValue m args' = true := by
  unfold acceptsValue at h ⊢
  rw [Bool.and_eq_true] at h ⊢
  refine ⟨h.1, ?_⟩
  have hvalue := h.2
  split at hvalue
  · rename_i param value hparams
    obtain ⟨value', rest, ha, hrest, rfl⟩ := List.forall₂_cons_left_iff.1 hargs
    rw [List.forall₂_nil_left_iff.1 hrest, hparams]
    exact ha param.type hvalue
  · cases hvalue

end Referent.TypeSystem
