import Referent.Proofs.Resolution.Candidates

/-!
# Stopping early

Results:
* `process_early_stop`: a visitor that stops is called with a prefix of what one that never stops is
  called with, up to the member at which it stops, and the outcome says whether it did.
* `visit_collect`, `visit_collect_none`: a collection with a limit is full after as many members as
  the limit, but never before the first; one without a limit never is.
-/

namespace Referent

universe u v

variable {σ : Type u} {τ : Type v}

/-- A collection that is not full yet takes members until it is. It always takes one, because the
limit is looked at behind it. -/
theorem visit_collect (limit : ℕ) (ms acc : List Member) (hacc : acc.length < max limit 1) :
    (collect (some limit)).visit ms acc =
      (if max limit 1 ≤ acc.length + ms.length then .stop else .proceed,
        acc ++ ms.take (max limit 1 - acc.length)) := by
  -- The limit is looked at behind a member, so a collection that is not full is below both bounds.
  induction ms generalizing acc with
  | nil =>
    rw [Visitor.visit, List.length_nil, if_neg (by omega), List.take_nil, List.append_nil]
  | cons m ms ih =>
    have hlen : (acc ++ [m]).length = acc.length + 1 := by simp
    by_cases hfull : limit ≤ acc.length + 1
    · have hm : collect (some limit) m acc = (.stop, acc ++ [m]) := by simp [collect, hfull]
      have hmax : max limit 1 = acc.length + 1 := by omega
      rw [Visitor.visit_cons_of_stop _ _ hm, hmax, List.length_cons, if_pos (by omega),
        Nat.add_sub_cancel_left]
      rfl
    · have hm : collect (some limit) m acc = (.proceed, acc ++ [m]) := by simp [collect, hfull]
      have hrest : max limit 1 - acc.length = (max limit 1 - (acc.length + 1)) + 1 := by omega
      rw [Visitor.visit_cons_of_proceed _ _ hm, ih _ (by omega), hlen, hrest, List.take_succ_cons,
        List.length_cons, List.append_assoc, Nat.add_right_comm, Nat.add_assoc]
      rfl

/-- A collection without a limit takes all members. -/
theorem visit_collect_none (ms acc : List Member) :
    (collect none).visit ms acc = (.proceed, acc ++ ms) := by
  induction ms generalizing acc with
  | nil => rw [Visitor.visit, List.append_nil]
  | cons m ms ih =>
    have hm : collect none m acc = (.proceed, acc ++ [m]) := rfl
    rw [Visitor.visit_cons_of_proceed _ _ hm, ih, List.append_assoc]
    rfl

namespace Resolver

variable (r : Resolver) (type : String) (reference : Reference) (name : Option String)

/-- The members that a visitor is called with are a prefix of what a visitor that never stops is
called with. All answers before the last are to proceed; the last is to stop, unless the prefix is
the whole. The state is threaded through these calls, the search may go on elsewhere unless one of
them was answered by a stop, and the reference is resolved if there was one. A collection with a
limit holds that many members, or the first if the limit is zero. -/
theorem process_early_stop {w : Visitor τ} (hw : w.NeverStops) (t : τ) (v : Visitor σ) (s : σ) :
    let full := r.calls type reference name w t
    let calls := r.calls type reference name v s
    let result := r.process type reference name v s
    let collected (limit : ℕ) := r.process type reference name (collect (some limit)) []
    calls <+: full ∧
      ((calls = full ∧ v.answers calls s = List.replicate full.length .proceed) ∨
        ∃ n, v.answers calls s = List.replicate n .proceed ++ [.stop]) ∧
      result.2 = v.stateAfter calls s ∧
      (result.1.shouldContinue = false ↔ Signal.stop ∈ v.answers calls s) ∧
      (result.1.resolved = true ↔ calls ≠ []) ∧
      ∀ limit, (collected limit).2 = full.take (max limit 1) ∧
        ((collected limit).1.shouldContinue = false ↔ max limit 1 ≤ full.length) := by
  intro full calls result collected
  have hfull : full = r.candidates type reference name := calls_of_neverStops r _ _ _ hw t
  have hcalls : calls = v.heard full s := by rw [hfull]; exact calls_eq_heard r _ _ _ v s
  have hresult : result =
      (⟨(v.visit full s).1 == .proceed, !full.isEmpty⟩, (v.visit full s).2) := by
    rw [hfull]; exact process_eq_visit r _ _ _ v s
  rw [hresult, hcalls]
  refine ⟨v.heard_prefix full s, ?_, v.visit_snd full s, ?_, ?_, fun limit => ?_⟩
  · rcases v.answers_heard full s with ⟨-, hall, hans⟩ | ⟨-, hans⟩
    · exact .inl ⟨hall, hans⟩
    · exact .inr hans
  · rcases v.answers_heard full s with ⟨hgo, -, hans⟩ | ⟨hstop, n, hans⟩
    · simp [hgo, hans]
    · simp [hstop, hans]
  · rw [ne_eq, v.heard_eq_nil_iff]
    simp
  · have hempty : ([] : List Member).length < max limit 1 := by rw [List.length_nil]; omega
    have hcollected : collected limit = _ := process_eq_visit r _ _ _ (collect (some limit)) []
    rw [hcollected, ← hfull, visit_collect limit full [] hempty]
    by_cases h : max limit 1 ≤ full.length
    · simp [h]
    · simp [h]

end Resolver

namespace TypeStore

/-- A read of `foo` by a visitor that counts and stops at the first setter. The getter is a
candidate too, but comes behind it and is not reported. -/
theorem process_early_stop_foo :
    let r := scriptStore.resolver .none .empty
    let foo := Member.method "a.Script" "foo" [.single "v" (.basic "int")] .void
    let setFoo :=
      Member.method "a.Script" "setFoo" [.single "v" (.declared "java.lang.String")] .void
    let getFoo := Member.method "a.Script" "getFoo" [] (.declared "java.lang.String")
    let v : Visitor ℕ := fun m n => (if m.name = "setFoo" then .stop else .proceed, n + 1)
    (collect none).NeverStops ∧
      r.calls "a.Script" (.read "foo") (some "foo") (collect none) [] = [foo, setFoo, getFoo] ∧
      r.calls "a.Script" (.read "foo") (some "foo") v 0 = [foo, setFoo] ∧
      r.process "a.Script" (.read "foo") (some "foo") v 0 = (⟨false, true⟩, 2) := by
  intro r foo setFoo getFoo v
  have hw : (collect none).NeverStops := fun _ _ => rfl
  have hcandidates :
      r.candidates "a.Script" (.read "foo") (some "foo") = [foo, setFoo, getFoo] := by
    rw [r.candidates_of_not_isClaimed _ _ _ (by rfl)]
    exact distinctBy_sequence_foo
  have hcalls : r.calls "a.Script" (.read "foo") (some "foo") v 0 = [foo, setFoo] := by
    rw [Resolver.calls_eq_heard, hcandidates]
    rfl
  obtain ⟨-, -, hstate, hcontinue, hresolved, -⟩ :=
    r.process_early_stop "a.Script" (.read "foo") (some "foo") hw [] v 0
  rcases hprocess : r.process "a.Script" (.read "foo") (some "foo") v 0 with
    ⟨⟨shouldContinue, resolved⟩, state⟩
  rw [hcalls, hprocess] at hstate hcontinue hresolved
  obtain rfl : shouldContinue = false := hcontinue.2 (by decide)
  obtain rfl : resolved = true := hresolved.2 (by simp)
  obtain rfl : state = 2 := hstate
  refine ⟨hw, ?_, hcalls, rfl⟩
  rw [Resolver.calls_of_neverStops _ _ _ _ hw, hcandidates]

end TypeStore

end Referent
