import Referent.Resolution
import Referent.Proofs.Distinct

/-!
# Resolution as one visit

A resolution reports members from several steps and passes over those whose key was reported
before. All of it is one visit of a list that no visitor has a say in.

Results:
* `process_eq_visit`: a resolution visits the candidates one after the other until the visitor
  stops; it is resolved if there is a candidate at all.
* `process_congr_candidates`: a visitor cannot tell resolutions with the same candidates apart.
* `calls_eq_heard`: the visitor is called with the candidates that it lets come, and no others.
* `answers_heard`, `visit_snd`: the signal and the state at the end are those of these calls.
* `process_logged`: asking for these calls changes nothing about the resolution.
-/

namespace Referent

universe u

variable {σ : Type u}

namespace Visitor

/-! ## Visiting a list -/

/-- The visitor called with one member after the other until it stops. -/
def visit (v : Visitor σ) : List Member → σ → Signal × σ
  | [], s => (.proceed, s)
  | m :: ms, s =>
    match v m s with
    | (.stop, t) => (.stop, t)
    | (.proceed, t) => v.visit ms t

/-- The members that a visit calls the visitor with. -/
def heard (v : Visitor σ) : List Member → σ → List Member
  | [], _ => []
  | m :: ms, s =>
    match v m s with
    | (.stop, _) => [m]
    | (.proceed, t) => m :: v.heard ms t

/-- The answers of the visitor if it is called with all of these members, each time in the state
that the call before left. -/
def answers (v : Visitor σ) : List Member → σ → List Signal
  | [], _ => []
  | m :: ms, s => (v m s).1 :: v.answers ms (v m s).2

/-- The state that calls with all of these members leave. -/
def stateAfter (v : Visitor σ) (ms : List Member) (s : σ) : σ :=
  ms.foldl (fun t m => (v m t).2) s

/-- The visitor never asks to stop. -/
def NeverStops (v : Visitor σ) : Prop :=
  ∀ m s, (v m s).1 = .proceed

/-- The visitor, with the members that it was called with written down in order. -/
def logged (v : Visitor σ) : Visitor (List Member × σ) :=
  fun m s => ((v m s.2).1, (s.1 ++ [m], (v m s.2).2))

section

variable (v : Visitor σ)

theorem visit_cons_of_stop {m : Member} {s t : σ} (ms : List Member) (h : v m s = (.stop, t)) :
    v.visit (m :: ms) s = (.stop, t) := by
  rw [visit, h]

theorem visit_cons_of_proceed {m : Member} {s t : σ} (ms : List Member)
    (h : v m s = (.proceed, t)) : v.visit (m :: ms) s = v.visit ms t := by
  rw [visit, h]

theorem heard_cons_of_stop {m : Member} {s t : σ} (ms : List Member) (h : v m s = (.stop, t)) :
    v.heard (m :: ms) s = [m] := by
  rw [heard, h]

theorem heard_cons_of_proceed {m : Member} {s t : σ} (ms : List Member)
    (h : v m s = (.proceed, t)) : v.heard (m :: ms) s = m :: v.heard ms t := by
  rw [heard, h]

/-- Writing the members down changes neither the signal nor the state. -/
theorem visit_logged (ms log : List Member) (s : σ) :
    v.logged.visit ms (log, s) =
      ((v.visit ms s).1, (log ++ v.heard ms s, (v.visit ms s).2)) := by
  induction ms generalizing log s with
  | nil => simp [visit, heard]
  | cons m ms ih =>
    rcases hm : v m s with ⟨signal, t⟩
    have hlog : v.logged m (log, s) = (signal, (log ++ [m], t)) := by simp [logged, hm]
    cases signal with
    | stop =>
      rw [visit_cons_of_stop _ _ hlog, visit_cons_of_stop _ _ hm, heard_cons_of_stop _ _ hm]
    | proceed =>
      rw [visit_cons_of_proceed _ _ hlog, visit_cons_of_proceed _ _ hm,
        heard_cons_of_proceed _ _ hm, ih, List.append_assoc]
      rfl

theorem heard_prefix (ms : List Member) (s : σ) : v.heard ms s <+: ms := by
  induction ms generalizing s with
  | nil => exact List.nil_prefix
  | cons m ms ih =>
    rcases hm : v m s with ⟨signal, t⟩
    cases signal with
    | stop => rw [heard_cons_of_stop _ _ hm]; exact ⟨ms, rfl⟩
    | proceed =>
      rw [heard_cons_of_proceed _ _ hm]
      exact (List.prefix_cons_inj m).2 (ih t)

theorem heard_eq_nil_iff {ms : List Member} {s : σ} : v.heard ms s = [] ↔ ms = [] := by
  cases ms with
  | nil => simp [heard]
  | cons m ms =>
    rcases hm : v m s with ⟨signal, t⟩
    cases signal with
    | stop => simp [heard_cons_of_stop _ _ hm]
    | proceed => simp [heard_cons_of_proceed _ _ hm]

/-- A visit ends in the state that its calls leave. -/
theorem visit_snd (ms : List Member) (s : σ) :
    (v.visit ms s).2 = v.stateAfter (v.heard ms s) s := by
  induction ms generalizing s with
  | nil => rfl
  | cons m ms ih =>
    rcases hm : v m s with ⟨signal, t⟩
    cases signal with
    | stop => rw [visit_cons_of_stop _ _ hm, heard_cons_of_stop _ _ hm]; simp [stateAfter, hm]
    | proceed =>
      rw [visit_cons_of_proceed _ _ hm, heard_cons_of_proceed _ _ hm, ih]
      simp [stateAfter, hm]

/-- Of the answers in a visit only the last can be to stop. If it is, the visit has stopped, and
otherwise the visitor has heard of every member. -/
theorem answers_heard (ms : List Member) (s : σ) :
    ((v.visit ms s).1 = .proceed ∧ v.heard ms s = ms ∧
        v.answers (v.heard ms s) s = List.replicate ms.length .proceed) ∨
      ((v.visit ms s).1 = .stop ∧
        ∃ n, v.answers (v.heard ms s) s = List.replicate n .proceed ++ [.stop]) := by
  induction ms generalizing s with
  | nil => exact .inl ⟨rfl, rfl, rfl⟩
  | cons m ms ih =>
    rcases hm : v m s with ⟨signal, t⟩
    cases signal with
    | stop =>
      rw [visit_cons_of_stop _ _ hm, heard_cons_of_stop _ _ hm]
      exact .inr ⟨rfl, 0, by simp [answers, hm]⟩
    | proceed =>
      rw [visit_cons_of_proceed _ _ hm, heard_cons_of_proceed _ _ hm]
      have hans (l : List Member) : v.answers (m :: l) s = .proceed :: v.answers l t := by
        simp [answers, hm]
      rcases ih t with ⟨h1, h2, h3⟩ | ⟨h1, n, h2⟩
      · exact .inl ⟨h1, by rw [h2], by rw [hans, h3]; rfl⟩
      · exact .inr ⟨h1, n + 1, by rw [hans, h2]; rfl⟩

theorem heard_of_neverStops {v : Visitor σ} (hv : v.NeverStops) (ms : List Member) (s : σ) :
    v.heard ms s = ms := by
  induction ms generalizing s with
  | nil => rfl
  | cons m ms ih =>
    rw [heard_cons_of_proceed v ms (Prod.ext (hv m s) rfl : v m s = (.proceed, (v m s).2)), ih]

/-! ## Announcing is visiting -/

theorem announceAll_eq_visit (ms : List Member) (p : Progress σ) :
    v.announceAll ms p =
      ((v.visit ms p.state).1,
        ⟨p.seen, p.resolved || !ms.isEmpty, (v.visit ms p.state).2⟩) := by
  induction ms generalizing p with
  | nil => simp [announceAll, visit]
  | cons m ms ih =>
    rcases hm : v m p.state with ⟨signal, t⟩
    cases signal with
    | stop => rw [visit_cons_of_stop _ _ hm]; simp [announceAll, announce, hm]
    | proceed => rw [visit_cons_of_proceed _ _ hm]; simp [announceAll, announce, hm, ih]

/-- Announcing new members visits the first occurrences among those not seen before. -/
theorem announceNew_eq_visit (ms : List Member) (p : Progress σ) :
    ∃ seen, v.announceNew ms p =
      ((v.visit (unseen Member.key p.seen ms) p.state).1,
        ⟨seen, p.resolved || !(unseen Member.key p.seen ms).isEmpty,
          (v.visit (unseen Member.key p.seen ms) p.state).2⟩) := by
  induction ms generalizing p with
  | nil => exact ⟨p.seen, by simp [announceNew, visit]⟩
  | cons m ms ih =>
    rw [announceNew]
    split_ifs with hseen
    · rw [unseen_cons_of_mem _ hseen]
      exact ih p
    · rw [unseen_cons_of_not_mem _ hseen]
      rcases hm : v m p.state with ⟨signal, t⟩
      cases signal with
      | stop =>
        rw [visit_cons_of_stop _ _ hm]
        exact ⟨m.key :: p.seen, by simp [announce, hm]⟩
      | proceed =>
        rw [visit_cons_of_proceed _ _ hm]
        obtain ⟨seen, h⟩ := ih ⟨m.key :: p.seen, true, t⟩
        exact ⟨seen, by simp [announce, hm, h]⟩

theorem announceNew_append (ms ns : List Member) (p : Progress σ) :
    v.announceNew (ms ++ ns) p =
      match v.announceNew ms p with
      | (.stop, q) => (.stop, q)
      | (.proceed, q) => v.announceNew ns q := by
  induction ms generalizing p with
  | nil => rfl
  | cons m ms ih =>
    rw [List.cons_append, announceNew, announceNew]
    split_ifs with hseen
    · exact ih p
    · rcases v.announce m { p with seen := m.key :: p.seen } with ⟨signal, q⟩
      cases signal with
      | stop => rfl
      | proceed => exact ih q

/-- Keys are passed over across steps: the steps announce one list. -/
theorem takeSteps_eq_announceNew (ts : TypeSystem) (type : String) (steps : List Step)
    (p : Progress σ) :
    v.takeSteps ts type steps p = v.announceNew (steps.flatMap (·.members ts type)) p := by
  induction steps generalizing p with
  | nil => rfl
  | cons step steps ih =>
    -- The progress that the first step leaves holds its keys, so the rest starts with these seen.
    rw [takeSteps, List.flatMap_cons, announceNew_append]
    rcases v.announceNew (step.members ts type) p with ⟨signal, q⟩
    cases signal with
    | stop => rfl
    | proceed => exact ih q

end

end Visitor

/-! ## Resolutions -/

namespace Resolver

/-- What a resolution reports to a visitor that never stops, in order. -/
def candidates (r : Resolver) (type : String) (reference : Reference) (name : Option String) :
    List Member :=
  match name with
  | none => r.system.visibleMembers type
  | some name =>
    if r.isClaimed type reference name then []
    else distinctBy Member.key ((reference.steps name).flatMap (·.members r.system type))

/-- The members that a resolution calls the visitor with, in order. -/
def calls (r : Resolver) (type : String) (reference : Reference) (name : Option String)
    (v : Visitor σ) (s : σ) : List Member :=
  (r.process type reference name v.logged ([], s)).2.1

variable (r : Resolver) (type : String) (reference : Reference) (name : Option String)

/-- A resolution visits the candidates, and is resolved if there are any. -/
theorem process_eq_visit (v : Visitor σ) (s : σ) :
    r.process type reference name v s =
      (⟨(v.visit (r.candidates type reference name) s).1 == .proceed,
        !(r.candidates type reference name).isEmpty⟩,
        (v.visit (r.candidates type reference name) s).2) := by
  cases name with
  | none => simp [process, candidates, Visitor.announceAll_eq_visit]
  | some name =>
    unfold process candidates
    dsimp only
    split_ifs with hclaim
    · rfl
    · obtain ⟨seen, h⟩ := v.announceNew_eq_visit
        ((reference.steps name).flatMap (·.members r.system type)) ⟨[], false, s⟩
      rw [Visitor.takeSteps_eq_announceNew, h, unseen_nil_left]
      rfl

/-- Writing the members down changes neither the outcome nor the state. -/
theorem process_logged (v : Visitor σ) (s : σ) :
    r.process type reference name v.logged ([], s) =
      ((r.process type reference name v s).1,
        (r.calls type reference name v s, (r.process type reference name v s).2)) := by
  rw [calls, process_eq_visit, process_eq_visit, Visitor.visit_logged]

/-- The visitor is called with the candidates until it stops, and with no others. -/
theorem calls_eq_heard (v : Visitor σ) (s : σ) :
    r.calls type reference name v s = v.heard (r.candidates type reference name) s := by
  rw [calls, process_eq_visit, Visitor.visit_logged, List.nil_append]

section

variable {r r' : Resolver} {type type' : String} {reference reference' : Reference}
  {name name' : Option String}

/-- Delegates and closures matter to the candidates only by claiming the reference. -/
theorem candidates_congr (hsystem : r.system = r'.system)
    (husage : reference.usage = reference'.usage)
    (hclaim : ∀ n, name = some n →
      r.isClaimed type reference n = r'.isClaimed type reference' n) :
    r.candidates type reference name = r'.candidates type reference' name := by
  unfold candidates Reference.steps Reference.isWrite
  cases name with
  | none => rw [hsystem]
  | some n =>
    dsimp only
    rw [hsystem, husage, hclaim n rfl]

/-- A visitor cannot tell resolutions with the same candidates apart. -/
theorem process_congr_candidates
    (h : r.candidates type reference name = r'.candidates type' reference' name')
    (v : Visitor σ) (s : σ) :
    r.process type reference name v s = r'.process type' reference' name' v s ∧
      r.calls type reference name v s = r'.calls type' reference' name' v s := by
  rw [process_eq_visit, process_eq_visit, calls_eq_heard, calls_eq_heard, h]
  exact ⟨rfl, rfl⟩

end

theorem calls_of_neverStops {v : Visitor σ} (hv : v.NeverStops) (s : σ) :
    r.calls type reference name v s = r.candidates type reference name := by
  rw [calls_eq_heard, Visitor.heard_of_neverStops hv]

end Resolver

end Referent
