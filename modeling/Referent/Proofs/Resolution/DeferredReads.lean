import Referent.Proofs.Property
import Referent.Proofs.Resolution.Deferral

/-!
# Reading what a delegate serves

A type serves a call by its own list of names, and a read of the called name on that type goes
through another list. The lists differ, so a call may be deferred to a delegate that a read of the
same name finds nothing on.

Results:
* `Property.reads_or_missed_of_serves`, `Property.Missed.not_reads`: the methods that serve a call
  and are not found by a read of the name are of five kinds.
* `resolved_iff`: a read is resolved if the type has a method that it reports.
* `resolved_of_served`: a call that is served is resolved unless only methods of these kinds serve
  it, and exactly when it is not.
-/

namespace Referent

universe u

variable {σ : Type u}

/-- A read of the name that is called. -/
def Reference.ofCall (name : String) (call : Call) : Reference :=
  { read name with parent := .methodCall call }

/-! ## Methods that a read passes over -/

namespace Property

/-- Methods by which a call of the name may be served and that a read of the name does not find. -/
inductive Missed (name : String) (m : Member) : Prop where
  /-- `getSetFoo` and `isSetFoo` for `setFoo`. -/
  | getterOfSetter (hname : isSetter name = true)
      (hm : m.name = getter name ∨ m.name = booleanGetter name)
  /-- `isFoo` for `foo`. -/
  | booleanGetter (hname : Plain name) (hm : m.name = Property.booleanGetter name)
  /-- `setFoo` for `foo`, if it returns something. -/
  | fluentSetter (hname : Plain name) (hm : m.name = setter name) (htype : m.type.isVoid = false)
  /-- `setFoo` for `getFoo`, if it returns something, and `setfoo` for `getfoo`. -/
  | setterBesideGetter (rest : String) (hname : afterGet? name = some rest)
      (hm : m.name = "set" ++ rest) (hread : m.type.isVoid = false ∨ capitalize rest ≠ rest)
  /-- `setFoo` for `isFoo`. -/
  | setterBesideBooleanGetter (rest : String) (hname : afterIs? name = some rest)
      (hm : m.name = "set" ++ rest)

variable {name : String} {m : Member}

/-- A read of a setter's name finds the methods of that name only. -/
theorem reads_iff_of_isSetter (h : isSetter name = true) : Reads name m ↔ m.name = name := by
  simp [Reads, h]

theorem reads_iff_of_afterGet? {rest : String} (h : afterGet? name = some rest) :
    Reads name m ↔
      m.name = name ∨ m.name = decapitalize rest ∨
        (m.name = "set" ++ capitalize rest ∧ m.type.isVoid = true) := by
  have hget : isGetter name = true := by simp [isGetter, h]
  have hset : isSetter name = false := isSetter_of_isGetter hget
  simp [Reads, hget, hset, base_of_afterGet? h, setter_decapitalize]

theorem reads_iff_of_not_accessor (hget : isGetter name = false) (hset : isSetter name = false) :
    Reads name m ↔
      m.name = name ∨ (m.name = setter name ∧ m.type.isVoid = true) ∨ m.name = getter name := by
  simp [Reads, hget, hset, base_of_not_isGetter hget]

/-- A read finds none of these methods: their names are too long or start with another letter. -/
theorem Missed.not_reads (h : Missed name m) : ¬Reads name m := by
  intro hreads
  cases h with
  | getterOfSetter hname hm =>
    have heq := (reads_iff_of_isSetter hname).1 hreads
    rcases hm with hm | hm
    · have hlen := congrArg String.length (hm.symm.trans heq)
      rw [length_getter] at hlen
      omega
    · have hlen := congrArg String.length (hm.symm.trans heq)
      rw [length_booleanGetter] at hlen
      omega
  | booleanGetter hname hm =>
    have hlen := congrArg String.length hm
    rw [length_booleanGetter] at hlen
    rcases (reads_iff_of_not_accessor hname.1 hname.2.1).1 hreads with heq | ⟨heq, -⟩ | heq
    · rw [heq] at hlen
      omega
    · rw [heq, length_setter] at hlen
      omega
    · rw [heq, length_getter] at hlen
      omega
  | fluentSetter hname hm htype =>
    rcases (reads_iff_of_not_accessor hname.1 hname.2.1).1 hreads with heq | ⟨-, hvoid⟩ | heq
    · have hlen := congrArg String.length (hm.symm.trans heq)
      rw [length_setter] at hlen
      omega
    · simp [htype] at hvoid
    · exact get_ne_set _ _ (heq.symm.trans hm)
  | setterBesideGetter rest hname hm hread =>
    rcases (reads_iff_of_afterGet? hname).1 hreads with heq | heq | ⟨heq, hvoid⟩
    · rw [(afterGet?_eq_some_iff.1 hname).1] at heq
      exact get_ne_set _ _ (heq.symm.trans hm)
    · have hlen := congrArg String.length (hm.symm.trans heq)
      rw [length_set_append, length_decapitalize] at hlen
      omega
    · rcases hread with htype | hcase
      · simp [htype] at hvoid
      · exact hcase (String.append_right_inj _ |>.1 (heq.symm.trans hm))
  | setterBesideBooleanGetter rest hname hm =>
    have his : isBooleanGetter name = true := by simp [isBooleanGetter, hname]
    have hreads := (reads_iff_of_not_accessor (isGetter_of_isBooleanGetter his)
      (isSetter_of_isBooleanGetter his)).1 hreads
    have happend := eq_is_append_of_afterIs? hname
    rcases hreads with heq | ⟨heq, -⟩ | heq
    · rw [happend] at heq
      exact is_ne_set _ _ (heq.symm.trans hm)
    · have hlen := congrArg String.length (hm.symm.trans heq)
      rw [length_set_append, length_setter, happend, length_is_append] at hlen
      omega
    · exact get_ne_set _ _ (heq.symm.trans hm)

/-- A getter that a name is short for is found, unless the name is a setter's or the getter is not
the usual one. -/
theorem reads_or_missed_of_mem_getters (hname : name ≠ "") (h : m.name ∈ getters name) :
    Reads name m ∨ Missed name m := by
  by_cases hgetter : isGetter name = true ∨ isBooleanGetter name = true
  · rw [getters_of_getter hgetter] at h
    exact .inl (.inl (List.mem_singleton.1 h))
  obtain ⟨hget, his⟩ : isGetter name = false ∧ isBooleanGetter name = false := by
    simpa using hgetter
  rw [getters_of_not_getter hname hget his] at h
  have hm : m.name = getter name ∨ m.name = Property.booleanGetter name := by simpa using h
  cases hset : isSetter name with
  | true => exact .inr (.getterOfSetter hset hm)
  | false =>
    rcases hm with hm | hm
    · exact .inl ((reads_iff_of_not_accessor hget hset).2 (.inr (.inr hm)))
    · exact .inr (.booleanGetter ⟨hget, hset, his⟩ hm)

/-- A setter that a name is short for is found if the name is its own, or if it returns nothing and
the name is not a boolean getter's. -/
theorem reads_or_missed_of_mem_setters (hname : name ≠ "") (h : m.name ∈ setters name) :
    Reads name m ∨ Missed name m := by
  -- The shapes in the order in which `setters` asks for them.
  cases hset : isSetter name with
  | true =>
    rw [setters_of_isSetter hset] at h
    exact .inl (.inl (List.mem_singleton.1 h))
  | false =>
    cases hget : afterGet? name with
    | some rest =>
      rw [setters_of_afterGet? hget] at h
      have hm : m.name = "set" ++ rest := List.mem_singleton.1 h
      by_cases hread : m.type.isVoid = true ∧ capitalize rest = rest
      · refine .inl ((reads_iff_of_afterGet? hget).2 (.inr (.inr ⟨?_, hread.1⟩)))
        rw [hread.2, hm]
      · refine .inr (.setterBesideGetter rest hget hm ?_)
        rcases not_and_or.1 hread with htype | hcase
        · exact .inl (by simpa using htype)
        · exact .inr hcase
    | none =>
      cases his : afterIs? name with
      | some rest =>
        rw [setters_of_afterIs? his] at h
        exact .inr (.setterBesideBooleanGetter rest his (List.mem_singleton.1 h))
      | none =>
        have hplain : Plain name :=
          ⟨by simp [isGetter, hget], hset, by simp [isBooleanGetter, his]⟩
        rw [setters_of_plain hname hplain] at h
        have hm : m.name = setter name := List.mem_singleton.1 h
        cases htype : m.type.isVoid with
        | true => exact .inl ((reads_iff_of_not_accessor hplain.1 hset).2 (.inr (.inl ⟨hm, htype⟩)))
        | false => exact .inr (.fluentSetter hplain hm htype)

/-- A method by which a call is served is found by a read of the name, unless it is one of these. -/
theorem reads_or_missed_of_serves {ts : TypeSystem} {args : List TypeExpr} (hname : name ≠ "")
    (h : ts.Serves name args m) : Reads name m ∨ Missed name m := by
  rcases h with ⟨heq, -⟩ | ⟨hgetter, -⟩ | ⟨hsetter, -⟩
  · exact .inl (.inl heq)
  · exact reads_or_missed_of_mem_getters hname hgetter
  · exact reads_or_missed_of_mem_setters hname hsetter

end Property

/-! ## Calls that are served but not resolved -/

namespace TypeStore

variable {store : TypeStore} {type name : String}

/-- A read that no delegate claims is resolved if the type has a method that it finds. -/
theorem resolved_iff {reference : Reference} (husage : reference.usage = .read) (imports : Imports)
    (v : Visitor σ) (s : σ) :
    ((store.resolver .none imports).resolve type reference v s).1.resolved = true ↔
      ∃ m, store.system.HasMethod type m ∧ reference.name ≠ "" ∧
        Property.Reads reference.name m := by
  have hcandidates := (store.resolver .none imports).candidates_of_not_isClaimed type reference
    reference.name Resolver.isClaimed_none
  rw [husage] at hcandidates
  rw [Resolver.resolve, Resolver.process_eq_visit, hcandidates, isEmpty_distinctBy,
    Bool.not_eq_true', List.isEmpty_eq_false_iff_exists_mem]
  exact exists_congr fun m => mem_readSequence_iff

theorem Sound.name_ne_of_serves (hs : store.Sound) {m : Member} {args : List TypeExpr}
    (hm : store.system.HasMethod type m) (hserves : store.system.Serves name args m) :
    name ≠ "" := by
  rintro rfl
  obtain ⟨-, owner, -, hmem⟩ := hm
  rcases hserves with ⟨hempty, -⟩ | ⟨hgetter, -⟩ | ⟨hsetter, -⟩
  · exact (hs.mem_members hmem).2 hempty
  · cases hgetter
  · cases hsetter

/-- A call that the type serves is resolved by a read of the name on the type, unless the read
passes over every method that serves it. These methods are of the five kinds, and no others. The
call is served but not resolved exactly if there are such methods and the read finds no other. -/
theorem resolved_of_served (hstore : store.Reachable) (hprim : Boxing.boxed? type = none)
    (imports : Imports) (name : String) (call : Call) (v : Visitor σ) (s : σ) :
    let served := (store.system.serves? name call type).isSome = true
    let outcome := ((store.resolver .none imports).resolve type (.ofCall name call) v s).1
    let serving (m : Member) :=
      store.system.HasMethod type m ∧ store.system.Serves name call.arguments m
    (served → outcome.resolved = true ∨ ∀ m, serving m → Property.Missed name m) ∧
      (∀ m, serving m → (Property.Missed name m ↔ ¬Property.Reads name m)) ∧
      (served ∧ outcome.resolved = false ↔
        call.invoked ≠ none ∧ (∃ m, serving m ∧ Property.Missed name m) ∧
          ∀ m, store.system.HasMethod type m → ¬Property.Reads name m) := by
  intro served outcome serving
  have hserved : served ↔ call.invoked ≠ none ∧ ∃ m, serving m := by
    have hbox : Boxing.boxName type = type := by simp [Boxing.boxName, hprim]
    have hiff : served ↔ _ := isSome_serves?_iff
    rwa [hbox] at hiff
  have houtcome : outcome.resolved = true ↔ ∃ m, store.system.HasMethod type m ∧ name ≠ "" ∧
      Property.Reads name m := resolved_iff rfl imports v s
  have hname {m : Member} (hm : serving m) : name ≠ "" :=
    hstore.sound.name_ne_of_serves hm.1 hm.2
  have hkinds {m : Member} (hm : serving m) : Property.Reads name m ∨ Property.Missed name m :=
    Property.reads_or_missed_of_serves (hname hm) hm.2
  refine ⟨fun _ => ?_, fun m hm => ?_, ?_⟩
  -- A read may also find methods that do not serve the call: the two conditions are not opposites.
  · by_cases hfound : ∃ m, serving m ∧ Property.Reads name m
    · obtain ⟨m, hm, hreads⟩ := hfound
      exact .inl (houtcome.2 ⟨m, hm.1, hname hm, hreads⟩)
    · exact .inr fun m hm => (hkinds hm).resolve_left fun hreads => hfound ⟨m, hm, hreads⟩
  · exact ⟨Property.Missed.not_reads, (hkinds hm).resolve_left⟩
  · rw [← Bool.not_eq_true, houtcome, hserved]
    constructor
    · rintro ⟨⟨hinvoked, m, hm⟩, hnone⟩
      have hunread (n : Member) (hn : store.system.HasMethod type n) : ¬Property.Reads name n :=
        fun hreads => hnone ⟨n, hn, hname hm, hreads⟩
      exact ⟨hinvoked, ⟨m, hm, (hkinds hm).resolve_left (hunread m hm.1)⟩, hunread⟩
    · rintro ⟨hinvoked, ⟨m, hm, -⟩, hunread⟩
      refine ⟨⟨hinvoked, m, hm⟩, ?_⟩
      rintro ⟨n, hn, -, hreads⟩
      exact hunread n hn hreads

/-- A call `foo("...")` is served by the handler and resolved on it. -/
theorem resolved_of_served_foo :
    let call : Call := ⟨some "foo", [.declared "java.lang.String"]⟩
    let outcome := ((scriptStore.resolver .none .empty).resolve "a.Handler" (.ofCall "foo" call)
      (collect none) []).1
    scriptStore.Reachable ∧ Boxing.boxed? "a.Handler" = none ∧
      (scriptStore.system.serves? "foo" call "a.Handler").isSome = true ∧
      outcome.resolved = true := by
  intro call outcome
  let foo := Member.method "a.Handler" "foo" [.single "v" (.declared "java.lang.String")] .void
  have hfoo : scriptStore.system.HasMethod "a.Handler" foo :=
    ⟨rfl, "a.Handler", .inl rfl, .head _⟩
  have hserves : scriptStore.system.Serves "foo" call.arguments foo :=
    .inl ⟨rfl, scriptStore.system.accepts_own_types (m := foo) rfl⟩
  have hserved : (scriptStore.system.serves? "foo" call "a.Handler").isSome = true :=
    isSome_serves?_iff.2 ⟨by simp [call], foo, hfoo, hserves⟩
  have hprim : Boxing.boxed? "a.Handler" = none := rfl
  have h := resolved_of_served scriptStore_reachable hprim .empty "foo" call (collect none) []
  have hread : ¬Property.Missed "foo" foo := fun hmissed =>
    (h.2.1 foo ⟨hfoo, hserves⟩).1 hmissed (.inl rfl)
  exact ⟨scriptStore_reachable, hprim, hserved,
    (h.1 hserved).resolve_right fun hall => hread (hall foo ⟨hfoo, hserves⟩)⟩

/-- A call `level(1)` is served by a setter of the handler that returns the handler. A read of the
name on the handler does not find it. -/
theorem not_resolved_of_served :
    ¬∀ (store : TypeStore) (d : TypeDecl) (imports : Imports) (name : String) (call : Call),
      store.Reachable → d ∈ store.decls → Boxing.boxed? d.name = none →
        (store.system.serves? name call d.name).isSome = true →
          ((store.resolver .none imports).resolve d.name (.ofCall name call)
            (collect none) []).1.resolved = true := by
  intro hall
  let call : Call := ⟨some "level", [.basic "int"]⟩
  let setLevel :=
    Member.method "a.Handler" "setLevel" [.single "v" (.basic "int")] (.declared "a.Handler")
  have hlevel : scriptStore.system.HasMethod "a.Handler" setLevel :=
    ⟨rfl, "a.Handler", .inl rfl, .tail _ (.tail _ (.head _))⟩
  have hserved : (scriptStore.system.serves? "level" call "a.Handler").isSome = true :=
    isSome_serves?_iff.2 ⟨by simp [call], setLevel, hlevel,
      .inr (.inr ⟨by decide, scriptStore.system.acceptsValue_own_type (m := setLevel) rfl rfl⟩)⟩
  have hresolved := hall scriptStore _ .empty "level" call scriptStore_reachable
    (.tail _ (.tail _ (.head _))) rfl hserved
  have hsequence : scriptStore.system.readSequence "a.Handler" "level" = [] := by
    simp only [TypeSystem.readSequence, TypeSystem.methodsNamed, ancestors_handler]
    rfl
  obtain ⟨m, hm⟩ := (resolved_iff rfl .empty (collect none) []).1 hresolved
  have hmem : m ∈ scriptStore.system.readSequence "a.Handler" "level" :=
    mem_readSequence_iff.2 hm
  rw [hsequence] at hmem
  cases hmem

end TypeStore

end Referent
