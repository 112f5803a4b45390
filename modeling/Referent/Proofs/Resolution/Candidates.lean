import Referent.Proofs.Resolution.Visit
import Referent.Proofs.TypeStore.Methods

/-!
# The candidates of a name

Results:
* `calls_eq_distinctBy`: unless a delegate claims the reference, the members that are reported are
  those of the documented sequence, each key once. They are methods of the class or of a type that
  it inherits from, and the empty name has none.
-/

namespace Referent

universe u

variable {σ : Type u}

/-- A read of the name reports the method: it has that name, or the name is not a setter's and the
method is the property itself, a setter of it that returns nothing, or, unless the name is a
getter's, the getter of the name. -/
def Property.Reads (name : String) (m : Member) : Prop :=
  m.name = name ∨
    isSetter name = false ∧
      (m.name = base name ∨ (m.name = setter (base name) ∧ m.type.isVoid = true) ∨
        (isGetter name = false ∧ m.name = getter name))

namespace TypeSystem

variable (ts : TypeSystem) (type name : String)

/-- The methods that a name may denote where it is read: those named like the property, the setters
of the property that return nothing, the getters unless the name is one, and those of the name. A
setter's name denotes only the latter, the empty name nothing. -/
def readSequence : List Member :=
  if name = "" then []
  else if Property.isSetter name then ts.methodsNamed type name
  else
    ts.methodsNamed type (Property.base name) ++
      (ts.methodsNamed type (Property.setter (Property.base name))).filter (·.type.isVoid) ++
      (if Property.isGetter name then [] else ts.methodsNamed type (Property.getter name)) ++
      ts.methodsNamed type name

/-- The methods that a name may denote where it is written: those of the name, and the setters of
the name with one parameter unless the name is empty or a setter's. -/
def writeSequence : List Member :=
  ts.methodsNamed type name ++
    if name ≠ "" ∧ Property.isSetter name = false then
      (ts.methodsNamed type (Property.setter name)).filter (·.arity == 1)
    else []

/-- The methods that a name may denote, in the order of the documentation. A method may be there
more than once. -/
def sequence : Usage → List Member
  | .read => ts.readSequence type name
  | .write => ts.writeSequence type name

variable {ts type name}

theorem members_all : (Step.all name).members ts type = ts.methodsNamed type name := by
  simp [Step.members, Step.all]

theorem members_mk (keeps : Member → Bool) :
    (Step.mk name keeps).members ts type = (ts.methodsNamed type name).filter keeps := rfl

theorem flatMap_readSteps :
    (readSteps name).flatMap (·.members ts type) = ts.readSequence type name := by
  unfold readSteps readSequence
  split_ifs with hempty hsetter hgetter
  · rfl
  · simp [members_all]
  · simp [members_all, members_mk]
  · simp [members_all, members_mk]

theorem flatMap_writeSteps :
    (writeSteps name).flatMap (·.members ts type) = ts.writeSequence type name := by
  unfold writeSteps writeSequence
  by_cases h : name = "" ∨ Property.isSetter name = true
  · have hnot : ¬(name ≠ "" ∧ Property.isSetter name = false) := by
      rintro ⟨hempty, hsetter⟩
      rcases h with h | h
      · exact hempty h
      · simp [hsetter] at h
    rw [if_pos h, if_neg hnot]
    simp [members_all]
  · have hpos : name ≠ "" ∧ Property.isSetter name = false := by simpa using h
    rw [if_neg h, if_pos hpos]
    simp [members_all, members_mk]

/-- The steps of a reference report its sequence. -/
theorem flatMap_steps (reference : Reference) :
    (reference.steps name).flatMap (·.members ts type) =
      ts.sequence type name reference.usage := by
  unfold Reference.steps Reference.isWrite
  cases reference.usage with
  | read => exact flatMap_readSteps
  | write => exact flatMap_writeSteps

end TypeSystem

namespace Resolver

variable (r : Resolver) (type : String) (reference : Reference) (name : String)

theorem candidates_of_isClaimed (h : r.isClaimed type reference name = true) :
    r.candidates type reference (some name) = [] := by
  simp [candidates, h]

theorem candidates_of_not_isClaimed (h : r.isClaimed type reference name = false) :
    r.candidates type reference (some name) =
      distinctBy Member.key (r.system.sequence type name reference.usage) := by
  simp [candidates, h, TypeSystem.flatMap_steps]

end Resolver

namespace TypeStore

variable {store : TypeStore}

/-- The resolver over the types of a store. -/
def resolver (store : TypeStore) (delegation : Delegation) (imports : Imports) : Resolver :=
  ⟨store.system, delegation, imports⟩

variable {type name : String} {m : Member}

theorem mem_readSequence_iff :
    m ∈ store.system.readSequence type name ↔
      store.system.HasMethod type m ∧ name ≠ "" ∧ Property.Reads name m := by
  unfold TypeSystem.readSequence Property.Reads
  by_cases hname : name = ""
  · simp [hname]
  rw [if_neg hname]
  cases hset : Property.isSetter name with
  | true => simp [mem_methodsNamed, hname]
  | false =>
    cases hget : Property.isGetter name with
    | true =>
      simp only [Bool.false_eq_true, if_false, if_true, List.mem_append, List.mem_filter,
        mem_methodsNamed, List.not_mem_nil]
      tauto
    | false =>
      simp only [Bool.false_eq_true, if_false, List.mem_append, List.mem_filter, mem_methodsNamed]
      tauto

theorem hasMethod_of_mem_sequence {usage : Usage}
    (h : m ∈ store.system.sequence type name usage) : store.system.HasMethod type m := by
  cases usage with
  | read => exact (mem_readSequence_iff.1 h).1
  | write =>
    simp only [TypeSystem.sequence, TypeSystem.writeSequence] at h
    split_ifs at h with hsetter
    · rcases List.mem_append.1 h with h | h
      · exact (mem_methodsNamed.1 h).1
      · exact (mem_methodsNamed.1 (List.mem_filter.1 h).1).1
    · rw [List.append_nil] at h
      exact (mem_methodsNamed.1 h).1

/-- The empty name denotes nothing, because no member is nameless. -/
theorem Sound.sequence_empty (hs : store.Sound) (type : String) (usage : Usage) :
    store.system.sequence type "" usage = [] := by
  cases usage with
  | read => rfl
  | write => simp [TypeSystem.sequence, TypeSystem.writeSequence, hs.methodsNamed_empty]

/-- Unless a delegate claims the reference, a visitor that never stops is called with the methods
of the documented sequence, less those whose key an earlier one has. The empty name has none. No
two of them share a key, and each is a method that the class or a type it inherits from declares. -/
theorem calls_eq_distinctBy (hstore : store.Reachable) (delegation : Delegation)
    (imports : Imports) (type : String) (reference : Reference) (name : String)
    (hfree : (store.resolver delegation imports).isClaimed type reference name = false)
    {v : Visitor σ} (hv : v.NeverStops) (s : σ) :
    let ts := store.system
    let calls := (store.resolver delegation imports).calls type reference (some name) v s
    calls = distinctBy Member.key (ts.sequence type name reference.usage) ∧
      (name = "" → calls = []) ∧
      (calls.map Member.key).Nodup ∧
      ∀ m ∈ calls, m.kind = .method ∧ m ∈ ts.members m.owner ∧
        (m.owner = type ∨ m.owner ∈ ts.ancestors type) := by
  intro ts calls
  have hcalls : calls = distinctBy Member.key (ts.sequence type name reference.usage) := by
    have hcandidates := Resolver.candidates_of_not_isClaimed _ _ _ _ hfree
    exact (Resolver.calls_of_neverStops _ _ _ _ hv s).trans hcandidates
  have hsound := hstore.sound
  refine ⟨hcalls, ?_, ?_, ?_⟩
  · rintro rfl
    rw [hcalls, hsound.sequence_empty, distinctBy_nil]
  · rw [hcalls]
    exact nodup_map_distinctBy _ _
  · intro m hm
    rw [hcalls] at hm
    obtain ⟨hkind, owner, howner, hmem⟩ := hasMethod_of_mem_sequence (mem_of_mem_distinctBy hm)
    have heq : m.owner = owner := (hsound.mem_members hmem).1
    rw [heq]
    exact ⟨hkind, hmem, howner⟩

/-- What a read of `foo` on the script may mean. The setter that returns the script and the getter of
the base class are left out. -/
theorem distinctBy_sequence_foo :
    distinctBy Member.key (scriptStore.system.sequence "a.Script" "foo" .read) = [
      .method "a.Script" "foo" [.single "v" (.basic "int")] .void,
      .method "a.Script" "setFoo" [.single "v" (.declared "java.lang.String")] .void,
      .method "a.Script" "getFoo" [] (.declared "java.lang.String")] := by
  simp only [TypeSystem.sequence, TypeSystem.readSequence, TypeSystem.methodsNamed,
    ancestors_scriptStore]
  rfl

/-- A read of `foo` in a closure of the script. The closure has a delegate, but nothing is called.
The setter that returns the script and the getter of the base class are left out. -/
theorem calls_eq_distinctBy_foo :
    let r := scriptStore.resolver (.explicit [(1, .ofType "a.Handler")]) .empty
    let reference := (Reference.read "foo").inside ⟨1, none⟩
    scriptStore.Reachable ∧ r.isClaimed "a.Script" reference "foo" = false ∧
      (collect none).NeverStops ∧
      (r.calls "a.Script" reference (some "foo") (collect none) []).map (·.signature) =
        ["foo(int): void", "setFoo(java.lang.String): void", "getFoo(): java.lang.String"] := by
  intro r reference
  have hfree : r.isClaimed "a.Script" reference "foo" = false := by rfl
  have hv : (collect none).NeverStops := fun _ _ => rfl
  refine ⟨scriptStore_reachable, hfree, hv, ?_⟩
  have hcalls : r.calls "a.Script" reference (some "foo") (collect none) [] =
      distinctBy Member.key (scriptStore.system.sequence "a.Script" "foo" .read) :=
    (calls_eq_distinctBy scriptStore_reachable _ _ _ _ _ hfree hv []).1
  rw [hcalls, distinctBy_sequence_foo]
  rfl

end TypeStore

end Referent
