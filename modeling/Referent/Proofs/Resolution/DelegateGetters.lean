import Referent.Proofs.Property
import Referent.Proofs.Resolution.Deferral

/-!
# Getters of a delegate

A call of a property can be served by the getter of the property or by its boolean getter. Whether
a getter must return a boolean is told by its name alone: it must if an upper-case letter follows
`is`. The boolean getter of a property that starts with a letter has such a name. That of `_ready`
is `is_ready`, for which the rule is not applied, and it serves the call whatever it returns.

* `Property.ReadBy`: the methods that a property can be read by.

Results:
* `TypeExpr.isVoid_of_isBoolean`, `Property.readBy_iff`: what makes a method of one of the two names
  a getter.
* `TypeStore.serves?_eq_getter_iff`: when a call is served by a getter, and that the getter returns
  a boolean or has the usual name if the property starts with a letter.
* `TypeStore.not_isBoolean_of_getter`: a boolean getter that returns text.
-/

namespace Referent

/-! ## Methods that read a property -/

/-- A type that is called `boolean` is not called `void`. -/
theorem TypeExpr.isVoid_of_isBoolean {t : TypeExpr} (h : t.isBoolean = true) :
    t.isVoid = false := by
  have hname {name : String} (h : (name == "boolean" || name == "java.lang.Boolean") = true) :
      (name == "void") = false := by
    rw [Bool.or_eq_true, beq_iff_eq, beq_iff_eq] at h
    rcases h with rfl | rfl
    · decide
    · decide
  cases t with
  | basic name => exact hname h
  | declared name => exact hname h
  | _ => cases h

namespace Property

/-- The method reads the property, if it has no parameters: it is the getter of the property and
returns something, or it is the boolean getter and returns a boolean. If the property does not start
with a letter the boolean getter may return anything as well. -/
inductive ReadBy (name : String) (m : Member) : Prop where
  | getter (hm : m.name = Property.getter name) (htype : m.type.isVoid = false)
  | booleanGetter (hm : m.name = Property.booleanGetter name) (htype : m.type.isBoolean = true)
  | unmarkedGetter (hm : m.name = Property.booleanGetter name) (hname : ¬StartsAlpha name)
      (htype : m.type.isVoid = false)

variable {name : String} {m : Member}

theorem isPropertyGetter_iff :
    m.isPropertyGetter = true ↔
      m.kind = .method ∧ m.arity = 0 ∧ m.type.isVoid = false ∧
        (isBooleanGetter m.name = true → m.type.isBoolean = true) := by
  simp only [Member.isPropertyGetter, Member.isMethod, Bool.and_eq_true, Bool.or_eq_true,
    Bool.not_eq_true', beq_iff_eq, and_assoc]
  rw [← Bool.not_eq_true (isBooleanGetter m.name), ← imp_iff_not_or]

/-- Of the methods that a plain name can be short for as a getter these read the property. -/
theorem readBy_iff (hname : name ≠ "") (hget : isGetter name = false)
    (his : isBooleanGetter name = false) :
    m.name ∈ getters name ∧ m.isPropertyGetter = true ↔
      m.kind = .method ∧ m.arity = 0 ∧ ReadBy name m := by
  rw [getters_of_not_getter hname hget his, isPropertyGetter_iff, List.mem_cons,
    List.mem_singleton]
  constructor
  · rintro ⟨hm | hm, hkind, harity, hvoid, hboolean⟩
    · exact ⟨hkind, harity, .getter hm hvoid⟩
    · by_cases halpha : StartsAlpha name
      · refine ⟨hkind, harity, .booleanGetter hm (hboolean ?_)⟩
        rwa [hm, isBooleanGetter_booleanGetter_iff]
      · exact ⟨hkind, harity, .unmarkedGetter hm halpha hvoid⟩
  · rintro ⟨hkind, harity, ⟨hm, hvoid⟩ | ⟨hm, htype⟩ | ⟨hm, halpha, hvoid⟩⟩
    · refine ⟨.inl hm, hkind, harity, hvoid, fun hshape => ?_⟩
      rw [hm, isBooleanGetter_getter hname] at hshape
      cases hshape
    · exact ⟨.inr hm, hkind, harity, TypeExpr.isVoid_of_isBoolean htype, fun _ => htype⟩
    · refine ⟨.inr hm, hkind, harity, hvoid, fun hshape => absurd ?_ halpha⟩
      rwa [hm, isBooleanGetter_booleanGetter_iff] at hshape

end Property

/-! ## Calls that a getter serves -/

theorem TypeSystem.serves?_eq_some_getter_iff {ts : TypeSystem} {name receiver : String}
    {call : Call} :
    ts.serves? name call receiver = some .getter ↔
      call.invoked ≠ none ∧
        ts.methodsAccepting (Boxing.boxName receiver) name call.arguments = [] ∧
          ts.hasGetter (Boxing.boxName receiver) name = true := by
  unfold serves?
  dsimp only
  split_ifs with hinvoked hmethod hgetter hsetter <;> simp_all

namespace TypeStore

open Property (StartsAlpha getter booleanGetter isGetter isBooleanGetter)

variable {name receiver : String} {call : Call}

/-- Getters are asked when no method of the name accepts the arguments. -/
theorem serves?_eq_some_getter_iff {store : TypeStore} :
    store.system.serves? name call receiver = some .getter ↔
      call.invoked ≠ none ∧
        (∀ m, store.system.HasMethod (Boxing.boxName receiver) m → m.name = name →
          store.system.accepts m call.arguments = false) ∧
        ∃ m, store.system.HasMethod (Boxing.boxName receiver) m ∧
          m.name ∈ Property.getters name ∧ m.isPropertyGetter = true := by
  have hnone : store.system.methodsAccepting (Boxing.boxName receiver) name call.arguments = [] ↔
      ∀ m, store.system.HasMethod (Boxing.boxName receiver) m → m.name = name →
        store.system.accepts m call.arguments = false := by
    simp [TypeSystem.methodsAccepting, List.filter_eq_nil_iff, mem_methodsNamed]
  rw [TypeSystem.serves?_eq_some_getter_iff, hnone, hasGetter_iff]

/-- A call of a name that is no accessor's is served by a getter exactly if no method of the name
accepts the arguments and a method without parameters reads the property. If the name starts with a
letter, this is the getter of the property or a boolean getter that returns a boolean. -/
theorem serves?_eq_getter_iff (store : TypeStore) (hname : name ≠ "")
    (hget : isGetter name = false) (his : isBooleanGetter name = false) (call : Call)
    (receiver : String) :
    let served := store.system.serves? name call receiver = some .getter
    let has := store.system.HasMethod (Boxing.boxName receiver)
    (served ↔
      call.invoked ≠ none ∧
        (∀ m, has m → m.name = name → store.system.accepts m call.arguments = false) ∧
        ∃ m, has m ∧ m.arity = 0 ∧ Property.ReadBy name m) ∧
      (served → StartsAlpha name → ∃ m, has m ∧ m.arity = 0 ∧
        (m.name = getter name ∧ m.type.isVoid = false ∨
          m.name = booleanGetter name ∧ m.type.isBoolean = true)) := by
  intro served has
  have hreads (m : Member) (hm : has m) :
      m.name ∈ Property.getters name ∧ m.isPropertyGetter = true ↔
        m.arity = 0 ∧ Property.ReadBy name m := by
    rw [Property.readBy_iff hname hget his]
    exact and_iff_right hm.1
  have hserved : served ↔
      call.invoked ≠ none ∧
        (∀ m, has m → m.name = name → store.system.accepts m call.arguments = false) ∧
        ∃ m, has m ∧ m.arity = 0 ∧ Property.ReadBy name m := by
    rw [show served ↔ _ from serves?_eq_some_getter_iff]
    refine and_congr_right' (and_congr_right' (exists_congr fun m => ?_))
    exact and_congr_right (hreads m)
  refine ⟨hserved, fun h halpha => ?_⟩
  obtain ⟨-, -, m, hm, harity, hreads⟩ := hserved.1 h
  cases hreads with
  | getter hgetter hvoid => exact ⟨m, hm, harity, .inl ⟨hgetter, hvoid⟩⟩
  | booleanGetter hgetter htype => exact ⟨m, hm, harity, .inr ⟨hgetter, htype⟩⟩
  | unmarkedGetter _ hnot _ => exact absurd halpha hnot

/-! ## A handler with two boolean getters -/

/-- Tells whether the handler is enabled. -/
def handlerEnabled : Member :=
  .method "a.Handler" "isEnabled" [] (.basic "boolean")

/-- Tells in words whether the handler is ready. -/
def handlerReady : Member :=
  .method "a.Handler" "is_ready" [] (.declared "java.lang.String")

/-- A handler that is asked for a switch and for a text in the same way. -/
def readyStore : TypeStore where
  decls := [{ TypeDecl.ofInterface "a.Handler" with members := [handlerEnabled, handlerReady] }]

theorem readyStore_reachable : readyStore.Reachable :=
  ⟨readyStore.decls, by rfl⟩

theorem hasMethod_readyStore {m : Member} :
    readyStore.system.HasMethod "a.Handler" m ↔ m = handlerEnabled ∨ m = handlerReady := by
  have hancestors : readyStore.system.ancestors "a.Handler" = [] := by cbv
  have hmembers : readyStore.system.members "a.Handler" = [handlerEnabled, handlerReady] := rfl
  unfold TypeSystem.HasMethod
  rw [hancestors]
  constructor
  · rintro ⟨-, owner, rfl | howner, hm⟩
    · simpa [hmembers] using hm
    · cases howner
  · rintro (rfl | rfl)
    · exact ⟨rfl, "a.Handler", .inl rfl, .head _⟩
    · exact ⟨rfl, "a.Handler", .inl rfl, .tail _ (.head _)⟩

/-- No method of the handler has the name of a property. -/
theorem not_accepts_readyStore {args : List TypeExpr} (hname : name = "enabled" ∨ name = "_ready")
    (m : Member) (hm : readyStore.system.HasMethod "a.Handler" m) (hm' : m.name = name) :
    readyStore.system.accepts m args = false := by
  have hne : m.name ≠ "enabled" ∧ m.name ≠ "_ready" := by
    rcases hasMethod_readyStore.1 hm with rfl | rfl
    · decide
    · decide
  rcases hname with rfl | rfl
  · exact absurd hm' hne.1
  · exact absurd hm' hne.2

/-- A call `enabled()` is served by `isEnabled` of the handler, which returns a boolean. -/
theorem serves?_eq_getter_iff_enabled :
    let call : Call := ⟨some "enabled", []⟩
    "enabled" ≠ "" ∧ isGetter "enabled" = false ∧ isBooleanGetter "enabled" = false ∧
      StartsAlpha "enabled" ∧
      readyStore.system.serves? "enabled" call "a.Handler" = some .getter ∧
      ∃ m, readyStore.system.HasMethod "a.Handler" m ∧ m.arity = 0 ∧
        (m.name = "getEnabled" ∧ m.type.isVoid = false ∨
          m.name = "isEnabled" ∧ m.type.isBoolean = true) := by
  intro call
  have hname : "enabled" ≠ "" := by decide
  have hget : isGetter "enabled" = false := by decide
  have his : isBooleanGetter "enabled" = false := by decide
  have halpha : StartsAlpha "enabled" := ⟨'e', "nabled".toList, by decide, by decide⟩
  obtain ⟨hiff, hboolean⟩ :=
    readyStore.serves?_eq_getter_iff hname hget his call "a.Handler"
  have hserved : readyStore.system.serves? "enabled" call "a.Handler" = some .getter :=
    hiff.2 ⟨by simp [call], not_accepts_readyStore (.inl rfl), handlerEnabled,
      hasMethod_readyStore.2 (.inl rfl), rfl, .booleanGetter (by decide) rfl⟩
  exact ⟨hname, hget, his, halpha, hserved, hboolean hserved halpha⟩

/-- A call `_ready()` is served by `is_ready`, which returns a text, and there is no other getter of
the property. -/
theorem not_isBoolean_of_getter :
    ¬∀ (store : TypeStore) (name receiver : String) (call : Call), store.Reachable →
      name ≠ "" → isGetter name = false → isBooleanGetter name = false →
        store.system.serves? name call receiver = some .getter →
          ∃ m, store.system.HasMethod (Boxing.boxName receiver) m ∧ m.arity = 0 ∧
            (m.name = getter name ∧ m.type.isVoid = false ∨
              m.name = booleanGetter name ∧ m.type.isBoolean = true) := by
  intro hall
  let call : Call := ⟨some "_ready", []⟩
  have hserved : readyStore.system.serves? "_ready" call "a.Handler" = some .getter :=
    serves?_eq_some_getter_iff.2 ⟨by simp [call], not_accepts_readyStore (.inr rfl), handlerReady,
      hasMethod_readyStore.2 (.inr rfl), by decide, by decide⟩
  obtain ⟨m, hm, -, hreads⟩ := hall readyStore "_ready" "a.Handler" call readyStore_reachable
    (by decide) (by decide) (by decide) hserved
  have hneither : ∀ m ∈ [handlerEnabled, handlerReady], ¬(m.name = getter "_ready" ∨
      m.name = booleanGetter "_ready" ∧ m.type.isBoolean = true) := by decide
  refine hneither m (by simpa using hasMethod_readyStore.1 hm) ?_
  exact hreads.imp_left And.left

end TypeStore

end Referent
