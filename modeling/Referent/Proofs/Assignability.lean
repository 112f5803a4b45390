import Referent.Proofs.Subtyping
import Referent.Proofs.TypeExpr.Erasure

/-!
# What may be passed where

A value of one type may be passed where another is expected by six rules, of which subtyping is one.
Each of them goes on to hold when the type that is expected is widened.

* `Passes` — the rules.

Results:
* `isSubtype_erased`: of the wider type only the erased type matters, whatever the other type is.
* `isAssignable_plain`: of the type that is expected only what its erasure names matters.
* `isAssignable_iff_passes`: assignability is given by the rules.
* `isSubtype_of_isOpen_iff`: a wildcard or an unknown type is below itself and the top class only.
* `isAssignable_widening`: in a store assignability extends subtyping, goes on to wider types, and
  ends at the top class for all types.
-/

namespace Referent

namespace Boxing

open TypeExpr (primitiveNames)

/-- Every primitive type has a wrapper class. -/
theorem exists_boxed {name : String} (h : name ∈ primitiveNames) :
    ∃ wrapper, boxed? name = some wrapper := by
  rw [← Option.isSome_iff_exists]
  revert name
  decide +kernel

theorem mem_primitiveNames_of_unboxed {wrapper primitive : String}
    (h : unboxed? wrapper = some primitive) : primitive ∈ primitiveNames := by
  have hall : ∀ box ∈ boxes, box.1 ∈ primitiveNames := by decide +kernel
  obtain ⟨box, hbox, rfl⟩ := Option.map_eq_some_iff.1 h
  exact hall box (List.mem_of_find?_eq_some hbox)

end Boxing

namespace TypeSystem

open TypeExpr (nullName objectName primitiveNames)

variable {ts : TypeSystem} {a b c : TypeExpr}

/-! ## Subtyping by the wider type -/

/-- Everything but primitive types is a subtype of the top class. -/
theorem isSubtype_of_isObject (a : TypeExpr) (hb : b.isObject = true) :
    ts.isSubtype a b = !a.isPrimitive := by
  unfold isSubtype
  split_ifs with heq
  · rw [heq]
    cases b with
    | basic name => cases hb
    | _ => rfl
  · rfl

theorem isSubtype_generic {base : TypeExpr} {args : List TypeExpr} (hne : .generic base args ≠ b)
    (hb : b.isObject = false) : ts.isSubtype (.generic base args) b = ts.isSubtype base b := by
  rw [isSubtype, if_neg hne, if_neg (by rw [hb]; exact Bool.false_ne_true)]

theorem isSubtype_array (a b : TypeExpr) (m n : Dimensions) :
    ts.isSubtype (.array a m) (.array b n) =
      (m == n && (a == b || (!a.isPrimitive && ts.isSubtype a b))) := by
  rw [isSubtype]
  split_ifs with heq hobject
  · obtain ⟨rfl, rfl⟩ := TypeExpr.array.inj heq
    simp
  · cases hobject
  · rfl

theorem isSubtype_erased_self (hb : b.DeclaredBases) : ts.isSubtype b b.erased = true :=
  (isSubtype_iff_below hb hb.erased).2 (by rw [b.erased_erased]; exact .refl _)

/-- The generic arguments of the wider type do not matter, whatever the other type is. -/
theorem isSubtype_erased (a : TypeExpr) (hb : b.DeclaredBases) :
    ts.isSubtype a b.erased = ts.isSubtype a b := by
  induction a, b using isSubtype.induct with
  | case1 t => rw [isSubtype_erased_self hb, isSubtype_self]
  | case2 a b hne hobject =>
    rw [isSubtype_of_isObject a hobject, isSubtype_of_isObject a (hb.isObject_erased.trans hobject)]
  | case3 a b _ _ => rfl
  | case4 a b _ _ => rfl
  | case5 base args b hobject hne ih =>
    rw [Bool.not_eq_true] at hobject
    rw [isSubtype_generic (b.erased_ne_generic base args).symm (hb.isObject_erased.trans hobject),
      isSubtype_generic hne hobject, ih hb]
  | case6 a base args ha hobject hne ih =>
    obtain ⟨name, rfl⟩ := hb
    have h : ts.isSubtype a (.generic (.declared name) args) = ts.isSubtype a (.declared name) := by
      rw [isSubtype, if_neg hne, if_neg hobject]
      exact ha
    exact h.symm
  | case7 a m b n hobject hne ih =>
    have hb : b.DeclaredBases := hb
    rw [TypeExpr.erased, isSubtype_array, isSubtype_array, ih hb]
    congr 1
    -- Elements that are equal are subtypes, except that primitive ones have to be equal.
    cases hprimitive : a.isPrimitive with
    | true =>
      have herased : a.erased = a := TypeExpr.erased_of_isPrimitive hprimitive
      have heq : a = b.erased ↔ a = b :=
        ⟨fun h => hb.eq_of_isPrimitive hprimitive (herased.trans h), fun h => h ▸ herased.symm⟩
      simp [heq]
    | false =>
      have hself : a = b → ts.isSubtype a b = true := fun h => h ▸ ts.isSubtype_self a
      have hself' : a = b.erased → ts.isSubtype a b = true := fun h => by
        rw [← ih hb, ← h, isSubtype_self]
      rw [Bool.eq_iff_iff]
      simp only [Bool.not_false, Bool.true_and, Bool.or_eq_true, beq_iff_eq]
      rw [or_iff_right_of_imp hself, or_iff_right_of_imp hself']
  | case8 a b hne hobject hgeneric hgeneric' hbasic hdeclared harray =>
    cases b with
    | generic base args => exact absurd rfl (hgeneric' base args)
    | array b n =>
      cases a with
      | generic base args => exact absurd rfl (hgeneric base args)
      | array a m => exact absurd rfl (harray a m b n rfl)
      | _ => simp [isSubtype, TypeExpr.erased, TypeExpr.isObject, TypeExpr.name?]
    | _ => rfl

/-! ## Assignability by what the erasure names -/

theorem isAssignable_of_isOpen (a : TypeExpr) (hb : b.isOpen = true) :
    ts.isAssignable a b = true := by
  unfold isAssignable
  cases b with
  | wildcard upper => simp [isWildcard]
  | bounded upper bound => simp [isWildcard]
  | unknown => simp
  | _ => cases hb

/-- A type that is not open is neither unknown nor a wildcard. -/
theorem isAssignable_of_not_isOpen (a : TypeExpr) (hb : b.isOpen = false) :
    ts.isAssignable a b =
      if a = .unknown then true
      else if a.isNull then !b.isPrimitive
      else ts.isSubtype a b || ts.isConvertible a b := by
  unfold isAssignable
  cases b with
  | wildcard upper => cases hb
  | bounded upper bound => cases hb
  | unknown => cases hb
  | _ => simp [isWildcard]

theorem isConvertible_erased (a : TypeExpr) (hb : b.DeclaredBases) :
    ts.isConvertible a b.erased = ts.isConvertible a b := by
  cases a with
  | basic name =>
    unfold isConvertible
    simp only [hb.isPrimitive_erased, isSubtype_erased _ hb]
  | declared name =>
    cases b with
    | generic base args =>
      obtain ⟨base, rfl⟩ := hb
      rfl
    | _ => rfl
  | _ => rfl

/-- Of the type that is expected only what its erasure names matters. -/
theorem isAssignable_plain (a : TypeExpr) (hb : b.Regular) :
    ts.isAssignable a b.plain = ts.isAssignable a b := by
  cases hopen : b.isOpen with
  | true =>
    rw [TypeExpr.plain_of_isOpen hopen, isAssignable_of_isOpen a hopen]
    exact isAssignable_of_isOpen a rfl
  | false =>
    have hopen' : b.erased.isOpen = false := hb.declaredBases.isOpen_erased.trans hopen
    rw [hb.plain_eq_erased hopen, isAssignable_of_not_isOpen a hopen,
      isAssignable_of_not_isOpen a hopen', hb.declaredBases.isPrimitive_erased,
      isSubtype_erased a hb.declaredBases, isConvertible_erased a hb.declaredBases]

/-! ## The rules -/

/-- A value of the first type may be passed where the second is expected. -/
inductive Passes (ts : TypeSystem) : TypeExpr → TypeExpr → Prop
  | unknown (b : TypeExpr) : Passes ts .unknown b
  | toOpen {a b : TypeExpr} (h : b.isOpen = true) : Passes ts a b
  | null {b : TypeExpr} (h : b.isPrimitive = false) : Passes ts (.basic nullName) b
  | subtype {a b : TypeExpr} (h : ts.isSubtype a b = true) : Passes ts a b
  | boxing {primitive wrapper : String} {b : TypeExpr} (hb : b.isPrimitive = false)
      (hbox : Boxing.boxed? primitive = some wrapper)
      (h : ts.isSubtype (.declared wrapper) b = true) : Passes ts (.basic primitive) b
  | unboxing {wrapper primitive name : String} (hbox : Boxing.unboxed? wrapper = some primitive)
      (h : primitive = name ∨ Boxing.widens primitive name = true) :
      Passes ts (.declared wrapper) (.basic name)

theorem isConvertible_basic_iff {primitive : String} :
    ts.isConvertible (.basic primitive) b = true ↔
      b.isPrimitive = false ∧ ∃ wrapper, Boxing.boxed? primitive = some wrapper ∧
        ts.isSubtype (.declared wrapper) b = true := by
  unfold isConvertible
  cases b.isPrimitive with
  | true => simp
  | false => cases hbox : Boxing.boxed? primitive <;> simp [hbox]

theorem isConvertible_declared_iff {wrapper : String} :
    ts.isConvertible (.declared wrapper) b = true ↔
      ∃ name primitive, b = .basic name ∧ Boxing.unboxed? wrapper = some primitive ∧
        (primitive = name ∨ Boxing.widens primitive name = true) := by
  unfold isConvertible
  cases b with
  | basic name => cases hbox : Boxing.unboxed? wrapper <;> simp [hbox]
  | _ => simp

theorem passes_of_isConvertible (h : ts.isConvertible a b = true) : Passes ts a b := by
  cases a with
  | basic primitive =>
    obtain ⟨hb, wrapper, hbox, h⟩ := isConvertible_basic_iff.1 h
    exact .boxing hb hbox h
  | declared wrapper =>
    obtain ⟨name, primitive, rfl, hbox, h⟩ := isConvertible_declared_iff.1 h
    exact .unboxing hbox h
  | _ => cases h

theorem isNull_iff : a.isNull = true ↔ a = .basic nullName := by
  cases a <;> simp [TypeExpr.isNull]

/-- The type of `null` is a subtype of no primitive type. -/
theorem not_isPrimitive_of_isSubtype_null (h : ts.isSubtype (.basic nullName) b = true) :
    b.isPrimitive = false := by
  cases b with
  | basic name =>
    rw [isSubtype] at h
    split_ifs at h with heq hobject
    · rw [← heq]
      rfl
    · cases hobject
    · cases h
  | _ => rfl

/-- Assignability is given by the rules. -/
theorem isAssignable_iff_passes : ts.isAssignable a b = true ↔ Passes ts a b := by
  cases hopen : b.isOpen with
  | true => exact iff_of_true (isAssignable_of_isOpen a hopen) (.toOpen hopen)
  | false =>
    rw [isAssignable_of_not_isOpen a hopen]
    constructor
    · intro h
      split_ifs at h with hunknown hnull
      · exact hunknown ▸ .unknown b
      · exact isNull_iff.1 hnull ▸ .null (by simpa using h)
      · rcases Bool.or_eq_true_iff.1 h with h | h
        · exact .subtype h
        · exact passes_of_isConvertible h
    · intro h
      cases h with
      | unknown => rfl
      | toOpen h =>
        rw [hopen] at h
        cases h
      | null h => simp [TypeExpr.isNull, h]
      | subtype h =>
        split_ifs with hunknown hnull
        · rfl
        · rw [isNull_iff.1 hnull] at h
          simpa using not_isPrimitive_of_isSubtype_null h
        · rw [h, Bool.true_or]
      | @boxing primitive wrapper _ hb hbox h =>
        have hnull : TypeExpr.isNull (.basic primitive) = false := by
          rw [← Bool.not_eq_true, isNull_iff]
          rintro ⟨⟩
          cases hbox
        have hconvertible : ts.isConvertible (.basic primitive) b = true :=
          isConvertible_basic_iff.2 ⟨hb, wrapper, hbox, h⟩
        simp [hnull, hconvertible]
      | @unboxing wrapper primitive name hbox h =>
        have hconvertible : ts.isConvertible (.declared wrapper) (.basic name) = true :=
          isConvertible_declared_iff.2 ⟨name, primitive, rfl, hbox, h⟩
        simp [TypeExpr.isNull, hconvertible]

/-! ## Wider types -/

/-- Whatever is passed is of a type of which the top class is a wider one, once it is boxed. -/
theorem passes_object (a : TypeExpr) (hb : b.isObject = true) : Passes ts a b := by
  have hsubtype (a : TypeExpr) (ha : a.isPrimitive = false) : ts.isSubtype a b = true := by
    rw [isSubtype_of_isObject a hb, ha]
    rfl
  cases hprimitive : a.isPrimitive with
  | false => exact .subtype (hsubtype a hprimitive)
  | true =>
    cases a with
    | basic name =>
      obtain ⟨wrapper, hbox⟩ := Boxing.exists_boxed (List.contains_iff_mem.1 hprimitive)
      have hb' : b.isPrimitive = false := by
        cases b with
        | basic name => cases hb
        | _ => rfl
      exact .boxing hb' hbox (hsubtype _ rfl)
    | _ => cases hprimitive

/-- Below a primitive type there are primitive types only. -/
theorem Below.isPrimitive_left (h : Below ts a b) (hb : b.isPrimitive = true) :
    a.isPrimitive = true := by
  cases h with
  | refl _ => exact hb
  | widening h => exact List.contains_iff_mem.2 (Boxing.mem_primitiveNames_of_widens h)
  | _ => cases hb

theorem isPrimitive_of_isSubtype (ha : a.DeclaredBases) (hb : b.DeclaredBases)
    (h : ts.isSubtype a b = true) (hprimitive : b.isPrimitive = true) : a.isPrimitive = true := by
  rw [← ha.isPrimitive_erased]
  exact ((isSubtype_iff_below ha hb).1 h).isPrimitive_left (hb.isPrimitive_erased.trans hprimitive)

/-- An open type is seen as it is written: nothing but itself and the top class is above it. -/
theorem isSubtype_of_isOpen_iff (ha : a.isOpen = true) (hb : b.DeclaredBases) :
    ts.isSubtype a b = true ↔ a = b ∨ b.isObject = true := by
  have herased : a.erased = a := TypeExpr.erased_of_isOpen ha
  have ha' : a.DeclaredBases := by
    cases a with
    | generic base args => cases ha
    | array element dimensions => cases ha
    | _ => trivial
  constructor
  · intro h
    have hbelow := (isSubtype_iff_below ha' hb).1 h
    rw [herased] at hbelow
    generalize hx : b.erased = x at hbelow
    cases hbelow with
    | refl _ =>
      have hopen : b.isOpen = true := by rw [← hb.isOpen_erased, hx, ha]
      exact .inl (hx.symm.trans (TypeExpr.erased_of_isOpen hopen))
    | object _ => exact .inr (hb.isObject_iff.2 hx)
    | _ => cases ha
  · rintro (rfl | hobject)
    · exact ts.isSubtype_self a
    · rw [isSubtype_of_isObject a hobject]
      cases a with
      | basic name => cases ha
      | _ => rfl

/-- Above a primitive type there are the types that it is widened to, and no others. -/
theorem eq_basic_of_isSubtype {name : String} (hname : name ∈ primitiveNames)
    (hb : b.DeclaredBases) (h : ts.isSubtype (.basic name) b = true) :
    ∃ wider, b = .basic wider ∧ (name = wider ∨ Boxing.widens name wider = true) := by
  have hprimitive : TypeExpr.isPrimitive (.basic name) = true := List.contains_iff_mem.2 hname
  have hbase : (TypeExpr.basic name).DeclaredBases := trivial
  have hbelow : Below ts (.basic name) b.erased := (isSubtype_iff_below hbase hb).1 h
  have hb' : b.erased.isPrimitive = true := hbelow.isPrimitive hprimitive
  rw [hb.isPrimitive_erased] at hb'
  rw [TypeExpr.erased_of_isPrimitive hb'] at hbelow
  cases hbelow with
  | refl _ => exact ⟨name, rfl, .inl rfl⟩
  | widening hwidens => exact ⟨_, rfl, .inr hwidens⟩
  | object _ => cases hb'

/-- The rules go on to hold when the type that is expected is widened, if subtyping is transitive. -/
theorem Passes.widen (ha : a.DeclaredBases) (hb : b.DeclaredBases) (hc : c.DeclaredBases)
    (htrans : ∀ {a}, a.DeclaredBases → ts.isSubtype a b = true → ts.isSubtype a c = true)
    (hab : Passes ts a b) (hbc : ts.isSubtype b c = true) : Passes ts a c := by
  cases hab with
  | unknown => exact .unknown c
  | toOpen hopen =>
    rcases (isSubtype_of_isOpen_iff hopen hc).1 hbc with rfl | hobject
    · exact .toOpen hopen
    · exact passes_object a hobject
  | null h =>
    refine .null ?_
    rw [← Bool.not_eq_true] at h ⊢
    exact fun hprimitive => h (isPrimitive_of_isSubtype hb hc hbc hprimitive)
  | subtype h => exact .subtype (htrans ha h)
  | boxing hprimitive hbox h =>
    refine .boxing ?_ hbox (htrans trivial h)
    rw [← Bool.not_eq_true] at hprimitive ⊢
    exact fun hc' => hprimitive (isPrimitive_of_isSubtype hb hc hbc hc')
  | @unboxing wrapper primitive name hbox h =>
    have hname : name ∈ primitiveNames := by
      rcases h with rfl | h
      · exact Boxing.mem_primitiveNames_of_unboxed hbox
      · exact (Boxing.widens_spec h).1
    obtain ⟨wider, rfl, hwider⟩ := eq_basic_of_isSubtype hname hc hbc
    refine .unboxing hbox ?_
    rcases h with rfl | h
    · exact hwider
    · rcases hwider with rfl | hwider
      · exact .inr h
      · exact .inr (Boxing.widens_trans h hwider)

end TypeSystem

/-! ## Assignability in a store -/

namespace TypeStore

open TypeExpr (objectName)

variable {s : TypeStore} {a b c : TypeExpr}

theorem isSubtype_trans (htop : s.ObjectOnTop) (ha : a.DeclaredBases) (hb : b.DeclaredBases)
    (hc : c.DeclaredBases) (hab : s.system.isSubtype a b = true)
    (hbc : s.system.isSubtype b c = true) : s.system.isSubtype a c = true := by
  rw [TypeSystem.isSubtype_iff_below ha hb] at hab
  rw [TypeSystem.isSubtype_iff_below hb hc] at hbc
  rw [TypeSystem.isSubtype_iff_below ha hc]
  exact hab.trans (fun _ => htop.eq_of_inherits) (fun _ _ _ => inherits_trans) hbc

/-- In a store whose top class has no supertypes, a value of one type may be passed where a wider one
is expected, and where it may be passed, it may be passed too if a yet wider type is expected. A
value of any type may be passed where the top class is expected. The types are those that can be
written with no generic type on a basic one. -/
theorem isAssignable_widening (htop : s.ObjectOnTop)
    (ha : (∃ text, TypeExpr.parse text = .ok a) ∧ a.NoBasicBase)
    (hb : (∃ text, TypeExpr.parse text = .ok b) ∧ b.NoBasicBase)
    (hc : (∃ text, TypeExpr.parse text = .ok c) ∧ c.NoBasicBase) :
    (s.system.isSubtype a b = true → s.system.isAssignable a b = true) ∧
      (s.system.isAssignable a b = true → s.system.isSubtype b c = true →
        s.system.isAssignable a c = true) ∧
      s.system.isAssignable a (.declared objectName) = true := by
  have ha' := (TypeExpr.regular_of_parse ha.1 ha.2).declaredBases
  have hb' := (TypeExpr.regular_of_parse hb.1 hb.2).declaredBases
  have hc' := (TypeExpr.regular_of_parse hc.1 hc.2).declaredBases
  simp only [TypeSystem.isAssignable_iff_passes]
  refine ⟨.subtype, fun hab hbc => ?_, TypeSystem.passes_object a rfl⟩
  exact hab.widen ha' hb' hc' (fun hx hxb => isSubtype_trans htop hx hb' hc' hxb hbc) hbc

/-- Integers are numbers. -/
def numberStore : TypeStore where
  decls := [
    { TypeDecl.ofClass "java.lang.Number" with superclass := some objectName },
    { TypeDecl.ofClass "java.lang.Integer" with superclass := some "java.lang.Number" }]

/-- An `int` is no subtype of a class, but it may be passed as an integer, a number and an object. -/
theorem isAssignable_widening_int :
    let ts := numberStore.system
    let int : TypeExpr := .basic "int"
    let integer : TypeExpr := .declared "java.lang.Integer"
    let number : TypeExpr := .declared "java.lang.Number"
    numberStore.ObjectOnTop ∧ ts.isAssignable int integer = true ∧
      ts.isSubtype integer number = true ∧ ts.isAssignable int number = true ∧
      ts.isSubtype int number = false ∧ ts.isAssignable int (.declared objectName) = true := by
  intro ts int integer number
  have htop : numberStore.ObjectOnTop := by
    rintro d ⟨⟩
  have hint : TypeExpr.WellFormed int := .basic (.inl (by decide))
  have hinteger : TypeExpr.WellFormed integer :=
    TypeExpr.wellFormed_declared_iff.2 (by decide +kernel)
  have hnumber : TypeExpr.WellFormed number :=
    TypeExpr.wellFormed_declared_iff.2 (by decide +kernel)
  have hancestors : ts.ancestors "java.lang.Integer" = ["java.lang.Number", objectName] := by cbv
  have hboxed : ts.isAssignable int integer = true :=
    TypeSystem.isAssignable_iff_passes.2 (.boxing rfl rfl (ts.isSubtype_self integer))
  have hinherits : ts.isSubtype integer number = true := by
    refine (TypeSystem.isSubtype_iff_below (a := integer) (b := number) trivial trivial).2
      (.inheritance ?_)
    rw [TypeSystem.inherits, hancestors]
    rfl
  have hnot : ts.isSubtype int number = false := by
    simp [int, number, TypeSystem.isSubtype, TypeExpr.isObject, TypeExpr.name?, objectName]
  obtain ⟨-, hwiden, hobject⟩ := isAssignable_widening htop ⟨⟨_, hint.parse_text⟩, trivial⟩
    ⟨⟨_, hinteger.parse_text⟩, trivial⟩ ⟨⟨_, hnumber.parse_text⟩, trivial⟩
  exact ⟨htop, hboxed, hinherits, hwiden hboxed hinherits, hnot, hobject⟩

end TypeStore

end Referent
