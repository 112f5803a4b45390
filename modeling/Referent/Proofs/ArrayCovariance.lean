import Referent.Proofs.Assignability

/-!
# Arrays of subtypes

An array of a subtype is a subtype of an array, with one exception. Nested arrays share one node,
and two arrays are compared only if they have as many dimensions. So an array is a subtype of the
top class, but the array of it is none of an array of the top class, which has fewer dimensions.

* `TypeExpr.IsArray`: the type is an array.

Results:
* `isSubtype_of_array_left`, `isSubtype_of_array_right`: how arrays and other types are ordered.
* `isSubtype_arrayOf_iff`: arrays are ordered as their elements are, but for arrays of arrays below
  arrays of the top class.
* `not_isSubtype_arrayOf`: arrays of strings are objects, and arrays of them no arrays of objects.
-/

namespace Referent

namespace TypeExpr

/-- The type is an array. -/
def IsArray (t : TypeExpr) : Prop :=
  ∃ element dimensions, t = .array element dimensions

variable {t : TypeExpr}

theorem arrayOf_of_not_isArray (ht : ¬t.IsArray) : t.arrayOf = .array t 1 := by
  cases t with
  | array element dimensions => exact absurd ⟨element, dimensions, rfl⟩ ht
  | _ => rfl

theorem WellFormed.one_le_dimensions {element : TypeExpr} {dimensions : Dimensions}
    (h : WellFormed (.array element dimensions)) : 1 ≤ dimensions := by
  cases h with
  | array _ _ hdimensions => exact hdimensions

end TypeExpr

namespace TypeSystem

variable {ts : TypeSystem} {a b : TypeExpr}

/-! ## Arrays and other types -/

/-- Of the types that are no arrays an array is a subtype of the top class only. -/
theorem isSubtype_of_array_left (a : TypeExpr) (m : Dimensions) (hb : TypeExpr.WellFormed b)
    (harray : ¬b.IsArray) : ts.isSubtype (.array a m) b = b.isObject := by
  cases hobject : b.isObject with
  | true =>
    rw [isSubtype_of_isObject _ hobject]
    rfl
  | false =>
    cases hb with
    | array _ _ _ => exact absurd ⟨_, _, rfl⟩ harray
    | @generic base args _ hbare _ _ =>
      rw [isSubtype, if_neg (by simp), if_neg (by simp [hobject])]
      · cases base <;> simp_all [isSubtype, TypeExpr.isBare, TypeExpr.isObject, TypeExpr.name?]
      · simp
    | _ => simp_all [isSubtype]

/-- No type but an array is a subtype of an array. -/
theorem isSubtype_of_array_right (b : TypeExpr) (n : Dimensions) (ha : TypeExpr.WellFormed a)
    (harray : ¬a.IsArray) : ts.isSubtype a (.array b n) = false := by
  cases ha with
  | array _ _ _ => exact absurd ⟨_, _, rfl⟩ harray
  | @generic base args _ hbare _ _ =>
    rw [isSubtype_generic (by simp) rfl]
    cases base <;> simp_all [isSubtype, TypeExpr.isBare, TypeExpr.isObject, TypeExpr.name?]
  | _ => simp [isSubtype, TypeExpr.isObject, TypeExpr.name?]

/-! ## Arrays of them -/

/-- Arrays with as many dimensions are ordered as their elements are, unless these are primitive. -/
theorem isSubtype_array_self (hprimitive : a.isPrimitive = false) (n : Dimensions) :
    ts.isSubtype (.array a n) (.array b n) = ts.isSubtype a b := by
  rw [isSubtype_array, hprimitive]
  by_cases heq : a = b
  · simp [heq, isSubtype_self]
  · simp [heq]

/-- One dimension more on both sides changes nothing. -/
theorem isSubtype_array_succ (a b : TypeExpr) (m n : Dimensions) :
    ts.isSubtype (.array a (m + 1)) (.array b (n + 1)) =
      ts.isSubtype (.array a m) (.array b n) := by
  rw [isSubtype_array, isSubtype_array, Bool.eq_iff_iff]
  simp

theorem isSubtype_array_of_ne {m n : Dimensions} (h : m ≠ n) (a b : TypeExpr) :
    ts.isSubtype (.array a m) (.array b n) = false := by
  rw [isSubtype_array, beq_false_of_ne h, Bool.false_and]

/-- An array of one type is a subtype of an array of another exactly if the first type is a subtype
of the second and the two are not an array and the top class. This holds of all types that can be
written, unless the first is primitive, for an array of a primitive type is a subtype of no other
array. -/
theorem isSubtype_arrayOf_iff (ts : TypeSystem) (ha : ∃ text, TypeExpr.parse text = .ok a)
    (hb : ∃ text, TypeExpr.parse text = .ok b) (hprimitive : a.isPrimitive = false) :
    ts.isSubtype a.arrayOf b.arrayOf = true ↔
      ts.isSubtype a b = true ∧ ¬(a.IsArray ∧ b.isObject = true) := by
  rw [TypeExpr.exists_parse_iff_wellFormed] at ha hb
  by_cases harray : a.IsArray
  · obtain ⟨element, m, rfl⟩ := harray
    have hm := Dimensions.one_le_iff.1 ha.one_le_dimensions
    by_cases harray' : b.IsArray
    · obtain ⟨element', n, rfl⟩ := harray'
      have hobject : TypeExpr.isObject (.array element' n) = false := rfl
      rw [TypeExpr.arrayOf, TypeExpr.arrayOf, isSubtype_array_succ, hobject]
      simp
    · rw [TypeExpr.arrayOf_of_not_isArray harray', TypeExpr.arrayOf,
        isSubtype_array_of_ne (Dimensions.add_one_ne_one hm),
        isSubtype_of_array_left _ _ hb harray']
      simp [TypeExpr.IsArray]
  · rw [TypeExpr.arrayOf_of_not_isArray harray]
    by_cases harray' : b.IsArray
    · obtain ⟨element, n, rfl⟩ := harray'
      have hn := Dimensions.one_le_iff.1 hb.one_le_dimensions
      rw [TypeExpr.arrayOf, isSubtype_array_of_ne (Dimensions.add_one_ne_one hn).symm,
        isSubtype_of_array_right _ _ ha harray]
      simp
    · rw [TypeExpr.arrayOf_of_not_isArray harray', isSubtype_array_self hprimitive]
      simp [harray]

end TypeSystem

/-! ## Arrays in a store -/

namespace TypeStore

open TypeExpr (objectName)

/-- Integers are numbers, so arrays of arrays of integers are arrays of arrays of numbers. -/
theorem isSubtype_arrayOf_iff_integer :
    let ts := numberStore.system
    let integers : TypeExpr := .array (.declared "java.lang.Integer") 1
    let numbers : TypeExpr := .array (.declared "java.lang.Number") 1
    (∃ text, TypeExpr.parse text = .ok integers) ∧ (∃ text, TypeExpr.parse text = .ok numbers) ∧
      integers.isPrimitive = false ∧ ts.isSubtype integers numbers = true ∧
      ts.isSubtype integers.arrayOf numbers.arrayOf = true := by
  intro ts integers numbers
  have hintegers : TypeExpr.WellFormed integers :=
    .array (TypeExpr.wellFormed_declared_iff.2 (by decide +kernel)) (.inl rfl) (by decide)
  have hnumbers : TypeExpr.WellFormed numbers :=
    .array (TypeExpr.wellFormed_declared_iff.2 (by decide +kernel)) (.inl rfl) (by decide)
  have hancestors : ts.ancestors "java.lang.Integer" = ["java.lang.Number", objectName] := by cbv
  have hinherits : ts.isSubtype (.declared "java.lang.Integer") (.declared "java.lang.Number") =
      true := by
    refine (TypeSystem.isSubtype_iff_below (a := .declared _) (b := .declared _) trivial trivial).2
      (.inheritance ?_)
    rw [TypeSystem.inherits, hancestors]
    rfl
  have hsubtype : ts.isSubtype integers numbers = true := by
    rw [TypeSystem.isSubtype_array_self rfl, hinherits]
  have hnot : ¬(integers.IsArray ∧ numbers.isObject = true) := fun h => Bool.false_ne_true h.2
  exact ⟨⟨_, hintegers.parse_text⟩, ⟨_, hnumbers.parse_text⟩, rfl, hsubtype,
    (ts.isSubtype_arrayOf_iff ⟨_, hintegers.parse_text⟩ ⟨_, hnumbers.parse_text⟩ rfl).2
      ⟨hsubtype, hnot⟩⟩

/-- An array of strings is an object, but an array of arrays of strings is no array of objects. -/
theorem not_isSubtype_arrayOf :
    ¬∀ (s : TypeStore) (a b : TypeExpr), s.Reachable → (∃ text, TypeExpr.parse text = .ok a) →
      (∃ text, TypeExpr.parse text = .ok b) → a.isOpen = false → b.isOpen = false →
      a.isPrimitive = false → s.system.isSubtype a b = true →
      s.system.isSubtype a.arrayOf b.arrayOf = true := by
  intro hall
  let strings : TypeExpr := .array (.declared "java.lang.String") 1
  let object : TypeExpr := .declared objectName
  have hstrings : TypeExpr.WellFormed strings :=
    .array (TypeExpr.wellFormed_declared_iff.2 (by decide +kernel)) (.inl rfl) (by decide)
  have hobject : TypeExpr.WellFormed object :=
    TypeExpr.wellFormed_declared_iff.2 (by decide +kernel)
  have hsubtype : TypeStore.empty.system.isSubtype strings object = true :=
    TypeSystem.isSubtype_of_isObject strings rfl
  have harrays := hall .empty strings object ⟨[], rfl⟩ ⟨_, hstrings.parse_text⟩
    ⟨_, hobject.parse_text⟩ rfl rfl rfl hsubtype
  have hne : TypeStore.empty.system.isSubtype strings.arrayOf object.arrayOf = false :=
    TypeSystem.isSubtype_array_of_ne (by decide) _ _
  rw [hne] at harrays
  cases harrays

end TypeStore

end Referent
