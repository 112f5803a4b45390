import Referent.Property
import Mathlib

/-!
# Shapes of names

Results:
* `afterGet?_eq_some_iff`, `afterSet?_eq_some_iff`, `afterIs?_eq_some_iff`: what is left of a name
  behind a prefix that counts as one.
* `isGetter_of_isSetter` and its kin: a name has at most one of the three shapes.
* `length_capitalize`, `capitalize_decapitalize`: a change of case touches one letter.
* `mapFirst_eq_self_iff` and its kin: which names a change of case leaves as they are.
* `base_getter_iff`: a property comes back from its getter unless it starts in upper case.
* `isBooleanGetter_booleanGetter_iff`: a boolean getter is told by its name if the property starts
  with a letter.
* `getters_of_getter`, `setters_of_isSetter` and their kin: what a name is short for, by its shape.
-/

namespace Referent.Property

variable {name rest : String}

/-! ## What follows a prefix -/

theorem append_iff_toList {pre : String} :
    (name = pre ++ rest ∧ rest ≠ "") ↔
      ∃ c cs, name.toList = pre.toList ++ c :: cs ∧ rest = String.ofList (c :: cs) := by
  constructor
  · rintro ⟨rfl, hrest⟩
    cases hcs : rest.toList with
    | nil => exact absurd (String.toList_injective hcs) hrest
    | cons c cs =>
      refine ⟨c, cs, by rw [String.toList_append, hcs], ?_⟩
      rw [← hcs, String.ofList_toList]
  · rintro ⟨c, cs, hname, rfl⟩
    refine ⟨String.toList_injective ?_, by simp⟩
    rw [hname, String.toList_append, String.toList_ofList]

theorem afterGet?_eq_some_iff : afterGet? name = some rest ↔ name = "get" ++ rest ∧ rest ≠ "" := by
  rw [append_iff_toList]
  unfold afterGet?
  constructor
  · intro h
    split at h
    · rename_i c cs hname
      cases h
      exact ⟨c, cs, hname, rfl⟩
    · cases h
  · rintro ⟨c, cs, hname, rfl⟩
    rw [hname]
    rfl

theorem afterSet?_eq_some_iff : afterSet? name = some rest ↔ name = "set" ++ rest ∧ rest ≠ "" := by
  rw [append_iff_toList]
  unfold afterSet?
  constructor
  · intro h
    split at h
    · rename_i c cs hname
      cases h
      exact ⟨c, cs, hname, rfl⟩
    · cases h
  · rintro ⟨c, cs, hname, rfl⟩
    rw [hname]
    rfl

theorem afterIs?_eq_some_iff :
    afterIs? name = some rest ↔
      ∃ c cs, name.toList = 'i' :: 's' :: c :: cs ∧ c.isUpper = true ∧
        rest = String.ofList (c :: cs) := by
  unfold afterIs?
  constructor
  · intro h
    split at h
    · rename_i c cs hname
      split_ifs at h with hupper
      cases h
      exact ⟨c, cs, hname, hupper, rfl⟩
    · cases h
  · rintro ⟨c, cs, hname, hupper, rfl⟩
    rw [hname]
    simp [hupper]

theorem eq_is_append_of_afterIs? (h : afterIs? name = some rest) : name = "is" ++ rest := by
  obtain ⟨c, cs, hname, -, hrest⟩ := afterIs?_eq_some_iff.1 h
  exact (append_iff_toList.2 ⟨c, cs, hname, hrest⟩).1

/-! ## Shapes exclude each other -/

theorem toList_of_isGetter (h : isGetter name = true) :
    ∃ cs, name.toList = 'g' :: cs := by
  obtain ⟨rest, hrest⟩ := Option.isSome_iff_exists.1 h
  rw [(afterGet?_eq_some_iff.1 hrest).1, String.toList_append]
  exact ⟨_, rfl⟩

theorem toList_of_isSetter (h : isSetter name = true) :
    ∃ cs, name.toList = 's' :: cs := by
  obtain ⟨rest, hrest⟩ := Option.isSome_iff_exists.1 h
  rw [(afterSet?_eq_some_iff.1 hrest).1, String.toList_append]
  exact ⟨_, rfl⟩

theorem toList_of_isBooleanGetter (h : isBooleanGetter name = true) :
    ∃ cs, name.toList = 'i' :: cs := by
  obtain ⟨rest, hrest⟩ := Option.isSome_iff_exists.1 h
  rw [eq_is_append_of_afterIs? hrest, String.toList_append]
  exact ⟨_, rfl⟩

theorem isGetter_of_isSetter (h : isSetter name = true) : isGetter name = false := by
  rw [← Bool.not_eq_true]
  intro hget
  obtain ⟨cs, hs⟩ := toList_of_isSetter h
  obtain ⟨ds, hg⟩ := toList_of_isGetter hget
  simp [hs] at hg

theorem isBooleanGetter_of_isSetter (h : isSetter name = true) :
    isBooleanGetter name = false := by
  rw [← Bool.not_eq_true]
  intro his
  obtain ⟨cs, hs⟩ := toList_of_isSetter h
  obtain ⟨ds, hi⟩ := toList_of_isBooleanGetter his
  simp [hs] at hi

theorem isBooleanGetter_of_isGetter (h : isGetter name = true) :
    isBooleanGetter name = false := by
  rw [← Bool.not_eq_true]
  intro his
  obtain ⟨cs, hg⟩ := toList_of_isGetter h
  obtain ⟨ds, hi⟩ := toList_of_isBooleanGetter his
  simp [hg] at hi

theorem isSetter_of_isGetter (h : isGetter name = true) : isSetter name = false := by
  rw [← Bool.not_eq_true]
  intro hset
  simp [isGetter_of_isSetter hset] at h

theorem isSetter_of_isBooleanGetter (h : isBooleanGetter name = true) : isSetter name = false := by
  rw [← Bool.not_eq_true]
  intro hset
  simp [isBooleanGetter_of_isSetter hset] at h

theorem isGetter_of_isBooleanGetter (h : isBooleanGetter name = true) : isGetter name = false := by
  rw [← Bool.not_eq_true]
  intro hget
  simp [isBooleanGetter_of_isGetter hget] at h

/-! ## Case of the first letter -/

@[simp] theorem length_mapFirst (f : Char → Char) (name : String) :
    (mapFirst f name).length = name.length := by
  unfold mapFirst
  rw [← String.length_toList (s := name)]
  split
  · rename_i h
    rw [h]
    rfl
  · rename_i c cs h
    rw [h, String.length_ofList]
    rfl

theorem mapFirst_mapFirst (f g : Char → Char) (name : String) :
    mapFirst f (mapFirst g name) = mapFirst (f ∘ g) name := by
  unfold mapFirst
  cases h : name.toList with
  | nil => rfl
  | cons c cs => simp

/-- The case that a letter had before does not matter. -/
theorem capitalize_decapitalize (name : String) :
    capitalize (decapitalize name) = capitalize name := by
  unfold capitalize decapitalize
  rw [mapFirst_mapFirst]
  congr 1
  exact funext Char.toUpper_toLower_eq_toUpper

/-- Nor does the upper case that it was put in before. -/
theorem decapitalize_capitalize (name : String) :
    decapitalize (capitalize name) = decapitalize name := by
  unfold capitalize decapitalize
  rw [mapFirst_mapFirst]
  congr 1
  exact funext Char.toLower_toUpper_eq_toLower

theorem toList_mapFirst (f : Char → Char) {c : Char} {cs : List Char} (h : name.toList = c :: cs) :
    (mapFirst f name).toList = f c :: cs := by
  rw [mapFirst, h, String.toList_ofList]

/-- The name starts with an upper-case ASCII letter. -/
def StartsUpper (name : String) : Prop :=
  ∃ c cs, name.toList = c :: cs ∧ c.isUpper = true

/-- A name stays as it is unless its first character is one that is changed. -/
theorem mapFirst_eq_self_iff {f : Char → Char} {changes : Char → Bool}
    (h : ∀ c, f c = c ↔ ¬changes c = true) :
    mapFirst f name = name ↔ ¬∃ c cs, name.toList = c :: cs ∧ changes c = true := by
  cases hname : name.toList with
  | nil =>
    have hempty : name = "" := String.toList_injective hname
    simp [hempty, mapFirst]
  | cons c cs =>
    rw [← String.toList_inj, toList_mapFirst f hname, hname]
    simp [h]

theorem toLower_eq_self_iff (c : Char) : c.toLower = c ↔ ¬c.isUpper = true := by
  refine ⟨fun hkept hupper => ?_, Char.toLower_eq_of_not_isUpper⟩
  rw [← hkept, Char.isUpper_toLower_eq_false] at hupper
  cases hupper

theorem toUpper_eq_self_iff (c : Char) : c.toUpper = c ↔ ¬c.isLower = true := by
  refine ⟨fun hkept hlower => ?_, Char.toUpper_eq_of_not_isLower⟩
  rw [← hkept, Char.isLower_toUpper_eq_false] at hlower
  cases hlower

theorem decapitalize_eq_self_iff : decapitalize name = name ↔ ¬StartsUpper name :=
  mapFirst_eq_self_iff toLower_eq_self_iff

/-- The name starts with a lower-case ASCII letter. -/
def StartsLower (name : String) : Prop :=
  ∃ c cs, name.toList = c :: cs ∧ c.isLower = true

theorem capitalize_eq_self_iff : capitalize name = name ↔ ¬StartsLower name :=
  mapFirst_eq_self_iff toUpper_eq_self_iff

@[simp] theorem length_capitalize (name : String) : (capitalize name).length = name.length :=
  length_mapFirst _ _

@[simp] theorem length_decapitalize (name : String) : (decapitalize name).length = name.length :=
  length_mapFirst _ _

/-! ## Accessors -/

/-- The name has none of the three shapes. -/
def Plain (name : String) : Prop :=
  isGetter name = false ∧ isSetter name = false ∧ isBooleanGetter name = false

theorem base_of_afterGet? (h : afterGet? name = some rest) : base name = decapitalize rest := by
  simp [base, h]

theorem capitalize_ne_empty (hname : name ≠ "") : capitalize name ≠ "" := by
  intro hempty
  have hlength : name.length = 0 := by rw [← length_capitalize, hempty]; rfl
  exact hname (String.length_eq_zero_iff.1 hlength)

theorem afterGet?_getter (hname : name ≠ "") : afterGet? (getter name) = some (capitalize name) :=
  afterGet?_eq_some_iff.2 ⟨rfl, capitalize_ne_empty hname⟩

theorem isGetter_getter (hname : name ≠ "") : isGetter (getter name) = true := by
  simp [isGetter, afterGet?_getter hname]

/-- A property comes back from its getter exactly if it does not start with an upper-case letter. -/
theorem base_getter_iff (hname : name ≠ "") : base (getter name) = name ↔ ¬StartsUpper name := by
  rw [base_of_afterGet? (afterGet?_getter hname), decapitalize_capitalize, decapitalize_eq_self_iff]

/-- The name starts with an ASCII letter. -/
def StartsAlpha (name : String) : Prop :=
  ∃ c cs, name.toList = c :: cs ∧ c.isAlpha = true

/-- The boolean getter of a property has the shape of one exactly if the property starts with a
letter, for nothing else can be put in upper case. -/
theorem isBooleanGetter_booleanGetter_iff :
    isBooleanGetter (booleanGetter name) = true ↔ StartsAlpha name := by
  rw [isBooleanGetter, Option.isSome_iff_exists]
  cases hname : name.toList with
  | nil =>
    have hempty : name = "" := String.toList_injective hname
    rw [hempty]
    simp [StartsAlpha, afterIs?, booleanGetter, capitalize, mapFirst]
  | cons c cs =>
    have hlist : (booleanGetter name).toList = 'i' :: 's' :: c.toUpper :: cs := by
      rw [booleanGetter, String.toList_append, capitalize, toList_mapFirst _ hname]
      rfl
    constructor
    · rintro ⟨rest, hrest⟩
      obtain ⟨d, ds, hd, hupper, -⟩ := afterIs?_eq_some_iff.1 hrest
      rw [hlist] at hd
      cases hd
      exact ⟨c, cs, hname, by rwa [← Char.isUpper_toUpper_eq_isAlpha]⟩
    · rintro ⟨d, ds, hd, halpha⟩
      rw [hname] at hd
      cases hd
      exact ⟨_, afterIs?_eq_some_iff.2 ⟨_, _, hlist, by rwa [Char.isUpper_toUpper_eq_isAlpha], rfl⟩⟩

theorem isBooleanGetter_getter (hname : name ≠ "") : isBooleanGetter (getter name) = false :=
  isBooleanGetter_of_isGetter (isGetter_getter hname)

theorem base_of_not_isGetter (h : isGetter name = false) : base name = name := by
  have hget : afterGet? name = none := by simpa [isGetter] using h
  simp [base, hget]

theorem setter_decapitalize (name : String) :
    setter (decapitalize name) = "set" ++ capitalize name := by
  rw [setter, capitalize_decapitalize]

/-- A getter stands for itself. -/
theorem getters_of_getter (h : isGetter name = true ∨ isBooleanGetter name = true) :
    getters name = [name] := by
  have hname : name ≠ "" := by
    rintro rfl
    rcases h with h | h
    · cases h
    · cases h
  have hgetter : (isGetter name || isBooleanGetter name) = true := by simpa using h
  rw [getters, if_neg hname, if_pos hgetter]

theorem getters_of_not_getter (hname : name ≠ "") (hget : isGetter name = false)
    (his : isBooleanGetter name = false) : getters name = [getter name, booleanGetter name] := by
  have hgetter : ¬(isGetter name || isBooleanGetter name) = true := by simp [hget, his]
  rw [getters, if_neg hname, if_neg hgetter]

/-- A setter stands for itself. -/
theorem setters_of_isSetter (h : isSetter name = true) : setters name = [name] := by
  have hname : name ≠ "" := by
    rintro rfl
    cases h
  rw [setters, if_neg hname, if_pos h]

/-- A getter is short for the setter beside it. -/
theorem setters_of_afterGet? (h : afterGet? name = some rest) : setters name = ["set" ++ rest] := by
  have hname : name ≠ "" := by
    rintro rfl
    cases h
  have hset : isSetter name = false := isSetter_of_isGetter (by simp [isGetter, h])
  rw [setters, if_neg hname, if_neg (by simp [hset]), h]

theorem setters_of_afterIs? (h : afterIs? name = some rest) : setters name = ["set" ++ rest] := by
  have hname : name ≠ "" := by
    rintro rfl
    cases h
  have his : isBooleanGetter name = true := by simp [isBooleanGetter, h]
  have hset : isSetter name = false := isSetter_of_isBooleanGetter his
  have hget : afterGet? name = none := by
    simpa [isGetter] using isGetter_of_isBooleanGetter his
  rw [setters, if_neg hname, if_neg (by simp [hset]), h, hget]

theorem setters_of_plain (hname : name ≠ "") (h : Plain name) : setters name = [setter name] := by
  obtain ⟨hget, hset, his⟩ := h
  have hset : ¬isSetter name = true := by simp [hset]
  have hget : afterGet? name = none := by simpa [isGetter] using hget
  have his : afterIs? name = none := by simpa [isBooleanGetter] using his
  rw [setters, if_neg hname, if_neg hset, hget, his]

/-! ## Telling accessors apart -/

/-- Texts that start with different letters are not the same, whatever follows. -/
theorem append_ne_append {c d : Char} {p q : String} {ps qs : List Char} (hcd : c ≠ d)
    (hp : p.toList = c :: ps) (hq : q.toList = d :: qs) (a b : String) : p ++ a ≠ q ++ b := by
  intro h
  have hlist := congrArg String.toList h
  rw [String.toList_append, String.toList_append, hp, hq] at hlist
  exact hcd (List.cons.inj hlist).1

theorem get_ne_set (a b : String) : "get" ++ a ≠ "set" ++ b :=
  append_ne_append (by decide) rfl rfl a b

theorem is_ne_set (a b : String) : "is" ++ a ≠ "set" ++ b :=
  append_ne_append (by decide) rfl rfl a b

theorem length_get_append (rest : String) : ("get" ++ rest).length = rest.length + 3 := by
  rw [String.length_append, Nat.add_comm]
  rfl

theorem length_set_append (rest : String) : ("set" ++ rest).length = rest.length + 3 := by
  rw [String.length_append, Nat.add_comm]
  rfl

theorem length_is_append (rest : String) : ("is" ++ rest).length = rest.length + 2 := by
  rw [String.length_append, Nat.add_comm]
  rfl

theorem length_getter (name : String) : (getter name).length = name.length + 3 := by
  rw [getter, length_get_append, length_capitalize]

theorem length_setter (name : String) : (setter name).length = name.length + 3 := by
  rw [setter, length_set_append, length_capitalize]

theorem length_booleanGetter (name : String) : (booleanGetter name).length = name.length + 2 := by
  rw [booleanGetter, length_is_append, length_capitalize]

end Referent.Property
