import Referent.Proofs.Property

/-!
# Accessors of one property

The getters and the setter of a property lead to each other: each getter is short for itself and for
the setter, and the setter for itself. This is told from the names alone, so it needs a letter at
the front of the property, which the accessors have in upper case. On the way back the letter is put
in lower case, and what case it had is lost.

* `FourthLower`: a lower-case letter stands behind the first three characters, those of `get`.

Results:
* `getters_eq_self_iff`: the names that are short for themselves as getters.
* `getters_coherent_iff`: the getters of a property are getters of it by their names exactly if it
  starts with a letter.
* `getter_base_iff`, `setters_eq_setter_base_iff`: a getter, and the setter beside it, are those of
  the getter's property exactly if no lower-case letter follows `get`.
* `accessors_coherent`: which accessors of a property lead to each other, and which getters come
  back.
-/

namespace Referent.Property

variable {name rest : String}

/-! ## Accessors by their shapes -/

/-- As a getter a name is short for itself exactly if it has the shape of one. -/
theorem getters_eq_self_iff :
    getters name = [name] ↔ isGetter name = true ∨ isBooleanGetter name = true := by
  refine ⟨fun hself => ?_, getters_of_getter⟩
  by_contra hshape
  rw [not_or, Bool.not_eq_true, Bool.not_eq_true] at hshape
  have hname : name ≠ "" := by
    rintro rfl
    cases hself
  rw [getters_of_not_getter hname hshape.1 hshape.2] at hself
  simp at hself

theorem afterIs?_booleanGetter (h : StartsAlpha name) :
    afterIs? (booleanGetter name) = some (capitalize name) := by
  obtain ⟨rest, hrest⟩ := Option.isSome_iff_exists.1 (isBooleanGetter_booleanGetter_iff.2 h)
  have hname : "is" ++ capitalize name = "is" ++ rest := eq_is_append_of_afterIs? hrest
  rw [hrest, (String.append_right_inj "is").1 hname]

theorem isGetter_booleanGetter (name : String) : isGetter (booleanGetter name) = false := by
  rw [← Bool.not_eq_true]
  intro hget
  obtain ⟨cs, hlist⟩ := toList_of_isGetter hget
  rw [booleanGetter, String.toList_append] at hlist
  cases hlist

theorem isSetter_setter (hname : name ≠ "") : isSetter (setter name) = true := by
  have hafter : afterSet? (setter name) = some (capitalize name) :=
    afterSet?_eq_some_iff.2 ⟨rfl, capitalize_ne_empty hname⟩
  rw [isSetter, hafter]
  rfl

/-! ## From a property to its accessors -/

theorem setters_getter (hname : name ≠ "") : setters (getter name) = [setter name] :=
  setters_of_afterGet? (afterGet?_getter hname)

theorem setters_booleanGetter (h : StartsAlpha name) :
    setters (booleanGetter name) = [setter name] :=
  setters_of_afterIs? (afterIs?_booleanGetter h)

/-- The getters of a property are short for themselves and for the property's setter exactly if the
property starts with a letter. -/
theorem getters_coherent_iff (hname : name ≠ "") (hplain : Plain name) :
    (∀ g ∈ getters name, getters g = [g] ∧ setters g = setters name) ↔ StartsAlpha name := by
  rw [getters_of_not_getter hname hplain.1 hplain.2.2, setters_of_plain hname hplain]
  constructor
  · intro hall
    have hself : getters (booleanGetter name) = [booleanGetter name] := (hall _ (by simp)).1
    rcases getters_eq_self_iff.1 hself with hget | his
    · rw [isGetter_booleanGetter] at hget
      cases hget
    · exact isBooleanGetter_booleanGetter_iff.1 his
  · intro halpha g hg
    rw [List.mem_pair] at hg
    rcases hg with rfl | rfl
    · exact ⟨getters_of_getter (.inl (isGetter_getter hname)), setters_getter hname⟩
    · exact ⟨getters_of_getter (.inr (isBooleanGetter_booleanGetter_iff.2 halpha)),
        setters_booleanGetter halpha⟩

/-- The boolean getter of `_ready` is no getter by its name. -/
example : getters "_ready" = ["get_ready", "is_ready"] ∧
    getters "is_ready" = ["getIs_ready", "isIs_ready"] := by decide

/-! ## From a getter to its property -/

/-- A getter is that of its property exactly if no lower-case letter follows `get`. -/
theorem getter_base_iff (h : afterGet? name = some rest) :
    getter (base name) = name ↔ ¬StartsLower rest := by
  rw [base_of_afterGet? h, getter, capitalize_decapitalize, (afterGet?_eq_some_iff.1 h).1,
    String.append_right_inj, capitalize_eq_self_iff]

/-- Under the same condition it is short for the setter of its property. -/
theorem setters_eq_setter_base_iff (h : afterGet? name = some rest) :
    setters name = [setter (base name)] ↔ ¬StartsLower rest := by
  rw [base_of_afterGet? h, setters_of_afterGet? h, setter_decapitalize, List.singleton_inj,
    String.append_right_inj, eq_comm, capitalize_eq_self_iff]

/-- The fourth character of the name is a lower-case ASCII letter. -/
def FourthLower (name : String) : Prop :=
  ∃ c, name.toList[3]? = some c ∧ c.isLower = true

theorem fourthLower_iff (h : afterGet? name = some rest) : FourthLower name ↔ StartsLower rest := by
  have hlist : name.toList = ['g', 'e', 't'] ++ rest.toList := by
    rw [(afterGet?_eq_some_iff.1 h).1, String.toList_append]
    rfl
  unfold FourthLower StartsLower
  rw [hlist]
  cases rest.toList with
  | nil => simp
  | cons c cs => simp

/-- The accessors of a property belong together. The property is any name that has the shape of no
accessor. Each of its getters is short for itself and for the property's setter exactly if it starts
with a letter. Its setter is short for itself in any case, and the property comes back from its
getter unless it starts with an upper-case letter. The other way round, a name in the shape of a
getter is the getter of its own property, and is short for the setter of it, exactly if its fourth
character is no lower-case letter. -/
theorem accessors_coherent :
    (∀ p, p ≠ "" → Plain p →
      ((∀ g ∈ getters p, getters g = [g] ∧ setters g = setters p) ↔ StartsAlpha p) ∧
        (setters p = [setter p] ∧ setters (setter p) = [setter p]) ∧
        (base (getter p) = p ↔ ¬StartsUpper p)) ∧
      ∀ g, isGetter g = true →
        (getter (base g) = g ↔ ¬FourthLower g) ∧
          (setters g = [setter (base g)] ↔ ¬FourthLower g) := by
  constructor
  · intro p hname hplain
    have hsetter : setters (setter p) = [setter p] := setters_of_isSetter (isSetter_setter hname)
    exact ⟨getters_coherent_iff hname hplain, ⟨setters_of_plain hname hplain, hsetter⟩,
      base_getter_iff hname⟩
  · intro g hget
    obtain ⟨rest, hrest⟩ := Option.isSome_iff_exists.1 hget
    rw [fourthLower_iff hrest]
    exact ⟨getter_base_iff hrest, setters_eq_setter_base_iff hrest⟩

/-- The getters `getVersion` and `isVersion` belong to `version` and to `setVersion`, and `getURL`
is the getter of the property `uRL`. -/
theorem accessors_coherent_version :
    "version" ≠ "" ∧ Plain "version" ∧ StartsAlpha "version" ∧ ¬StartsUpper "version" ∧
      (∀ g ∈ ["getVersion", "isVersion"], getters g = [g] ∧ setters g = ["setVersion"]) ∧
      setters "setVersion" = ["setVersion"] ∧ base "getVersion" = "version" ∧
      isGetter "getURL" = true ∧ ¬FourthLower "getURL" ∧
      getter (base "getURL") = "getURL" ∧ setters "getURL" = [setter "uRL"] := by
  have hname : "version" ≠ "" := by decide
  have hplain : Plain "version" := ⟨rfl, rfl, rfl⟩
  have halpha : StartsAlpha "version" := ⟨'v', "ersion".toList, by decide, by decide⟩
  have hupper : ¬StartsUpper "version" := by
    rintro ⟨c, cs, h, hc⟩
    cases h
    cases hc
  have hget : isGetter "getURL" = true := rfl
  have hfourth : ¬FourthLower "getURL" := by
    rintro ⟨c, h, hc⟩
    cases h
    cases hc
  obtain ⟨hproperty, hgetter⟩ := accessors_coherent
  obtain ⟨hgetters, hsetter, hbase⟩ := hproperty "version" hname hplain
  obtain ⟨hsame, hpaired⟩ := hgetter "getURL" hget
  exact ⟨hname, hplain, halpha, hupper, hgetters.2 halpha, hsetter.2, hbase.2 hupper, hget, hfourth,
    hsame.2 hfourth, hpaired.2 hfourth⟩

end Referent.Property
