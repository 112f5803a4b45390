import Referent.Proofs.Json.Records

/-!
# What a field of a record depends on

A field that is read by its name sees the values of that name and nothing else: not where in the object
they stand, nor what stands beside them. Only the place of a misfit is another, and so the records are
compared by the values that they give.

Results:
* `Fitting.Alike`: parts that give the same value, if any.
* `Record.field_named_eq_pure_iff`, `Record.field_ordered_eq_pure_iff`: when a field is read, and from
  what.
* `Record.apart_eq_ok_iff`: when a field can be read ahead of the others.
-/

namespace Referent

namespace Fitting

variable {α β : Type}

/-- The parts give the same value, if any. Their misfits may differ. -/
def Alike (x y : Fitting α) : Prop :=
  ∀ a, x = pure a ↔ y = pure a

theorem Alike.map {x y : Fitting α} (h : Alike x y) (f : α → β) : Alike (f <$> x) (f <$> y) := by
  intro b
  simp only [map_eq_pure_iff, h _]

theorem Alike.seq {f g : Fitting (α → β)} {x y : Fitting α} (hf : Alike f g) (hx : Alike x y) :
    Alike (f <*> x) (g <*> y) := by
  intro b
  simp only [seq_eq_pure_iff, hf _, hx _]

end Fitting

namespace Record

variable {α : Type} {names : List String} {name : String} {read : Json → Decoded α}
  {fields : List (Option String × Json)}

/-! ## Fields by name -/

/-- The values of the fields of one name, in order. -/
def valuesNamed (name : String) (fields : List (Option String × Json)) : List Json :=
  fields.filterMap fun field => if field.1 = some name then some field.2 else none

theorem valuesNamed_cons (name : String) (f : Option String × Json)
    (fs : List (Option String × Json)) : valuesNamed name (f :: fs) =
      if f.1 = some name then f.2 :: valuesNamed name fs else valuesNamed name fs := by
  rw [valuesNamed, List.filterMap_cons]
  split <;> simp_all [valuesNamed]

theorem valuesNamed_append (name : String) (fs gs : List (Option String × Json)) :
    valuesNamed name (fs ++ gs) = valuesNamed name fs ++ valuesNamed name gs :=
  List.filterMap_append

theorem mem_valuesNamed_iff {v : Json} : v ∈ valuesNamed name fields ↔ (some name, v) ∈ fields := by
  rw [valuesNamed, List.mem_filterMap]
  constructor
  · rintro ⟨⟨n, w⟩, hmem, h⟩
    split at h
    next hn =>
      cases h
      rwa [← hn]
    next => cases h
  · intro hmem
    exact ⟨_, hmem, if_pos rfl⟩

/-- Fields that are left out are not seen if they have other names. -/
theorem valuesNamed_filter {p : Option String × Json → Bool} (h : ∀ v, p (some name, v) = true) :
    valuesNamed name (fields.filter p) = valuesNamed name fields := by
  rw [valuesNamed, List.filterMap_filter]
  refine List.filterMap_congr fun f _ => ?_
  obtain ⟨n, v⟩ := f
  by_cases hn : n = some name
  · simp [hn, h v]
  · simp [hn]

theorem map_snd_valuesOf (name : String) (fields : List (Option String × Json)) :
    (valuesOf name fields).map (·.2) = valuesNamed name fields := by
  conv_rhs => rw [valuesNamed, ← List.zipIdx_map_fst 0 fields, List.filterMap_map]
  rw [valuesOf, List.map_filterMap]
  refine List.filterMap_congr fun f _ => ?_
  by_cases hn : f.1.1 = some name <;> simp [hn]

/-- A field of an object is read if the object has it once, or its default stands in for it. -/
theorem field_named_eq_pure_iff {unnamed omitted : Option α} {a : α} :
    field ⟨names, .named fields⟩ name read unnamed omitted = pure a ↔
      (valuesNamed name fields = [] ∧ unnamed = some a) ∨
        ∃ v, valuesNamed name fields = [v] ∧ read v = .ok a := by
  rw [← map_snd_valuesOf]
  rcases hvalues : valuesOf name fields with _ | ⟨⟨place, v⟩, _ | ⟨⟨again, w⟩, rest⟩⟩
  · cases unnamed with
    | none => simpa [field, hvalues] using Fitting.misfit_ne_pure
    | some d => simp [field, hvalues, Fitting.pure_inj]
  · simp [field, hvalues, Fitting.placed_eq_pure_iff]
  · simp only [field, hvalues, List.map_cons, List.cons_ne_nil, false_and, List.cons.injEq,
      and_false, exists_false, or_self, iff_false]
    split <;> exact Fitting.misfit_ne_pure

theorem sound_named_iff :
    (∃ u, sound ⟨names, .named fields⟩ = pure u) ↔ ∀ f ∈ fields, isTorn f = false := by
  rw [← List.findIdx?_eq_none_iff]
  cases h : fields.findIdx? isTorn with
  | none => simp [sound, h]
  | some place => simp [sound, h, Fitting.misfit_ne_pure]

/-- Only the fields that are read and whether any is torn decide what an object holds. -/
theorem build_named_eq_ok_iff {build : Record → Fitting α} {a : α} :
    Record.build names (.named fields) build = .ok a ↔
      build ⟨names, .named fields⟩ = pure a ∧ ∀ f ∈ fields, isTorn f = false := by
  rw [build_eq_ok_iff, sound_named_iff]

/-! ## Fields in order -/

/-- A field of an array is read from the value at its place, or its default stands in for it. -/
theorem field_ordered_eq_pure_iff {items : List Json} {unnamed omitted : Option α} {a : α} :
    field ⟨names, .ordered items⟩ name read unnamed omitted = pure a ↔
      (items[names.idxOf name]? = none ∧ omitted = some a) ∨
        ∃ v, items[names.idxOf name]? = some v ∧ read v = .ok a := by
  cases hitem : items[names.idxOf name]? with
  | some v => simp [field, hitem, Fitting.placed_eq_pure_iff]
  | none =>
    cases omitted with
    | none => simpa [field, hitem] using Fitting.misfit_ne_pure
    | some d => simp [field, hitem, Fitting.pure_inj]

theorem build_ordered_eq_ok_iff {items : List Json} {build : Record → Fitting α} {a : α} :
    Record.build names (.ordered items) build = .ok a ↔
      build ⟨names, .ordered items⟩ = pure a ∧ items.length ≤ names.length := by
  rw [build_eq_ok_iff]
  refine and_congr_right fun _ => ?_
  by_cases h : names.length < items.length
  · simp [sound, h, Fitting.misfit_ne_pure]
  · simp [sound, h, Nat.le_of_not_lt h]

/-! ## A field ahead of the others -/

/-- Every field of another name can be held. -/
def OthersHeld (name : String) (fields : List (Option String × Json)) : Prop :=
  ∀ f ∈ fields, f.1 ≠ some name → isUnheld f = false

/-- A field is read ahead of the others if it is there once and all others can be held. -/
theorem apart_eq_ok_iff {a : α} {others : List (Option String × Json)} :
    apart name read fields = .ok (a, others) ↔
      required ⟨[name], .named fields⟩ name read = pure a ∧ OthersHeld name fields ∧
        fields.filter (·.1 != some name) = others := by
  have hheld : OthersHeld name fields ↔
      fields.findIdx? (fun field => field.1 != some name && isUnheld field) = none := by
    simp [OthersHeld, List.findIdx?_eq_none_iff]
  rw [hheld, apart, bind_eq_ok_iff]
  simp only [Fitting.decoded_eq_ok_iff, Fitting.seqLeft_eq_pure_iff]
  cases fields.findIdx? fun field => field.1 != some name && isUnheld field with
  | none =>
    constructor
    · rintro ⟨b, ⟨hb, -⟩, h⟩
      cases h
      exact ⟨hb, rfl, rfl⟩
    · rintro ⟨hb, -, rfl⟩
      exact ⟨a, ⟨hb, (), rfl⟩, rfl⟩
  | some place => simp [Fitting.misfit_ne_pure]

theorem othersHeld_entries {fields : List (String × Json)} (h : ∀ f ∈ fields, f.2.isHeld = true) :
    OthersHeld name (entries fields) := by
  rintro _ hentry -
  obtain ⟨f, hf, rfl⟩ := List.mem_map.1 hentry
  simp [isUnheld, h f hf]

/-- What is left beside the field of a written record that stands first. -/
theorem filter_entries_cons {v : Json} {fields : List (String × Json)}
    (h : name ∉ fields.map (·.1)) :
    (entries ((name, v) :: fields)).filter (·.1 != some name) = entries fields := by
  rw [entries_cons, List.filter_cons_of_neg (by simp), List.filter_eq_self]
  rintro _ hentry
  obtain ⟨f, hf, rfl⟩ := List.mem_map.1 hentry
  have hne : f.1 ≠ name := fun heq => h (heq ▸ List.mem_map_of_mem hf)
  simpa using hne

/-- What can be held is not torn. -/
theorem isTorn_of_isUnheld {f : Option String × Json} (h : isUnheld f = false) : isTorn f = false := by
  simp only [isUnheld, Bool.or_eq_false_iff, Bool.not_eq_false'] at h
  simp [isTorn, h.1, Json.isIntact_of_isHeld h.2]

theorem OthersHeld.not_torn (h : OthersHeld name fields) :
    ∀ f ∈ fields.filter (·.1 != some name), isTorn f = false := by
  intro f hf
  rw [List.mem_filter, bne_iff_ne] at hf
  exact isTorn_of_isUnheld (h f hf.1 hf.2)

end Record

end Referent
