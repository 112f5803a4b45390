import Mathlib.Data.List.Nodup
import Referent.Json.Record
import Referent.Proofs.Except
import Referent.Proofs.Json.Layout

/-!
# Records that were written

A record that was written has each of its names once. A field is then found by its name, or it is left
out and its default stands in.

Results:
* `Record.field_eq_pure`, `Record.exists_of_decode`: what a record gives was read from a value or is a
  default.
* `Record.field_of_mem`, `Record.field_of_not_mem`: a field of a written record.
* `Record.decode_record`: a written record is put together again.
-/

namespace Referent

/-! ## Parts of a record -/

namespace Fitting

variable {α β : Type}

theorem pure_inj {a b : α} : (pure a : Fitting α) = pure b ↔ a = b :=
  ⟨Except.ok.inj, congrArg pure⟩

/-- Parts make a whole if both of them are there. -/
theorem seq_eq_pure_iff {f : Fitting (α → β)} {x : Fitting α} {b : β} :
    f <*> x = pure b ↔ ∃ g a, f = pure g ∧ x = pure a ∧ g a = b := by
  constructor
  · intro h
    cases f with
    | error e => cases x <;> cases h
    | ok g =>
      cases x with
      | error e => cases h
      | ok a => exact ⟨g, a, rfl, rfl, Except.ok.inj h⟩
  · rintro ⟨g, a, rfl, rfl, rfl⟩
    rfl

theorem seq_of_eq_pure {f : Fitting (α → β)} {x : Fitting α} {g : α → β} {a : α}
    (hf : f = pure g) (hx : x = pure a) : f <*> x = pure (g a) :=
  seq_eq_pure_iff.2 ⟨g, a, hf, hx, rfl⟩

theorem map_eq_pure_iff {f : α → β} {x : Fitting α} {b : β} :
    f <$> x = pure b ↔ ∃ a, x = pure a ∧ f a = b := by
  constructor
  · intro h
    cases x with
    | error e => cases h
    | ok a => exact ⟨a, rfl, Except.ok.inj h⟩
  · rintro ⟨a, rfl, rfl⟩
    rfl

theorem map_of_eq_pure {f : α → β} {x : Fitting α} {a : α} (hx : x = pure a) :
    f <$> x = pure (f a) :=
  map_eq_pure_iff.2 ⟨a, hx, rfl⟩

theorem seqLeft_eq_pure_iff {x : Fitting α} {y : Fitting β} {a : α} :
    x <* y = pure a ↔ x = pure a ∧ ∃ b, y = pure b := by
  constructor
  · intro h
    cases x with
    | error e => cases y <;> cases h
    | ok a' =>
      cases y with
      | error e => cases h
      | ok b => exact ⟨h, b, rfl⟩
  · rintro ⟨rfl, b, rfl⟩
    rfl

theorem decoded_eq_ok_iff {x : Fitting α} {a : α} : x.decoded = .ok a ↔ x = pure a := by
  cases x with
  | error e => exact ⟨nofun, nofun⟩
  | ok a' => exact ⟨congrArg Except.ok ∘ Except.ok.inj, congrArg Except.ok ∘ Except.ok.inj⟩

theorem placed_eq_pure_iff {place : ℕ} {x : Decoded α} {a : α} :
    placed place x = pure a ↔ x = .ok a := by
  cases x with
  | error e => exact ⟨nofun, nofun⟩
  | ok a' => exact ⟨congrArg Except.ok ∘ Except.ok.inj, congrArg Except.ok ∘ Except.ok.inj⟩

theorem misfit_ne_pure {place : ℕ} {e : DecodeError} {a : α} : misfit place e ≠ pure a :=
  nofun

end Fitting

namespace Record

variable {α : Type}

/-! ## What a record gives -/

/-- A field was read from a value, or is one of its defaults. -/
theorem field_eq_pure {r : Record} {name : String} {read : Json → Decoded α}
    {unnamed omitted : Option α} {a : α} (h : r.field name read unnamed omitted = pure a) :
    (∃ v, read v = .ok a) ∨ unnamed = some a ∨ omitted = some a := by
  unfold field at h
  split at h
  · split at h
    · exact .inr (.inl (congrArg some (Fitting.pure_inj.1 h)))
    · exact absurd h Fitting.misfit_ne_pure
    · exact .inl ⟨_, Fitting.placed_eq_pure_iff.1 h⟩
    · split at h <;> exact absurd h Fitting.misfit_ne_pure
  · simp only at h
    split at h
    · exact .inl ⟨_, Fitting.placed_eq_pure_iff.1 h⟩
    · exact .inr (.inr (congrArg some (Fitting.pure_inj.1 h)))
    · exact absurd h Fitting.misfit_ne_pure

theorem required_eq_pure {r : Record} {name : String} {read : Json → Decoded α} {a : α}
    (h : r.required name read = pure a) : ∃ v, read v = .ok a := by
  simpa using field_eq_pure h

theorem withDefault_eq_pure {r : Record} {name : String} {read : Json → Decoded α} {d a : α}
    (h : r.withDefault name read d = pure a) : (∃ v, read v = .ok a) ∨ a = d := by
  rcases field_eq_pure h with hread | hd | hd
  · exact .inl hread
  · exact .inr (Option.some.inj hd).symm
  · exact .inr (Option.some.inj hd).symm

theorem build_eq_ok_iff {names : List String} {parts : Parts} {fields : Record → Fitting α} {a : α} :
    build names parts fields = .ok a ↔
      fields ⟨names, parts⟩ = pure a ∧ ∃ u, sound ⟨names, parts⟩ = pure u := by
  rw [build, Fitting.decoded_eq_ok_iff, Fitting.seqLeft_eq_pure_iff]

/-- What a value holds was put together from a record. -/
theorem exists_of_decode {names : List String} {fields : Record → Fitting α} {v : Json} {a : α}
    (h : decode names fields v = .ok a) : ∃ r, fields r = pure a := by
  unfold decode at h
  split at h
  · exact ⟨_, (build_eq_ok_iff.1 h).1⟩
  · exact ⟨_, (build_eq_ok_iff.1 h).1⟩
  · cases h

/-! ## Records that were written -/

/-- The fields as an object has them. -/
def entries (fields : List (String × Json)) : List (Option String × Json) :=
  fields.map fun (name, v) => (some name, v)

theorem entries_cons (f : String × Json) (fs : List (String × Json)) :
    entries (f :: fs) = (some f.1, f.2) :: entries fs := rfl

/-- The values of one name, with places counted from some place on. -/
def valuesFrom (place : ℕ) (name : String) (fields : List (String × Json)) : List (ℕ × Json) :=
  ((entries fields).zipIdx place).filterMap fun (field, place) =>
    if field.1 = some name then some (place, field.2) else none

theorem valuesFrom_cons (place : ℕ) (name : String) (f : String × Json)
    (fs : List (String × Json)) : valuesFrom place name (f :: fs) =
      if f.1 = name then (place, f.2) :: valuesFrom (place + 1) name fs
      else valuesFrom (place + 1) name fs := by
  rw [valuesFrom, entries_cons, List.zipIdx_cons, List.filterMap_cons]
  by_cases h : f.1 = name <;> simp [h, valuesFrom]

theorem valuesFrom_of_not_mem {name : String} {fields : List (String × Json)}
    (h : name ∉ fields.map (·.1)) (place : ℕ) : valuesFrom place name fields = [] := by
  induction fields generalizing place with
  | nil => rfl
  | cons f fs ih =>
    rw [List.map_cons, List.mem_cons, not_or] at h
    rw [valuesFrom_cons, if_neg (Ne.symm h.1), ih h.2]

theorem exists_valuesFrom_of_mem {name : String} {v : Json} {fields : List (String × Json)}
    (hnodup : (fields.map (·.1)).Nodup) (h : (name, v) ∈ fields) (place : ℕ) :
    ∃ found, valuesFrom place name fields = [(found, v)] := by
  induction fields generalizing place with
  | nil => cases h
  | cons f fs ih =>
    rw [List.map_cons, List.nodup_cons] at hnodup
    rcases List.mem_cons.1 h with rfl | hmem
    · exact ⟨place, by rw [valuesFrom_cons, if_pos rfl, valuesFrom_of_not_mem hnodup.1]⟩
    · have hne : f.1 ≠ name := fun heq => hnodup.1 (heq ▸ List.mem_map_of_mem hmem)
      obtain ⟨found, htail⟩ := ih hnodup.2 hmem (place + 1)
      exact ⟨found, by rw [valuesFrom_cons, if_neg hne, htail]⟩

/-- A field of a written record is read from its value. -/
theorem field_of_mem {names : List String} {name : String} {v : Json}
    {fields : List (String × Json)} {read : Json → Decoded α} {unnamed omitted : Option α} {a : α}
    (hnodup : (fields.map (·.1)).Nodup) (h : (name, v) ∈ fields) (hread : read v = .ok a) :
    Record.field ⟨names, .named (entries fields)⟩ name read unnamed omitted = pure a := by
  obtain ⟨found, hvalues⟩ := exists_valuesFrom_of_mem hnodup h 0
  have hvalues : valuesOf name (entries fields) = [(found, v)] := hvalues
  simp only [field, hvalues]
  exact Fitting.placed_eq_pure_iff.2 hread

/-- In place of a field that a written record leaves out, its default stands. -/
theorem field_of_not_mem {names : List String} {name : String} {fields : List (String × Json)}
    {read : Json → Decoded α} {omitted : Option α} {a : α} (h : name ∉ fields.map (·.1)) :
    Record.field ⟨names, .named (entries fields)⟩ name read (some a) omitted = pure a := by
  have hvalues : valuesOf name (entries fields) = [] := valuesFrom_of_not_mem h 0
  simp only [field, hvalues]

theorem sound_entries {names : List String} {fields : List (String × Json)}
    (h : ∀ f ∈ fields, f.2.isHeld = true) : sound ⟨names, .named (entries fields)⟩ = pure () := by
  have hnone : (entries fields).findIdx? isTorn = none := by
    rw [List.findIdx?_eq_none_iff]
    rintro _ hentry
    obtain ⟨f, hf, rfl⟩ := List.mem_map.1 hentry
    simp [isTorn, Json.isIntact_of_isHeld (h f hf)]
  simp only [sound, hnone]

/-- A written record is put together again if each of its fields is. -/
theorem decode_record {names : List String} {fields : List (String × Json)}
    {build : Record → Fitting α} {a : α} (hheld : (Json.record fields).isHeld = true)
    (h : build ⟨names, .named (entries fields)⟩ = pure a) :
    decode names build (.record fields) = .ok a :=
  build_eq_ok_iff.2 ⟨h, (), sound_entries (Json.isHeld_record_iff.1 hheld)⟩

end Record

namespace Json

variable {α : Type}

/-! ## Lists and options -/

theorem list_array {read : Json → Decoded α} {encode : α → Json} {as : List α}
    (h : ∀ a ∈ as, read (encode a) = .ok a) : list read (.array (as.map encode)) = .ok as := by
  rw [list]
  induction as with
  | nil => rfl
  | cons a as ih =>
    have htail := ih fun b hb => h b (List.mem_cons_of_mem a hb)
    rw [List.map_cons, List.mapM_cons, h a List.mem_cons_self, ok_bind, htail, ok_bind]
    rfl

/-- The items of a list were read from values. -/
theorem exists_of_list {read : Json → Decoded α} {v : Json} {as : List α}
    (h : list read v = .ok as) : ∀ a ∈ as, ∃ w, read w = .ok a := by
  unfold list at h
  split at h
  next items =>
    induction items generalizing as with
    | nil =>
      cases h
      simp
    | cons w ws ih =>
      rw [List.mapM_cons, bind_eq_ok_iff] at h
      obtain ⟨b, hb, h⟩ := h
      obtain ⟨bs, hbs, h⟩ := bind_eq_ok_iff.1 h
      cases h
      exact List.forall_mem_cons.2 ⟨⟨w, hb⟩, ih hbs⟩
  next => cases h

theorem orNull_of_ne_null {read : Json → Decoded α} {v : Json} (h : v ≠ .null) :
    orNull read v = (read v).map some := by
  unfold orNull
  split
  · exact absurd rfl h
  · rfl

/-- What a value holds that may be null was read from a value. -/
theorem exists_of_orNull {read : Json → Decoded α} {v : Json} {a : α}
    (h : orNull read v = .ok (some a)) : ∃ w, read w = .ok a := by
  unfold orNull at h
  split at h
  · cases h
  · obtain ⟨b, hread, hb⟩ := map_eq_ok_iff.1 h
    cases hb
    exact ⟨v, hread⟩

theorem list_strings (texts : List String) : list text (.strings texts) = .ok texts :=
  list_array fun _ _ => rfl

theorem orNull_ofOption (o : Option String) : orNull text (.ofOption o) = .ok o := by
  cases o <;> rfl

end Json

/-- The items of a field that may be left out were read from values. -/
theorem Record.exists_of_list {α : Type} {r : Record} {name : String} {read : Json → Decoded α}
    {as : List α} (h : r.withDefault name (Json.list read) [] = pure as) :
    ∀ a ∈ as, ∃ v, read v = .ok a := by
  rcases withDefault_eq_pure h with ⟨v, hv⟩ | rfl
  · exact Json.exists_of_list hv
  · simp

end Referent
