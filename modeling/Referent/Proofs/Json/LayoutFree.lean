import Referent.Proofs.Json.Fields
import Referent.Proofs.Json.Relaid

/-!
# Readers that do not see the layout

A reader is free of layout if one change anywhere in a value makes no difference to what it gives. This
passes from the readers of the items to the reader of a list and from the readers of the fields to the
reader of a record. What a change does to the values of a known name, or to the item at a place, is said
once; nothing else of an object or array is read.

Results:
* `Change.valuesNamed_cases`, `Change.getElem?_cases`: what a change does to what a reader sees.
* `LayoutFree.list`, `LayoutFree.orNull`, `LayoutFree.variant`, …: values that are read whatever their
  layout.
* `LayoutFree.record`: records that are.
* `LayoutFree.relaid`: any number of changes makes no difference.
-/

namespace Referent.Json

variable {α : Type} {room : ℕ} {shape : Shape} {v w : Json} {name : String}
  {fields fields' : List (Option String × Json)} {items items' : List Json}

/-! ## What a change does -/

theorem perm_eq_nil_iff {l l' : List α} (h : l.Perm l') : l = [] ↔ l' = [] := by
  rw [← List.perm_nil, ← List.perm_nil, h.congr_left]

theorem perm_eq_singleton_iff {l l' : List α} (h : l.Perm l') {a : α} : l = [a] ↔ l' = [a] := by
  rw [← List.perm_singleton, ← List.perm_singleton, h.congr_left]

namespace Change

/-- Only objects and arrays change, and they stay what they are. -/
theorem kinds (h : Change room shape v w) :
    (∃ fields fields', v = .object fields ∧ w = .object fields') ∨
      ∃ items items', v = .array items ∧ w = .array items' := by
  cases h with
  | reorder => exact .inl ⟨_, _, rfl, rfl⟩
  | add => exact .inl ⟨_, _, rfl, rfl⟩
  | field => exact .inl ⟨_, _, rfl, rfl⟩
  | item => exact .inr ⟨_, _, rfl, rfl⟩

/-- The values of a name that the record knows are put into another order, or one of them changes. -/
theorem valuesNamed_cases (h : Change room shape (.object fields) (.object fields'))
    (hknown : ¬ shape.Ignores name fields) :
    (Record.valuesNamed name fields).Perm (Record.valuesNamed name fields') ∨
      ∃ before after v w, Record.valuesNamed name fields = before ++ v :: after ∧
        Record.valuesNamed name fields' = before ++ w :: after ∧
          Change (room - 1) (shape.field (some name)) v w := by
  cases h with
  | reorder h => exact .inl (h.filterMap _)
  | @add _ _ before after other v hname =>
    have hne : other ≠ name := by
      rintro rfl
      exact hknown hname
    left
    simp [Record.valuesNamed_append, Record.valuesNamed_cons, hne]
  | @field _ _ before after other v w h =>
    by_cases hother : other = some name
    · subst hother
      refine .inr ⟨Record.valuesNamed name before, Record.valuesNamed name after, v, w, ?_, ?_, h⟩
      · simp [Record.valuesNamed_append, Record.valuesNamed_cons]
      · simp [Record.valuesNamed_append, Record.valuesNamed_cons]
    · left
      simp [Record.valuesNamed_append, Record.valuesNamed_cons, hother]

/-- The item at a place stays what it is, or it changes. -/
theorem getElem?_cases (h : Change room shape (.array items) (.array items')) (place : ℕ) :
    items[place]? = items'[place]? ∨
      ∃ v w, items[place]? = some v ∧ items'[place]? = some w ∧
        Change (room - 1) (shape.item place) v w := by
  cases h with
  | @item _ _ before after v w h =>
    by_cases hplace : place = before.length
    · subst hplace
      exact .inr ⟨v, w, by simp, by simp, h⟩
    · left
      rcases Nat.lt_or_gt_of_ne hplace with hlt | hgt
      · simp [List.getElem?_append_left hlt]
      · obtain ⟨k, hk⟩ : ∃ k, place - before.length = k + 1 := ⟨place - before.length - 1, by omega⟩
        simp [List.getElem?_append_right (Nat.le_of_lt hgt), hk]

theorem length_eq (h : Change room shape (.array items) (.array items')) :
    items.length = items'.length := by
  cases h with
  | item h => simp

/-- An empty object that stands for a word stays empty. -/
theorem eq_nil_iff (h : Change room .word (.object fields) (.object fields')) :
    fields = [] ↔ fields' = [] := by
  cases h with
  | reorder h => exact perm_eq_nil_iff h
  | add hname => exact hname.elim
  | field => simp

/-- A property that every field has whose value can be held, and that no change of a value takes away,
is one of all fields still. -/
theorem forall_fields {p : Option String × Json → Prop}
    (h : Change (room + 1) shape (.object fields) (.object fields'))
    (hheld : ∀ name v, v.isHeld = true → p (some name, v))
    (hvalue : ∀ name shape v w, Change room shape v w →
      (p (name, v.limited room) ↔ p (name, w.limited room))) :
    (∀ f ∈ fieldsLimited room fields, p f) ↔ ∀ f ∈ fieldsLimited room fields', p f := by
  simp only [fieldsLimited_eq_map]
  cases h with
  | reorder h => exact forall_congr' fun f => by rw [(h.map _).mem_iff]
  | @add _ _ before after name v _ h =>
    simp only [List.map_append, List.map_cons, List.forall_mem_append, List.forall_mem_cons,
      hheld name _ h, true_and]
  | @field _ _ before after name v w h =>
    simp only [List.map_append, List.map_cons, List.forall_mem_append, List.forall_mem_cons,
      hvalue name _ v w h]

theorem not_torn_iff (h : Change (room + 1) shape (.object fields) (.object fields')) :
    (∀ f ∈ fieldsLimited room fields, Record.isTorn f = false) ↔
      ∀ f ∈ fieldsLimited room fields', Record.isTorn f = false := by
  refine h.forall_fields (fun name v hv => ?_) fun name shape v w hvw => ?_
  · simp [Record.isTorn, isIntact_of_isHeld hv]
  · simp [Record.isTorn, isIntact_limited, hvw.isIntact]

theorem othersHeld_iff (h : Change (room + 1) shape (.object fields) (.object fields')) :
    Record.OthersHeld name (fieldsLimited room fields) ↔
      Record.OthersHeld name (fieldsLimited room fields') := by
  refine h.forall_fields (fun name v hv _ => ?_) fun name shape v w hvw => ?_
  · simp [Record.isUnheld, hv]
  · simp [Record.isUnheld, hvw.isHeld]

end Change

/-! ## Readers -/

/-- One change in a value of the shape makes no difference to what is read. -/
def LayoutFree (shape : Shape) (read : Json → Decoded α) : Prop :=
  ∀ ⦃room v w⦄, Change room shape v w → ∀ a,
    read (v.limited room) = .ok a ↔ read (w.limited room) = .ok a

namespace LayoutFree

variable {read : Json → Decoded α}

/-- Where there is room, a reader that does not see changes of objects and of arrays sees none. -/
theorem of_kinds
    (hobject : ∀ {room fields fields'}, Change (room + 1) shape (.object fields) (.object fields') →
      ∀ a, read (.object (fieldsLimited room fields)) = .ok a ↔
        read (.object (fieldsLimited room fields')) = .ok a)
    (harray : ∀ {room items items'}, Change (room + 1) shape (.array items) (.array items') →
      ∀ a, read (.array (areLimited room items)) = .ok a ↔
        read (.array (areLimited room items')) = .ok a) :
    LayoutFree shape read := by
  intro room v w h a
  cases room with
  | zero => rw [h.limited_zero]
  | succ room =>
    rcases h.kinds with ⟨fields, fields', rfl, rfl⟩ | ⟨items, items', rfl, rfl⟩
    · exact hobject h a
    · exact harray h a

/-- Values that are neither objects nor arrays. -/
theorem of_ne_ok (hobject : ∀ fields a, read (.object fields) ≠ .ok a)
    (harray : ∀ items a, read (.array items) ≠ .ok a) : LayoutFree shape read :=
  of_kinds (fun _ a => iff_of_false (hobject _ a) (hobject _ a))
    fun _ a => iff_of_false (harray _ a) (harray _ a)

theorem text : LayoutFree shape Json.text :=
  of_ne_ok nofun nofun

theorem truth : LayoutFree shape Json.truth :=
  of_ne_ok nofun nofun

theorem word32 : LayoutFree shape Json.word32 :=
  of_ne_ok nofun nofun

theorem word64 : LayoutFree shape Json.word64 :=
  of_ne_ok nofun nofun

/-- A list, whose items are read one by one. -/
theorem list {item : Shape} (h : LayoutFree item read) (hitem : ∀ place, shape.item place = item) :
    LayoutFree shape (Json.list read) := by
  refine of_kinds (fun _ a => iff_of_false nofun nofun) fun {room items items'} hchange as => ?_
  cases hchange with
  | @item _ _ before after v w hvw =>
    rw [hitem, Nat.add_sub_cancel] at hvw
    simp only [Json.list, areLimited_eq_map, List.map_append, List.map_cons, List.mapM_append,
      List.mapM_cons, bind_eq_ok_iff, h hvw]

theorem orNull (h : LayoutFree shape read) : LayoutFree shape (Json.orNull read) := by
  have hread : ∀ {room v w}, Change (room + 1) shape v w → ∀ a,
      (read (v.limited (room + 1))).map some = .ok a ↔
        (read (w.limited (room + 1))).map some = .ok a := by
    intro room v w hchange a
    simp only [map_eq_ok_iff, h hchange]
  exact of_kinds (fun hchange => hread hchange) fun hchange => hread hchange

/-- Words, each of them a string or an object with that one field, whose value is empty. -/
theorem of_word (empty : Json → Prop) (value : String → Decoded α)
    (hempty : ∀ {room v w}, Change room .word v w →
      (empty (v.limited room) ↔ empty (w.limited room)))
    (hobject : ∀ fields a, read (.object fields) = .ok a ↔
      ∃ name v, fields = [(some name, v)] ∧ empty v ∧ value name = .ok a)
    (harray : ∀ items a, read (.array items) ≠ .ok a) : LayoutFree .word read := by
  refine of_kinds (fun {room fields fields'} hchange a => ?_)
    fun _ a => iff_of_false (harray _ a) (harray _ a)
  simp only [hobject, fieldsLimited_eq_map]
  cases hchange with
  | reorder h => simp only [perm_eq_singleton_iff (h.map _)]
  | add hname => exact hname.elim
  | @field _ _ before after name v w h =>
    have h : Change room .word v w := h
    rcases before with _ | ⟨f, before⟩
    · rcases after with _ | ⟨f, after⟩
      · simp [hempty h]
      · simp
    · simp

/-- An object stands for a word if it has one field, of that name, which is `null`. -/
theorem variant_object_eq_ok_iff {table : List (String × α)} {a : α} :
    Json.variant table (.object fields) = .ok a ↔
      ∃ name v, fields = [(some name, v)] ∧ v = .null ∧ lookupVariant table name = .ok a := by
  rcases fields with _ | ⟨⟨_ | name, v⟩, _ | ⟨f, fs⟩⟩
  · simp [Json.variant]
  · simp [Json.variant]
  · simp [Json.variant]
  · cases v <;> simp [Json.variant, bind_eq_ok_iff]
  · simp [Json.variant, bind_eq_ok_iff]

theorem variant (table : List (String × α)) : LayoutFree .word (Json.variant table) := by
  refine of_word (· = .null) (lookupVariant table) (fun {room v w} h => ?_)
    (fun _ _ => variant_object_eq_ok_iff) nofun
  cases room with
  | zero => rw [h.limited_zero]
  | succ room => rcases h.kinds with ⟨_, _, rfl, rfl⟩ | ⟨_, _, rfl, rfl⟩ <;> simp [limited]

/-- In a value that is held, the one field may also be an empty object. -/
theorem heldVariant_object_eq_ok_iff {table : List (String × α)} {a : α} :
    Json.heldVariant table (.object fields) = .ok a ↔
      ∃ name v, fields = [(some name, v)] ∧ (v = .null ∨ v = .object []) ∧
        lookupVariant table name = .ok a := by
  rcases fields with _ | ⟨⟨_ | name, v⟩, _ | ⟨f, fs⟩⟩
  · simp [Json.heldVariant]
  · simp [Json.heldVariant]
  · simp [Json.heldVariant]
  · rcases v with _ | _ | _ | _ | _ | _ | (_ | _) | _ | _ <;>
      simp [Json.heldVariant, bind_eq_ok_iff]
  · simp [Json.heldVariant]

theorem heldVariant (table : List (String × α)) : LayoutFree .word (Json.heldVariant table) := by
  refine of_word (fun v => v = .null ∨ v = .object []) (lookupVariant table) (fun {room v w} h => ?_)
    (fun _ _ => heldVariant_object_eq_ok_iff) nofun
  cases room with
  | zero => rw [h.limited_zero]
  | succ room =>
    rcases h.kinds with ⟨fields, fields', rfl, rfl⟩ | ⟨_, _, rfl, rfl⟩
    · simp [limited, fieldsLimited_eq_map, h.eq_nil_iff]
    · simp [limited]

end LayoutFree

/-! ## Records -/

theorem valuesNamed_fieldsLimited (room : ℕ) (name : String) (fields : List (Option String × Json)) :
    Record.valuesNamed name (fieldsLimited room fields) =
      (Record.valuesNamed name fields).map (limited room) := by
  induction fields with
  | nil => rfl
  | cons f fs ih =>
    rw [fieldsLimited, Record.valuesNamed_cons, Record.valuesNamed_cons, ih]
    split <;> rfl

/-- A reader free of layout gets the same from a known field, whatever changes in the object. -/
theorem Change.field_named_alike {read : Json → Decoded α}
    (h : Change (room + 1) shape (.object fields) (.object fields'))
    (hknown : ¬ shape.Ignores name fields) (hread : LayoutFree (shape.field (some name)) read)
    (names : List String) (unnamed omitted : Option α) :
    Fitting.Alike
      (Record.field ⟨names, .named (fieldsLimited room fields)⟩ name read unnamed omitted)
      (Record.field ⟨names, .named (fieldsLimited room fields')⟩ name read unnamed omitted) := by
  intro a
  rw [Record.field_named_eq_pure_iff, Record.field_named_eq_pure_iff, valuesNamed_fieldsLimited,
    valuesNamed_fieldsLimited]
  rcases h.valuesNamed_cases hknown with hperm | ⟨before, after, v, w, hv, hw, hvw⟩
  · have hperm := hperm.map (limited room)
    simp only [perm_eq_singleton_iff hperm, perm_eq_nil_iff hperm]
  · rw [Nat.add_sub_cancel] at hvw
    rw [hv, hw]
    rcases before with _ | ⟨u, before⟩
    · rcases after with _ | ⟨u, after⟩
      · simp [hread hvw a]
      · simp
    · simp

/-- The same for a field of an array. -/
theorem Change.field_ordered_alike {read : Json → Decoded α} {names : List String}
    (h : Change (room + 1) shape (.array items) (.array items'))
    (hread : LayoutFree (shape.item (names.idxOf name)) read) (unnamed omitted : Option α) :
    Fitting.Alike
      (Record.field ⟨names, .ordered (areLimited room items)⟩ name read unnamed omitted)
      (Record.field ⟨names, .ordered (areLimited room items')⟩ name read unnamed omitted) := by
  intro a
  simp only [Record.field_ordered_eq_pure_iff, areLimited_eq_map, List.getElem?_map]
  rcases h.getElem?_cases (names.idxOf name) with hitem | ⟨v, w, hv, hw, hvw⟩
  · rw [hitem]
  · rw [Nat.add_sub_cancel] at hvw
    simp [hv, hw, hread hvw a]

theorem mem_of_lookup {known : List (String × Shape)} (h : known.lookup name = some shape) :
    (name, shape) ∈ known := by
  obtain ⟨front, back, rfl, -⟩ := List.lookup_eq_some_iff.1 h
  simp

/-- Every reader free of layout gets the same from a known field of either record. -/
def ReadAlike (known : List (String × Shape)) (r r' : Record) : Prop :=
  ∀ ⦃name shape⦄, known.lookup name = some shape → ∀ {α : Type} {read : Json → Decoded α},
    LayoutFree shape read → ∀ unnamed omitted,
      (r.field name read unnamed omitted).Alike (r'.field name read unnamed omitted)

namespace ReadAlike

variable {known : List (String × Shape)} {r r' : Record} {read : Json → Decoded α}

theorem required (h : ReadAlike known r r') (hname : known.lookup name = some shape)
    (hread : LayoutFree shape read) : (r.required name read).Alike (r'.required name read) :=
  h hname hread none none

theorem withDefault (h : ReadAlike known r r') (hname : known.lookup name = some shape)
    (hread : LayoutFree shape read) (default : α) :
    (r.withDefault name read default).Alike (r'.withDefault name read default) :=
  h hname hread (some default) (some default)

theorem nullable (h : ReadAlike known r r') (hname : known.lookup name = some shape)
    (hread : LayoutFree shape read) : (r.nullable name read).Alike (r'.nullable name read) :=
  h hname hread.orNull (some none) none

/-- Known fields are still read alike when others are left out. -/
theorem filter {names : List String} {fields fields' : List (Option String × Json)}
    (h : ReadAlike known ⟨names, .named fields⟩ ⟨names, .named fields'⟩)
    {p : Option String × Json → Bool} (hp : ∀ name ∈ known.map (·.1), ∀ v, p (some name, v) = true)
    (names' : List String) :
    ReadAlike known ⟨names', .named (fields.filter p)⟩ ⟨names', .named (fields'.filter p)⟩ := by
  intro name part hname α read hread unnamed omitted a
  have hpass := hp name (List.mem_map_of_mem (mem_of_lookup hname))
  simpa only [Record.field_named_eq_pure_iff, Record.valuesNamed_filter hpass] using
    h hname hread unnamed omitted a

end ReadAlike

/-- The fields of an object are read alike after a change if their names are known where it is made. -/
theorem Change.readAlike_named {known : List (String × Shape)}
    (h : Change (room + 1) shape (.object fields) (.object fields'))
    (hknown : ∀ {name part}, known.lookup name = some part →
      ¬ shape.Ignores name fields ∧ shape.field (some name) = part) (names : List String) :
    ReadAlike known ⟨names, .named (fieldsLimited room fields)⟩
      ⟨names, .named (fieldsLimited room fields')⟩ := by
  intro name part hname β read hread
  obtain ⟨hnot, rfl⟩ := hknown hname
  exact h.field_named_alike hnot hread names

/-- So are the fields of an array if they have their shapes at their places. -/
theorem Change.readAlike_ordered {known : List (String × Shape)} (names : List String)
    (h : Change (room + 1) shape (.array items) (.array items'))
    (hknown : ∀ {name part}, known.lookup name = some part →
      shape.item (names.idxOf name) = part) :
    ReadAlike known ⟨names, .ordered (areLimited room items)⟩
      ⟨names, .ordered (areLimited room items')⟩ := by
  intro name part hname β read hread
  obtain rfl := hknown hname
  exact h.field_ordered_alike hread

theorem length_areLimited (room : ℕ) (items : List Json) :
    (areLimited room items).length = items.length := by
  rw [areLimited_eq_map, List.length_map]

namespace Shape

variable {known : List (String × Shape)} {part : Shape}

theorem field_record (h : known.lookup name = some part) :
    (record known).field (some name) = part := by
  rw [field, h, Option.getD_some]

/-- The place of a field in an array is the one at which its name stands. -/
theorem item_record (h : known.lookup name = some part) :
    (record known).item ((known.map (·.1)).idxOf name) = part := by
  obtain ⟨front, back, rfl, hfront⟩ := List.lookup_eq_some_iff.1 h
  have hnot : name ∉ front.map (·.1) := by
    intro hmem
    obtain ⟨f, hf, rfl⟩ := List.mem_map.1 hmem
    simpa using hfront f hf
  rw [List.map_append, List.idxOf_append_of_notMem hnot]
  simp [item]

end Shape

/-- The known fields of a record are read alike. -/
theorem Change.readAlike_record {known : List (String × Shape)}
    (h : Change (room + 1) (.record known) (.object fields) (.object fields'))
    (names : List String) :
    ReadAlike known ⟨names, .named (fieldsLimited room fields)⟩
      ⟨names, .named (fieldsLimited room fields')⟩ :=
  h.readAlike_named (fun hname =>
    ⟨fun hignores => hignores (List.mem_map_of_mem (mem_of_lookup hname)),
      Shape.field_record hname⟩) names

/-- A record is put together alike if its fields are read alike. -/
theorem LayoutFree.record {known : List (String × Shape)} {build : Record → Fitting α}
    (h : ∀ {r r'}, ReadAlike known r r' → (build r).Alike (build r')) :
    LayoutFree (.record known) (Record.decode (known.map (·.1)) build) := by
  refine of_kinds (fun hchange a => ?_) fun hchange a => ?_
  · have halike := h (hchange.readAlike_record (known.map (·.1))) a
    simp only [Record.decode, Record.build_named_eq_ok_iff, halike, hchange.not_torn_iff]
  · have halike := h (hchange.readAlike_ordered (known.map (·.1)) Shape.item_record) a
    simp only [Record.decode, Record.build_ordered_eq_ok_iff, halike, length_areLimited,
      hchange.length_eq]

/-! ## Any number of changes -/

theorem LayoutFree.relaid {read : Json → Decoded α} (h : LayoutFree shape read)
    (hvw : Relaid room shape v w) (a : α) :
    read (v.limited room) = .ok a ↔ read (w.limited room) = .ok a := by
  induction hvw with
  | rel v w hchange => exact h hchange a
  | refl v => rfl
  | symm v w _ ih => exact ih.symm
  | trans u v w _ _ ih ih' => exact ih.trans ih'

end Referent.Json
