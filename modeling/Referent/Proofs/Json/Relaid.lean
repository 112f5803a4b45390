import Mathlib.Data.List.Perm.Basic
import Mathlib.Logic.Relation
import Referent.Proofs.Json.Layout

/-!
# Documents laid out anew

The fields of an object can be put into another order, and it can be given fields that are not known in
it. Such changes can be made at any place of a document, however deep, and also inside a field that is
not known itself. Which names are known is told by the shape of the document: it says where records and
words stand, and nothing of what the other values are.

* `Shape` — where records and words stand in a document, and the names of the fields of records.
* `Change`, `Relaid` — one change of layout, and any number of them made or taken back.

Results:
* `Change.isIntact`, `Change.isHeld`: a change neither breaks a value nor takes it out of what can be
  held.
* `Change.limited_zero`: a value that there is no room for does not show any change.
-/

namespace Referent.Json

/-! ## Shapes -/

/-- Where records and words stand in a document. -/
inductive Shape where
  /-- No name is known in the value: a string, a number, a list of them, or what is passed over. -/
  | plain
  /-- A word, which may be given as an object with one field. The name of that field is the word. -/
  | word
  /-- A list of values of one shape. -/
  | list (item : Shape)
  /-- A record with fields of these names, in the order in which an array has them. -/
  | record (fields : List (String × Shape))
  /-- A record with a field that tells what it is, and the names of the other fields that each of
  these variants has. -/
  | tagged (tag : String) (variants : List (String × List String))

namespace Shape

/-- The shape of the field of a name. -/
def field : Shape → Option String → Shape
  | .word, _ => .word
  | .record fields, some name => (fields.lookup name).getD .plain
  | _, _ => .plain

/-- The shape of the item at a place of an array. -/
def item : Shape → ℕ → Shape
  | .word, _ => .word
  | .list item, _ => item
  | .record fields, place => (fields[place]?.map (·.2)).getD .plain
  | _, _ => .plain

/-- The name is not known in an object of the shape that has these fields. In an object that stands for
a word none can be passed over. -/
def Ignores (name : String) (fields : List (Option String × Json)) : Shape → Prop
  | .word => False
  | .record known => name ∉ known.map (·.1)
  | .tagged tag variants =>
    name ≠ tag ∧ ∀ variant ∈ variants, (some tag, .string variant.1) ∈ fields → name ∉ variant.2
  | _ => True

end Shape

/-! ## Changes -/

/-- One change of layout in a value that has room for so many arrays and objects: fields are put into
another order, or an object gets a field that is not known in it and whose value can be held in the room
that is left for it. -/
inductive Change : ℕ → Shape → Json → Json → Prop
  | reorder {room : ℕ} {shape : Shape} {fields fields' : List (Option String × Json)}
      (h : fields.Perm fields') : Change room shape (.object fields) (.object fields')
  | add {room : ℕ} {shape : Shape} {before after : List (Option String × Json)} {name : String}
      {v : Json} (hname : shape.Ignores name (before ++ after))
      (hheld : (v.limited room).isHeld = true) :
      Change (room + 1) shape (.object (before ++ after)) (.object (before ++ (some name, v) :: after))
  | field {room : ℕ} {shape : Shape} {before after : List (Option String × Json)}
      {name : Option String} {v w : Json} (h : Change (room - 1) (shape.field name) v w) :
      Change room shape (.object (before ++ (name, v) :: after)) (.object (before ++ (name, w) :: after))
  | item {room : ℕ} {shape : Shape} {before after : List Json} {v w : Json}
      (h : Change (room - 1) (shape.item before.length) v w) :
      Change room shape (.array (before ++ v :: after)) (.array (before ++ w :: after))

/-- Any number of changes, made or taken back. -/
def Relaid (room : ℕ) (shape : Shape) : Json → Json → Prop :=
  Relation.EqvGen (Change room shape)

/-! ## Room -/

theorem areLimited_eq_map (room : ℕ) (items : List Json) :
    areLimited room items = items.map (limited room) := by
  induction items with
  | nil => rfl
  | cons v vs ih => rw [areLimited, ih, List.map_cons]

theorem fieldsLimited_eq_map (room : ℕ) (fields : List (Option String × Json)) :
    fieldsLimited room fields = fields.map fun (name, v) => (name, v.limited room) := by
  induction fields with
  | nil => rfl
  | cons f fs ih => rw [fieldsLimited, ih, List.map_cons]

theorem areIntact_iff {items : List Json} :
    areIntact items = true ↔ ∀ v ∈ items, v.isIntact = true := by
  induction items with
  | nil => simp [areIntact]
  | cons v vs ih => rw [areIntact, Bool.and_eq_true, ih, List.forall_mem_cons]

theorem fieldsIntact_iff {fields : List (Option String × Json)} :
    fieldsIntact fields = true ↔ ∀ f ∈ fields, f.2.isIntact = true := by
  induction fields with
  | nil => simp [fieldsIntact]
  | cons f fs ih => rw [fieldsIntact, Bool.and_eq_true, ih, List.forall_mem_cons]

/-- A string takes no room. -/
theorem eq_string_of_limited {room : ℕ} {v : Json} {text : String}
    (h : v.limited room = .string text) : v = .string text := by
  unfold limited at h
  split at h
  · unfold tooDeep at h
    split at h <;> cases h
  · unfold tooDeep at h
    split at h <;> cases h
  · cases h
  · cases h
  · exact h

theorem isIntact_tooDeep (intact : Bool) : (tooDeep intact).isIntact = intact := by
  cases intact <;> rfl

theorem isHeld_tooDeep (intact : Bool) : (tooDeep intact).isHeld = false := by
  cases intact <;> rfl

mutual

/-- What is taken away for want of room does not break the value. -/
theorem isIntact_limited : ∀ (room : ℕ) (v : Json), (v.limited room).isIntact = v.isIntact
  | 0, .array items => isIntact_tooDeep _
  | 0, .object fields => isIntact_tooDeep _
  | room + 1, .array items => by rw [limited, isIntact, isIntact, areIntact_areLimited]
  | room + 1, .object fields => by rw [limited, isIntact, isIntact, fieldsIntact_fieldsLimited]
  | room, .null | room, .bool _ | room, .natural _ | room, .decimal _ | room, .string _
  | room, .unheld | room, .broken => by cases room <;> rfl

theorem areIntact_areLimited : ∀ (room : ℕ) (items : List Json),
    areIntact (areLimited room items) = areIntact items
  | _, [] => rfl
  | room, v :: vs => by
    rw [areLimited, areIntact, areIntact, isIntact_limited, areIntact_areLimited]

theorem fieldsIntact_fieldsLimited : ∀ (room : ℕ) (fields : List (Option String × Json)),
    fieldsIntact (fieldsLimited room fields) = fieldsIntact fields
  | _, [] => rfl
  | room, (name, v) :: fs => by
    rw [fieldsLimited, fieldsIntact, fieldsIntact, isIntact_limited, fieldsIntact_fieldsLimited]

end

/-! ## What a change keeps -/

namespace Change

variable {room : ℕ} {shape : Shape} {v w : Json}

/-- No change breaks a value. -/
theorem isIntact (h : Change room shape v w) : v.isIntact = w.isIntact := by
  rw [Bool.eq_iff_iff]
  induction h with
  | reorder h =>
    simp only [Json.isIntact, fieldsIntact_iff]
    exact forall_congr' fun f => by rw [h.mem_iff]
  | @add room shape before after name v hname hheld =>
    have hintact : v.isIntact = true := by
      rw [← isIntact_limited room]
      exact isIntact_of_isHeld hheld
    simp only [Json.isIntact, fieldsIntact_iff, List.forall_mem_append, List.forall_mem_cons, hintact,
      true_and]
  | field h ih =>
    simp only [Json.isIntact, fieldsIntact_iff, List.forall_mem_append, List.forall_mem_cons, ih]
  | item h ih =>
    simp only [Json.isIntact, areIntact_iff, List.forall_mem_append, List.forall_mem_cons, ih]

/-- Where there is no room, only whether a value is intact shows. -/
theorem limited_zero (h : Change 0 shape v w) : v.limited 0 = w.limited 0 := by
  have hintact := h.isIntact
  cases h with
  | reorder => exact congrArg tooDeep hintact
  | field => exact congrArg tooDeep hintact
  | item => exact congrArg tooDeep hintact

/-- No change takes a value out of what can be held. -/
theorem isHeld (h : Change room shape v w) : (v.limited room).isHeld = (w.limited room).isHeld := by
  rw [Bool.eq_iff_iff]
  induction h with
  | @reorder room shape fields fields' h =>
    cases room with
    | zero => simp only [limited, isHeld_tooDeep]
    | succ room =>
      simp only [limited, Json.isHeld, fieldsHeld_iff, fieldsLimited_eq_map]
      exact forall_congr' fun f => by rw [(h.map _).mem_iff]
  | @add room shape before after name v hname hheld =>
    simp only [limited, Json.isHeld, fieldsHeld_iff, fieldsLimited_eq_map, List.map_append,
      List.map_cons, List.forall_mem_append, List.forall_mem_cons, hheld, Option.isSome_some, and_self,
      true_and]
  | @field room shape before after name v w h ih =>
    cases room with
    | zero => simp only [limited, isHeld_tooDeep]
    | succ room =>
      rw [Nat.add_sub_cancel] at ih
      simp only [limited, Json.isHeld, fieldsHeld_iff, fieldsLimited_eq_map, List.map_append,
        List.map_cons, List.forall_mem_append, List.forall_mem_cons, ih]
  | @item room shape before after v w h ih =>
    cases room with
    | zero => simp only [limited, isHeld_tooDeep]
    | succ room =>
      rw [Nat.add_sub_cancel] at ih
      simp only [limited, Json.isHeld, areHeld_iff, areLimited_eq_map, List.map_append,
        List.map_cons, List.forall_mem_append, List.forall_mem_cons, ih]

end Change

end Referent.Json
