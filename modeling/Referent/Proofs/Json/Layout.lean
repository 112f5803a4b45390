import Mathlib.Data.Nat.Notation
import Referent.Json.Printer
import Referent.Json.Reader

/-!
# Layouts of JSON values

A value can be laid out as a text in many ways, with any space around its tokens. Not every value
can: a document written by a program has names on all its fields, numbers of 64 bits and a bound on
how deep arrays and objects stand inside one another.

Results:
* `Portable.limited_eq`, `Portable.isHeld`: nothing is taken away from such a value when it is read.
* `Layout`: what a value may look like as a text.
* `Portable.layout_compact`, `Portable.layout_pretty`: both printers lay the value out.
-/

namespace Referent.Json

/-! ## Portable values -/

/-- The value can be written and read back: its numbers are natural ones of 64 bits, its fields have
names, and at most so many arrays and objects stand inside one another. -/
inductive Portable : ℕ → Json → Prop
  | null {room : ℕ} : Portable room .null
  | bool {room : ℕ} (b : Bool) : Portable room (.bool b)
  | natural {room n : ℕ} (h : n < UInt64.size) : Portable room (.natural n)
  | string {room : ℕ} (text : String) : Portable room (.string text)
  | array {room : ℕ} {items : List Json} (h : ∀ v ∈ items, Portable room v) :
      Portable (room + 1) (.array items)
  | record {room : ℕ} {fields : List (String × Json)} (h : ∀ f ∈ fields, Portable room f.2) :
      Portable (room + 1) (.record fields)

theorem Portable.mono {room room' : ℕ} {v : Json} (h : Portable room v) (hle : room ≤ room') :
    Portable room' v := by
  induction h generalizing room' with
  | null => exact .null
  | bool b => exact .bool b
  | natural h => exact .natural h
  | string text => exact .string text
  | array _ ih =>
    obtain ⟨k, rfl⟩ : ∃ k, room' = k + 1 := ⟨room' - 1, by omega⟩
    exact .array fun v hv => ih v hv (by omega)
  | record _ ih =>
    obtain ⟨k, rfl⟩ : ∃ k, room' = k + 1 := ⟨room' - 1, by omega⟩
    exact .record fun f hf => ih f hf (by omega)

theorem Portable.list {α : Type} {room : ℕ} {encode : α → Json} {as : List α}
    (h : ∀ a ∈ as, Portable room (encode a)) : Portable (room + 1) (.array (as.map encode)) :=
  .array (List.forall_mem_map.2 h)

theorem Portable.strings {room : ℕ} (texts : List String) : Portable (room + 1) (.strings texts) :=
  .list fun text _ => .string text

theorem Portable.ofOption {room : ℕ} (text : Option String) : Portable room (.ofOption text) := by
  cases text with
  | none => exact .null
  | some text => exact .string text

theorem areLimited_eq {room : ℕ} {items : List Json} (h : ∀ v ∈ items, v.limited room = v) :
    areLimited room items = items := by
  induction items with
  | nil => rfl
  | cons v vs ih =>
    have hvs : ∀ w ∈ vs, w.limited room = w := fun w hw => h w (List.mem_cons_of_mem v hw)
    rw [areLimited, h v List.mem_cons_self, ih hvs]

theorem fieldsLimited_eq {room : ℕ} {fields : List (Option String × Json)}
    (h : ∀ f ∈ fields, f.2.limited room = f.2) : fieldsLimited room fields = fields := by
  induction fields with
  | nil => rfl
  | cons f fs ih =>
    have hfs : ∀ g ∈ fs, g.2.limited room = g.2 := fun g hg => h g (List.mem_cons_of_mem f hg)
    rw [fieldsLimited, h f List.mem_cons_self, ih hfs]

/-- The value has all the room it needs. -/
theorem Portable.limited_eq {room : ℕ} {v : Json} (h : Portable room v) : v.limited room = v := by
  induction h with
  | @null room => cases room <;> rfl
  | @bool room b => cases room <;> rfl
  | @natural room n _ => cases room <;> rfl
  | @string room text => cases room <;> rfl
  | array _ ih => rw [limited, areLimited_eq ih]
  | record _ ih =>
    rw [Json.record, limited, fieldsLimited_eq]
    rintro _ hf
    obtain ⟨f, hmem, rfl⟩ := List.mem_map.1 hf
    exact ih f hmem

theorem areHeld_iff {items : List Json} :
    areHeld items = true ↔ ∀ v ∈ items, v.isHeld = true := by
  induction items with
  | nil => simp [areHeld]
  | cons v vs ih => rw [areHeld, Bool.and_eq_true, ih, List.forall_mem_cons]

theorem fieldsHeld_iff {fields : List (Option String × Json)} :
    fieldsHeld fields = true ↔ ∀ f ∈ fields, f.1.isSome = true ∧ f.2.isHeld = true := by
  induction fields with
  | nil => simp [fieldsHeld]
  | cons f fs ih => rw [fieldsHeld, Bool.and_eq_true, Bool.and_eq_true, ih, List.forall_mem_cons]

theorem isHeld_record_iff {fields : List (String × Json)} :
    (Json.record fields).isHeld = true ↔ ∀ f ∈ fields, f.2.isHeld = true := by
  rw [Json.record, isHeld, fieldsHeld_iff, List.forall_mem_map]
  simp

/-- The value can be held in memory. -/
theorem Portable.isHeld {room : ℕ} {v : Json} (h : Portable room v) : v.isHeld = true := by
  induction h with
  | null | bool | natural | string => simp [Json.isHeld]
  | array _ ih => rwa [Json.isHeld, areHeld_iff]
  | record _ ih => rwa [isHeld_record_iff]

mutual

/-- What can be held does not break off. -/
theorem isIntact_of_isHeld : ∀ {v : Json}, v.isHeld = true → v.isIntact = true
  | .null, _ | .bool _, _ | .natural _, _ | .decimal _, _ | .string _, _ => rfl
  | .array items, h => by
    rw [isHeld] at h
    rw [isIntact, areIntact_of_areHeld h]
  | .object fields, h => by
    rw [isHeld] at h
    rw [isIntact, fieldsIntact_of_fieldsHeld h]

theorem areIntact_of_areHeld : ∀ {items : List Json}, areHeld items = true →
    areIntact items = true
  | [], _ => rfl
  | v :: vs, h => by
    rw [areHeld, Bool.and_eq_true] at h
    rw [areIntact, isIntact_of_isHeld h.1, areIntact_of_areHeld h.2, Bool.and_self]

theorem fieldsIntact_of_fieldsHeld : ∀ {fields : List (Option String × Json)},
    fieldsHeld fields = true → fieldsIntact fields = true
  | [], _ => rfl
  | (name, v) :: fs, h => by
    rw [fieldsHeld, Bool.and_eq_true, Bool.and_eq_true] at h
    rw [fieldsIntact, isIntact_of_isHeld h.1.2, fieldsIntact_of_fieldsHeld h.2, Bool.and_self]

end

/-! ## Layouts -/

/-- Nothing but space. -/
def Spaces (gap : List Char) : Prop :=
  ∀ c ∈ gap, isSpace c = true

theorem spaces_nil : Spaces [] := by
  simp [Spaces]

mutual

/-- The text is a layout of the value, from its first character to its last one. -/
inductive Layout : List Char → Json → Prop
  | word (w : Word) : Layout w.spelling w.value
  | natural {n : ℕ} (h : n < UInt64.size) : Layout (toString n).toList (.natural n)
  | string (text : String) : Layout (quote text).toList (.string text)
  | noItems {gap : List Char} (hgap : Spaces gap) : Layout ('[' :: (gap ++ [']'])) (.array [])
  | items {cs gap : List Char} {vs : List Json} (h : ItemsLayout cs vs) (hgap : Spaces gap) :
      Layout ('[' :: (cs ++ (gap ++ [']']))) (.array vs)
  | noFields {gap : List Char} (hgap : Spaces gap) : Layout ('{' :: (gap ++ ['}'])) (.object [])
  | fields {cs gap : List Char} {fs : List (Option String × Json)} (h : FieldsLayout cs fs)
      (hgap : Spaces gap) : Layout ('{' :: (cs ++ (gap ++ ['}']))) (.object fs)

/-- The text is a layout of the items of an array, at least one, up to the end of the last one. -/
inductive ItemsLayout : List Char → List Json → Prop
  | one {before cs : List Char} {v : Json} (hbefore : Spaces before) (h : Layout cs v) :
      ItemsLayout (before ++ cs) [v]
  | more {before cs after ds : List Char} {v : Json} {vs : List Json} (hbefore : Spaces before)
      (h : Layout cs v) (hafter : Spaces after) (hvs : ItemsLayout ds vs) :
      ItemsLayout (before ++ (cs ++ (after ++ ',' :: ds))) (v :: vs)

/-- The text is a layout of the fields of an object, at least one, up to the end of the last
value. -/
inductive FieldsLayout : List Char → List (Option String × Json) → Prop
  | one {before between behind cs : List Char} {v : Json} (name : String) (hbefore : Spaces before)
      (hbetween : Spaces between) (hbehind : Spaces behind) (h : Layout cs v) :
      FieldsLayout (before ++ ((quote name).toList ++ (between ++ ':' :: (behind ++ cs))))
        [(some name, v)]
  | more {before between behind cs after ds : List Char} {v : Json}
      {fs : List (Option String × Json)} (name : String) (hbefore : Spaces before)
      (hbetween : Spaces between) (hbehind : Spaces behind) (h : Layout cs v)
      (hafter : Spaces after) (hfs : FieldsLayout ds fs) :
      FieldsLayout (before ++ ((quote name).toList ++
        (between ++ ':' :: (behind ++ (cs ++ (after ++ ',' :: ds)))))) ((some name, v) :: fs)

end

/-! ## Printed lists

Both printers write a list item by item, with the same space before each. -/

theorem itemsLayout_of_printed (print : Json → List Char) (printItems : List Json → List Char)
    {before : List Char} (hbefore : Spaces before)
    (hone : ∀ v, printItems [v] = before ++ print v)
    (hmore : ∀ v w vs, printItems (v :: w :: vs) =
      before ++ (print v ++ ',' :: printItems (w :: vs)))
    {vs : List Json} (hne : vs ≠ []) (h : ∀ v ∈ vs, Layout (print v) v) :
    ItemsLayout (printItems vs) vs := by
  induction vs with
  | nil => exact absurd rfl hne
  | cons v vs ih =>
    have hv := h v List.mem_cons_self
    cases vs with
    | nil =>
      rw [hone]
      exact .one hbefore hv
    | cons w vs =>
      have hvs := ih (List.cons_ne_nil w vs) fun u hu => h u (List.mem_cons_of_mem v hu)
      rw [hmore]
      exact .more hbefore hv spaces_nil hvs

theorem fieldsLayout_of_printed (print : Json → List Char)
    (printFields : List (Option String × Json) → List Char) {before behind : List Char}
    (hbefore : Spaces before) (hbehind : Spaces behind)
    (hone : ∀ name v, printFields [(some name, v)] =
      before ++ ((quote name).toList ++ ':' :: (behind ++ print v)))
    (hmore : ∀ name v f fs, printFields ((some name, v) :: f :: fs) =
      before ++ ((quote name).toList ++ ':' :: (behind ++ (print v ++ ',' :: printFields (f :: fs)))))
    {fs : List (String × Json)} (hne : fs ≠ []) (h : ∀ f ∈ fs, Layout (print f.2) f.2) :
    FieldsLayout (printFields (fs.map fun (name, v) => (some name, v)))
      (fs.map fun (name, v) => (some name, v)) := by
  induction fs with
  | nil => exact absurd rfl hne
  | cons f fs ih =>
    obtain ⟨name, v⟩ := f
    have hv := h (name, v) List.mem_cons_self
    cases fs with
    | nil =>
      have hone' := FieldsLayout.one name hbefore spaces_nil hbehind hv
      simpa only [List.map_cons, List.map_nil, hone, List.nil_append] using hone'
    | cons g fs =>
      have hfs := ih (List.cons_ne_nil g fs) fun e he => h e (List.mem_cons_of_mem (name, v) he)
      have hmore' := FieldsLayout.more name hbefore spaces_nil hbehind hv spaces_nil hfs
      simpa only [List.map_cons, hmore, List.nil_append] using hmore'

/-! ## On one line -/

theorem itemsLayout_compact {vs : List Json} (hne : vs ≠ [])
    (h : ∀ v ∈ vs, Layout v.compact.toList v) : ItemsLayout (compactItems vs).toList vs :=
  itemsLayout_of_printed (·.compact.toList) (compactItems · |>.toList) spaces_nil
    (by simp [compactItems]) (by simp [compactItems]) hne h

theorem fieldsLayout_compact {fs : List (String × Json)} (hne : fs ≠ [])
    (h : ∀ f ∈ fs, Layout f.2.compact.toList f.2) :
    FieldsLayout (compactFields (fs.map fun (name, v) => (some name, v))).toList
      (fs.map fun (name, v) => (some name, v)) :=
  fieldsLayout_of_printed (·.compact.toList) (compactFields · |>.toList) spaces_nil spaces_nil
    (by simp [compactFields]) (by simp [compactFields]) hne h

/-- A value on one line is a layout of it. -/
theorem Portable.layout_compact {room : ℕ} {v : Json} (h : Portable room v) :
    Layout v.compact.toList v := by
  induction h with
  | null => exact .word .nullWord
  | bool b =>
    cases b with
    | true => exact .word .trueWord
    | false => exact .word .falseWord
  | natural h => exact .natural h
  | string text => exact .string text
  | @array room items _ ih =>
    rw [compact, String.toList_append, String.toList_append]
    cases items with
    | nil => exact .noItems spaces_nil
    | cons v vs => exact .items (itemsLayout_compact (List.cons_ne_nil v vs) ih) spaces_nil
  | @record room fields _ ih =>
    rw [Json.record, compact, String.toList_append, String.toList_append]
    cases fields with
    | nil => exact .noFields spaces_nil
    | cons f fs => exact .fields (fieldsLayout_compact (List.cons_ne_nil f fs) ih) spaces_nil

/-! ## Over several lines -/

theorem spaces_newline (level : ℕ) : Spaces (newline level).toList := by
  intro c hc
  rw [newline, String.toList_append, String.toList_join, List.mem_append, List.mem_flatMap] at hc
  rcases hc with hc | ⟨s, hs, hc⟩
  · rw [List.mem_singleton.1 hc]
    rfl
  · rw [List.eq_of_mem_replicate hs] at hc
    have hspace : c = ' ' := by simpa using hc
    rw [hspace]
    rfl

theorem spaces_singleton : Spaces [' '] := by
  simp [Spaces, isSpace]

theorem itemsLayout_pretty {level : ℕ} {vs : List Json} (hne : vs ≠ [])
    (h : ∀ v ∈ vs, Layout (v.prettyAt level).toList v) :
    ItemsLayout (prettyItems level vs).toList vs :=
  itemsLayout_of_printed (·.prettyAt level |>.toList) (prettyItems level · |>.toList)
    (spaces_newline level) (by simp [prettyItems]) (by simp [prettyItems]) hne h

theorem fieldsLayout_pretty {level : ℕ} {fs : List (String × Json)} (hne : fs ≠ [])
    (h : ∀ f ∈ fs, Layout (f.2.prettyAt level).toList f.2) :
    FieldsLayout (prettyFields level (fs.map fun (name, v) => (some name, v))).toList
      (fs.map fun (name, v) => (some name, v)) :=
  fieldsLayout_of_printed (·.prettyAt level |>.toList) (prettyFields level · |>.toList)
    (spaces_newline level) spaces_singleton (by simp [prettyFields]) (by simp [prettyFields]) hne h

theorem Portable.layout_prettyAt {room : ℕ} {v : Json} (h : Portable room v) (level : ℕ) :
    Layout (v.prettyAt level).toList v := by
  induction h generalizing level with
  | null =>
    rw [prettyAt]
    exact .word .nullWord
  | bool b =>
    cases b with
    | true =>
      rw [prettyAt]
      exact .word .trueWord
    | false =>
      rw [prettyAt]
      exact .word .falseWord
  | natural h =>
    rw [prettyAt]
    exact .natural h
  | string text =>
    rw [prettyAt]
    exact .string text
  | @array room items _ ih =>
    cases items with
    | nil =>
      rw [prettyAt]
      exact .noItems spaces_nil
    | cons v vs =>
      have hitems := itemsLayout_pretty (List.cons_ne_nil v vs) fun w hw => ih w hw (level + 1)
      simpa only [prettyAt, String.toList_append, String.reduceToList, List.append_assoc,
        List.cons_append, List.nil_append] using Layout.items hitems (spaces_newline level)
  | @record room fields _ ih =>
    cases fields with
    | nil =>
      rw [Json.record, List.map_nil, prettyAt]
      exact .noFields spaces_nil
    | cons f fs =>
      have hfields := fieldsLayout_pretty (List.cons_ne_nil f fs) fun g hg => ih g hg (level + 1)
      simpa only [Json.record, List.map_cons, prettyAt, String.toList_append, String.reduceToList,
        List.append_assoc, List.cons_append, List.nil_append]
        using Layout.fields hfields (spaces_newline level)

/-- A value over several lines is a layout of it. -/
theorem Portable.layout_pretty {room : ℕ} {v : Json} (h : Portable room v) :
    Layout v.pretty.toList v :=
  h.layout_prettyAt 0

end Referent.Json
