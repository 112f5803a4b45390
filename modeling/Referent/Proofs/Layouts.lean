import Referent.Proofs.Codecs
import Referent.Proofs.Json.LayoutFree

/-!
# Documents laid out anew hold the same

The fields of every record of a document can be put into any order, and fields that the record does not
know can be added, at any depth: the document then holds the same, or it still holds nothing. Two models
do not read their fields one beside the other. A recorded delegate reads its number ahead of the
delegate whose fields stand beside it, and a parent reads ahead what it is; what is left is held before
it is looked at, and so only fields can be added that can be held. A word that is given as an object is
no model with fields: its one field has the word for a name, and a second field is refused.

Results:
* `Parent.layoutFree`, `RecordedDelegate.layoutFree`: these two do not see the layout.
* `codecs_ignoresLayout`: no model with fields sees the layout of its documents.
-/

namespace Referent

open Json (Shape Change Relaid LayoutFree ReadAlike fieldsLimited areLimited)

/-! ## Codecs -/

namespace Codec

variable {α : Type}

/-- What is laid out anew holds the same, or both hold nothing: a value of a document, and a text that
is read to the same end. -/
structure IgnoresLayout (c : Codec α) (shape : Shape) : Prop where
  of_value : ∀ v w, Relaid Json.nestingLimit shape v w →
    ∀ a, Json.decode c.decode v = .ok a ↔ Json.decode c.decode w = .ok a
  of_text : ∀ text text', (Json.read text).ended = (Json.read text').ended →
    Relaid Json.nestingLimit shape (Json.read text).root (Json.read text').root →
      ∀ a, Json.decodeText c.decode text = .ok a ↔ Json.decodeText c.decode text' = .ok a

theorem ignoresLayout {c : Codec α} {shape : Shape} (h : LayoutFree shape c.decode) :
    c.IgnoresLayout shape where
  of_value _ _ hvw := h.relaid hvw
  of_text text text' hended hroot a := by
    simp only [Json.decodeText_eq_ok_iff, hended, Json.decode, h.relaid hroot a]

end Codec

/-! ## Declared types -/

theorem TypeExpr.layoutFree {shape : Shape} : LayoutFree shape ofJson :=
  .of_ne_ok nofun nofun

theorem MemberKind.layoutFree : LayoutFree .word ofJson :=
  .variant table

theorem TypeKind.layoutFree : LayoutFree .word ofJson :=
  .variant table

namespace Parameter

/-- The shape of a parameter in a document. -/
def shape : Shape :=
  .record [("name", .plain), ("type", .plain), ("is_varargs", .plain)]

theorem layoutFree : LayoutFree shape ofJson := by
  refine LayoutFree.record fun h => .seq (.seq (.map ?_ _) ?_) ?_
  · exact h.withDefault rfl .text ""
  · exact h.required rfl TypeExpr.layoutFree
  · exact h.withDefault rfl .truth false

end Parameter

namespace Member

/-- The shape of a member in a document. -/
def shape : Shape :=
  .record [("name", .plain), ("kind", .word), ("declaring_type", .plain), ("type", .plain),
    ("parameters", .list Parameter.shape)]

theorem layoutFree : LayoutFree shape ofJson := by
  have hparameters : LayoutFree (.list Parameter.shape) (Json.list Parameter.ofJson) :=
    Parameter.layoutFree.list fun _ => rfl
  refine LayoutFree.record fun h => .seq (.seq (.seq (.seq (.map ?_ _) ?_) ?_) ?_) ?_
  · exact h.required rfl .text
  · exact h.withDefault rfl MemberKind.layoutFree .method
  · exact h.withDefault rfl .text ""
  · exact h.withDefault rfl TypeExpr.layoutFree .unknown
  · exact h.withDefault rfl hparameters.orNull none

end Member

namespace TypeDecl

/-- The shape of a declared type in a document. -/
def shape : Shape :=
  .record [("fqn", .plain), ("kind", .word), ("super_class", .plain), ("interfaces", .plain),
    ("members", .list Member.shape)]

theorem layoutFree : LayoutFree shape ofJson := by
  refine LayoutFree.record fun h => .seq (.seq (.seq (.seq (.map ?_ _) ?_) ?_) ?_) ?_
  · exact h.required rfl .text
  · exact h.withDefault rfl TypeKind.layoutFree .classType
  · exact h.withDefault rfl (LayoutFree.text.orNull) none
  · exact h.withDefault rfl (LayoutFree.text.list fun _ => rfl) []
  · exact h.withDefault rfl (Member.layoutFree.list fun _ => rfl) []

end TypeDecl

namespace Imports

/-- The shape of imports in a document. -/
def shape : Shape :=
  .record [("package", .plain), ("imports", .plain)]

theorem layoutFree : LayoutFree shape ofJson := by
  refine LayoutFree.record fun h => .seq (.map ?_ _) ?_
  · exact h.withDefault rfl (LayoutFree.text.orNull) none
  · exact h.withDefault rfl (LayoutFree.text.list fun _ => rfl) []

end Imports

/-! ## References -/

theorem Usage.layoutFree : LayoutFree .word ofJson :=
  .variant table

namespace Closure

/-- The shape of a closure in a document. -/
def shape : Shape :=
  .record [("id", .plain), ("enclosing_call", .plain)]

theorem layoutFree : LayoutFree shape ofJson := by
  refine LayoutFree.record fun h => .seq (.map ?_ _) ?_
  · exact h.required rfl .word32
  · exact h.withDefault rfl (LayoutFree.text.orNull) none

end Closure

namespace Call

/-- The fields of a call in a document, with their shapes. -/
def known : List (String × Shape) :=
  [("invoked", .plain), ("argument_types", .plain)]

/-- The shape of a call in a document. -/
def shape : Shape :=
  .record known

/-- No name is known inside the fields of a call. -/
theorem eq_plain_of_known {name : String} {part : Shape} (h : known.lookup name = some part) :
    part = .plain := by
  have hpart := Json.mem_of_lookup h
  simp only [known, List.mem_cons, Prod.mk.injEq, List.not_mem_nil, or_false] at hpart
  rcases hpart with ⟨-, rfl⟩ | ⟨-, rfl⟩ <;> rfl

theorem ofRecord_alike {r r' : Record} (h : ReadAlike known r r') :
    (ofRecord r).Alike (ofRecord r') := by
  refine .seq (.map ?_ _) ?_
  · exact h.nullable rfl .text
  · exact h.withDefault rfl (TypeExpr.layoutFree.list fun _ => rfl) []

theorem layoutFree : LayoutFree shape ofJson :=
  LayoutFree.record ofRecord_alike

end Call

namespace Parent

/-- The shape of a parent in a document. Only a call has fields beside the one that tells what it is. -/
def shape : Shape :=
  .tagged "kind" [("method_call", Call.fieldNames), ("other", [])]

theorem layoutFree_kind {shape : Shape} : LayoutFree shape Kind.ofJson :=
  .of_ne_ok nofun nofun

theorem kind_eq_methodCall_iff {v : Json} :
    Kind.ofJson v = .ok .methodCall ↔ v = .string "method_call" := by
  constructor
  · intro h
    unfold Kind.ofJson at h
    split at h
    next name =>
      rw [Json.lookupVariant, List.lookup_cons, List.lookup_cons] at h
      cases hname : name == "method_call" with
      | true => rw [beq_iff_eq.1 hname]
      | false =>
        rw [hname] at h
        cases hother : name == "other" <;> rw [hother] at h <;> cases h
    next => cases h
  · rintro rfl
    rfl

/-- A call has a field that says so. -/
theorem mem_of_methodCall {room : ℕ} {fields : List (Option String × Json)}
    (h : Record.required ⟨["kind"], .named (fieldsLimited room fields)⟩ "kind" Kind.ofJson =
      pure .methodCall) : (some "kind", .string "method_call") ∈ fields := by
  rcases Record.field_named_eq_pure_iff.1 h with ⟨-, h⟩ | ⟨v, hvalues, hkind⟩
  · cases h
  · obtain rfl := kind_eq_methodCall_iff.1 hkind
    have hmem : .string "method_call" ∈ Record.valuesNamed "kind" (fieldsLimited room fields) := by
      rw [hvalues]
      exact List.mem_singleton_self _
    rw [Json.valuesNamed_fieldsLimited, List.mem_map] at hmem
    obtain ⟨u, hu, hstring⟩ := hmem
    rw [← Json.eq_string_of_limited hstring]
    exact Record.mem_valuesNamed_iff.1 hu

/-- The fields of a call are known beside its kind. -/
theorem known_of_mem {fields : List (Option String × Json)}
    (h : (some "kind", .string "method_call") ∈ fields) {name : String} {part : Shape}
    (hname : Call.known.lookup name = some part) :
    ¬ shape.Ignores name fields ∧ shape.field (some name) = part := by
  have hmem : name ∈ Call.known.map (·.1) := List.mem_map_of_mem (Json.mem_of_lookup hname)
  refine ⟨fun hignores => ?_, (Call.eq_plain_of_known hname).symm⟩
  exact hignores.2 _ List.mem_cons_self h hmem

theorem ofJson_object_iff {room : ℕ} {fields fields' : List (Option String × Json)}
    (h : Change (room + 1) shape (.object fields) (.object fields')) (p : Parent) :
    ofJson (.object (fieldsLimited room fields)) = .ok p ↔
      ofJson (.object (fieldsLimited room fields')) = .ok p := by
  have hkind : Fitting.Alike _ _ :=
    h.field_named_alike (fun hignores => hignores.1 rfl) layoutFree_kind ["kind"] none none
  rw [ofJson_object_eq_ok_iff, ofJson_object_eq_ok_iff, Record.required, Record.required,
    h.othersHeld_iff, hkind .other, ← hkind .methodCall]
  refine and_congr_right fun _ => or_congr_right (and_congr_right fun hcall => ?_)
  have hothers := (h.readAlike_named (known_of_mem (mem_of_methodCall hcall)) ["kind"]).filter
    (p := (·.1 != some "kind")) (by simp [Call.known]) Call.fieldNames
  exact exists_congr fun call => and_congr_left' (Call.ofRecord_alike hothers call)

theorem ofJson_array_iff {room : ℕ} {items items' : List Json}
    (h : Change (room + 1) shape (.array items) (.array items')) (p : Parent) :
    ofJson (.array (areLimited room items)) = .ok p ↔
      ofJson (.array (areLimited room items')) = .ok p := by
  cases h with
  | @item _ _ before after v w hitem =>
    have hplain : Change room .plain v w := hitem
    rcases before with _ | ⟨first, before⟩
    · simp only [List.nil_append, areLimited, ofJson_array_eq_ok_iff, layoutFree_kind hplain _]
    · -- What stands behind the kind is a list with the same change.
      have hothers : Change (room + 1) (.list .plain) (.array (before ++ v :: after))
          (.array (before ++ w :: after)) := .item hplain
      have hheld : Json.areHeld (areLimited room (before ++ v :: after)) =
          Json.areHeld (areLimited room (before ++ w :: after)) := hothers.isHeld
      have hempty : areLimited room (before ++ v :: after) = [] ↔
          areLimited room (before ++ w :: after) = [] := by
        simp [Json.areLimited_eq_map]
      have hcall := Call.ofRecord_alike (hothers.readAlike_ordered Call.fieldNames fun hname =>
        (Call.eq_plain_of_known hname).symm)
      simp only [List.cons_append, areLimited, ofJson_array_eq_ok_iff, hheld, hempty,
        Record.build_ordered_eq_ok_iff, hcall _, Json.length_areLimited, hothers.length_eq]

theorem layoutFree : LayoutFree shape ofJson :=
  .of_kinds ofJson_object_iff ofJson_array_iff

end Parent

namespace Reference

/-- The shape of a reference in a document. -/
def shape : Shape :=
  .record [("name", .plain), ("usage", .word), ("parent", Parent.shape),
    ("enclosing_closures", .list Closure.shape), ("textual_candidates", .plain)]

theorem layoutFree : LayoutFree shape ofJson := by
  refine LayoutFree.record fun h => .seq (.seq (.seq (.seq (.map ?_ _) ?_) ?_) ?_) ?_
  · exact h.required rfl .text
  · exact h.withDefault rfl Usage.layoutFree .read
  · exact h.withDefault rfl Parent.layoutFree .other
  · exact h.withDefault rfl (Closure.layoutFree.list fun _ => rfl) []
  · exact h.withDefault rfl .word64 1

end Reference

/-! ## Delegates and universes -/

namespace Delegate

/-- The fields of a delegate in a document, with their shapes. -/
def known : List (String × Shape) :=
  [("type", .plain), ("strategy", .word)]

/-- The shape of a delegate in a document. -/
def shape : Shape :=
  .record known

theorem ofRecord_alike {readStrategy : Json → Decoded Strategy}
    (hstrategy : LayoutFree .word readStrategy) {r r' : Record} (h : ReadAlike known r r') :
    (ofRecord readStrategy r).Alike (ofRecord readStrategy r') := by
  refine .seq (.map ?_ _) ?_
  · exact h.required rfl .text
  · exact h.withDefault rfl hstrategy .delegateFirst

theorem layoutFree : LayoutFree shape ofJson :=
  LayoutFree.record (ofRecord_alike (.variant _))

end Delegate

namespace RecordedDelegate

/-- The shape of a recorded delegate in a document. -/
def shape : Shape :=
  .record (("scope", .plain) :: Delegate.known)

/-- The fields of a delegate are known beside its number. -/
theorem known_of_delegate {fields : List (Option String × Json)} {name : String} {part : Shape}
    (hname : Delegate.known.lookup name = some part) :
    ¬ shape.Ignores name fields ∧ shape.field (some name) = part := by
  have hne : name ≠ "scope" := by
    rintro rfl
    cases hname
  have hname : (("scope", .plain) :: Delegate.known).lookup name = some part := by
    rwa [List.lookup_cons, beq_false_of_ne hne]
  exact ⟨fun hignores => hignores (List.mem_map_of_mem (Json.mem_of_lookup hname)),
    Shape.field_record hname⟩

theorem layoutFree : LayoutFree shape ofJson := by
  refine .of_kinds (fun {room fields fields'} h r => ?_) fun _ _ => iff_of_false nofun nofun
  have hscope : (("scope", Shape.plain) :: Delegate.known).lookup "scope" = some .plain := rfl
  have hclosure := (h.readAlike_record ["scope"]).required hscope .word32 r.closure
  have hothers := (h.readAlike_named known_of_delegate ["scope"]).filter
    (p := (·.1 != some "scope")) (by simp [Delegate.known]) ["scope"]
  have hfields := hothers.filter (p := isDelegateField)
    (by simp [Delegate.known, isDelegateField, Delegate.fieldNames]) Delegate.fieldNames
  rw [ofJson_object_eq_ok_iff, ofJson_object_eq_ok_iff, h.othersHeld_iff]
  exact and_congr_right fun _ => and_congr hclosure
    (Delegate.ofRecord_alike (.heldVariant _) hfields r.delegate)

end RecordedDelegate

namespace Universe

/-- The shape of a universe in a document. -/
def shape : Shape :=
  .record [("imports", .plain), ("types", .list TypeDecl.shape),
    ("closures", .list RecordedDelegate.shape)]

theorem layoutFree : LayoutFree shape ofJson := by
  refine LayoutFree.record fun h => .seq (.seq (.map ?_ _) ?_) ?_
  · exact h.withDefault rfl (LayoutFree.text.list fun _ => rfl) []
  · exact h.withDefault rfl (TypeDecl.layoutFree.list fun _ => rfl) []
  · exact h.withDefault rfl (RecordedDelegate.layoutFree.list fun _ => rfl) []

end Universe

/-! ## All models -/

/-- Decoding does not depend on the layout of a document, for every model with fields: where fields are
put into another order, or fields that are not known are added, at any depth, what was decoded still is,
with the same value, and what was not decoded still is not. -/
theorem codecs_ignoresLayout :
    Parameter.codec.IgnoresLayout Parameter.shape ∧ Member.codec.IgnoresLayout Member.shape ∧
      TypeDecl.codec.IgnoresLayout TypeDecl.shape ∧ Imports.codec.IgnoresLayout Imports.shape ∧
      Closure.codec.IgnoresLayout Closure.shape ∧ Call.codec.IgnoresLayout Call.shape ∧
      Parent.codec.IgnoresLayout Parent.shape ∧ Reference.codec.IgnoresLayout Reference.shape ∧
      Delegate.codec.IgnoresLayout Delegate.shape ∧
      RecordedDelegate.codec.IgnoresLayout RecordedDelegate.shape ∧
      Universe.codec.IgnoresLayout Universe.shape :=
  ⟨Codec.ignoresLayout Parameter.layoutFree, Codec.ignoresLayout Member.layoutFree,
    Codec.ignoresLayout TypeDecl.layoutFree, Codec.ignoresLayout Imports.layoutFree,
    Codec.ignoresLayout Closure.layoutFree, Codec.ignoresLayout Call.layoutFree,
    Codec.ignoresLayout Parent.layoutFree, Codec.ignoresLayout Reference.layoutFree,
    Codec.ignoresLayout Delegate.layoutFree, Codec.ignoresLayout RecordedDelegate.layoutFree,
    Codec.ignoresLayout Universe.layoutFree⟩

/-- A call whose kind comes last, behind a field that is not known, is the call that is written with
its kind first. -/
theorem codecs_ignoresLayout_kind_last :
    Json.decode Reference.ofJson (.object [
        (some "parent", .object [(some "line", .natural 3), (some "invoked", .string "m"),
          (some "kind", .string "method_call")]),
        (some "name", .string "m")]) =
      .ok ⟨"m", .read, .methodCall ⟨some "m", []⟩, [], 1⟩ := by
  let name : Option String × Json := (some "name", .string "m")
  let kind : Option String × Json := (some "kind", .string "method_call")
  let invoked : Option String × Json := (some "invoked", .string "m")
  let line : Option String × Json := (some "line", .natural 3)
  have hadd : Change 126 Parent.shape (.object ([kind, invoked] ++ []))
      (.object ([kind, invoked] ++ line :: [])) := by
    refine .add ⟨by decide, ?_⟩ rfl
    simp [Call.fieldNames]
  have hturn : Change 126 Parent.shape (.object [kind, invoked, line])
      (.object [line, invoked, kind]) :=
    .reorder (List.reverse_perm [line, invoked, kind])
  have hparent : ∀ {v w : Json}, Change 126 Parent.shape v w →
      Change Json.nestingLimit Reference.shape (.object ([name] ++ (some "parent", v) :: []))
        (.object ([name] ++ (some "parent", w) :: [])) :=
    fun h => .field h
  have hfirst : Change Json.nestingLimit Reference.shape
      (.object [name, (some "parent", .object [line, invoked, kind])])
      (.object [(some "parent", .object [line, invoked, kind]), name]) :=
    .reorder (List.Perm.swap _ _ _)
  have hrelaid : Relaid Json.nestingLimit Reference.shape
      (.object [name, (some "parent", .object [kind, invoked])])
      (.object [(some "parent", .object [line, invoked, kind]), name]) :=
    .trans _ _ _ (.rel _ _ (hparent hadd)) (.trans _ _ _ (.rel _ _ (hparent hturn)) (.rel _ _ hfirst))
  obtain ⟨-, -, -, -, -, -, -, hreference, -⟩ := codecs_ignoresLayout
  exact (hreference.of_value _ _ hrelaid _).1 rfl

end Referent
