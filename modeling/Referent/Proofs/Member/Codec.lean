import Referent.Member.Codec
import Referent.Proofs.Codec

/-!
# Declared types that come back

Results:
* `Parameter.lawful_codec`, `Member.lawful_codec`, `TypeDecl.lawful_codec`: declared types and their
  parts are read as they were written.
-/

namespace Referent

open Json (Portable)

/-! ## Kinds -/

/-- Kinds of types in documents. -/
def TypeKind.codec : Codec TypeKind :=
  ⟨toJson, ofJson, fun _ => []⟩

theorem TypeKind.lawful_codec : codec.Lawful 0 :=
  Codec.lawful_of_table (by rintro (_ | _) <;> decide)

/-- Kinds of members in documents. -/
def MemberKind.codec : Codec MemberKind :=
  ⟨toJson, ofJson, fun _ => []⟩

theorem MemberKind.lawful_codec : codec.Lawful 0 :=
  Codec.lawful_of_table (by rintro (_ | _) <;> decide)

theorem TypeKind.ofJson_toJson (k : TypeKind) : ofJson k.toJson = .ok k :=
  lawful_codec.decode_encode (Codec.parsed_of_types_eq_nil rfl)

theorem MemberKind.ofJson_toJson (k : MemberKind) : ofJson k.toJson = .ok k :=
  lawful_codec.decode_encode (Codec.parsed_of_types_eq_nil rfl)

/-! ## Parameters -/

namespace Parameter

/-- Parameters in documents. -/
def codec : Codec Parameter :=
  ⟨toJson, ofJson, fun p => [p.type]⟩

/-- The fields of a parameter as they are written. -/
def fields (p : Parameter) : List (String × Json) :=
  [("name", .string p.name), ("type", p.type.toJson)] ++
    if p.isVarargs then [("is_varargs", .bool true)] else []

theorem nodup_fields (p : Parameter) : (p.fields.map (·.1)).Nodup := by
  rw [fields]
  split <;> simp

theorem portable (p : Parameter) : Portable 1 p.toJson := by
  refine .record (List.forall_mem_append.2 ⟨?_, ?_⟩)
  · simp [Portable.string, TypeExpr.toJson]
  · split <;> simp [Portable.bool]

theorem ofJson_toJson {p : Parameter} (h : codec.Parsed p) : ofJson p.toJson = .ok p := by
  have htype := TypeExpr.ofJson_toJson (h p.type List.mem_cons_self)
  change ofJson (.record p.fields) = .ok p
  refine Record.decode_record p.portable.isHeld ?_
  refine Fitting.seq_of_eq_pure (Fitting.seq_of_eq_pure (Fitting.map_of_eq_pure ?_) ?_) ?_
  · exact Record.field_of_mem p.nodup_fields (v := .string p.name) (by simp [fields]) rfl
  · exact Record.field_of_mem p.nodup_fields (v := p.type.toJson) (by simp [fields]) htype
  · cases hvarargs : p.isVarargs with
    | true =>
      exact Record.field_of_mem p.nodup_fields (v := .bool true) (by simp [fields, hvarargs]) rfl
    | false => exact Record.field_of_not_mem (by simp [fields, hvarargs])

theorem parsed_of_ofJson {v : Json} {p : Parameter} (h : ofJson v = .ok p) : codec.Parsed p := by
  obtain ⟨r, hr⟩ := Record.exists_of_decode h
  simp only [Fitting.seq_eq_pure_iff, Fitting.map_eq_pure_iff] at hr
  obtain ⟨_, _, ⟨_, type, ⟨_, -, rfl⟩, htype, rfl⟩, -, rfl⟩ := hr
  obtain ⟨w, hw⟩ := Record.required_eq_pure htype
  simpa [Codec.Parsed, codec] using TypeExpr.exists_parse_of_ofJson hw

theorem lawful_codec : codec.Lawful 1 where
  portable := portable
  decode_encode := ofJson_toJson
  parsed := parsed_of_ofJson

end Parameter

/-! ## Members -/

namespace Member

/-- Members in documents. -/
def codec : Codec Member :=
  ⟨toJson, ofJson, fun m => m.type :: m.parameterTypes⟩

/-- The fields of a member as they are written. -/
def fields (m : Member) : List (String × Json) :=
  [("name", .string m.name), ("kind", m.kind.toJson), ("declaring_type", .string m.owner),
    ("type", m.type.toJson)] ++ parametersField m.parameters

theorem nodup_fields (m : Member) : (m.fields.map (·.1)).Nodup := by
  rw [fields]
  cases m.parameters <;> simp [parametersField]

theorem portable (m : Member) : Portable 3 m.toJson := by
  refine .record (List.forall_mem_append.2 ⟨?_, ?_⟩)
  · simp [Portable.string, TypeExpr.toJson, MemberKind.toJson]
  · cases m.parameters with
    | none => simp [parametersField]
    | some ps => simpa [parametersField] using Portable.list fun p _ => p.portable

theorem parsed_iff {m : Member} : codec.Parsed m ↔
    (∃ text, TypeExpr.parse text = .ok m.type) ∧
      ∀ p ∈ m.parameterList, Parameter.codec.Parsed p := by
  simp [Codec.Parsed, codec, Parameter.codec, parameterTypes]

theorem ofJson_toJson {m : Member} (h : codec.Parsed m) : ofJson m.toJson = .ok m := by
  obtain ⟨htype, hparameters⟩ := parsed_iff.1 h
  change ofJson (.record m.fields) = .ok m
  refine Record.decode_record m.portable.isHeld ?_
  refine Fitting.seq_of_eq_pure (Fitting.seq_of_eq_pure (Fitting.seq_of_eq_pure
    (Fitting.seq_of_eq_pure (Fitting.map_of_eq_pure ?_) ?_) ?_) ?_) ?_
  · exact Record.field_of_mem m.nodup_fields (v := .string m.name) (by simp [fields]) rfl
  · exact Record.field_of_mem m.nodup_fields (v := m.kind.toJson) (by simp [fields])
      m.kind.ofJson_toJson
  · exact Record.field_of_mem m.nodup_fields (v := .string m.owner) (by simp [fields]) rfl
  · exact Record.field_of_mem m.nodup_fields (v := m.type.toJson) (by simp [fields])
      (TypeExpr.ofJson_toJson htype)
  · rw [parameterList] at hparameters
    cases hps : m.parameters with
    | none => exact Record.field_of_not_mem (by simp [fields, hps, parametersField])
    | some ps =>
      rw [hps, Option.getD_some] at hparameters
      refine Record.field_of_mem m.nodup_fields (v := .array (ps.map (·.toJson)))
        (by simp [fields, hps, parametersField]) ?_
      rw [Json.orNull_of_ne_null (by simp),
        Json.list_array fun p hp => p.ofJson_toJson (hparameters p hp)]
      rfl

theorem parsed_of_ofJson {v : Json} {m : Member} (h : ofJson v = .ok m) : codec.Parsed m := by
  obtain ⟨r, hr⟩ := Record.exists_of_decode h
  simp only [Fitting.seq_eq_pure_iff, Fitting.map_eq_pure_iff] at hr
  obtain ⟨_, parameters, ⟨_, type, ⟨_, _, ⟨_, _, ⟨_, -, rfl⟩, -, rfl⟩, -, rfl⟩, htype, rfl⟩,
    hparameters, rfl⟩ := hr
  rw [parsed_iff]
  constructor
  · -- A type that is left out is unknown, which has a text of its own.
    rcases Record.withDefault_eq_pure htype with ⟨w, hw⟩ | rfl
    · exact TypeExpr.exists_parse_of_ofJson hw
    · exact TypeExpr.exists_parse_iff_wellFormed.2 .unknown
  · rcases Record.withDefault_eq_pure hparameters with ⟨w, hw⟩ | rfl
    · intro p hp
      cases parameters with
      | none => cases hp
      | some ps =>
        obtain ⟨w', hw'⟩ := Json.exists_of_orNull hw
        obtain ⟨_, hp⟩ := Json.exists_of_list hw' p hp
        exact Parameter.parsed_of_ofJson hp
    · rintro p ⟨⟩

theorem lawful_codec : codec.Lawful 3 where
  portable := portable
  decode_encode := ofJson_toJson
  parsed := parsed_of_ofJson

/-- A member of which only the name is given is written with its defaults. -/
example :
    let m : Member := ⟨"bar", .method, "", .unknown, none⟩
    Member.ofJson (.record [("name", .string "bar")]) = .ok m ∧
      m.toJson = .record [("name", .string "bar"), ("kind", .string "method"),
        ("declaring_type", .string ""), ("type", .string "<unknown>")] :=
  ⟨rfl, rfl⟩

end Member

/-! ## Declared types -/

namespace TypeDecl

/-- Declared types in documents. -/
def codec : Codec TypeDecl :=
  ⟨toJson, ofJson, fun d => d.members.flatMap Member.codec.types⟩

/-- The fields of a type as they are written. -/
def fields (d : TypeDecl) : List (String × Json) :=
  [("fqn", .string d.name), ("kind", d.kind.toJson)] ++ superclassField d.superclass ++
    interfacesField d.interfaces ++ [("members", .array (d.members.map (·.toJson)))]

theorem nodup_fields (d : TypeDecl) : (d.fields.map (·.1)).Nodup := by
  rw [fields]
  cases d.superclass <;> cases d.interfaces <;> simp [superclassField, interfacesField]

theorem portable (d : TypeDecl) : Portable 5 d.toJson := by
  have hmembers : Portable 4 (.array (d.members.map (·.toJson))) := .list fun m _ => m.portable
  refine .record (show ∀ f ∈ d.fields, Portable 4 f.2 from ?_)
  rw [fields]
  cases d.superclass <;> cases d.interfaces <;>
    simp [superclassField, interfacesField, Portable.string, Portable.strings, TypeKind.toJson,
      hmembers]

theorem parsed_iff {d : TypeDecl} : codec.Parsed d ↔ ∀ m ∈ d.members, Member.codec.Parsed m := by
  simp only [Codec.Parsed, codec, List.forall_mem_flatMap]

theorem ofJson_toJson {d : TypeDecl} (h : codec.Parsed d) : ofJson d.toJson = .ok d := by
  change ofJson (.record d.fields) = .ok d
  refine Record.decode_record d.portable.isHeld ?_
  refine Fitting.seq_of_eq_pure (Fitting.seq_of_eq_pure (Fitting.seq_of_eq_pure
    (Fitting.seq_of_eq_pure (Fitting.map_of_eq_pure ?_) ?_) ?_) ?_) ?_
  · exact Record.field_of_mem d.nodup_fields (v := .string d.name) (by simp [fields]) rfl
  · exact Record.field_of_mem d.nodup_fields (v := d.kind.toJson) (by simp [fields])
      d.kind.ofJson_toJson
  · cases hsuperclass : d.superclass with
    | none =>
      refine Record.field_of_not_mem ?_
      rw [fields, hsuperclass]
      cases d.interfaces <;> simp [superclassField, interfacesField]
    | some name =>
      exact Record.field_of_mem d.nodup_fields (v := .string name)
        (by simp [fields, hsuperclass, superclassField]) rfl
  · cases hinterfaces : d.interfaces with
    | nil =>
      refine Record.field_of_not_mem ?_
      rw [fields, hinterfaces]
      cases d.superclass <;> simp [superclassField, interfacesField]
    | cons name names =>
      exact Record.field_of_mem d.nodup_fields (v := .strings (name :: names))
        (by simp [fields, hinterfaces, interfacesField]) (Json.list_strings _)
  · exact Record.field_of_mem d.nodup_fields (v := .array (d.members.map (·.toJson)))
      (by simp [fields]) (Json.list_array fun m hm => m.ofJson_toJson (parsed_iff.1 h m hm))

theorem parsed_of_ofJson {v : Json} {d : TypeDecl} (h : ofJson v = .ok d) : codec.Parsed d := by
  obtain ⟨r, hr⟩ := Record.exists_of_decode h
  simp only [Fitting.seq_eq_pure_iff, Fitting.map_eq_pure_iff] at hr
  rw [parsed_iff]
  obtain ⟨_, members, ⟨_, _, ⟨_, _, ⟨_, _, ⟨_, -, rfl⟩, -, rfl⟩, -, rfl⟩, -, rfl⟩, hmembers,
    rfl⟩ := hr
  intro m hm
  obtain ⟨w, hw⟩ := Record.exists_of_list hmembers m hm
  exact Member.parsed_of_ofJson hw

theorem lawful_codec : codec.Lawful 5 where
  portable := portable
  decode_encode := ofJson_toJson
  parsed := parsed_of_ofJson

end TypeDecl

end Referent
