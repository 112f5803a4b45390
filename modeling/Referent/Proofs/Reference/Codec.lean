import Referent.Proofs.Codec
import Referent.Proofs.Json.Fields
import Referent.Reference.Codec

/-!
# References that come back

Results:
* `Parent.ofJson_object_eq_ok_iff`, `Parent.ofJson_array_eq_ok_iff`: what a parent sees of a value.
* `Call.lawful_codec`, `Parent.lawful_codec`, `Reference.lawful_codec`: references and their parts are
  read as they were written.
-/

namespace Referent

open Json (Portable)

/-! ## Closures -/

namespace ClosureId

/-- Numbers of closures in documents. -/
def codec : Codec ClosureId :=
  ⟨toJson, ofJson, fun _ => []⟩

theorem portable (id : ClosureId) : Portable 0 (toJson id) :=
  .natural (Nat.lt_trans id.toNat_lt (by decide))

theorem ofJson_toJson (id : ClosureId) : ofJson (toJson id) = .ok id := by
  simp only [ofJson, toJson, Json.word32]
  rw [if_pos id.toNat_lt, UInt32.ofNat_toNat]

theorem lawful_codec : codec.Lawful 0 where
  portable := portable
  decode_encode _ := ofJson_toJson _
  parsed _ := Codec.parsed_of_types_eq_nil rfl

end ClosureId

namespace Closure

/-- Closures in documents. -/
def codec : Codec Closure :=
  ⟨toJson, ofJson, fun _ => []⟩

/-- The fields of a closure as they are written. -/
def fields (c : Closure) : List (String × Json) :=
  [("id", ClosureId.toJson c.id)] ++ blockField c.block

theorem nodup_fields (c : Closure) : (c.fields.map (·.1)).Nodup := by
  rw [fields]
  cases c.block <;> simp [blockField]

theorem portable (c : Closure) : Portable 1 c.toJson := by
  refine .record (List.forall_mem_append.2 ⟨?_, ?_⟩)
  · simp [ClosureId.portable]
  · cases c.block <;> simp [blockField, Portable.string]

theorem ofJson_toJson (c : Closure) : ofJson c.toJson = .ok c := by
  change ofJson (.record c.fields) = .ok c
  refine Record.decode_record c.portable.isHeld ?_
  refine Fitting.seq_of_eq_pure (Fitting.map_of_eq_pure ?_) ?_
  · exact Record.field_of_mem c.nodup_fields (v := ClosureId.toJson c.id) (by simp [fields])
      (ClosureId.ofJson_toJson _)
  · cases hblock : c.block with
    | none => exact Record.field_of_not_mem (by simp [fields, hblock, blockField])
    | some name =>
      exact Record.field_of_mem c.nodup_fields (v := .string name)
        (by simp [fields, hblock, blockField]) rfl

theorem lawful_codec : codec.Lawful 1 where
  portable := portable
  decode_encode _ := ofJson_toJson _
  parsed _ := Codec.parsed_of_types_eq_nil rfl

end Closure

/-! ## Calls and parents -/

namespace Call

/-- Calls in documents. -/
def codec : Codec Call :=
  ⟨toJson, ofJson, fun c => c.arguments⟩

theorem portable_fields (c : Call) : ∀ f ∈ c.fields, Portable 1 f.2 := by
  have harguments : Portable 1 (.array (c.arguments.map (·.toJson))) :=
    .list fun t _ => .string t.text
  simp [fields, Portable.ofOption, harguments]

theorem portable (c : Call) : Portable 2 c.toJson :=
  .record c.portable_fields

theorem ofRecord_fields {c : Call} (h : codec.Parsed c) :
    ofRecord ⟨fieldNames, .named (Record.entries c.fields)⟩ = pure c := by
  have hnodup : (c.fields.map (·.1)).Nodup := by simp [fields]
  refine Fitting.seq_of_eq_pure (Fitting.map_of_eq_pure ?_) ?_
  · exact Record.field_of_mem hnodup (v := .ofOption c.invoked) (by simp [fields])
      (Json.orNull_ofOption _)
  · exact Record.field_of_mem hnodup (v := .array (c.arguments.map (·.toJson))) (by simp [fields])
      (Json.list_array fun t ht => TypeExpr.ofJson_toJson (h t ht))

theorem parsed_of_ofRecord {r : Record} {c : Call} (h : ofRecord r = pure c) : codec.Parsed c := by
  simp only [ofRecord, Fitting.seq_eq_pure_iff, Fitting.map_eq_pure_iff] at h
  obtain ⟨_, arguments, ⟨_, -, rfl⟩, harguments, rfl⟩ := h
  intro t ht
  obtain ⟨w, hw⟩ := Record.exists_of_list harguments t ht
  exact TypeExpr.exists_parse_of_ofJson hw

theorem lawful_codec : codec.Lawful 2 where
  portable := portable
  decode_encode {c} hc := Record.decode_record c.portable.isHeld (ofRecord_fields hc)
  parsed h :=
    have ⟨_, hr⟩ := Record.exists_of_decode h
    parsed_of_ofRecord hr

end Call

namespace Parent

/-- Parents in documents. -/
def codec : Codec Parent where
  encode := toJson
  decode := ofJson
  types
    | .methodCall call => call.arguments
    | .other => []

theorem portable (p : Parent) : Portable 2 p.toJson := by
  cases p with
  | methodCall call => exact .record (List.forall_mem_cons.2 ⟨.string _, call.portable_fields⟩)
  | other => exact .record (by simp [Portable.string])

/-- What a parent sees of an object: what it is, whether the other fields can be held, and for a call
the fields that are left. -/
theorem ofJson_object_eq_ok_iff {entries : List (Option String × Json)} {p : Parent} :
    ofJson (.object entries) = .ok p ↔
      Record.OthersHeld "kind" entries ∧
        ((Record.required ⟨["kind"], .named entries⟩ "kind" Kind.ofJson = pure .other ∧ other = p) ∨
          (Record.required ⟨["kind"], .named entries⟩ "kind" Kind.ofJson = pure .methodCall ∧
            ∃ call, Call.ofRecord ⟨Call.fieldNames, .named (entries.filter (·.1 != some "kind"))⟩ =
              pure call ∧ methodCall call = p)) := by
  rw [ofJson, bind_eq_ok_iff]
  constructor
  · rintro ⟨⟨kind, others⟩, hapart, h⟩
    obtain ⟨hkind, hheld, rfl⟩ := Record.apart_eq_ok_iff.1 hapart
    refine ⟨hheld, ?_⟩
    cases kind with
    | methodCall =>
      obtain ⟨call, hcall, rfl⟩ := map_eq_ok_iff.1 h
      exact .inr ⟨hkind, call, (Record.build_named_eq_ok_iff.1 hcall).1, rfl⟩
    | other =>
      cases h
      exact .inl ⟨hkind, rfl⟩
  · rintro ⟨hheld, ⟨hkind, rfl⟩ | ⟨hkind, call, hcall, rfl⟩⟩
    · exact ⟨_, Record.apart_eq_ok_iff.2 ⟨hkind, hheld, rfl⟩, rfl⟩
    · refine ⟨_, Record.apart_eq_ok_iff.2 ⟨hkind, hheld, rfl⟩, map_eq_ok_iff.2 ⟨call, ?_, rfl⟩⟩
      exact Record.build_named_eq_ok_iff.2 ⟨hcall, hheld.not_torn⟩

/-- What a parent sees of an array: first what it is, then the fields of a call in their order. -/
theorem ofJson_array_eq_ok_iff {first : Json} {others : List Json} {p : Parent} :
    ofJson (.array (first :: others)) = .ok p ↔
      Json.areHeld others = true ∧
        ((Kind.ofJson first = .ok .other ∧ others = [] ∧ other = p) ∨
          (Kind.ofJson first = .ok .methodCall ∧
            ∃ call, Record.build Call.fieldNames (.ordered others) Call.ofRecord = .ok call ∧
              methodCall call = p)) := by
  rw [ofJson, bind_eq_ok_iff]
  cases Json.areHeld others with
  | false =>
    refine iff_of_false ?_ (by simp)
    rintro ⟨kind, -, h⟩
    cases h
  | true =>
    rw [eq_self, true_and]
    constructor
    · rintro ⟨_ | _, hkind, h⟩
      · obtain ⟨call, hcall, rfl⟩ := map_eq_ok_iff.1 h
        exact .inr ⟨hkind, call, hcall, rfl⟩
      · cases others with
        | nil =>
          cases h
          exact .inl ⟨hkind, rfl, rfl⟩
        | cons v vs => cases h
    · rintro (⟨hkind, rfl, rfl⟩ | ⟨hkind, call, hcall, rfl⟩)
      · exact ⟨_, hkind, rfl⟩
      · exact ⟨_, hkind, map_eq_ok_iff.2 ⟨call, hcall, rfl⟩⟩

theorem ofJson_toJson {p : Parent} (h : codec.Parsed p) : ofJson p.toJson = .ok p := by
  cases p with
  | methodCall call =>
    have hheld := Json.isHeld_record_iff.1 (methodCall call).portable.isHeld
    have hnodup : ("kind" :: call.fields.map (·.1)).Nodup := by simp [Call.fields]
    change ofJson (.object (Record.entries (("kind", .string "method_call") :: call.fields))) = _
    refine ofJson_object_eq_ok_iff.2 ⟨Record.othersHeld_entries hheld, .inr ⟨?_, call, ?_, rfl⟩⟩
    · exact Record.field_of_mem hnodup List.mem_cons_self rfl
    · -- The kind is read ahead, which leaves just the fields that a call by itself is written with.
      rw [Record.filter_entries_cons (List.nodup_cons.1 hnodup).1]
      exact Call.ofRecord_fields h
  | other => rfl

theorem parsed_other : codec.Parsed other :=
  Codec.parsed_of_types_eq_nil rfl

theorem parsed_of_ofJson {v : Json} {p : Parent} (h : ofJson v = .ok p) : codec.Parsed p := by
  cases v with
  | object entries =>
    obtain ⟨-, ⟨-, rfl⟩ | ⟨-, call, hcall, rfl⟩⟩ := ofJson_object_eq_ok_iff.1 h
    · exact parsed_other
    · exact Call.parsed_of_ofRecord hcall
  | array items =>
    cases items with
    | nil => cases h
    | cons first others =>
      obtain ⟨-, ⟨-, -, rfl⟩ | ⟨-, call, hcall, rfl⟩⟩ := ofJson_array_eq_ok_iff.1 h
      · exact parsed_other
      · exact Call.parsed_of_ofRecord (Record.build_eq_ok_iff.1 hcall).1
  | _ => cases h

theorem lawful_codec : codec.Lawful 2 where
  portable := portable
  decode_encode := ofJson_toJson
  parsed := parsed_of_ofJson

end Parent

/-! ## References -/

/-- Usages in documents. -/
def Usage.codec : Codec Usage :=
  ⟨toJson, ofJson, fun _ => []⟩

theorem Usage.lawful_codec : codec.Lawful 0 :=
  Codec.lawful_of_table (by rintro (_ | _) <;> decide)

theorem Usage.ofJson_toJson (u : Usage) : ofJson u.toJson = .ok u :=
  lawful_codec.decode_encode (Codec.parsed_of_types_eq_nil rfl)

namespace Reference

/-- References in documents. -/
def codec : Codec Reference :=
  ⟨toJson, ofJson, fun r => Parent.codec.types r.parent⟩

/-- The fields of a reference as they are written. -/
def fields (r : Reference) : List (String × Json) :=
  [("name", .string r.name), ("usage", r.usage.toJson), ("parent", r.parent.toJson),
    ("enclosing_closures", .array (r.closures.map (·.toJson))),
    ("textual_candidates", .natural r.textualCandidates.toNat)]

theorem portable (r : Reference) : Portable 3 r.toJson := by
  have hclosures : Portable 2 (.array (r.closures.map (·.toJson))) := .list fun c _ => c.portable
  have hcandidates : Portable 2 (.natural r.textualCandidates.toNat) :=
    .natural r.textualCandidates.toNat_lt
  exact .record (by simp [Portable.string, Usage.toJson, r.parent.portable, hclosures, hcandidates])

theorem ofJson_toJson {r : Reference} (h : codec.Parsed r) : ofJson r.toJson = .ok r := by
  have hnodup : (r.fields.map (·.1)).Nodup := by simp [fields]
  have hcandidates : Json.word64 (.natural r.textualCandidates.toNat) = .ok r.textualCandidates := by
    rw [Json.word64, if_pos r.textualCandidates.toNat_lt, UInt64.ofNat_toNat]
  change ofJson (.record r.fields) = .ok r
  refine Record.decode_record r.portable.isHeld ?_
  refine Fitting.seq_of_eq_pure (Fitting.seq_of_eq_pure (Fitting.seq_of_eq_pure
    (Fitting.seq_of_eq_pure (Fitting.map_of_eq_pure ?_) ?_) ?_) ?_) ?_
  · exact Record.field_of_mem hnodup (v := .string r.name) (by simp [fields]) rfl
  · exact Record.field_of_mem hnodup (v := r.usage.toJson) (by simp [fields])
      r.usage.ofJson_toJson
  · exact Record.field_of_mem hnodup (v := r.parent.toJson) (by simp [fields])
      (Parent.ofJson_toJson h)
  · exact Record.field_of_mem hnodup (v := .array (r.closures.map (·.toJson))) (by simp [fields])
      (Json.list_array fun c _ => c.ofJson_toJson)
  · exact Record.field_of_mem hnodup (v := .natural r.textualCandidates.toNat) (by simp [fields])
      hcandidates

theorem parsed_of_ofJson {v : Json} {r : Reference} (h : ofJson v = .ok r) : codec.Parsed r := by
  obtain ⟨record, hrecord⟩ := Record.exists_of_decode h
  simp only [Fitting.seq_eq_pure_iff, Fitting.map_eq_pure_iff] at hrecord
  obtain ⟨_, _, ⟨_, _, ⟨_, parent, ⟨_, _, ⟨_, -, rfl⟩, -, rfl⟩, hparent, rfl⟩, -, rfl⟩, -, rfl⟩ :=
    hrecord
  rcases Record.withDefault_eq_pure hparent with ⟨w, hw⟩ | rfl
  · exact Parent.parsed_of_ofJson hw
  · exact Parent.parsed_other

theorem lawful_codec : codec.Lawful 3 where
  portable := portable
  decode_encode := ofJson_toJson
  parsed := parsed_of_ofJson

end Reference

end Referent
