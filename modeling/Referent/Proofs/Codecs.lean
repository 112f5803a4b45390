import Referent.Proofs.Member.Codec
import Referent.Proofs.Reference.Codec
import Referent.Universe

/-!
# Universes that come back

Results:
* `RecordedDelegate.ofJson_object_eq_ok_iff`: what a recorded delegate sees of an object.
* `RecordedDelegate.lawful_codec`, `Universe.lawful_codec`: universes and their parts are read as they
  were written.
* `codecs_lossless`: decoding undoes encoding, for every model that has a place in a document.
-/

namespace Referent

open Json (Portable)

/-! ## Imports -/

namespace Imports

/-- Imports in documents. -/
def codec : Codec Imports :=
  ⟨toJson, ofJson, fun _ => []⟩

theorem portable (imports : Imports) : Portable 2 imports.toJson :=
  .record (by simp [Portable.ofOption, Portable.strings])

theorem ofJson_toJson (imports : Imports) : ofJson imports.toJson = .ok imports := by
  refine Record.decode_record imports.portable.isHeld ?_
  refine Fitting.seq_of_eq_pure (Fitting.map_of_eq_pure ?_) ?_
  · exact Record.field_of_mem (by simp) (v := .ofOption imports.package) (by simp)
      (Json.orNull_ofOption _)
  · exact Record.field_of_mem (by simp) (v := .strings imports.statements) (by simp)
      (Json.list_strings _)

theorem lawful_codec : codec.Lawful 2 where
  portable := portable
  decode_encode _ := ofJson_toJson _
  parsed _ := Codec.parsed_of_types_eq_nil rfl

end Imports

/-! ## Delegates -/

/-- Strategies in documents. -/
def Strategy.codec : Codec Strategy :=
  ⟨toJson, ofJson, fun _ => []⟩

theorem Strategy.lawful_codec : codec.Lawful 0 :=
  Codec.lawful_of_table (by rintro (_ | _) <;> decide)

namespace Delegate

/-- Delegates in documents. -/
def codec : Codec Delegate :=
  ⟨toJson, ofJson, fun _ => []⟩

theorem portable_fields (d : Delegate) : ∀ f ∈ d.fields, Portable 0 f.2 := by
  simp [fields, Portable.string, Strategy.toJson]

theorem portable (d : Delegate) : Portable 1 d.toJson :=
  .record d.portable_fields

/-- A delegate is put together again by any reader that reads strategies by their words. -/
theorem ofRecord_fields {readStrategy : Json → Decoded Strategy} (d : Delegate)
    (h : readStrategy d.strategy.toJson = .ok d.strategy) :
    ofRecord readStrategy ⟨fieldNames, .named (Record.entries d.fields)⟩ = pure d := by
  have hnodup : (d.fields.map (·.1)).Nodup := by simp [fields]
  refine Fitting.seq_of_eq_pure (Fitting.map_of_eq_pure ?_) ?_
  · exact Record.field_of_mem hnodup (v := .string d.type) (by simp [fields]) rfl
  · exact Record.field_of_mem hnodup (v := d.strategy.toJson) (by simp [fields]) h

theorem lawful_codec : codec.Lawful 1 where
  portable := portable
  decode_encode {d} _ := Record.decode_record d.portable.isHeld <| d.ofRecord_fields <|
    Strategy.lawful_codec.decode_encode (Codec.parsed_of_types_eq_nil rfl)
  parsed _ := Codec.parsed_of_types_eq_nil rfl

end Delegate

namespace RecordedDelegate

/-- Recorded delegates in documents. -/
def codec : Codec RecordedDelegate :=
  ⟨toJson, ofJson, fun _ => []⟩

theorem portable (r : RecordedDelegate) : Portable 1 r.toJson :=
  .record (List.forall_mem_cons.2 ⟨ClosureId.portable _, r.delegate.portable_fields⟩)

/-- What a recorded delegate sees of an object: its number, whether the other fields can be held, and
those among them that are a delegate's. -/
theorem ofJson_object_eq_ok_iff {entries : List (Option String × Json)} {r : RecordedDelegate} :
    ofJson (.object entries) = .ok r ↔
      Record.OthersHeld "scope" entries ∧
        Record.required ⟨["scope"], .named entries⟩ "scope" ClosureId.ofJson = pure r.closure ∧
          Delegate.ofRecord (Json.heldVariant Strategy.table) ⟨Delegate.fieldNames,
            .named ((entries.filter (·.1 != some "scope")).filter isDelegateField)⟩ =
              pure r.delegate := by
  rw [ofJson, bind_eq_ok_iff]
  constructor
  · rintro ⟨⟨closure, others⟩, hapart, h⟩
    obtain ⟨hscope, hheld, rfl⟩ := Record.apart_eq_ok_iff.1 hapart
    obtain ⟨delegate, hdelegate, h⟩ := bind_eq_ok_iff.1 h
    cases h
    exact ⟨hheld, hscope, (Record.build_named_eq_ok_iff.1 hdelegate).1⟩
  · rintro ⟨hheld, hscope, hdelegate⟩
    refine ⟨_, Record.apart_eq_ok_iff.2 ⟨hscope, hheld, rfl⟩, bind_eq_ok_iff.2 ⟨_, ?_, rfl⟩⟩
    refine Record.build_named_eq_ok_iff.2 ⟨hdelegate, fun f hf => ?_⟩
    exact hheld.not_torn f (List.mem_of_mem_filter hf)

theorem ofJson_toJson (r : RecordedDelegate) : ofJson r.toJson = .ok r := by
  have hnodup : ("scope" :: r.delegate.fields.map (·.1)).Nodup := by simp [Delegate.fields]
  have hheld := Json.isHeld_record_iff.1 r.portable.isHeld
  have hstrategy : Json.heldVariant Strategy.table r.delegate.strategy.toJson =
      .ok r.delegate.strategy := by
    cases r.delegate.strategy <;> rfl
  -- What is left beside the number are the delegate's own fields, none of which is passed over.
  have hfilter : (Record.entries r.delegate.fields).filter isDelegateField =
      Record.entries r.delegate.fields := by
    rfl
  change ofJson (.object (Record.entries
    (("scope", ClosureId.toJson r.closure) :: r.delegate.fields))) = _
  refine ofJson_object_eq_ok_iff.2 ⟨Record.othersHeld_entries hheld, ?_, ?_⟩
  · exact Record.field_of_mem hnodup List.mem_cons_self (ClosureId.ofJson_toJson _)
  · rw [Record.filter_entries_cons (List.nodup_cons.1 hnodup).1, hfilter]
    exact r.delegate.ofRecord_fields hstrategy

theorem lawful_codec : codec.Lawful 1 where
  portable := portable
  decode_encode _ := ofJson_toJson _
  parsed _ := Codec.parsed_of_types_eq_nil rfl

end RecordedDelegate

/-! ## Universes -/

namespace Universe

/-- Universes in documents. -/
def codec : Codec Universe :=
  ⟨toJson, ofJson, fun u => u.types.flatMap TypeDecl.codec.types⟩

/-- The fields of a universe as they are written. -/
def fields (u : Universe) : List (String × Json) :=
  [("imports", .strings u.imports), ("types", .array (u.types.map (·.toJson))),
    ("closures", .array (u.closures.map (·.toJson)))]

theorem portable (u : Universe) : Portable 7 u.toJson := by
  have htypes : Portable 6 (.array (u.types.map (·.toJson))) := .list fun d _ => d.portable
  have hclosures : Portable 6 (.array (u.closures.map (·.toJson))) :=
    .list fun r _ => r.portable.mono (by decide)
  exact .record (by simp [Portable.strings, htypes, hclosures])

theorem parsed_iff {u : Universe} : codec.Parsed u ↔ ∀ d ∈ u.types, TypeDecl.codec.Parsed d := by
  simp only [Codec.Parsed, codec, List.forall_mem_flatMap]

theorem ofJson_toJson {u : Universe} (h : codec.Parsed u) : ofJson u.toJson = .ok u := by
  have hnodup : (u.fields.map (·.1)).Nodup := by simp [fields]
  change ofJson (.record u.fields) = .ok u
  refine Record.decode_record u.portable.isHeld ?_
  refine Fitting.seq_of_eq_pure (Fitting.seq_of_eq_pure (Fitting.map_of_eq_pure ?_) ?_) ?_
  · exact Record.field_of_mem hnodup (v := .strings u.imports) (by simp [fields])
      (Json.list_strings _)
  · exact Record.field_of_mem hnodup (v := .array (u.types.map (·.toJson))) (by simp [fields])
      (Json.list_array fun d hd => d.ofJson_toJson (parsed_iff.1 h d hd))
  · exact Record.field_of_mem hnodup (v := .array (u.closures.map (·.toJson))) (by simp [fields])
      (Json.list_array fun r _ => r.ofJson_toJson)

theorem parsed_of_ofJson {v : Json} {u : Universe} (h : ofJson v = .ok u) : codec.Parsed u := by
  obtain ⟨r, hr⟩ := Record.exists_of_decode h
  simp only [Fitting.seq_eq_pure_iff, Fitting.map_eq_pure_iff] at hr
  obtain ⟨_, _, ⟨_, types, ⟨_, -, rfl⟩, htypes, rfl⟩, -, rfl⟩ := hr
  rw [parsed_iff]
  intro d hd
  obtain ⟨w, hw⟩ := Record.exists_of_list htypes d hd
  exact TypeDecl.parsed_of_ofJson hw

theorem lawful_codec : codec.Lawful 7 where
  portable := portable
  decode_encode := ofJson_toJson
  parsed := parsed_of_ofJson

end Universe

/-! ## All models -/

/-- Decoding undoes encoding, for every model that has a place in a document. -/
theorem codecs_lossless :
    TypeExpr.codec.Lossless ∧ TypeKind.codec.Lossless ∧ MemberKind.codec.Lossless ∧
      Parameter.codec.Lossless ∧ Member.codec.Lossless ∧ TypeDecl.codec.Lossless ∧
      Imports.codec.Lossless ∧ Usage.codec.Lossless ∧ ClosureId.codec.Lossless ∧
      Closure.codec.Lossless ∧ Call.codec.Lossless ∧ Parent.codec.Lossless ∧
      Reference.codec.Lossless ∧ Strategy.codec.Lossless ∧ Delegate.codec.Lossless ∧
      RecordedDelegate.codec.Lossless ∧ Universe.codec.Lossless :=
  ⟨TypeExpr.lawful_codec.lossless (by decide), TypeKind.lawful_codec.lossless (by decide),
    MemberKind.lawful_codec.lossless (by decide), Parameter.lawful_codec.lossless (by decide),
    Member.lawful_codec.lossless (by decide), TypeDecl.lawful_codec.lossless (by decide),
    Imports.lawful_codec.lossless (by decide), Usage.lawful_codec.lossless (by decide),
    ClosureId.lawful_codec.lossless (by decide), Closure.lawful_codec.lossless (by decide),
    Call.lawful_codec.lossless (by decide), Parent.lawful_codec.lossless (by decide),
    Reference.lawful_codec.lossless (by decide), Strategy.lawful_codec.lossless (by decide),
    Delegate.lawful_codec.lossless (by decide), RecordedDelegate.lawful_codec.lossless (by decide),
    Universe.lawful_codec.lossless (by decide)⟩

/-- A table whose method takes any number of rows, in a universe with a delegate for one closure, and
a call of the method in that closure. Types inside of types, the delegate's fields beside the
number of its closure, and the call's fields beside the kind of its parent all come back. -/
theorem codecs_lossless_rows :
    let row : TypeExpr := .array (.generic (.declared "java.util.Map")
      [.basic "int", .bounded false (.generic (.declared "java.util.List") [.unknown])]) 1
    let add := Member.method "a.Table" "add" [.varargs "rows" row] .void
    let u : Universe := ⟨["a.*"], [{ TypeDecl.ofClass "a.Table" with members := [add] }],
      [⟨3, ⟨"a.Table", .ownerOnly⟩⟩]⟩
    let reference := (Reference.call "add" [row]).inside ⟨3, some "rows"⟩
    let document :=
      "\x7b\"name\":\"add\",\"usage\":\"read\"," ++
      "\"parent\":\x7b\"kind\":\"method_call\",\"invoked\":\"add\",\"argument_types\":" ++
      "[\"java.util.Map<int, ? super java.util.List<<unknown>>>[]\"]\x7d," ++
      "\"enclosing_closures\":[\x7b\"id\":3,\"enclosing_call\":\"rows\"\x7d]," ++
      "\"textual_candidates\":1\x7d"
    (Universe.codec.Parsed u ∧ Universe.codec.Returns u) ∧
      (Reference.codec.Parsed reference ∧ Reference.codec.Returns reference) ∧
      reference.toJson.compact = document ∧
      Json.decodeText Reference.ofJson document = .ok reference := by
  intro row add u reference document
  have hint : TypeExpr.WellFormed (.basic "int") := .basic (.inl (by decide))
  have hvoid : TypeExpr.WellFormed .void := .basic (.inl (by decide))
  have hlist : TypeExpr.WellFormed (.generic (.declared "java.util.List") [.unknown]) :=
    .generic (TypeExpr.wellFormed_declared_iff.2 (by decide +kernel)) rfl (by simp)
      (by simpa using .unknown)
  have hmap : TypeExpr.WellFormed (.generic (.declared "java.util.Map")
      [.basic "int", .bounded false (.generic (.declared "java.util.List") [.unknown])]) :=
    .generic (TypeExpr.wellFormed_declared_iff.2 (by decide +kernel)) rfl (by simp)
      (by simpa using ⟨hint, .bounded hlist⟩)
  have hrow : TypeExpr.WellFormed row := .array hmap (.inr rfl) (by decide)
  have hrows : TypeExpr.WellFormed row.arrayOf := .array hmap (.inr rfl) (by decide)
  have hu : Universe.codec.Parsed u := by
    have htypes : Universe.codec.types u = [.void, row.arrayOf] := rfl
    rw [Codec.Parsed, htypes]
    simpa using ⟨⟨_, hvoid.parse_text⟩, ⟨_, hrows.parse_text⟩⟩
  have hreference : Reference.codec.Parsed reference := by
    have htypes : Reference.codec.types reference = [row] := rfl
    rw [Codec.Parsed, htypes]
    simpa using ⟨_, hrow.parse_text⟩
  obtain ⟨-, -, -, -, -, -, -, -, -, -, -, -, hreferences, -, -, -, huniverses⟩ := codecs_lossless
  have hreturns : Reference.codec.Returns reference := hreferences.of_parsed reference hreference
  have hdocument : reference.toJson.compact = document := by decide +kernel
  refine ⟨⟨hu, huniverses.of_parsed u hu⟩, ⟨hreference, hreturns⟩, hdocument, ?_⟩
  rw [← hdocument]
  exact hreturns.2.1

end Referent
