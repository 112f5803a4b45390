import Referent.Proofs.Json.Reading
import Referent.Proofs.Json.Records
import Referent.Proofs.TypeExpr.RoundTrip
import Referent.TypeExpr.Codec

/-!
# Documents that come back

What a program writes it can read again, and what it has read it writes so that it reads the same.
Types are written as their texts, so this can only hold for those that have one: those that were
parsed.

Results:
* `Codec.Lawful.lossless`: the conditions under which values come back, from one document to the next.
* `TypeExpr.lawful_codec`: types meet them.
-/

namespace Referent

open Json (Portable)

/-! ## Codecs -/

/-- How the values of a model are written and read, and the types that stand inside a value. -/
structure Codec (α : Type) where
  encode : α → Json
  decode : Json → Decoded α
  types : α → List TypeExpr

namespace Codec

variable {α : Type}

/-- Every type inside the value was parsed from some text. -/
def Parsed (c : Codec α) (a : α) : Prop :=
  ∀ t ∈ c.types a, ∃ text, TypeExpr.parse text = .ok t

/-- The value comes back as it is if it is written and read again: as a value of a document, as a
text on one line, and as a text over several lines. -/
def Returns (c : Codec α) (a : α) : Prop :=
  Json.decode c.decode (c.encode a) = .ok a ∧
    Json.decodeText c.decode (c.encode a).compact = .ok a ∧
    Json.decodeText c.decode (c.encode a).pretty = .ok a

/-- Every value with parsed types comes back, and so does all that any document holds. -/
structure Lossless (c : Codec α) : Prop where
  of_parsed : ∀ a, c.Parsed a → c.Returns a
  of_value : ∀ v a, Json.decode c.decode v = .ok a → c.Returns a
  of_text : ∀ text a, Json.decodeText c.decode text = .ok a → c.Returns a

/-- Values are written within so much room, those with parsed types are read again, and no others
are ever read. -/
structure Lawful (c : Codec α) (room : ℕ) : Prop where
  portable : ∀ a, Portable room (c.encode a)
  decode_encode : ∀ {a}, c.Parsed a → c.decode (c.encode a) = .ok a
  parsed : ∀ {v a}, c.decode v = .ok a → c.Parsed a

theorem parsed_of_types_eq_nil {c : Codec α} {a : α} (h : c.types a = []) : c.Parsed a := by
  simp [Parsed, h]

theorem Lawful.returns {c : Codec α} {room : ℕ} (h : c.Lawful room)
    (hroom : room ≤ Json.nestingLimit) {a : α} (ha : c.Parsed a) : c.Returns a := by
  have hportable := (h.portable a).mono hroom
  have hdecode := h.decode_encode ha
  refine ⟨?_, ?_, ?_⟩
  · rw [Json.decode, hportable.limited_eq, hdecode]
  · rw [Json.decodeText_compact _ hportable, hdecode]
  · rw [Json.decodeText_pretty _ hportable, hdecode]

theorem Lawful.lossless {c : Codec α} {room : ℕ} (h : c.Lawful room)
    (hroom : room ≤ Json.nestingLimit) : c.Lossless where
  of_parsed _ ha := h.returns hroom ha
  of_value _ _ hread := h.returns hroom (h.parsed hread)
  of_text _ _ hread :=
    have ⟨_, hvalue⟩ := Json.exists_of_decodeText hread
    h.returns hroom (h.parsed hvalue)

/-- Words that a table gives back. -/
theorem lawful_of_table {name : α → String} {table : List (String × α)}
    (h : ∀ a, table.lookup (name a) = some a) :
    Lawful ⟨fun a => .string (name a), Json.variant table, fun _ => []⟩ 0 where
  portable a := .string (name a)
  decode_encode {a} _ := by simp only [Json.variant, Json.lookupVariant, h a]
  parsed _ := parsed_of_types_eq_nil rfl

end Codec

/-! ## Types -/

/-- Types in documents. -/
def TypeExpr.codec : Codec TypeExpr :=
  ⟨toJson, ofJson, fun t => [t]⟩

theorem TypeExpr.exists_parse_of_ofJson {v : Json} {t : TypeExpr} (h : ofJson v = .ok t) :
    ∃ text, parse text = .ok t := by
  rw [ofJson, bind_eq_ok_iff] at h
  obtain ⟨text, -, h⟩ := h
  refine ⟨text, ?_⟩
  cases hparse : parse text with
  | error e => rw [hparse] at h; cases h
  | ok u => rw [hparse] at h; cases h; rfl

theorem TypeExpr.ofJson_toJson {t : TypeExpr} (h : ∃ text, parse text = .ok t) :
    ofJson t.toJson = .ok t := by
  simp only [toJson, ofJson, Json.text, ok_bind,
    (exists_parse_iff_wellFormed.1 h).parse_text]
  rfl

theorem TypeExpr.lawful_codec : codec.Lawful 0 where
  portable t := .string t.text
  decode_encode {t} ht := ofJson_toJson (ht t List.mem_cons_self)
  parsed h := by simpa [Codec.Parsed, codec] using exists_parse_of_ofJson h

end Referent
