import Referent.Proofs.Codecs
import Referent.Proofs.TypeStore.Loading

/-!
# Stores that are written and loaded again

What a store holds is in normal form, and normal form is valid and brought into itself. So the types
of a store can be inserted into an empty one in their order, none of them fails, and each is stored as
it is. Normal form adds no types to a member, so that documents can be made of stored types where they
could be made of those that were inserted.

Results:
* `Settled.isValid`, `Settled.complete_eq`: a type in a store can be inserted, and nothing about it is
  filled in.
* `Sound.ofList_decls`: the types of a store make up the store.
* `load_map`: documents are loaded as the types that they hold are inserted.
* `load_documents`: a store that was filled by insertions can be written and loaded again.
-/

namespace Referent

/-! ## Normal form again -/

namespace TypeDecl

variable {d : TypeDecl}

theorem Settled.isValid (h : d.Settled) : d.IsValid :=
  ⟨h.name_ne, fun m hm => ⟨h.member_name_ne m hm, .inr (h.member_owner m hm)⟩⟩

/-- Nothing is left to be filled in. -/
theorem Settled.complete_eq (h : d.Settled) : d.complete = d := by
  have hmember (m : Member) (hm : m ∈ d.members) : m.complete d.name = m := by
    have howner : (if m.owner = "" then d.name else m.owner) = m.owner := by
      rw [h.member_owner m hm, if_neg h.name_ne]
    have hparameters : ¬(m.kind ≠ .field ∧ m.parameters = none) := fun hnone => by
      have hsome := h.member_parameters m hm hnone.1
      rw [hnone.2] at hsome
      cases hsome
    rw [Member.complete, howner, if_neg hparameters]
  rw [complete, List.map_congr_left hmember, List.map_id']

/-- Normal form fills in parameter lists without parameters, and so without types. -/
theorem types_settle (d : TypeDecl) : codec.types d.settle = codec.types d := by
  have hmember (m : Member) : Member.codec.types (m.settle d.name) = Member.codec.types m := by
    have hlist : (m.settle d.name).parameterList = m.parameterList := by
      show m.normalParameters.getD [] = m.parameterList
      rw [Member.normalParameters]
      split_ifs <;> rfl
    show m.type :: (m.settle d.name).parameterTypes = m.type :: m.parameterTypes
    rw [Member.parameterTypes, hlist, Member.parameterTypes]
  show (d.members.map (Member.settle d.name)).flatMap Member.codec.types =
    d.members.flatMap Member.codec.types
  rw [List.flatMap_map]
  exact List.flatMap_congr fun m _ => hmember m

end TypeDecl

namespace TypeStore

variable {s t : TypeStore}

/-- The types of a store can be inserted in their order, and make up the store. -/
theorem Sound.ofList_decls (hs : s.Sound) : ofList s.decls = .ok s := by
  refine ofList_eq_ok_iff.2 ⟨⟨fun d hd => (hs.settled d hd).isValid, hs.nodup_names⟩, ?_⟩
  rw [List.map_congr_left fun d hd => (hs.settled d hd).complete_eq, List.map_id']

/-- If documents can be made of the types that are to be inserted, they can be made of those that are
then in the store. -/
theorem parsed_insertAll {decls : List TypeDecl} (hparsed : ∀ d ∈ decls, TypeDecl.codec.Parsed d) :
    ∀ d ∈ (empty.insertAll decls).decls, TypeDecl.codec.Parsed d := by
  intro d hd
  obtain ⟨e, he, rfl⟩ := exists_settle_of_mem_insertAll hd
  rw [Codec.Parsed, TypeDecl.types_settle]
  exact hparsed e he

/-! ## Documents of single types -/

/-- Why documents cannot be loaded. -/
inductive LoadError where
  | document (error : DecodeError)
  | type (error : InsertError)
  deriving DecidableEq, Repr

/-- The type that a document holds, inserted behind the others. -/
def loadNext {δ : Type} (read : δ → Decoded TypeDecl) (s : TypeStore) (document : δ) :
    Except LoadError TypeStore := do
  let d ← (read document).mapError .document
  (s.insert d).mapError .type

/-- Documents read and inserted into an empty store one after the other, up to the first that cannot
be. -/
def load {δ : Type} (read : δ → Decoded TypeDecl) (documents : List δ) :
    Except LoadError TypeStore :=
  documents.foldlM (loadNext read) empty

/-- If each document holds its type, they can be loaded as the types can be inserted. -/
theorem load_map {δ : Type} {read : δ → Decoded TypeDecl} {write : TypeDecl → δ}
    {decls : List TypeDecl} (hread : ∀ d ∈ decls, read (write d) = .ok d)
    (h : ofList decls = .ok s) : load read (decls.map write) = .ok s := by
  unfold ofList at h
  unfold load
  generalize empty = start at h ⊢
  induction decls generalizing start with
  | nil => cases h; rfl
  | cons d decls ih =>
    rw [List.forall_mem_cons] at hread
    obtain ⟨next, hinsert, hrest⟩ := bind_eq_ok_iff.1 h
    have hnext : loadNext read start (write d) = .ok next := by
      simp only [loadNext, hread.1, hinsert, Except.mapError, ok_bind]
    rw [List.map_cons, List.foldlM_cons, hnext, ok_bind]
    exact ih hread.2 next hrest

/-- A store that was filled by insertions of types that have texts, some of which may have failed, can
be written and loaded again. Its types are written as one document each, in order, as values, as texts
on one line or as texts over several lines. All of these documents are read, all the types are
inserted, and the store that this gives is the same. It can also be written as one document, the
universe of its types with any imports and delegates. -/
theorem load_documents (decls : List TypeDecl) (hparsed : ∀ d ∈ decls, TypeDecl.codec.Parsed d) :
    let s := empty.insertAll decls
    load (Json.decode TypeDecl.ofJson) (s.decls.map (·.toJson)) = .ok s ∧
      load (Json.decodeText TypeDecl.ofJson) (s.decls.map (·.toJson.compact)) = .ok s ∧
      load (Json.decodeText TypeDecl.ofJson) (s.decls.map (·.toJson.pretty)) = .ok s ∧
      ∀ imports closures,
        let u : Universe := ⟨imports, s.decls, closures⟩
        Universe.codec.Returns u ∧ u.store = .ok s := by
  intro s
  have hstored : ∀ d ∈ s.decls, TypeDecl.codec.Parsed d := parsed_insertAll hparsed
  have hreturns (d : TypeDecl) (hd : d ∈ s.decls) : TypeDecl.codec.Returns d :=
    TypeDecl.lawful_codec.returns (by decide) (hstored d hd)
  have hs : ofList s.decls = .ok s := (sound_empty.insertAll decls).ofList_decls
  refine ⟨?_, ?_, ?_, fun imports closures => ⟨?_, hs⟩⟩
  · exact load_map (fun d hd => (hreturns d hd).1) hs
  · exact load_map (fun d hd => (hreturns d hd).2.1) hs
  · exact load_map (fun d hd => (hreturns d hd).2.2) hs
  · exact Universe.lawful_codec.returns (by decide) (Universe.parsed_iff.2 hstored)

/-- A constructor and a method that say nothing of parameters or owners, a field with parameters, and
a second type of the same name, which is not inserted. -/
theorem load_documents_level :
    let level : Member := ⟨"level", .field, "a.A", .basic "int", some [.single "v" (.basic "int")]⟩
    let decls := [
      { TypeDecl.ofClass "a.A" with
        members := [⟨"A", .constructor, "", .void, none⟩, level, ⟨"run", .method, "a.A", .void, none⟩] },
      TypeDecl.ofInterface "a.A"]
    let s : TypeStore := ⟨[
      { TypeDecl.ofClass "a.A" with
        members := [⟨"A", .constructor, "a.A", .void, some []⟩, level, .method "a.A" "run" [] .void] }]⟩
    (∀ d ∈ decls, TypeDecl.codec.Parsed d) ∧ empty.insertAll decls = s ∧
      load (Json.decodeText TypeDecl.ofJson) (s.decls.map (·.toJson.pretty)) = .ok s ∧
      (⟨["b.*"], s.decls, []⟩ : Universe).store = .ok s := by
  intro level decls s
  have hstore : empty.insertAll decls = s := by rfl
  have hparsed : ∀ d ∈ decls, TypeDecl.codec.Parsed d := by
    have hint : TypeExpr.WellFormed (.basic "int") := .basic (.inl (by decide))
    have hvoid : TypeExpr.WellFormed .void := .basic (.inl (by decide))
    have htypes : decls.flatMap TypeDecl.codec.types = [.void, .basic "int", .basic "int", .void] :=
      rfl
    have htexts : ∀ t ∈ decls.flatMap TypeDecl.codec.types, ∃ text, TypeExpr.parse text = .ok t := by
      rw [htypes]
      simpa using ⟨⟨_, hvoid.parse_text⟩, ⟨_, hint.parse_text⟩, ⟨_, hvoid.parse_text⟩⟩
    exact List.forall_mem_flatMap.1 htexts
  obtain ⟨-, -, hpretty, huniverse⟩ := load_documents decls hparsed
  rw [hstore] at hpretty huniverse
  exact ⟨hparsed, hstore, hpretty, (huniverse ["b.*"] []).2⟩

end TypeStore

end Referent
