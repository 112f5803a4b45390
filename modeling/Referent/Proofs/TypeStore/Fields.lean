import Referent.Proofs.Acceptance
import Referent.Proofs.Codecs
import Referent.Proofs.TypeStore.Runs

/-!
# Stored fields

A method or constructor that says nothing of parameters gets an empty list of them when its type is
stored, so only fields can do without one. No list is taken away, though: a field that is declared
with parameters, as a document may have it, is stored with them and accepts calls.

* `TypeDecl.fieldMembers`, `TypeDecl.HasBareFields`: the fields of a type, and that none of them has
  a parameter list.

Results:
* `Member.forall_not_accepts_iff`, `Member.key_eq_nil_iff`: which members cannot be called at all,
  and which have the empty key.
* `TypeDecl.fieldMembers_settle`: fields are stored as they are declared, but for their owner.
* `TypeStore.insertAll_fields`: what can be relied on in a stored field.
* `TypeStore.not_bare_of_load`: a document that gives a field a parameter.
-/

namespace Referent

/-! ## Members without parameters -/

namespace Member

variable {m : Member}

/-- What a member declares it accepts, so only one without a parameter list accepts nothing. -/
theorem forall_not_accepts_iff (ts : TypeSystem) :
    (∀ args, ts.accepts m args = false) ↔ m.parameters = none := by
  constructor
  · intro hnever
    by_contra hsome
    have haccepts := ts.accepts_own_types (Option.isSome_iff_ne_none.2 hsome)
    rw [hnever] at haccepts
    cases haccepts
  · intro hnone args
    rw [TypeSystem.accepts, hnone]

theorem key_eq_nil_iff : m.key = ⟨[]⟩ ↔ m.parameterList = [] := by
  simp [key, parameterTypes]

/-- Normal form gives a field its owner and changes nothing else about it. -/
theorem settle_of_field (type : String) (hkind : m.kind = .field) :
    m.settle type = { m with owner := type } := by
  simp [settle, normalParameters, hkind]

end Member

/-! ## Fields of a type -/

namespace TypeDecl

/-- The fields that the type itself declares, in order. -/
def fieldMembers (d : TypeDecl) : List Member :=
  d.members.filter (·.kind = .field)

/-- No field of the type has a parameter list. -/
def HasBareFields (d : TypeDecl) : Prop :=
  ∀ m ∈ d.fieldMembers, m.parameters = none

theorem fieldMembers_settle (d : TypeDecl) :
    d.settle.fieldMembers = d.fieldMembers.map ({ · with owner := d.name }) := by
  have hkind (m : Member) : (m.settle d.name).kind = m.kind := rfl
  unfold fieldMembers settle
  rw [List.filter_map, Function.comp_def]
  simp only [hkind]
  refine List.map_congr_left fun m hm => ?_
  exact m.settle_of_field d.name (by simpa using (List.mem_filter.1 hm).2)

end TypeDecl

namespace TypeStore

/-- Whatever types were to be inserted, the fields of a stored type are those of one of them, in
order, and only their owner is filled in. A stored field cannot be called exactly if it has no
parameter list, and its key is empty exactly if it has no parameters. If no field was declared with
a parameter list, then no stored field has one or can be called, and the key of each is empty. -/
theorem insertAll_fields (decls : List TypeDecl) :
    let s := empty.insertAll decls
    ∀ d ∈ s.decls,
      (∃ e ∈ decls, e.name = d.name ∧
        d.fieldMembers = e.fieldMembers.map ({ · with owner := d.name })) ∧
      ∀ m ∈ d.fieldMembers,
        ((∀ args, s.system.accepts m args = false) ↔ m.parameters = none) ∧
        (m.key = ⟨[]⟩ ↔ m.parameterList = []) ∧
        ((∀ e ∈ decls, e.HasBareFields) → m.parameters = none ∧
          (∀ args, s.system.accepts m args = false) ∧ m.key = ⟨[]⟩) := by
  intro s d hd
  obtain ⟨e, he, rfl⟩ := exists_settle_of_mem_insertAll hd
  have hfields := e.fieldMembers_settle
  refine ⟨⟨e, he, rfl, hfields⟩, fun m hm => ?_⟩
  have hnever := m.forall_not_accepts_iff s.system
  refine ⟨hnever, m.key_eq_nil_iff, fun hbare => ?_⟩
  have hnone : m.parameters = none := by
    rw [hfields] at hm
    obtain ⟨n, hn, rfl⟩ := List.mem_map.1 hm
    exact hbare e he n hn
  refine ⟨hnone, hnever.2 hnone, m.key_eq_nil_iff.2 ?_⟩
  rw [Member.parameterList, hnone]
  rfl

/-! ## A field in a document -/

/-- The field `level` of a script, with this parameter list. -/
def levelField (parameters : Option (List Parameter)) : Member :=
  ⟨"level", .field, "a.Script", .basic "int", parameters⟩

/-- The universe of the script. It does not say who declares the field. -/
def fieldUniverse (parameters : Option (List Parameter)) : Universe where
  imports := []
  types := [{ TypeDecl.ofClass "a.Script" with
    members := [{ levelField parameters with owner := "" }] }]
  closures := []

/-- The store of the universe. -/
def fieldStore (parameters : Option (List Parameter)) : TypeStore where
  decls := [{ TypeDecl.ofClass "a.Script" with members := [levelField parameters] }]

/-- A document holds the universe if it speaks of numbers only. -/
theorem ofJson_fieldUniverse {parameters : Option (List Parameter)}
    (hparameters : ∀ p ∈ parameters.getD [], p.type = .basic "int") :
    Universe.ofJson (fieldUniverse parameters).toJson = .ok (fieldUniverse parameters) := by
  have hint : TypeExpr.WellFormed (.basic "int") := .basic (.inl (by decide))
  have htypes : Universe.codec.types (fieldUniverse parameters) =
      .basic "int" :: (parameters.getD []).map (·.type) := by
    simp [Universe.codec, fieldUniverse, TypeDecl.codec, Member.codec, levelField,
      Member.parameterTypes, Member.parameterList]
  refine Universe.ofJson_toJson ?_
  rw [Codec.Parsed, htypes]
  simpa using ⟨⟨_, hint.parse_text⟩, fun p hp => ⟨_, hparameters p hp ▸ hint.parse_text⟩⟩

/-- A document that says nothing of parameters gives a field that has none and cannot be called. -/
theorem insertAll_fields_level :
    let u := fieldUniverse none
    let s := empty.insertAll u.types
    let level := levelField none
    Universe.ofJson u.toJson = .ok u ∧ s = fieldStore none ∧
      (∃ d ∈ s.decls, level ∈ d.fieldMembers) ∧ (∀ e ∈ u.types, e.HasBareFields) ∧
      level.parameters = none ∧ (∀ args, s.system.accepts level args = false) ∧
      level.key = ⟨[]⟩ := by
  intro u s level
  have hload : Universe.ofJson u.toJson = .ok u := ofJson_fieldUniverse (by simp)
  have hbare : ∀ e ∈ u.types, e.HasBareFields := by
    simp [u, fieldUniverse, TypeDecl.HasBareFields, TypeDecl.fieldMembers, levelField]
  have hlevel : level ∈ ({ TypeDecl.ofClass "a.Script" with members := [level] } :
      TypeDecl).fieldMembers := by simp [TypeDecl.fieldMembers, level, levelField]
  obtain ⟨-, hfields⟩ := insertAll_fields u.types _ (List.mem_singleton.2 rfl)
  exact ⟨hload, by rfl, ⟨_, List.mem_singleton.2 rfl, hlevel⟩, hbare,
    (hfields level hlevel).2.2 hbare⟩

/-- A document can give a field a parameter. The field is loaded with it and accepts a number, and
its key is not empty: it has none of the three marks of a field. -/
theorem not_bare_of_load :
    ¬∀ (v : Json) (u : Universe) (s : TypeStore), Universe.ofJson v = .ok u → u.store = .ok s →
      ∀ d ∈ s.decls, ∀ m ∈ d.fieldMembers,
        m.parameters = none ∨ (∀ args, s.system.accepts m args = false) ∨ m.key = ⟨[]⟩ := by
  intro hall
  let params : List Parameter := [.single "v" (.basic "int")]
  have hload : Universe.ofJson (fieldUniverse (some params)).toJson =
      .ok (fieldUniverse (some params)) := ofJson_fieldUniverse (by simp [params, Parameter.single])
  have hstore : (fieldUniverse (some params)).store = .ok (fieldStore (some params)) := by rfl
  have hlevel := hall _ _ _ hload hstore _ (List.mem_singleton.2 rfl)
    (levelField (some params)) (by simp [TypeDecl.fieldMembers, levelField])
  rw [Member.forall_not_accepts_iff, Member.key_eq_nil_iff] at hlevel
  simp [levelField, Member.parameterList, params] at hlevel

end TypeStore

end Referent
