import Referent.Proofs.Distinct
import Referent.Proofs.TypeStore.Methods

/-!
# Runs of insertions

Types are inserted one after the other, and those that cannot be inserted are passed over. What the
store holds then is said without running through the steps: the valid types, of each name the first,
with what they leave out filled in. A type that is not valid does not even take its name.

Results:
* `Member.FitsIn.settle_eq`: normal form fills in blank owners and missing parameter lists only.
* `toOption_insert`, `tryInsert_eq`: one insertion, whether it succeeds or fails.
* `decls_insertAll`: a run of insertions.
* `insertAll_sound`: what is kept by every run, and what any further insertion does.
-/

namespace Referent

/-! ## Filling in -/

namespace Member

/-- The member with a blank owner filled in, and with an empty parameter list if it has none and is
not a field. -/
def complete (type : String) (m : Member) : Member :=
  { m with
    owner := if m.owner = "" then type else m.owner
    parameters := if m.kind ≠ .field ∧ m.parameters = none then some [] else m.parameters }

instance (type : String) (m : Member) : Decidable (m.FitsIn type) :=
  inferInstanceAs (Decidable (_ ∧ _))

/-- Where a member fits in, nothing else about it is changed. -/
theorem FitsIn.settle_eq {type : String} {m : Member} (hfit : m.FitsIn type) :
    m.settle type = m.complete type := by
  have howner : (if m.owner = "" then type else m.owner) = type := by
    rcases hfit.2 with hblank | hsame
    · rw [if_pos hblank]
    · split_ifs
      · rfl
      · exact hsame
  have hparameters : m.normalParameters =
      if m.kind ≠ .field ∧ m.parameters = none then some [] else m.parameters := by
    unfold normalParameters parameterList
    cases m.parameters <;> by_cases hkind : m.kind = .field <;> simp [hkind]
  unfold settle complete
  rw [howner, hparameters]

end Member

namespace TypeDecl

/-- The type can stand in a store: it has a name, and so have its members, none of which is said to
be another type's. -/
def IsValid (d : TypeDecl) : Prop :=
  d.name ≠ "" ∧ ∀ m ∈ d.members, m.FitsIn d.name

instance (d : TypeDecl) : Decidable d.IsValid :=
  inferInstanceAs (Decidable (_ ∧ _))

/-- The type with what its members leave out filled in. -/
def complete (d : TypeDecl) : TypeDecl :=
  { d with members := d.members.map (Member.complete d.name) }

theorem IsValid.settle_eq {d : TypeDecl} (hvalid : d.IsValid) : d.settle = d.complete := by
  unfold settle complete
  rw [List.map_congr_left fun m hm => (hvalid.2 m hm).settle_eq]

end TypeDecl

namespace TypeStore

variable {s : TypeStore}

/-! ## One insertion -/

/-- The type is valid, and no type of its name is declared. -/
def Accepts (s : TypeStore) (d : TypeDecl) : Prop :=
  d.IsValid ∧ d.name ∉ s.names

instance (s : TypeStore) (d : TypeDecl) : Decidable (s.Accepts d) :=
  inferInstanceAs (Decidable (_ ∧ _))

/-- The store with one more type behind the others. -/
def append (s : TypeStore) (d : TypeDecl) : TypeStore :=
  ⟨s.decls ++ [d.complete]⟩

theorem insert_eq_ok_iff_accepts {t : TypeStore} {d : TypeDecl} :
    s.insert d = .ok t ↔ s.Accepts d ∧ t = s.append d := by
  rw [insert_eq_ok_iff]
  constructor
  · rintro ⟨⟨hname, hnew, hfit⟩, rfl⟩
    have hvalid : d.IsValid := ⟨hname, hfit⟩
    exact ⟨⟨hvalid, hnew⟩, by rw [hvalid.settle_eq, append]⟩
  · rintro ⟨⟨hvalid, hnew⟩, rfl⟩
    exact ⟨⟨hvalid.1, hnew, hvalid.2⟩, by rw [hvalid.settle_eq, append]⟩

theorem insert_of_accepts {d : TypeDecl} (h : s.Accepts d) : s.insert d = .ok (s.append d) :=
  insert_eq_ok_iff_accepts.2 ⟨h, rfl⟩

theorem exists_insert_eq_error {d : TypeDecl} (h : ¬s.Accepts d) : ∃ e, s.insert d = .error e := by
  cases hinsert : s.insert d with
  | ok t => exact absurd (insert_eq_ok_iff_accepts.1 hinsert).1 h
  | error e => exact ⟨e, rfl⟩

theorem toOption_insert (s : TypeStore) (d : TypeDecl) :
    (s.insert d).toOption = if s.Accepts d then some (s.append d) else none := by
  split_ifs with haccepts
  · rw [insert_of_accepts haccepts]
    rfl
  · obtain ⟨e, hinsert⟩ := exists_insert_eq_error haccepts
    rw [hinsert]
    rfl

/-- An attempt that fails leaves the store behind as it was. -/
theorem tryInsert_eq (s : TypeStore) (d : TypeDecl) :
    s.tryInsert d = if s.Accepts d then s.append d else s := by
  split_ifs with haccepts
  · exact tryInsert_of_insert_eq_ok (insert_of_accepts haccepts)
  · obtain ⟨e, hinsert⟩ := exists_insert_eq_error haccepts
    exact tryInsert_of_insert_eq_error hinsert

/-! ## Many insertions -/

theorem names_append (s : TypeStore) (d : TypeDecl) : (s.append d).names = s.names ++ [d.name] := by
  simp [names, append, TypeDecl.complete]

/-- A run of insertions adds the valid types whose names are new, of each name the first. -/
theorem decls_insertAll (s : TypeStore) (decls : List TypeDecl) :
    (s.insertAll decls).decls =
      s.decls ++ (unseen TypeDecl.name s.names (decls.filter (·.IsValid))).map TypeDecl.complete := by
  induction decls generalizing s with
  | nil => simp [insertAll]
  | cons d decls ih =>
    have hstep : s.insertAll (d :: decls) = (s.tryInsert d).insertAll decls := rfl
    rw [hstep, ih, tryInsert_eq]
    by_cases hvalid : d.IsValid
    · rw [List.filter_cons_of_pos (by simpa using hvalid)]
      by_cases hknown : d.name ∈ s.names
      · rw [if_neg fun haccepts => haccepts.2 hknown, unseen_cons_of_mem _ hknown]
      · have hnames (name : String) : name ∈ (s.append d).names ↔ name ∈ d.name :: s.names := by
          rw [names_append, List.mem_append, List.mem_singleton, List.mem_cons, or_comm]
        rw [if_pos ⟨hvalid, hknown⟩, unseen_cons_of_not_mem _ hknown, unseen_congr hnames, append,
          List.append_assoc]
        rfl
    · rw [if_neg fun haccepts => hvalid haccepts.1, List.filter_cons_of_neg (by simpa using hvalid)]

/-- A type that was stored is one of those that were to be inserted, in normal form. -/
theorem exists_settle_of_mem_insertAll {decls : List TypeDecl} {d : TypeDecl}
    (hd : d ∈ (empty.insertAll decls).decls) : ∃ e ∈ decls, d = e.settle := by
  rw [decls_insertAll, show empty.names = [] from rfl, unseen_nil_left,
    show empty.decls = [] from rfl, List.nil_append] at hd
  obtain ⟨e, he, rfl⟩ := List.mem_map.1 hd
  obtain ⟨hmem, hvalid⟩ := List.mem_filter.1 (mem_of_mem_distinctBy he)
  have hvalid : e.IsValid := by simpa using hvalid
  exact ⟨e, hmem, hvalid.settle_eq.symm⟩

/-- In a sound store a type is found under its own name, and under no other. -/
theorem Sound.find?_eq_some_iff (hs : s.Sound) {name : String} {d : TypeDecl} :
    s.find? name = some d ↔ d ∈ s.decls ∧ d.name = name := by
  constructor
  · exact of_find?_eq_some
  · rintro ⟨hd, rfl⟩
    cases hfind : s.find? d.name with
    | none => simpa using List.find?_eq_none.1 hfind d hd
    | some e =>
      obtain ⟨he, hname⟩ := of_find?_eq_some hfind
      rw [List.inj_on_of_nodup_map hs.nodup_names he hd hname]

/-- After every run of insertions the store is sound, and each type is found under its name. It holds
the valid types, of each name the first, with what they leave out filled in. A further insertion
succeeds exactly if the type is valid and its name is new; the type then stands behind the others,
filled in, and otherwise the store stays as it is. -/
theorem insertAll_sound (decls : List TypeDecl) :
    let s := empty.insertAll decls
    s.Sound ∧ (∀ name d, s.find? name = some d ↔ d ∈ s.decls ∧ d.name = name) ∧
      s.decls = (distinctBy TypeDecl.name (decls.filter (·.IsValid))).map TypeDecl.complete ∧
      ∀ d, (s.insert d).toOption = (if s.Accepts d then some (s.append d) else none) ∧
        s.tryInsert d = (if s.Accepts d then s.append d else s) := by
  intro s
  have hs : s.Sound := sound_empty.insertAll decls
  refine ⟨hs, fun _ _ => hs.find?_eq_some_iff, ?_, fun d => ⟨toOption_insert s d, tryInsert_eq s d⟩⟩
  have hdecls := decls_insertAll empty decls
  rwa [show empty.names = [] from rfl, unseen_nil_left, show empty.decls = [] from rfl,
    List.nil_append] at hdecls

/-- The nameless method keeps the first `a.A` out, so that the second one can be inserted. -/
example :
    (empty.insertAll [
      { TypeDecl.ofClass "a.A" with members := [.method "" "" [] .void] },
      TypeDecl.ofInterface "a.A", TypeDecl.ofClass "a.A"]).decls = [.ofInterface "a.A"] := by rfl

end TypeStore

end Referent
