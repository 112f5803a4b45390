import Referent.Proofs.Hierarchy.Reach
import Referent.Proofs.Resolution.Candidates
import Referent.Proofs.TypeStore.Runs
import Referent.Universe

/-!
# Loading a universe

The types of a universe are inserted one after the other, and the first that cannot be inserted is
the error. Whether there is one does not depend on the order of the types, although which one does.
Nor does anything that is asked of the store then: every answer comes from looking up types by their
names, and a name has one type.

Results:
* `foldlM_insert_eq_ok_iff`, `ofList_eq_ok_iff`: which types can be inserted one after the other,
  and the store that this gives.
* `Sound.find?_eq_of_perm`: stores that hold the same types in different orders find the same.
* `system_congr`: all that a store answers goes through lookups by name.
* `store_perm`: the order of the types in a universe does not matter.
-/

namespace Referent

universe u

variable {σ : Type u}

namespace TypeStore

variable {s t : TypeStore} {decls : List TypeDecl}

/-! ## Inserting without an error -/

/-- The types have different names, and no type of these names is declared. -/
def FreshNames (s : TypeStore) (decls : List TypeDecl) : Prop :=
  (decls.map (·.name)).Nodup ∧ ∀ d ∈ decls, d.name ∉ s.names

/-- Once the first type is there, its name is taken for the others. -/
theorem freshNames_cons {d : TypeDecl} :
    s.FreshNames (d :: decls) ↔ d.name ∉ s.names ∧ (s.append d).FreshNames decls := by
  have hother : d.name ∉ decls.map (·.name) ↔ ∀ e ∈ decls, e.name ≠ d.name := by
    simp only [List.mem_map, not_exists, not_and, ne_eq]
  have hnew : (∀ e ∈ decls, e.name ∉ (s.append d).names) ↔
      (∀ e ∈ decls, e.name ∉ s.names) ∧ ∀ e ∈ decls, e.name ≠ d.name := by
    simp only [names_append, List.mem_append, List.mem_singleton, not_or]
    exact forall₂_and
  unfold FreshNames
  rw [List.map_cons, List.nodup_cons, List.forall_mem_cons, hother, hnew]
  tauto

/-- Types can be inserted one after the other if they are valid and their names are fresh. They then
stand behind the others, with what they leave out filled in. -/
theorem foldlM_insert_eq_ok_iff :
    decls.foldlM insert s = .ok t ↔
      ((∀ d ∈ decls, d.IsValid) ∧ s.FreshNames decls) ∧
        t = ⟨s.decls ++ decls.map TypeDecl.complete⟩ := by
  induction decls generalizing s with
  | nil => simp [pure, Except.pure, FreshNames, eq_comm]
  | cons d decls ih =>
    have hdecls : s.decls ++ (d :: decls).map TypeDecl.complete =
        (s.append d).decls ++ decls.map TypeDecl.complete := by
      simp [append]
    rw [List.foldlM_cons, bind_eq_ok_iff, freshNames_cons, List.forall_mem_cons, hdecls]
    constructor
    · rintro ⟨next, hinsert, hrest⟩
      obtain ⟨⟨hvalid, hnew⟩, rfl⟩ := insert_eq_ok_iff_accepts.1 hinsert
      obtain ⟨⟨hall, hfresh⟩, ht⟩ := ih.1 hrest
      exact ⟨⟨⟨hvalid, hall⟩, hnew, hfresh⟩, ht⟩
    · rintro ⟨⟨⟨hvalid, hall⟩, hnew, hfresh⟩, ht⟩
      exact ⟨s.append d, insert_eq_ok_iff_accepts.2 ⟨⟨hvalid, hnew⟩, rfl⟩,
        ih.2 ⟨⟨hall, hfresh⟩, ht⟩⟩

/-- Types can be loaded if they are valid and have different names. -/
theorem ofList_eq_ok_iff :
    ofList decls = .ok s ↔
      ((∀ d ∈ decls, d.IsValid) ∧ (decls.map (·.name)).Nodup) ∧
        s = ⟨decls.map TypeDecl.complete⟩ := by
  have hfresh : empty.FreshNames decls ↔ (decls.map (·.name)).Nodup := by
    simp [FreshNames, names, empty]
  rw [ofList, foldlM_insert_eq_ok_iff, hfresh]
  simp [empty]

theorem sound_of_ofList (h : ofList decls = .ok s) : s.Sound := by
  obtain ⟨⟨hvalid, hnodup⟩, rfl⟩ := ofList_eq_ok_iff.1 h
  constructor
  · have hnames : names ⟨decls.map TypeDecl.complete⟩ = decls.map (·.name) := by
      simp [names, TypeDecl.complete]
    rwa [hnames]
  · intro d hd
    obtain ⟨e, he, rfl⟩ := List.mem_map.1 hd
    rw [← (hvalid e he).settle_eq]
    exact TypeDecl.settled_settle (hvalid e he).1 (hvalid e he).2

/-! ## Lookups by name -/

/-- Each name has one type, wherever it stands. -/
theorem Sound.find?_eq_of_perm (hs : s.Sound) (ht : t.Sound) (hperm : s.decls.Perm t.decls) :
    s.find? = t.find? := by
  funext name
  apply Option.ext
  intro d
  rw [hs.find?_eq_some_iff, ht.find?_eq_some_iff, hperm.mem_iff]

/-- A store answers every question by looking up types by their names. -/
theorem system_congr (hfind : s.find? = t.find?) : s.system = t.system := by
  have hcontains : s.contains = t.contains := by
    funext name
    rw [contains, contains, hfind]
  have hmembers : s.members = t.members := by
    funext name
    rw [members, members, hfind]
  have hsupertypes (name : String) : s.supertypes name = t.supertypes name := by
    rw [supertypes, supertypes, hfind]
  have hancestors : s.hierarchy.ancestors = t.hierarchy.ancestors :=
    funext fun name => Hierarchy.ancestors_congr (hsupertypes name) fun owner _ => hsupertypes owner
  unfold system
  rw [hfind, hcontains, hmembers, hancestors]

/-! ## The order of types -/

/-- Types that can be loaded in one order can be loaded in any, and the store then answers every
question as before. -/
theorem exists_ofList_perm {decls' : List TypeDecl} (hperm : decls.Perm decls')
    (h : ofList decls = .ok s) : ∃ t, ofList decls' = .ok t ∧ t.system = s.system := by
  obtain ⟨⟨hvalid, hnodup⟩, hs⟩ := ofList_eq_ok_iff.1 h
  have ht : ofList decls' = .ok ⟨decls'.map TypeDecl.complete⟩ := by
    rw [ofList_eq_ok_iff]
    refine ⟨⟨fun d hd => hvalid d (hperm.mem_iff.2 hd), ?_⟩, rfl⟩
    exact (hperm.map (·.name)).nodup_iff.1 hnodup
  refine ⟨_, ht, system_congr ?_⟩
  apply (sound_of_ofList ht).find?_eq_of_perm (sound_of_ofList h)
  rw [hs]
  exact (hperm.map TypeDecl.complete).symm

end TypeStore

namespace Universe

/-- If the types of a universe stand in another order, the universe can be loaded exactly if it
could before. The two stores are then the same type system: lookups of types and names, ancestors,
methods, visible members, assignability and calls that are served cannot differ, for they are
questions to the type system. Nor can resolutions under any delegates and imports, whatever the
class, the reference, the name and the visitor are. -/
theorem store_perm (u : Universe) {types : List TypeDecl} (hperm : types.Perm u.types) :
    let u' := { u with types }
    ((∃ s, u.store = .ok s) ↔ ∃ s', u'.store = .ok s') ∧
      ∀ s s', u.store = .ok s → u'.store = .ok s' →
        s.system = s'.system ∧
          ∀ (delegation : Delegation) (imports : Imports) (type : String) (reference : Reference)
            (name : Option String) (v : Visitor σ) (state : σ),
            let r := s.resolver delegation imports
            let r' := s'.resolver delegation imports
            r.process type reference name v state = r'.process type reference name v state ∧
              r.calls type reference name v state = r'.calls type reference name v state := by
  intro u'
  refine ⟨⟨?_, ?_⟩, ?_⟩
  · rintro ⟨s, hs⟩
    obtain ⟨s', hs', -⟩ := TypeStore.exists_ofList_perm hperm.symm hs
    exact ⟨s', hs'⟩
  · rintro ⟨s', hs'⟩
    obtain ⟨s, hs, -⟩ := TypeStore.exists_ofList_perm hperm hs'
    exact ⟨s, hs⟩
  · intro s s' hs hs'
    obtain ⟨t, ht, hsystem⟩ := TypeStore.exists_ofList_perm hperm hs'
    have hloaded : t = s := Except.ok.inj (ht.symm.trans hs)
    rw [hloaded] at hsystem
    refine ⟨hsystem, ?_⟩
    intro delegation imports type reference name v state r r'
    have hresolver : r = r' := by
      show (⟨s.system, delegation, imports⟩ : Resolver) = ⟨s'.system, delegation, imports⟩
      rw [hsystem]
    rw [hresolver]
    exact ⟨rfl, rfl⟩

/-- The types of the script, from the last to the first. The script inherits from its base class,
which now stands before it. -/
theorem store_perm_script :
    let u : Universe := ⟨[], TypeStore.scriptStore.decls, []⟩
    let u' : Universe := { u with types := u.types.reverse }
    let s' : TypeStore := ⟨TypeStore.scriptStore.decls.reverse⟩
    u'.types.Perm u.types ∧ u.store = .ok TypeStore.scriptStore ∧ u'.store = .ok s' ∧
      s'.system.ancestors "a.Script" = ["a.Base"] ∧
      (s'.resolver .none .empty).process "a.Script" (.read "foo") (some "foo") (collect none) [] =
        (TypeStore.scriptStore.resolver .none .empty).process "a.Script" (.read "foo") (some "foo")
          (collect none) [] := by
  intro u u' s'
  have hperm : u'.types.Perm u.types := u.types.reverse_perm
  have hs : u.store = .ok TypeStore.scriptStore := by rfl
  have hs' : u'.store = .ok s' := by rfl
  obtain ⟨hsystem, hprocess⟩ := (u.store_perm hperm).2 _ _ hs hs'
  refine ⟨hperm, hs, hs', ?_, ?_⟩
  · rw [← hsystem]
    exact TypeStore.ancestors_scriptStore
  · exact (hprocess .none .empty "a.Script" (.read "foo") (some "foo") (collect none) []).1.symm

/-- Of two types that cannot be inserted the first is the error. -/
example :
    let nameless := TypeDecl.ofClass ""
    let misplaced : TypeDecl :=
      { TypeDecl.ofClass "a.A" with members := [.field "a.B" "foo" .void] }
    TypeStore.ofList [nameless, misplaced] = .error .unnamedType ∧
      TypeStore.ofList [misplaced, nameless] = .error (.misplacedMember "a.B#foo" "a.A") :=
  ⟨by rfl, by rfl⟩

end Universe

end Referent
