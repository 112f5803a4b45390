import Referent.TypeStore
import Referent.Proofs.Except
import Mathlib.Data.List.Basic

/-!
# What inserting types keeps

Results:
* `attempt_eq_ok_iff`: when a type can be registered, and the store that this leaves.
* `eq_of_attempt_eq_error`: an attempt that fails leaves the store as it was.
* `Sound`: what can be relied on in a store that was filled by insertions.
* `Reachable.sound`: every such store is sound, whichever insertions failed on the way.
-/

namespace Referent

/-! ## Normal form -/

namespace Member

/-- The member can stand under a type of this name. -/
def FitsIn (type : String) (m : Member) : Prop :=
  m.name ≠ "" ∧ (m.owner = "" ∨ m.owner = type)

/-- The member with the type as its owner, and with a parameter list unless it is a field. -/
def settle (type : String) (m : Member) : Member :=
  { m with owner := type, parameters := m.normalParameters }

theorem normalize_eq_ok_iff {type : String} {m n : Member} :
    m.normalize type = .ok n ↔ m.FitsIn type ∧ n = m.settle type := by
  unfold normalize FitsIn
  split_ifs with hname howner
  · simp [hname]
  · rw [Except.ok.injEq, eq_comm]
    exact (and_iff_right ⟨hname, howner⟩).symm
  · simp [howner]

theorem mapM_normalize_eq_ok_iff {type : String} {ms ns : List Member} :
    ms.mapM (normalize type) = .ok ns ↔
      (∀ m ∈ ms, m.FitsIn type) ∧ ns = ms.map (settle type) := by
  induction ms generalizing ns with
  | nil => simp [pure, Except.pure, eq_comm]
  | cons m ms ih =>
    rw [List.mapM_cons, List.forall_mem_cons, List.map_cons]
    constructor
    · intro h
      obtain ⟨n, hn, h⟩ := bind_eq_ok_iff.1 h
      obtain ⟨rest, hrest, h⟩ := bind_eq_ok_iff.1 h
      obtain ⟨hfit, rfl⟩ := normalize_eq_ok_iff.1 hn
      obtain ⟨hall, rfl⟩ := ih.1 hrest
      cases h
      exact ⟨⟨hfit, hall⟩, rfl⟩
    · rintro ⟨⟨hfit, hall⟩, rfl⟩
      exact bind_eq_ok_iff.2 ⟨_, normalize_eq_ok_iff.2 ⟨hfit, rfl⟩,
        bind_eq_ok_iff.2 ⟨_, ih.2 ⟨hall, rfl⟩, rfl⟩⟩

end Member

/-- The type with its members settled. -/
def TypeDecl.settle (d : TypeDecl) : TypeDecl :=
  { d with members := d.members.map (Member.settle d.name) }

namespace TypeStore

theorem contains_iff {s : TypeStore} {name : String} : s.contains name = true ↔ name ∈ s.names := by
  simp [contains, find?, names, List.find?_isSome]

variable {s t : TypeStore} {d : TypeDecl} {e : InsertError}

theorem attempt_eq (s : TypeStore) (d : TypeDecl) :
    s.attempt d =
      if d.name = "" then (.error .unnamedType, s)
      else if s.contains d.name then (.error (.duplicateType d.name), s)
      else
        match d.members.mapM (Member.normalize d.name) with
        | .ok members => (.ok (), ⟨s.decls ++ [{ d with members }]⟩)
        | .error e => (.error e, s) := by
  unfold attempt
  by_cases hname : d.name = ""
  · rw [if_pos hname, register, if_pos hname]
    rfl
  rw [if_neg hname, register, if_neg hname]
  -- The store is read here, and the next test is one of that store.
  show (if s.contains d.name then _ else _ : ExceptT InsertError (StateM TypeStore) Unit).run s = _
  by_cases hcontains : s.contains d.name = true
  · rw [if_pos hcontains, if_pos hcontains]
    rfl
  · rw [if_neg hcontains, if_neg hcontains]
    cases d.members.mapM (Member.normalize d.name) <;> rfl

/-- A type can be registered if it has a name, the name is new, and its members have names and are
not said to be another type's. It goes to the end with its members settled. -/
theorem attempt_eq_ok_iff :
    s.attempt d = (.ok (), t) ↔
      (d.name ≠ "" ∧ d.name ∉ s.names ∧ ∀ m ∈ d.members, m.FitsIn d.name) ∧
        t = ⟨s.decls ++ [d.settle]⟩ := by
  rw [attempt_eq]
  split_ifs with hname hcontains
  · simp [hname]
  · simp [contains_iff.1 hcontains]
  have hnew : d.name ∉ s.names := mt contains_iff.2 hcontains
  constructor
  · intro h
    cases hmembers : d.members.mapM (Member.normalize d.name) with
    | error e =>
      rw [hmembers] at h
      cases h
    | ok members =>
      obtain ⟨hfit, rfl⟩ := Member.mapM_normalize_eq_ok_iff.1 hmembers
      rw [hmembers] at h
      cases h
      exact ⟨⟨hname, hnew, hfit⟩, rfl⟩
  · rintro ⟨⟨-, -, hfit⟩, rfl⟩
    rw [Member.mapM_normalize_eq_ok_iff.2 ⟨hfit, rfl⟩]
    rfl

/-- An attempt that fails leaves the store as it was. -/
theorem eq_of_attempt_eq_error (h : s.attempt d = (.error e, t)) : t = s := by
  rw [attempt_eq] at h
  split_ifs at h
  · cases h
    rfl
  · cases h
    rfl
  · split at h <;> cases h
    rfl

theorem insert_eq_ok_iff_attempt : s.insert d = .ok t ↔ s.attempt d = (.ok (), t) := by
  unfold insert
  rcases s.attempt d with ⟨_ | _, u⟩ <;> simp [Except.map]

theorem insert_eq_ok_iff :
    s.insert d = .ok t ↔
      (d.name ≠ "" ∧ d.name ∉ s.names ∧ ∀ m ∈ d.members, m.FitsIn d.name) ∧
        t = ⟨s.decls ++ [d.settle]⟩ :=
  insert_eq_ok_iff_attempt.trans attempt_eq_ok_iff

theorem tryInsert_of_insert_eq_ok (h : s.insert d = .ok t) : s.tryInsert d = t := by
  rw [tryInsert, insert_eq_ok_iff_attempt.1 h]

theorem tryInsert_of_insert_eq_error (h : s.insert d = .error e) : s.tryInsert d = s := by
  unfold insert at h
  rcases hattempt : s.attempt d with ⟨_ | _, t⟩
  · rw [tryInsert, hattempt]
    exact eq_of_attempt_eq_error hattempt
  · rw [hattempt] at h
    cases h

end TypeStore

/-! ## Soundness -/

/-- What can be relied on in a declared type once it is in a store. -/
structure TypeDecl.Settled (d : TypeDecl) : Prop where
  name_ne : d.name ≠ ""
  member_name_ne : ∀ m ∈ d.members, m.name ≠ ""
  member_owner : ∀ m ∈ d.members, m.owner = d.name
  member_parameters : ∀ m ∈ d.members, m.kind ≠ .field → m.parameters.isSome

theorem TypeDecl.settled_settle {d : TypeDecl} (hname : d.name ≠ "")
    (hfit : ∀ m ∈ d.members, m.FitsIn d.name) : d.settle.Settled where
  name_ne := hname
  member_name_ne n hn := by
    obtain ⟨m, hm, rfl⟩ := List.mem_map.1 hn
    exact (hfit m hm).1
  member_owner n hn := by
    obtain ⟨m, -, rfl⟩ := List.mem_map.1 hn
    rfl
  member_parameters n hn hkind := by
    obtain ⟨m, -, rfl⟩ := List.mem_map.1 hn
    have hkind : m.kind ≠ .field := hkind
    simp [Member.settle, Member.normalParameters, hkind]

namespace TypeStore

/-- Each name is declared once, and every declared type is settled. -/
structure Sound (s : TypeStore) : Prop where
  nodup_names : s.names.Nodup
  settled : ∀ d ∈ s.decls, d.Settled

theorem sound_empty : empty.Sound :=
  ⟨List.nodup_nil, by simp [empty]⟩

theorem Sound.insert {s t : TypeStore} {d : TypeDecl} (hs : s.Sound) (h : s.insert d = .ok t) :
    t.Sound := by
  obtain ⟨⟨hname, hnew, hfit⟩, rfl⟩ := insert_eq_ok_iff.1 h
  refine ⟨?_, fun e he => ?_⟩
  · have hnames : names ⟨s.decls ++ [d.settle]⟩ = s.names ++ [d.name] := by
      simp [names, TypeDecl.settle]
    rw [hnames, List.nodup_append]
    refine ⟨hs.nodup_names, by simp, fun a ha b hb => ?_⟩
    rw [List.mem_singleton.1 hb]
    exact fun heq => hnew (heq ▸ ha)
  · rcases List.mem_append.1 he with he | he
    · exact hs.settled e he
    · rw [List.mem_singleton.1 he]
      exact TypeDecl.settled_settle hname hfit

theorem Sound.tryInsert {s : TypeStore} (hs : s.Sound) (d : TypeDecl) : (s.tryInsert d).Sound := by
  cases hinsert : s.insert d with
  | ok t =>
    rw [tryInsert_of_insert_eq_ok hinsert]
    exact hs.insert hinsert
  | error e =>
    rw [tryInsert_of_insert_eq_error hinsert]
    exact hs

/-- The store after attempts to insert these types in order. -/
def insertAll (s : TypeStore) (decls : List TypeDecl) : TypeStore :=
  decls.foldl tryInsert s

/-- The store comes from the empty one by insertions, some of which may have failed. -/
def Reachable (s : TypeStore) : Prop :=
  ∃ decls, s = empty.insertAll decls

theorem Sound.insertAll {s : TypeStore} (hs : s.Sound) (decls : List TypeDecl) :
    (s.insertAll decls).Sound := by
  induction decls generalizing s with
  | nil => exact hs
  | cons d decls ih => exact ih (hs.tryInsert d)

/-- What can be relied on holds in every store that was filled by insertions. -/
theorem Reachable.sound {s : TypeStore} (hs : s.Reachable) : s.Sound := by
  obtain ⟨decls, rfl⟩ := hs
  exact sound_empty.insertAll decls

/-! ## A script and a handler -/

/-- A script class, what it inherits from, and a type that closures delegate to. -/
def scriptStore : TypeStore where
  decls := [
    { name := "a.Script", kind := .classType, superclass := some "a.Base", interfaces := [],
      members := [
        .method "a.Script" "getFoo" [] (.declared "java.lang.String"),
        .method "a.Script" "setFoo" [.single "v" (.basic "boolean")] (.declared "a.Script"),
        .method "a.Script" "setFoo" [.single "v" (.declared "java.lang.String")] .void,
        .method "a.Script" "foo" [.single "v" (.basic "int")] .void] },
    { name := "a.Base", kind := .classType, superclass := none, interfaces := [],
      members := [
        .method "a.Base" "getFoo" [] (.declared "java.lang.Object"),
        .field "a.Base" "foo" (.basic "int")] },
    { name := "a.Handler", kind := .interfaceType, superclass := none, interfaces := [],
      members := [
        .method "a.Handler" "foo" [.single "v" (.declared "java.lang.String")] .void,
        .method "a.Handler" "isEnabled" [] (.basic "boolean"),
        .method "a.Handler" "setLevel" [.single "v" (.basic "int")] (.declared "a.Handler")] }]

theorem scriptStore_reachable : scriptStore.Reachable :=
  ⟨scriptStore.decls, by rfl⟩

theorem ancestors_scriptStore : scriptStore.system.ancestors "a.Script" = ["a.Base"] := by cbv

theorem inherits_scriptStore : scriptStore.system.inherits "a.Script" "a.Base" = true := by
  rw [TypeSystem.inherits, ancestors_scriptStore]
  rfl

theorem ancestors_handler : scriptStore.system.ancestors "a.Handler" = [] := by cbv

end TypeStore

end Referent
