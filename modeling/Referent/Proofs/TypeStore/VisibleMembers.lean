import Referent.Proofs.Distinct
import Referent.Proofs.TypeStore.Inheritance

/-!
# Members that can be seen

Of the members of a type and its ancestors that share name, kind and erased parameters, the first
one is seen. Types stand in the order of a search by breadth, so that the first one need not be the
one that overrides the others: a type that is reached by a short way comes before a descendant of it
that is only reached by a longer one.

Results:
* `visibleMembers_eq_distinctBy`: members are left out if an earlier one has their key.
* `visibleMembers_first`: the members that are seen are the first of each key, and the methods of a
  name among them are those that a lookup by name finds first.
* `owner_first`: the member that is seen is declared by the type that is reached first. It is
  overridden by no other if descendants are reached first.
* `not_most_derived`: otherwise it may be overridden by one that is not seen.
-/

namespace Referent

/-- The member is a method of this name. -/
def Member.isMethodNamed (name : String) (m : Member) : Bool :=
  m.isMethod && m.name == name

theorem Member.isMethodNamed_iff {name : String} {m : Member} :
    m.isMethodNamed name = true ↔ m.kind = .method ∧ m.name = name := by
  simp [isMethodNamed, isMethod]

namespace TypeSystem

variable (ts : TypeSystem) (type name : String)

/-- All members that a type declares or inherits, overridden ones too: its own, then those of each
ancestor. -/
def allMembers : List Member :=
  (type :: ts.ancestors type).flatMap ts.members

theorem withoutOverridden_eq_unseen (seen : List OverrideKey) (ms : List Member) :
    withoutOverridden seen ms = unseen overrideKey seen ms := by
  induction ms generalizing seen with
  | nil => rfl
  | cons m ms ih =>
    by_cases hm : overrideKey m ∈ seen
    · rw [withoutOverridden, if_pos hm, unseen_cons_of_mem ms hm, ih]
    · rw [withoutOverridden, if_neg hm, unseen_cons_of_not_mem ms hm, ih]

theorem visibleMembers_eq_distinctBy :
    ts.visibleMembers type = distinctBy overrideKey (ts.allMembers type) := by
  unfold visibleMembers allMembers
  rw [withoutOverridden_eq_unseen, unseen_nil_left]

/-- The methods of one name have the same override key if they have the same parameters. -/
theorem overrideKey_eq_iff {m n : Member} (hname : m.name = n.name) (hkind : m.kind = n.kind) :
    overrideKey m = overrideKey n ↔ m.key = n.key := by
  simp [overrideKey, hname, hkind]

end TypeSystem

namespace TypeStore

open Relation TypeSystem

variable {s : TypeStore} {type name : String} {m m' : Member}

/-! ## Lookups by name -/

/-- Methods that are looked up by name are those of that name among all members. -/
theorem methodsNamed_eq_filter (s : TypeStore) (type name : String) :
    s.system.methodsNamed type name =
      (s.system.allMembers type).filter (Member.isMethodNamed name) := by
  have hdeclared (owner : String) : s.system.declaredMethods owner name =
      (s.system.members owner).filter (Member.isMethodNamed name) :=
    List.filter_filter
  unfold methodsNamed allMembers
  rw [List.filter_flatMap, List.flatMap_cons, hdeclared]
  simp only [hdeclared]

/-- The methods of a name that can be seen are those that a lookup by the name finds, less those
that share their parameters with an earlier one. -/
theorem filter_visibleMembers (s : TypeStore) (type name : String) :
    (s.system.visibleMembers type).filter (Member.isMethodNamed name) =
      distinctBy Member.key (s.system.methodsNamed type name) := by
  let methods := (s.system.allMembers type).filter (Member.isMethodNamed name)
  have hkeys : ∀ a ∈ methods, ∀ b ∈ methods, overrideKey a = overrideKey b ↔ a.key = b.key := by
    intro a ha b hb
    obtain ⟨hkind, hname⟩ := Member.isMethodNamed_iff.1 (List.mem_filter.1 ha).2
    obtain ⟨hkind', hname'⟩ := Member.isMethodNamed_iff.1 (List.mem_filter.1 hb).2
    exact overrideKey_eq_iff (hname.trans hname'.symm) (hkind.trans hkind'.symm)
  -- Kind and name are part of the key, so that they may be asked for before members are left out.
  calc (s.system.visibleMembers type).filter (Member.isMethodNamed name)
    _ = (distinctBy overrideKey (s.system.allMembers type)).filter (Member.isMethodNamed name) := by
        rw [visibleMembers_eq_distinctBy]
    _ = distinctBy overrideKey methods :=
        (distinctBy_filter overrideKey (fun k => k.kind == .method && k.name == name) _).symm
    _ = distinctBy Member.key methods := distinctBy_congr overrideKey hkeys
    _ = distinctBy Member.key (s.system.methodsNamed type name) := by rw [methodsNamed_eq_filter]

/-- No two members that can be seen share name, kind and erased parameters. They stand in the order
of all members, the type's own before those of its ancestors, and of each key the first one of these
is seen. The methods of a name among them are those that a lookup by the name finds, less those that
share their parameters with an earlier one. -/
theorem visibleMembers_first (s : TypeStore) (type : String) :
    let ts := s.system
    ((ts.visibleMembers type).map overrideKey).Nodup ∧
      (ts.visibleMembers type).Sublist (ts.allMembers type) ∧
      (∀ k, (ts.visibleMembers type).find? (overrideKey · == k) =
        (ts.allMembers type).find? (overrideKey · == k)) ∧
      ∀ name, (ts.visibleMembers type).filter (Member.isMethodNamed name) =
        distinctBy Member.key (ts.methodsNamed type name) := by
  intro ts
  refine ⟨?_, ?_, fun k => ?_, filter_visibleMembers s type⟩
  · rw [visibleMembers_eq_distinctBy]
    exact nodup_map_distinctBy overrideKey _
  · rw [visibleMembers_eq_distinctBy]
    exact distinctBy_sublist overrideKey _
  · rw [visibleMembers_eq_distinctBy]
    exact find?_distinctBy overrideKey k _

/-! ## Owners -/

/-- Behind the owner of a member that is seen stand those of all others with its key. -/
theorem Sound.exists_owners (hs : s.Sound) (hm : m ∈ s.system.visibleMembers type)
    (hm' : m' ∈ s.system.allMembers type) (hkey : overrideKey m' = overrideKey m) :
    ∃ before after, type :: s.system.ancestors type = before ++ m.owner :: after ∧
      (m'.owner = m.owner ∨ m'.owner ∈ after) := by
  rw [visibleMembers_eq_distinctBy] at hm
  have hfirst := find?_of_mem_distinctBy overrideKey hm
  unfold allMembers at hfirst hm'
  rw [List.find?_flatMap, List.findSome?_eq_some_iff] at hfirst
  obtain ⟨before, owner, after, howners, hfind, hbefore⟩ := hfirst
  obtain rfl : m.owner = owner := (hs.mem_members (List.mem_of_find?_eq_some hfind)).1
  obtain ⟨owner', howner', hmem'⟩ := List.mem_flatMap.1 hm'
  obtain rfl : m'.owner = owner' := (hs.mem_members hmem').1
  refine ⟨before, after, howners, ?_⟩
  rw [howners, List.mem_append, List.mem_cons] at howner'
  rcases howner' with hearlier | howner'
  · have hnone := List.find?_eq_none.1 (hbefore m'.owner hearlier) m' hmem'
    exact absurd (beq_iff_eq.2 hkey) hnone
  · exact howner'

/-- Of two owners of members with one key, the one whose member is seen is in any relation to the
other that the types are in from front to back. -/
theorem Sound.owner_of_pairwise (hs : s.Sound) {R : String → String → Prop}
    (hR : (type :: s.system.ancestors type).Pairwise R) (hm : m ∈ s.system.visibleMembers type)
    (hm' : m' ∈ s.system.allMembers type) (hkey : overrideKey m' = overrideKey m) :
    m'.owner = m.owner ∨ R m.owner m'.owner := by
  obtain ⟨before, after, howners, howner⟩ := hs.exists_owners hm hm' hkey
  rw [howners, List.pairwise_append, List.pairwise_cons] at hR
  exact howner.imp_right (hR.2.1.1 m'.owner)

/-- Of the members of a type and its ancestors with one key, the type sees that of the owner which it
reaches first. In a hierarchy without cycles no descendant of that owner declares another one,
provided that the type reaches descendants first. -/
theorem owner_first (hstore : s.Reachable) (hacyclic : s.hierarchy.Acyclic)
    (hm : m ∈ s.system.visibleMembers type) (hm' : m' ∈ s.system.allMembers type)
    (hkey : overrideKey m' = overrideKey m) :
    (m'.owner = m.owner ∨ s.hierarchy.Precedes type m.owner m'.owner) ∧
      (s.hierarchy.DescendantsFirst type → ¬TransGen s.hierarchy.Extends m'.owner m.owner) := by
  have howner : m'.owner = m.owner ∨ s.hierarchy.Precedes type m.owner m'.owner :=
    hstore.sound.owner_of_pairwise (s.hierarchy.pairwise_precedes type) hm hm' hkey
  refine ⟨howner, fun hdescendants hpath => ?_⟩
  rcases howner with hsame | hbefore
  · rw [hsame] at hpath
    exact hacyclic m.owner hpath
  · exact hdescendants _ _ hpath hbefore

/-! ## A script of two interfaces -/

/-- The label of anything that has a name. -/
def namedLabel : Member :=
  .method "a.Named" "label" [] (.declared "java.lang.Object")

/-- The label of anything that has a title, which overrides the label of its name. -/
def titledLabel : Member :=
  .method "a.Titled" "label" [] (.declared "java.lang.String")

/-- A script class that lists the interfaces, of which `a.Titled` extends `a.Named`. -/
def labelStore (interfaces : List String) : TypeStore where
  decls := [
    { name := "a.Named", kind := .interfaceType, superclass := none, interfaces := [],
      members := [namedLabel] },
    { name := "a.Titled", kind := .interfaceType, superclass := none, interfaces := ["a.Named"],
      members := [titledLabel] },
    { name := "a.Script", kind := .classType, superclass := none, interfaces := interfaces,
      members := [] }]

theorem labelStore_reachable (interfaces : List String) : (labelStore interfaces).Reachable :=
  ⟨(labelStore interfaces).decls, by rfl⟩

theorem extends_labelStore {interfaces : List String} {sub sup : String}
    (h : (labelStore interfaces).hierarchy.Extends sub sup) :
    (sub = "a.Titled" ∧ sup = "a.Named") ∨ (sub = "a.Script" ∧ sup ∈ interfaces) := by
  obtain ⟨d, hfind, hsup⟩ := mem_supertypes_iff.1 h
  obtain ⟨hmem, rfl⟩ := of_find?_eq_some hfind
  simp only [labelStore, List.mem_cons, List.not_mem_nil, or_false] at hmem
  rcases hmem with rfl | rfl | rfl
  · cases hsup
  · exact .inl ⟨rfl, List.mem_singleton.1 hsup⟩
  · exact .inr ⟨rfl, hsup⟩

/-- The script inherits from both interfaces, and otherwise only the one from the other. -/
theorem inherits_labelStore {interfaces : List String} {sub sup : String}
    (hinterfaces : interfaces ⊆ ["a.Named", "a.Titled"])
    (h : TransGen (labelStore interfaces).hierarchy.Extends sub sup) :
    (sub = "a.Titled" ∧ sup = "a.Named") ∨
      (sub = "a.Script" ∧ (sup = "a.Named" ∨ sup = "a.Titled")) := by
  have hstep {sub sup : String} (h : (labelStore interfaces).hierarchy.Extends sub sup) :
      (sub = "a.Titled" ∧ sup = "a.Named") ∨
        (sub = "a.Script" ∧ (sup = "a.Named" ∨ sup = "a.Titled")) :=
    (extends_labelStore h).imp_right fun ⟨hsub, hsup⟩ => ⟨hsub, by simpa using hinterfaces hsup⟩
  induction h with
  | single h => exact hstep h
  | tail _ h ih =>
    rcases hstep h with ⟨rfl, rfl⟩ | ⟨rfl, -⟩
    · rcases ih with ⟨-, hmid⟩ | ⟨rfl, -⟩
      · exact absurd hmid (by decide)
      · exact .inr ⟨rfl, .inl rfl⟩
    · -- Nothing inherits from the script.
      rcases ih with ⟨-, hmid⟩ | ⟨-, hmid | hmid⟩ <;> exact absurd hmid (by decide)

theorem acyclic_labelStore {interfaces : List String}
    (hinterfaces : interfaces ⊆ ["a.Named", "a.Titled"]) :
    (labelStore interfaces).hierarchy.Acyclic := by
  intro name hcycle
  rcases inherits_labelStore hinterfaces hcycle with ⟨rfl, hsup⟩ | ⟨rfl, hsup | hsup⟩ <;>
    exact absurd hsup (by decide)

/-- With `a.Titled` in front, the script reaches it before `a.Named`. -/
theorem descendantsFirst_labelStore :
    (labelStore ["a.Titled", "a.Named"]).hierarchy.DescendantsFirst "a.Script" := by
  have hancestors : (labelStore ["a.Titled", "a.Named"]).hierarchy.ancestors "a.Script" =
      ["a.Titled", "a.Named"] := by cbv
  have hordered := (labelStore ["a.Titled", "a.Named"]).hierarchy.pairwise_precedes "a.Script"
  rw [hancestors] at hordered
  simp only [List.pairwise_cons, List.forall_mem_cons] at hordered
  obtain ⟨⟨htitled, hnamed, -⟩, ⟨hboth, -⟩, -⟩ := hordered
  intro sub sup hpath hbefore
  rcases inherits_labelStore (by simp) hpath with ⟨rfl, rfl⟩ | ⟨rfl, rfl | rfl⟩
  · exact hboth.asymm hbefore
  · exact hnamed.asymm hbefore
  · exact htitled.asymm hbefore

/-- With `a.Titled` in front, the script sees the label of `a.Titled`, which `a.Named` does not
override. -/
theorem owner_first_titled :
    let s := labelStore ["a.Titled", "a.Named"]
    s.Reachable ∧ s.hierarchy.Acyclic ∧ s.hierarchy.DescendantsFirst "a.Script" ∧
      titledLabel ∈ s.system.visibleMembers "a.Script" ∧
      namedLabel ∈ s.system.allMembers "a.Script" ∧
      overrideKey namedLabel = overrideKey titledLabel ∧
      s.hierarchy.Precedes "a.Script" "a.Titled" "a.Named" ∧
      ¬TransGen s.hierarchy.Extends "a.Named" "a.Titled" := by
  intro s
  have hacyclic : s.hierarchy.Acyclic := acyclic_labelStore (by simp)
  have hvisible : titledLabel ∈ s.system.visibleMembers "a.Script" := by
    have heq : s.system.visibleMembers "a.Script" = [titledLabel] := by cbv
    simp [heq]
  have hall : namedLabel ∈ s.system.allMembers "a.Script" := by
    have heq : s.system.allMembers "a.Script" = [titledLabel, namedLabel] := by cbv
    simp [heq]
  have hkey : overrideKey namedLabel = overrideKey titledLabel := rfl
  obtain ⟨howner, hoverridden⟩ :=
    owner_first (labelStore_reachable _) hacyclic hvisible hall hkey
  exact ⟨labelStore_reachable _, hacyclic, descendantsFirst_labelStore, hvisible, hall, hkey,
    howner.resolve_left (by decide), hoverridden descendantsFirst_labelStore⟩

/-- With `a.Named` in front, the script sees the label of `a.Named`, although `a.Titled` extends that
and overrides the label. -/
theorem not_most_derived :
    ¬∀ (s : TypeStore) (type : String) (m m' : Member), s.Reachable → s.hierarchy.Acyclic →
      m ∈ s.system.visibleMembers type → m' ∈ s.system.allMembers type →
      overrideKey m' = overrideKey m → ¬TransGen s.hierarchy.Extends m'.owner m.owner := by
  intro hall
  let s := labelStore ["a.Named", "a.Titled"]
  have hvisible : s.system.visibleMembers "a.Script" = [namedLabel] := by cbv
  have hmembers : s.system.allMembers "a.Script" = [namedLabel, titledLabel] := by cbv
  have hpath : TransGen s.hierarchy.Extends "a.Titled" "a.Named" := .single List.mem_cons_self
  exact hall s "a.Script" namedLabel titledLabel (labelStore_reachable _)
    (acyclic_labelStore (by simp)) (by simp [hvisible]) (by simp [hmembers]) rfl hpath

end TypeStore

end Referent
