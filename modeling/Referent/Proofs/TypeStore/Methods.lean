import Referent.Proofs.TypeStore.Insert

/-!
# Methods of a stored type

Results:
* `mem_methodsNamed`: looking methods up by name finds those that the type declares or inherits.
* `Sound.mem_members`: a member found under a type names it as its owner, and is not nameless.
-/

namespace Referent

/-- The type declares or inherits the method. -/
def TypeSystem.HasMethod (ts : TypeSystem) (type : String) (m : Member) : Prop :=
  m.kind = .method ∧ ∃ owner, (owner = type ∨ owner ∈ ts.ancestors type) ∧ m ∈ ts.members owner

namespace TypeStore

variable {s : TypeStore} {type name : String} {m : Member}

theorem mem_members_iff : m ∈ s.members type ↔ ∃ d, s.find? type = some d ∧ m ∈ d.members := by
  unfold members
  cases s.find? type with
  | none => simp
  | some d => simp

theorem of_find?_eq_some {d : TypeDecl} (h : s.find? type = some d) :
    d ∈ s.decls ∧ d.name = type :=
  ⟨List.mem_of_find?_eq_some h, by simpa using List.find?_some h⟩

theorem Sound.mem_members (hs : s.Sound) (hm : m ∈ s.members type) :
    m.owner = type ∧ m.name ≠ "" := by
  obtain ⟨d, hd, hdm⟩ := mem_members_iff.1 hm
  obtain ⟨hmem, rfl⟩ := of_find?_eq_some hd
  have hsettled := hs.settled d hmem
  exact ⟨hsettled.member_owner m hdm, hsettled.member_name_ne m hdm⟩

theorem mem_declaredMethods :
    m ∈ s.system.declaredMethods type name ↔
      m ∈ s.members type ∧ m.name = name ∧ m.kind = .method := by
  simp only [TypeSystem.declaredMethods, system, Member.isMethod, List.mem_filter, beq_iff_eq,
    and_assoc]

theorem mem_methodsNamed :
    m ∈ s.system.methodsNamed type name ↔ s.system.HasMethod type m ∧ m.name = name := by
  unfold TypeSystem.methodsNamed TypeSystem.HasMethod
  rw [List.mem_append, List.mem_flatMap]
  constructor
  · rintro (h | ⟨owner, howner, h⟩)
    · obtain ⟨hm, hname, hkind⟩ := mem_declaredMethods.1 h
      exact ⟨⟨hkind, type, .inl rfl, hm⟩, hname⟩
    · obtain ⟨hm, hname, hkind⟩ := mem_declaredMethods.1 h
      exact ⟨⟨hkind, owner, .inr howner, hm⟩, hname⟩
  · rintro ⟨⟨hkind, owner, rfl | howner, hm⟩, hname⟩
    · exact .inl (mem_declaredMethods.2 ⟨hm, hname, hkind⟩)
    · exact .inr ⟨owner, howner, mem_declaredMethods.2 ⟨hm, hname, hkind⟩⟩

theorem Sound.methodsNamed_empty (hs : s.Sound) : s.system.methodsNamed type "" = [] := by
  rw [List.eq_nil_iff_forall_not_mem]
  intro m hm
  obtain ⟨⟨-, owner, -, hmem⟩, hname⟩ := mem_methodsNamed.1 hm
  exact (hs.mem_members hmem).2 hname

end TypeStore

end Referent
