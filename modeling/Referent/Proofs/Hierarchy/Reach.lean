import Referent.Hierarchy
import Mathlib.Logic.Relation

/-!
# What a walk finds

A walk finds exactly the types that are reached by going from a type to its direct supertypes,
whatever cycles there are: whenever a type is visited, its supertypes were visited or are waiting.

Results:
* `exists_of_mem_walk`: what is found is new and is reached from the queue.
* `Pending.walk_closed`: with a type, its supertypes are found.
* `mem_ancestors_iff`: a type inherits from the others that are reached from it.
* `ancestors_congr`: the ancestors of a type and their order depend on the direct supertypes of the
  type and of these ancestors alone.
-/

namespace Referent.Hierarchy

open Relation

/-- The second type is a direct supertype of the first. -/
def Extends (h : Hierarchy) (sub sup : String) : Prop :=
  sup ∈ h.supertypes sub

/-- No type inherits from itself. -/
def Acyclic (h : Hierarchy) : Prop :=
  ∀ name, ¬TransGen h.Extends name name

/-- There is no cycle if something goes down from each type to its direct supertypes. -/
theorem acyclic_of_rank {h : Hierarchy} (rank : String → Nat)
    (hrank : ∀ sub sup, h.Extends sub sup → rank sup < rank sub) : h.Acyclic := by
  intro name hcycle
  have hlt (sup : String) (hpath : TransGen h.Extends name sup) : rank sup < rank name := by
    induction hpath with
    | single hsup => exact hrank name _ hsup
    | tail _ hsup ih => exact Nat.lt_trans (hrank _ _ hsup) ih
  exact Nat.lt_irrefl _ (hlt name hcycle)

variable {h : Hierarchy} {visited queue : List String}

/-! ## Soundness -/

/-- What a walk finds was not visited before, and it is reached from the queue. -/
theorem exists_of_mem_walk {name : String} (hname : name ∈ h.walk visited queue) :
    name ∉ visited ∧ ∃ start ∈ queue, ReflTransGen h.Extends start name := by
  induction visited, queue using Hierarchy.walk.induct h with
  | case1 visited =>
    rw [walk] at hname
    cases hname
  | case2 visited front rest hfront ih =>
    rw [walk, if_pos hfront] at hname
    obtain ⟨hnew, start, hstart, hpath⟩ := ih hname
    exact ⟨hnew, start, List.mem_cons_of_mem front hstart, hpath⟩
  | case3 visited front rest hfront ih =>
    rw [walk, if_neg hfront, List.mem_cons] at hname
    rcases hname with rfl | hname
    · exact ⟨hfront, name, List.mem_cons_self, .refl⟩
    · obtain ⟨hnew, start, hstart, hpath⟩ := ih hname
      refine ⟨fun hvisited => hnew (List.mem_cons_of_mem front hvisited), ?_⟩
      rcases List.mem_append.1 hstart with hstart | hstart
      · exact ⟨start, List.mem_cons_of_mem front hstart, hpath⟩
      · exact ⟨front, List.mem_cons_self, .head hstart hpath⟩

/-! ## Completeness -/

/-- The supertypes of the visited types were visited themselves or are waiting. -/
def Pending (h : Hierarchy) (visited queue : List String) : Prop :=
  ∀ sub ∈ visited, ∀ sup, h.Extends sub sup → sup ∈ visited ∨ sup ∈ queue

/-- A visited type at the front of the queue may be left out. -/
theorem Pending.skip {front : String} {rest : List String}
    (hpending : h.Pending visited (front :: rest)) (hfront : front ∈ visited) :
    h.Pending visited rest := by
  intro sub hsub sup hsup
  rcases hpending sub hsub sup hsup with hvisited | hqueue
  · exact .inl hvisited
  · rcases List.mem_cons.1 hqueue with rfl | hrest
    · exact .inl hfront
    · exact .inr hrest

/-- With its supertypes behind the queue, the type at the front is a visited one. -/
theorem Pending.visit {front : String} {rest : List String}
    (hpending : h.Pending visited (front :: rest)) :
    h.Pending (front :: visited) (rest ++ h.supertypes front) := by
  intro sub hsub sup hsup
  rw [List.mem_cons, List.mem_append]
  rcases List.mem_cons.1 hsub with rfl | hsub
  · exact .inr (.inr hsup)
  · rcases hpending sub hsub sup hsup with hvisited | hqueue
    · exact .inl (.inr hvisited)
    · rcases List.mem_cons.1 hqueue with rfl | hrest
      · exact .inl (.inl rfl)
      · exact .inr (.inl hrest)

/-- The supertypes of what was visited before or is found are visited or found. -/
theorem Pending.walk_closed (hpending : h.Pending visited queue) {sub sup : String}
    (hsub : sub ∈ visited ∨ sub ∈ h.walk visited queue) (hsup : h.Extends sub sup) :
    sup ∈ visited ∨ sup ∈ h.walk visited queue := by
  induction visited, queue using Hierarchy.walk.induct h with
  | case1 visited =>
    rw [walk] at hsub ⊢
    exact hpending sub (hsub.resolve_right List.not_mem_nil) sup hsup
  | case2 visited front rest hfront ih =>
    rw [walk, if_pos hfront] at hsub ⊢
    exact ih (hpending.skip hfront) hsub
  | case3 visited front rest hfront ih =>
    rw [walk, if_neg hfront, List.mem_cons, or_left_comm, ← or_assoc, ← List.mem_cons] at hsub ⊢
    exact ih hpending.visit hsub

/-! ## Ancestors -/

/-- A type inherits from the other types that are reached from it. -/
theorem mem_ancestors_iff {sub sup : String} :
    sup ∈ h.ancestors sub ↔ sup ≠ sub ∧ TransGen h.Extends sub sup := by
  constructor
  · intro hsup
    obtain ⟨hnew, start, hstart, hpath⟩ := exists_of_mem_walk hsup
    exact ⟨fun heq => hnew (List.mem_singleton.2 heq), .head' hstart hpath⟩
  · rintro ⟨hne, hpath⟩
    have hpending : h.Pending [sub] (h.supertypes sub) := by
      intro name hname sup hsup
      rw [List.mem_singleton.1 hname] at hsup
      exact .inr hsup
    have hfound (name : String) (hname : ReflTransGen h.Extends sub name) :
        name ∈ [sub] ∨ name ∈ h.ancestors sub := by
      induction hname with
      | refl => exact .inl List.mem_cons_self
      | tail _ hsup ih => exact hpending.walk_closed ih hsup
    exact (hfound sup hpath.to_reflTransGen).resolve_left
      fun heq => hne (List.mem_singleton.1 heq)

/-- A walk asks for the supertypes of the types that it finds, and for no others. The list of
declared types bounds it, but does not lead it. -/
theorem walk_congr {h' : Hierarchy}
    (hsupertypes : ∀ name ∈ h.walk visited queue, h.supertypes name = h'.supertypes name) :
    h.walk visited queue = h'.walk visited queue := by
  induction visited, queue using Hierarchy.walk.induct h with
  | case1 visited => simp only [walk]
  | case2 visited front rest hfront ih =>
    rw [walk, if_pos hfront] at hsupertypes
    rw [walk, if_pos hfront, ih hsupertypes, eq_comm, walk, if_pos hfront]
  | case3 visited front rest hfront ih =>
    rw [walk, if_neg hfront, List.forall_mem_cons] at hsupertypes
    rw [walk, if_neg hfront, ih hsupertypes.2, eq_comm, walk, if_neg hfront, hsupertypes.1]

/-- The ancestors of a type and their order depend on the direct supertypes of the type and of these
ancestors alone. -/
theorem ancestors_congr {h' : Hierarchy} {start : String}
    (hstart : h.supertypes start = h'.supertypes start)
    (hsupertypes : ∀ name ∈ h.ancestors start, h.supertypes name = h'.supertypes name) :
    h.ancestors start = h'.ancestors start := by
  unfold ancestors at hsupertypes ⊢
  rw [walk_congr hsupertypes, hstart]

end Referent.Hierarchy
