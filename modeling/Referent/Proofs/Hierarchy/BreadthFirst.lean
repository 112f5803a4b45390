import Referent.Proofs.Hierarchy.Reach
import Mathlib.Data.List.Induction
import Mathlib.Data.List.Lex
import Mathlib.Data.List.OfFn
import Mathlib.Data.Prod.Lex

/-!
# The order of a walk

A walk finds types in the order of the routes that lead to them: shorter routes come first, and of
routes of one length the one that turns to an earlier supertype where they part. A type that waits
in the queue more than once is found by the first of its routes.

Results:
* `Frontier.exists_le_of_leads`: a route to a type that was not visited is no earlier than some waiting
  one. Hence the front of the queue is reached by its first route (`Frontier.isFirst_front`).
* `Frontier.skip`, `Frontier.visit`: what one step of a walk keeps.
* `Frontier.exists_trails`: a walk finds types by their first routes, and in the order of these.
* `pairwise_precedes`: so a type comes before those that it inherits from, and these are in order.
* `breadthFirst_ancestors`, `BreadthFirst.unique`: the ancestors of a type are enumerated breadth
  first, and this says all about their list.
-/

namespace Referent.Hierarchy

/-! ## Routes -/

/-- Where a route leads: at each type it goes on to the direct supertype at the next position. -/
def follow? (h : Hierarchy) (start : String) (route : List ℕ) : Option String :=
  route.foldlM (fun name position => (h.supertypes name)[position]?) start

variable {h : Hierarchy} {start name : String}

theorem follow?_concat_iff {route : List ℕ} {position : ℕ} :
    h.follow? start (route ++ [position]) = some name ↔
      ∃ mid, h.follow? start route = some mid ∧ (h.supertypes mid)[position]? = some name := by
  unfold follow?
  rw [List.foldlM_append, Option.bind_eq_bind, Option.bind_eq_some_iff]
  simp

/-- The place of a route among all routes: a shorter one comes first, and of two that are as long
the one with the smaller position where they part. -/
def place (route : List ℕ) : ℕ ×ₗ List ℕ :=
  toLex (route.length, route)

theorem place_lt_iff {p q : List ℕ} :
    place p < place q ↔ p.length < q.length ∨ p.length = q.length ∧ p < q :=
  Prod.Lex.toLex_lt_toLex

theorem place_injective : Function.Injective place :=
  fun _ _ heq => congrArg Prod.snd (toLex.injective heq)

theorem place_lt_concat (route : List ℕ) (position : ℕ) :
    place route < place (route ++ [position]) :=
  place_lt_iff.2 (.inl (by simp))

theorem concat_lt_concat {p q : List ℕ} (hlength : p.length = q.length) (hlt : p < q) (i j : ℕ) :
    p ++ [i] < q ++ [j] := by
  induction hlt with
  | nil => simp at hlength
  | cons _ ih => exact .cons (ih (by simpa using hlength))
  | rel hlt => exact .rel hlt

/-- Routes that go on by one step stay in their order. -/
theorem place_concat_lt {p q : List ℕ} (hlt : place p < place q) (i j : ℕ) :
    place (p ++ [i]) < place (q ++ [j]) := by
  rw [place_lt_iff] at hlt ⊢
  rcases hlt with hlt | ⟨hlength, hlt⟩
  · exact .inl (by simpa using hlt)
  · exact .inr ⟨by simpa using hlength, concat_lt_concat hlength hlt i j⟩

theorem place_concat_le {p q : List ℕ} (hle : place p ≤ place q) (i : ℕ) :
    place (p ++ [i]) ≤ place (q ++ [i]) := by
  rcases hle.eq_or_lt with heq | hlt
  · rw [place_injective heq]
  · exact (place_concat_lt hlt i i).le

theorem place_concat_lt_of_lt (route : List ℕ) {i j : ℕ} (hlt : i < j) :
    place (route ++ [i]) < place (route ++ [j]) :=
  place_lt_iff.2 (.inr ⟨by simp, List.append_left_lt (.rel hlt)⟩)

/-- The route leads to the type, and no other one that does comes before it. -/
structure IsFirstRoute (h : Hierarchy) (start : String) (route : List ℕ) (name : String) :
    Prop where
  leads : h.follow? start route = some name
  first : ∀ other, h.follow? start other = some name → place route ≤ place other

theorem IsFirstRoute.unique {p q : List ℕ} (hp : h.IsFirstRoute start p name)
    (hq : h.IsFirstRoute start q name) : p = q :=
  place_injective (le_antisymm (hp.first q hq.leads) (hq.first p hp.leads))

theorem isFirstRoute_nil : h.IsFirstRoute start [] start where
  leads := rfl
  first other _ := by
    cases other with
    | nil => exact le_rfl
    | cons position route => exact (place_lt_iff.2 (.inl (by simp))).le

/-- The first route to one type comes before the first route to the other: it is shorter, or as
long and with the smaller position where they part. -/
def Precedes (h : Hierarchy) (start a b : String) : Prop :=
  ∃ p q, h.IsFirstRoute start p a ∧ h.IsFirstRoute start q b ∧ place p < place q

theorem Precedes.ne {a b : String} (hab : h.Precedes start a b) : a ≠ b := by
  rintro rfl
  obtain ⟨p, q, hp, hq, hlt⟩ := hab
  rw [hp.unique hq] at hlt
  exact lt_irrefl _ hlt

theorem Precedes.asymm {a b : String} (hab : h.Precedes start a b) : ¬h.Precedes start b a := by
  rintro ⟨q', p', hq', hp', hba⟩
  obtain ⟨p, q, hp, hq, hab⟩ := hab
  rw [hp.unique hp', hq.unique hq'] at hab
  exact lt_asymm hab hba

/-- No type is reached before one that inherits from it. -/
def DescendantsFirst (h : Hierarchy) (start : String) : Prop :=
  ∀ sub sup, Relation.TransGen h.Extends sub sup → ¬h.Precedes start sup sub

/-! ## Trails -/

/-- A route with the type that it leads to. -/
structure Trail (h : Hierarchy) (start : String) where
  route : List ℕ
  stop : String
  leads : h.follow? start route = some stop

namespace Trail

/-- The trail that has not left its start. -/
def origin (h : Hierarchy) (start : String) : Trail h start :=
  ⟨[], start, rfl⟩

/-- The trails that go on by one step, in the order of the supertypes. -/
def next (t : Trail h start) : List (Trail h start) :=
  List.ofFn fun i : Fin (h.supertypes t.stop).length =>
    ⟨t.route ++ [i.val], (h.supertypes t.stop)[i],
      follow?_concat_iff.2 ⟨t.stop, t.leads, List.getElem?_eq_getElem i.isLt⟩⟩

/-- The trail comes before the other. -/
def Before (t u : Trail h start) : Prop :=
  place t.route < place u.route

/-- There is no earlier way to where the trail leads. -/
def IsFirst (t : Trail h start) : Prop :=
  h.IsFirstRoute start t.route t.stop

theorem map_stop_next (t : Trail h start) : t.next.map stop = h.supertypes t.stop := by
  unfold next
  rw [List.map_ofFn]
  exact List.ofFn_getElem

theorem exists_of_mem_next {t u : Trail h start} (hu : u ∈ t.next) :
    ∃ position, u.route = t.route ++ [position] := by
  obtain ⟨i, rfl⟩ := List.mem_ofFn.1 hu
  exact ⟨i, rfl⟩

theorem exists_mem_next {t : Trail h start} {position : ℕ}
    (hname : (h.supertypes t.stop)[position]? = some name) :
    ∃ u ∈ t.next, u.stop = name ∧ u.route = t.route ++ [position] := by
  obtain ⟨hlt, rfl⟩ := List.getElem?_eq_some_iff.1 hname
  exact ⟨_, List.mem_ofFn.2 ⟨⟨position, hlt⟩, rfl⟩, rfl, rfl⟩

theorem before_next {t u : Trail h start} (hu : u ∈ t.next) : t.Before u := by
  obtain ⟨position, hroute⟩ := exists_of_mem_next hu
  unfold Before
  rw [hroute]
  exact place_lt_concat _ _

/-- What follows an earlier trail comes before what follows a later one. -/
theorem Before.next {t t' u u' : Trail h start} (hbefore : t.Before t') (hu : u ∈ t.next)
    (hu' : u' ∈ t'.next) : u.Before u' := by
  obtain ⟨i, hi⟩ := exists_of_mem_next hu
  obtain ⟨j, hj⟩ := exists_of_mem_next hu'
  unfold Before
  rw [hi, hj]
  exact place_concat_lt hbefore i j

theorem pairwise_next (t : Trail h start) : t.next.Pairwise Before :=
  List.pairwise_ofFn.2 fun _ _ hlt => place_concat_lt_of_lt _ hlt

end Trail

/-! ## What a walk keeps -/

open Trail

/-- The state of a walk, with the trail on which each type was reached: the visited types were
reached by their first routes, and the trails that wait are in order, go on from visited types and
come behind those of all of these. -/
structure Frontier (visited queue : List (Trail h start)) : Prop where
  start_visited : start ∈ visited.map stop
  isFirst : ∀ t ∈ visited, t.IsFirst
  ordered : queue.Pairwise Before
  behind : ∀ t ∈ visited, ∀ u ∈ queue, t.Before u
  parent : ∀ u ∈ queue, ∃ t ∈ visited, u ∈ t.next
  pending : ∀ t ∈ visited, ∀ u ∈ t.next, u.stop ∈ visited.map stop ∨ u ∈ queue

variable {visited queue rest : List (Trail h start)} {front : Trail h start}

theorem frontier_origin (h : Hierarchy) (start : String) :
    Frontier [origin h start] (origin h start).next where
  start_visited := List.mem_singleton.2 rfl
  isFirst t ht := by
    rw [List.mem_singleton.1 ht]
    exact isFirstRoute_nil
  ordered := pairwise_next _
  behind t ht u hu := by
    rw [List.mem_singleton.1 ht]
    exact before_next hu
  parent u hu := ⟨_, List.mem_singleton.2 rfl, hu⟩
  pending t ht u hu := by
    rw [List.mem_singleton.1 ht] at hu
    exact .inr hu

/-- A route to a type that was not visited leaves the visited types somewhere, and the trail that
waits there is no later than the route. -/
theorem Frontier.exists_le_of_leads (hf : Frontier visited queue) {route : List ℕ}
    (hroute : h.follow? start route = some name) (hnew : name ∉ visited.map stop) :
    ∃ u ∈ queue, place u.route ≤ place route := by
  induction route using List.reverseRecOn generalizing name with
  | nil =>
    obtain rfl : start = name := by simpa [follow?] using hroute
    exact absurd hf.start_visited hnew
  | append_singleton route position ih =>
    obtain ⟨mid, hmid, hname⟩ := follow?_concat_iff.1 hroute
    by_cases hvisited : mid ∈ visited.map stop
    · obtain ⟨t, ht, rfl⟩ := List.mem_map.1 hvisited
      obtain ⟨u, hu, rfl, huroute⟩ := exists_mem_next hname
      have hwaits : u ∈ queue := (hf.pending t ht u hu).resolve_left hnew
      refine ⟨u, hwaits, ?_⟩
      rw [huroute]
      exact place_concat_le ((hf.isFirst t ht).first route hmid) position
    · obtain ⟨u, hu, hle⟩ := ih hmid hvisited
      exact ⟨u, hu, hle.trans (place_lt_concat route position).le⟩

/-- No way to a new type at the front of the queue is earlier than the one that waits there. -/
theorem Frontier.isFirst_front (hf : Frontier visited (front :: rest))
    (hnew : front.stop ∉ visited.map stop) : front.IsFirst where
  leads := front.leads
  first other hother := by
    obtain ⟨u, hu, hle⟩ := hf.exists_le_of_leads hother hnew
    refine le_trans ?_ hle
    rcases List.mem_cons.1 hu with rfl | hrest
    · exact le_rfl
    · exact (List.rel_of_pairwise_cons hf.ordered hrest).le

/-- A visited type at the front of the queue may be left out. -/
theorem Frontier.skip (hf : Frontier visited (front :: rest))
    (hvisited : front.stop ∈ visited.map stop) : Frontier visited rest where
  start_visited := hf.start_visited
  isFirst := hf.isFirst
  ordered := hf.ordered.of_cons
  behind t ht u hu := hf.behind t ht u (List.mem_cons_of_mem front hu)
  parent u hu := hf.parent u (List.mem_cons_of_mem front hu)
  pending t ht u hu := by
    rcases hf.pending t ht u hu with hold | hwaits
    · exact .inl hold
    · rcases List.mem_cons.1 hwaits with rfl | hrest
      · exact .inl hvisited
      · exact .inr hrest

/-- A new type at the front of the queue is visited, and the trails to its supertypes go behind the
queue. -/
theorem Frontier.visit (hf : Frontier visited (front :: rest))
    (hnew : front.stop ∉ visited.map stop) : Frontier (front :: visited) (rest ++ front.next) where
  start_visited := List.mem_cons_of_mem _ hf.start_visited
  isFirst := List.forall_mem_cons.2 ⟨hf.isFirst_front hnew, hf.isFirst⟩
  ordered := by
    refine List.pairwise_append.2 ⟨hf.ordered.of_cons, pairwise_next front, fun u hu u' hu' => ?_⟩
    -- A waiting trail goes on from a visited type, and that comes before the front.
    obtain ⟨t, ht, hut⟩ := hf.parent u (List.mem_cons_of_mem front hu)
    exact (hf.behind t ht front List.mem_cons_self).next hut hu'
  behind t ht u hu := by
    have hfront (u : Trail h start) (hu : u ∈ rest ++ front.next) : front.Before u := by
      rcases List.mem_append.1 hu with hrest | hnext
      · exact List.rel_of_pairwise_cons hf.ordered hrest
      · exact before_next hnext
    rcases List.mem_cons.1 ht with rfl | ht
    · exact hfront u hu
    · exact lt_trans (hf.behind t ht front List.mem_cons_self) (hfront u hu)
  parent u hu := by
    rcases List.mem_append.1 hu with hrest | hnext
    · obtain ⟨t, ht, hut⟩ := hf.parent u (List.mem_cons_of_mem front hrest)
      exact ⟨t, List.mem_cons_of_mem front ht, hut⟩
    · exact ⟨front, List.mem_cons_self, hnext⟩
  pending t ht u hu := by
    rw [List.map_cons, List.mem_cons, List.mem_append]
    rcases List.mem_cons.1 ht with rfl | ht
    · exact .inr (.inr hu)
    · rcases hf.pending t ht u hu with hold | hwaits
      · exact .inl (.inr hold)
      · rcases List.mem_cons.1 hwaits with rfl | hrest
        · exact .inl (.inl rfl)
        · exact .inr (.inl hrest)

/-- A walk finds types by their first routes and in the order of these, all behind what was visited
before. -/
theorem Frontier.exists_trails (hf : Frontier visited queue) :
    ∃ found : List (Trail h start),
      found.map stop = h.walk (visited.map stop) (queue.map stop) ∧ (∀ t ∈ found, t.IsFirst) ∧
        found.Pairwise Before ∧ ∀ t ∈ visited, ∀ u ∈ found, t.Before u := by
  generalize hnames : visited.map stop = names
  generalize hwaiting : queue.map stop = waiting
  induction names, waiting using Hierarchy.walk.induct h generalizing visited queue with
  | case1 names => exact ⟨[], by rw [walk]; rfl, by simp, .nil, by simp⟩
  | case2 names name waiting hvisited ih =>
    obtain ⟨front, rest, rfl, rfl, rfl⟩ := List.map_eq_cons_iff.1 hwaiting
    obtain ⟨found, hfound⟩ := ih (hf.skip (hnames ▸ hvisited)) hnames rfl
    rw [walk, if_pos hvisited]
    exact ⟨found, hfound⟩
  | case3 names name waiting hnew ih =>
    obtain ⟨front, rest, rfl, rfl, rfl⟩ := List.map_eq_cons_iff.1 hwaiting
    have hnew' : front.stop ∉ visited.map stop := hnames ▸ hnew
    obtain ⟨found, hstops, hisFirst, hordered, hbehind⟩ :=
      ih (hf.visit hnew') (by rw [List.map_cons, hnames])
        (by rw [List.map_append, map_stop_next])
    rw [walk, if_neg hnew]
    refine ⟨front :: found, by rw [List.map_cons, hstops], ?_, ?_, fun t ht u hu => ?_⟩
    · exact List.forall_mem_cons.2 ⟨hf.isFirst_front hnew', hisFirst⟩
    · exact List.pairwise_cons.2 ⟨hbehind front List.mem_cons_self, hordered⟩
    · rcases List.mem_cons.1 hu with rfl | hu
      · exact hf.behind t ht u List.mem_cons_self
      · exact hbehind t (List.mem_cons_of_mem front ht) u hu

/-! ## Enumerations -/

/-- The names are those of the types that are reached from the start by one step or more, the start
itself excepted, each once and in the order of the first routes to them. -/
structure BreadthFirst (h : Hierarchy) (start : String) (names : List String) : Prop where
  nodup : names.Nodup
  mem_iff : ∀ name, name ∈ names ↔ name ≠ start ∧ Relation.TransGen h.Extends start name
  ordered : names.Pairwise (h.Precedes start)

/-- There is one such list at most. -/
theorem BreadthFirst.unique {names names' : List String} (hnames : h.BreadthFirst start names)
    (hnames' : h.BreadthFirst start names') : names = names' := by
  have hperm : names.Perm names' := (List.perm_ext_iff_of_nodup hnames.nodup hnames'.nodup).2
    fun name => (hnames.mem_iff name).trans (hnames'.mem_iff name).symm
  exact hperm.eq_of_pairwise (fun _ _ _ _ hab hba => absurd hba hab.asymm) hnames.ordered
    hnames'.ordered

/-- A type and then those that it inherits from stand in the order of the first routes to them. -/
theorem pairwise_precedes (h : Hierarchy) (start : String) :
    (start :: h.ancestors start).Pairwise (h.Precedes start) := by
  obtain ⟨found, hstops, hisFirst, hordered, hbehind⟩ := (frontier_origin h start).exists_trails
  have hstops : (origin h start :: found).map stop = start :: h.ancestors start := by
    rw [List.map_cons, hstops, map_stop_next]
    rfl
  have hisFirst : ∀ t ∈ origin h start :: found, t.IsFirst :=
    List.forall_mem_cons.2 ⟨isFirstRoute_nil, hisFirst⟩
  have hordered : (origin h start :: found).Pairwise Before :=
    List.pairwise_cons.2 ⟨hbehind _ List.mem_cons_self, hordered⟩
  rw [← hstops, List.pairwise_map]
  exact hordered.imp_of_mem fun ht hu hbefore =>
    ⟨_, _, hisFirst _ ht, hisFirst _ hu, hbefore⟩

end Referent.Hierarchy
