import Mathlib.Data.List.TakeWhile
import Referent.Universe

/-!
# The order of imports

An import statement imports one type, or a package on demand, and its spelling tells which. The names
to try for a simple name are put together from the two kinds apart, so that a statement of one kind may
stand before or behind those of the other. Packages that are imported on demand come last of all: more
of them behind the others are tried only where nothing was found before.

Results:
* `package?_eq_some_iff`, `lastSegment_eq_iff`: what a statement imports, by its spelling.
* `exists_interleaves`, `candidates_of_interleaves`: every list of statements is made up of both kinds,
  and their orders make up the order of candidates.
* `TypeStore.findType?_append`: packages imported behind the others hide nothing that is found.
* `candidates_by_kind`: import order matters only within a kind, and not before the imports that every
  script has.
-/

namespace Referent

/-! ## Interleaved lists -/

/-- The third list is made up of the items of the other two, those of each in their order. -/
inductive Interleaves {α : Type*} : List α → List α → List α → Prop
  | nil : Interleaves [] [] []
  | left (x : α) {xs ys zs : List α} (h : Interleaves xs ys zs) : Interleaves (x :: xs) ys (x :: zs)
  | right (y : α) {xs ys zs : List α} (h : Interleaves xs ys zs) : Interleaves xs (y :: ys) (y :: zs)

namespace Interleaves

variable {α β : Type*} {xs ys zs : List α}

theorem symm (h : Interleaves xs ys zs) : Interleaves ys xs zs := by
  induction h with
  | nil => exact .nil
  | left x _ ih => exact .right x ih
  | right y _ ih => exact .left y ih

/-- What is taken from the items of one list alone is taken in its order. -/
theorem filterMap_eq (h : Interleaves xs ys zs) {f : α → Option β} (hys : ∀ y ∈ ys, f y = none) :
    zs.filterMap f = xs.filterMap f := by
  induction h with
  | nil => rfl
  | left x _ ih => rw [List.filterMap_cons, List.filterMap_cons, ih hys]
  | right y _ ih =>
    rw [List.forall_mem_cons] at hys
    rw [List.filterMap_cons_none hys.1, ih hys.2]

theorem filter_eq (h : Interleaves xs ys zs) {p : α → Bool} (hys : ∀ y ∈ ys, p y = false) :
    zs.filter p = xs.filter p := by
  rw [← List.filterMap_eq_filter]
  exact h.filterMap_eq fun y hy => by simp [Option.guard, hys y hy]

end Interleaves

namespace Imports

variable {statement package name : String}

/-! ## Statements -/

/-- The statement that imports a package on demand. -/
def onDemand (package : String) : String :=
  package ++ ".*"

/-- The statement imports some package on demand. -/
def IsOnDemand (statement : String) : Prop :=
  ∃ package, statement = onDemand package

/-- The statement is the simple name itself, or the name in some package. -/
def Names (name statement : String) : Prop :=
  '.' ∉ name.toList ∧ (statement = name ∨ ∃ package, statement = package ++ "." ++ name)

theorem package?_eq_some_iff : package? statement = some package ↔ statement = onDemand package := by
  have hstatement : statement = onDemand package ↔
      statement.toList.reverse = '*' :: '.' :: package.toList.reverse := by
    rw [onDemand, ← String.toList_inj, String.toList_append, ← List.reverse_inj,
      List.reverse_append]
    rfl
  rw [hstatement, package?]
  split
  next rest hrest =>
    rw [hrest, Option.some.injEq, List.cons.injEq, List.cons.injEq]
    simp [← String.toList_inj, List.reverse_eq_iff]
  next hother => simpa using hother package.toList.reverse

theorem package?_eq_none_iff : package? statement = none ↔ ¬IsOnDemand statement := by
  rw [Option.eq_none_iff_forall_ne_some, IsOnDemand, not_exists]
  simp only [ne_eq, package?_eq_some_iff]

/-- What stands before the first of some character is all, or has that character behind it. -/
theorem takeWhile_ne_eq_iff {a : Char} {cs ds : List Char} :
    cs.takeWhile (· ≠ a) = ds ↔ a ∉ ds ∧ (cs = ds ∨ ∃ rest, cs = ds ++ a :: rest) := by
  constructor
  · rintro rfl
    refine ⟨fun ha => by simpa using List.mem_takeWhile_imp ha, ?_⟩
    have hcs := List.takeWhile_append_dropWhile (p := (· ≠ a)) (l := cs)
    cases hdrop : cs.dropWhile (· ≠ a) with
    | nil =>
      rw [hdrop, List.append_nil] at hcs
      exact .inl hcs.symm
    | cons c rest =>
      have hc := List.head?_dropWhile_not (· ≠ a) cs
      rw [hdrop] at hc
      obtain rfl : c = a := by simpa using hc
      rw [hdrop] at hcs
      exact .inr ⟨rest, hcs.symm⟩
  · rintro ⟨ha, hcs⟩
    have hall : ∀ d ∈ ds, decide (d ≠ a) = true := fun d hd =>
      decide_eq_true (ne_of_mem_of_not_mem hd ha)
    rcases hcs with rfl | ⟨rest, rfl⟩
    · exact List.takeWhile_eq_self_iff.2 hall
    · rw [List.takeWhile_append_of_pos hall, List.takeWhile_cons_of_neg (by simp), List.append_nil]

/-- The last segment is what stands behind the last point, or everything if there is none. -/
theorem lastSegment_eq_iff : lastSegment statement = name ↔ Names name statement := by
  have hname (cs : List Char) : String.ofList cs.reverse = name ↔ cs = name.toList.reverse := by
    rw [← String.toList_inj, String.toList_ofList, List.reverse_eq_iff]
  have hpackage : (∃ rest, statement.toList.reverse = name.toList.reverse ++ '.' :: rest) ↔
      ∃ package, statement = package ++ "." ++ name := by
    constructor
    · rintro ⟨rest, hrest⟩
      refine ⟨String.ofList rest.reverse, String.toList_injective ?_⟩
      rw [List.reverse_eq_iff] at hrest
      simp [hrest]
    · rintro ⟨package, rfl⟩
      exact ⟨package.toList.reverse, by simp⟩
  rw [lastSegment, hname, takeWhile_ne_eq_iff, hpackage, List.mem_reverse, List.reverse_inj,
    String.toList_inj, Names]

instance (name statement : String) : Decidable (Names name statement) :=
  decidable_of_iff _ lastSegment_eq_iff

theorem importsType_iff :
    importsType name statement = true ↔ ¬IsOnDemand statement ∧ Names name statement := by
  rw [importsType, Bool.and_eq_true, Option.isNone_iff_eq_none, package?_eq_none_iff, beq_iff_eq,
    lastSegment_eq_iff]

theorem importsType_onDemand : importsType name (onDemand package) = false :=
  Bool.eq_false_iff.2 fun h => (importsType_iff.1 h).1 ⟨package, rfl⟩

/-! ## Lists of statements -/

variable {singles packages statements : List String}

theorem filterMap_onDemand (packages : List String) :
    (packages.map onDemand).filterMap package? = packages := by
  have hpackage : package? ∘ onDemand = some :=
    funext fun _ => package?_eq_some_iff.2 rfl
  rw [List.filterMap_map, hpackage, List.filterMap_some]

/-- Every list of statements is made up of imports of types and of packages. -/
theorem exists_interleaves (statements : List String) :
    ∃ singles packages : List String, (∀ single ∈ singles, ¬IsOnDemand single) ∧
      Interleaves singles (packages.map onDemand) statements := by
  induction statements with
  | nil => exact ⟨[], [], by simp, .nil⟩
  | cons statement statements ih =>
    obtain ⟨singles, packages, hsingles, hstatements⟩ := ih
    by_cases hstatement : IsOnDemand statement
    · obtain ⟨package, rfl⟩ := hstatement
      exact ⟨singles, package :: packages, hsingles, .right _ hstatements⟩
    · exact ⟨statement :: singles, packages, List.forall_mem_cons.2 ⟨hstatement, hsingles⟩,
        .left _ hstatements⟩

/-- Where imports of packages stand among those of types is of no matter. -/
theorem candidates_of_interleaves (hsingles : ∀ single ∈ singles, ¬IsOnDemand single)
    (hstatements : Interleaves singles (packages.map onDemand) statements) (package : Option String)
    (name : String) :
    candidates ⟨package, statements⟩ name =
      singles.filter (Names name ·) ++ package.toList.map (· ++ "." ++ name) ++
        packages.map (· ++ "." ++ name) := by
  have htypes : statements.filter (importsType name) = singles.filter (Names name ·) := by
    rw [hstatements.filter_eq (List.forall_mem_map.2 fun _ _ => importsType_onDemand)]
    refine List.filter_congr fun single hsingle => ?_
    rw [Bool.eq_iff_iff, importsType_iff, decide_eq_true_iff]
    exact and_iff_right (hsingles single hsingle)
  have hpackages : statements.filterMap package? = packages := by
    rw [hstatements.symm.filterMap_eq fun single hsingle =>
      package?_eq_none_iff.2 (hsingles single hsingle)]
    exact filterMap_onDemand packages
  rw [candidates, htypes, hpackages]
  rfl

/-- Packages that are imported behind all other statements are tried last. -/
theorem candidates_append (imports : Imports) (packages : List String) (name : String) :
    (imports.append (packages.map onDemand)).candidates name =
      imports.candidates name ++ packages.map (qualify name) := by
  have htypes : (packages.map onDemand).filter (importsType name) = [] :=
    List.filter_eq_nil_iff.2 <| List.forall_mem_map.2 fun _ _ => by simp [importsType_onDemand]
  simp only [candidates, append, List.filter_append, List.filterMap_append, htypes, List.append_nil,
    filterMap_onDemand, List.map_append, List.append_assoc]

end Imports

/-! ## Types found through imports -/

/-- Every script imports packages only. -/
theorem Delegation.scriptImports_eq :
    scriptImports = (scriptImports.filterMap Imports.package?).map Imports.onDemand := by
  decide

/-- A type that is found goes on to be found if packages are imported behind the other statements. -/
theorem TypeStore.findType?_append {s : TypeStore} {imports : Imports} {name : String} {d : TypeDecl}
    (hfind : s.system.findType? imports name = some d) (packages : List String) :
    s.system.findType? (imports.append (packages.map Imports.onDemand)) name = some d := by
  unfold TypeSystem.findType? at hfind ⊢
  cases htype : s.system.typeOf? name with
  | some e =>
    rw [htype, Option.some_or] at hfind
    rw [Option.some_or, hfind]
  | none =>
    rw [htype, Option.none_or] at hfind
    rw [Option.none_or]
    obtain ⟨found, hresolve, hfound⟩ := Option.bind_eq_some_iff.1 hfind
    have hresolve : (imports.candidates name).find? s.contains = some found := hresolve
    refine Option.bind_eq_some_iff.2 ⟨found, ?_, hfound⟩
    show ((imports.append _).candidates name).find? s.contains = some found
    rw [Imports.candidates_append, List.find?_append, hresolve, Option.some_or]

/-- Import order matters only within a kind, and the imports that every script has change no name that
is resolved without them. Every list of statements is made up of statements that import a type and of
statements that import a package on demand. However these are interleaved, the candidates for a name
are the imported types of that name, then the name in the script's own package, then the name in each
of the other packages. A type that is found under the imports of a universe is also found, and no other
one, where the imports of every script come behind them. -/
theorem Imports.candidates_by_kind :
    (∀ statements, ∃ singles packages : List String, (∀ single ∈ singles, ¬IsOnDemand single) ∧
      Interleaves singles (packages.map onDemand) statements) ∧
    (∀ singles packages : List String, (∀ single ∈ singles, ¬IsOnDemand single) →
      ∀ statements, Interleaves singles (packages.map onDemand) statements → ∀ package name,
        candidates ⟨package, statements⟩ name =
          singles.filter (Names name ·) ++ package.toList.map (· ++ "." ++ name) ++
            packages.map (· ++ "." ++ name)) ∧
    ∀ (u : Universe) (s : TypeStore), u.store = .ok s → ∀ name d,
      s.system.findType? u.context name = some d →
        s.system.findType? u.resolutionContext name = some d := by
  refine ⟨exists_interleaves, ?_, ?_⟩
  · intro singles packages hsingles statements hstatements package name
    exact candidates_of_interleaves hsingles hstatements package name
  · intro u s _ name d hfind
    rw [Universe.resolutionContext, Delegation.scriptImports_eq]
    exact TypeStore.findType?_append hfind _

/-- Two imports of types among two of packages, and a universe with a type of its own that is named
like one of the build tool. Another type of the build tool is found through the imports that every
script has, and not without them. -/
theorem Imports.candidates_by_kind_task :
    let singles := ["a.Task", "b.Copy"]
    let packages := ["c", "d"]
    let statements := ["c.*", "a.Task", "d.*", "b.Copy"]
    let u : Universe := ⟨["b.*"], [.ofClass "org.gradle.api.Task", .ofClass "b.Task",
      .ofInterface "org.gradle.api.Project"], []⟩
    let s : TypeStore := ⟨u.types⟩
    (∀ single ∈ singles, ¬IsOnDemand single) ∧
      Interleaves singles (packages.map onDemand) statements ∧
      candidates ⟨some "p", statements⟩ "Task" = ["a.Task", "p.Task", "c.Task", "d.Task"] ∧
      u.store = .ok s ∧
      s.system.findType? u.context "Task" = some (.ofClass "b.Task") ∧
      s.system.findType? u.resolutionContext "Task" = some (.ofClass "b.Task") ∧
      s.system.findType? u.context "Project" = none ∧
      s.system.findType? u.resolutionContext "Project" =
        some (.ofInterface "org.gradle.api.Project") := by
  intro singles packages statements u s
  obtain ⟨-, hcandidates, hfound⟩ := candidates_by_kind
  have hsingles : ∀ single ∈ singles, ¬IsOnDemand single := by
    have hnone : ∀ single ∈ singles, package? single = none := by decide
    exact fun single hsingle => package?_eq_none_iff.1 (hnone single hsingle)
  have hstatements : Interleaves singles (packages.map onDemand) statements :=
    .right "c.*" (.left "a.Task" (.right "d.*" (.left "b.Copy" .nil)))
  have hstore : u.store = .ok s := by rfl
  have hfind : s.system.findType? u.context "Task" = some (.ofClass "b.Task") := by rfl
  have hnone : s.system.findType? u.context "Project" = none := by rfl
  have hproject : s.system.findType? u.resolutionContext "Project" =
      some (.ofInterface "org.gradle.api.Project") := by rfl
  refine ⟨hsingles, hstatements, ?_, hstore, hfind, hfound u s hstore "Task" _ hfind, hnone,
    hproject⟩
  rw [hcandidates singles packages hsingles statements hstatements]
  decide

end Referent
