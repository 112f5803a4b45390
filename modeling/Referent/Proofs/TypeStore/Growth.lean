import Referent.Proofs.Assignability
import Referent.Proofs.Resolution.Deferral
import Referent.Proofs.TypeStore.Runs

/-!
# Growing stores

An insertion keeps every type that is found, and so does a run of them. What a type inherits, the
methods that it has and the calls that it serves then only become more, although a type that was
merely mentioned may get supertypes and members, and ancestors may change their order.

Results:
* `isSubtype_mono`, `isAssignable_mono`: with more inheritance more types are subtypes, and more can
  be passed.
* `keptBy_insertAll`: a run of insertions keeps every type that is found.
* `KeptBy.inherits`, `KeptBy.hasMethod`, `KeptBy.serves?`: what a type inherits, has and serves is
  kept with it.
* `insertAll_mono`: no run of insertions takes an answer back that was positive.
-/

namespace Referent

open Relation

namespace TypeSystem

variable {ts ts' : TypeSystem} {a b : TypeExpr}

/-! ## More inheritance -/

/-- Subtyping asks whether a class inherits from another, and never whether it does not. -/
theorem isSubtype_mono (hinherits : ∀ a b, ts.inherits a b = true → ts'.inherits a b = true)
    (h : ts.isSubtype a b = true) : ts'.isSubtype a b = true := by
  induction a, b using isSubtype.induct with
  | case1 t => exact ts'.isSubtype_self t
  | case2 a b hne hobject =>
    rw [isSubtype_of_isObject a hobject] at h ⊢
    exact h
  | case3 a b hobject hne =>
    rw [isSubtype, if_neg hne, if_neg hobject] at h ⊢
    exact h
  | case4 a b hobject hne =>
    rw [isSubtype, if_neg hne, if_neg hobject] at h ⊢
    exact hinherits a b h
  | case5 base args b hobject hne ih =>
    rw [Bool.not_eq_true] at hobject
    rw [isSubtype_generic hne hobject] at h ⊢
    exact ih h
  | case6 a base args ha hobject hne ih =>
    rw [isSubtype, if_neg hne, if_neg hobject] at h ⊢
    · exact ih h
    all_goals exact ha
  | case7 a m b n hobject hne ih =>
    rw [isSubtype_array, Bool.and_eq_true, Bool.or_eq_true, Bool.and_eq_true] at h ⊢
    exact h.imp_right (Or.imp_right (And.imp_right ih))
  | case8 a b hne hobject hgeneric hgeneric' hbasic hdeclared harray =>
    rw [isSubtype, if_neg hne, if_neg hobject] at h
    · cases h
    all_goals assumption

/-- Of the rules for what may be passed, two ask for a subtype. -/
theorem Passes.mono (hsubtype : ∀ a b, ts.isSubtype a b = true → ts'.isSubtype a b = true)
    (h : Passes ts a b) : Passes ts' a b := by
  cases h with
  | unknown => exact .unknown b
  | toOpen hopen => exact .toOpen hopen
  | null hb => exact .null hb
  | subtype h => exact .subtype (hsubtype _ _ h)
  | boxing hb hbox h => exact .boxing hb hbox (hsubtype _ _ h)
  | unboxing hbox h => exact .unboxing hbox h

theorem isAssignable_mono (hinherits : ∀ a b, ts.inherits a b = true → ts'.inherits a b = true)
    (h : ts.isAssignable a b = true) : ts'.isAssignable a b = true := by
  rw [isAssignable_iff_passes] at h ⊢
  exact h.mono fun _ _ => isSubtype_mono hinherits

/-- Arguments pass wherever they did. -/
theorem forall₂_passesWherever (args : List TypeExpr)
    (hinherits : ∀ a b, ts.inherits a b = true → ts'.inherits a b = true) :
    List.Forall₂ (PassesWherever ts ts') args args :=
  List.forall₂_same.2 fun _ _ _ => isAssignable_mono hinherits

end TypeSystem

namespace TypeStore

/-! ## Types that are kept -/

/-- Every type that is found in the first store is found in the second. -/
def KeptBy (s t : TypeStore) : Prop :=
  ∀ name d, s.find? name = some d → t.find? name = some d

variable {s t u : TypeStore}

theorem KeptBy.refl (s : TypeStore) : s.KeptBy s :=
  fun _ _ hfind => hfind

theorem KeptBy.trans (hst : s.KeptBy t) (htu : t.KeptBy u) : s.KeptBy u :=
  fun name d hfind => htu name d (hst name d hfind)

/-- Types are searched from the front, and new ones go to the end. -/
theorem keptBy_append (s : TypeStore) (d : TypeDecl) : s.KeptBy (s.append d) := by
  intro name e hfind
  have hfind : s.decls.find? (·.name == name) = some e := hfind
  show (s.decls ++ [d.complete]).find? (·.name == name) = some e
  rw [List.find?_append, hfind, Option.some_or]

theorem keptBy_tryInsert (s : TypeStore) (d : TypeDecl) : s.KeptBy (s.tryInsert d) := by
  rw [tryInsert_eq]
  split_ifs with haccepts
  · exact s.keptBy_append d
  · exact .refl s

/-- A run of insertions keeps every type, whichever of them fail. -/
theorem keptBy_insertAll (s : TypeStore) (decls : List TypeDecl) :
    s.KeptBy (s.insertAll decls) := by
  induction decls generalizing s with
  | nil => exact .refl s
  | cons d decls ih => exact (s.keptBy_tryInsert d).trans (ih (s.tryInsert d))

/-! ## What is kept with the types -/

namespace KeptBy

variable {type : String} {m : Member}

theorem extends_le (h : s.KeptBy t) : s.hierarchy.Extends ≤ t.hierarchy.Extends := by
  intro sub sup hsup
  obtain ⟨d, hfind, hsup⟩ := mem_supertypes_iff.1 hsup
  exact mem_supertypes_iff.2 ⟨d, h sub d hfind, hsup⟩

/-- The ancestors may stand in another order, but each of them is still reached. -/
theorem mem_ancestors (h : s.KeptBy t) {owner : String}
    (howner : owner ∈ s.system.ancestors type) : owner ∈ t.system.ancestors type := by
  obtain ⟨hne, hpath⟩ := Hierarchy.mem_ancestors_iff.1 howner
  exact Hierarchy.mem_ancestors_iff.2 ⟨hne, TransGen.mono h.extends_le _ _ hpath⟩

theorem inherits (h : s.KeptBy t) (a b : String) (hab : s.system.inherits a b = true) :
    t.system.inherits a b = true :=
  inherits_iff.2 (ReflTransGen.mono h.extends_le _ _ (inherits_iff.1 hab))

theorem mem_members (h : s.KeptBy t) (hm : m ∈ s.members type) : m ∈ t.members type := by
  obtain ⟨d, hfind, hm⟩ := mem_members_iff.1 hm
  exact mem_members_iff.2 ⟨d, h type d hfind, hm⟩

theorem hasMethod (h : s.KeptBy t) (hm : s.system.HasMethod type m) :
    t.system.HasMethod type m := by
  obtain ⟨hkind, owner, howner, hm⟩ := hm
  exact ⟨hkind, owner, howner.imp_right h.mem_ancestors, h.mem_members hm⟩

theorem accepts (h : s.KeptBy t) {args : List TypeExpr} (haccepts : s.system.accepts m args = true) :
    t.system.accepts m args = true :=
  TypeSystem.accepts_mono (TypeSystem.forall₂_passesWherever args h.inherits) haccepts

theorem acceptsValue (h : s.KeptBy t) {args : List TypeExpr}
    (haccepts : s.system.acceptsValue m args = true) : t.system.acceptsValue m args = true :=
  TypeSystem.acceptsValue_mono (TypeSystem.forall₂_passesWherever args h.inherits) haccepts

theorem serves (h : s.KeptBy t) {name : String} {args : List TypeExpr}
    (hserves : s.system.Serves name args m) : t.system.Serves name args m := by
  rcases hserves with ⟨hname, haccepts⟩ | hgetter | ⟨hname, haccepts⟩
  · exact .inl ⟨hname, h.accepts haccepts⟩
  · exact .inr (.inl hgetter)
  · exact .inr (.inr ⟨hname, h.acceptsValue haccepts⟩)

/-- A call that is served goes on to be, if only by another convention that comes first. -/
theorem serves? (h : s.KeptBy t) {name : String} {call : Call} {receiver : String}
    (hserved : (s.system.serves? name call receiver).isSome = true) :
    (t.system.serves? name call receiver).isSome = true := by
  obtain ⟨hinvoked, m, hm, hserves⟩ := isSome_serves?_iff.1 hserved
  exact isSome_serves?_iff.2 ⟨hinvoked, m, h.hasMethod hm, h.serves hserves⟩

end KeptBy

/-! ## Runs of insertions -/

/-- Inserting types, whichever insertions fail, takes no answer back that was positive: subtypes
stay subtypes, what may be passed may still be, members that accept arguments or a value still do,
and calls that are served still are. This holds of all types, members, arguments, names and
receivers, whether they are declared or not. -/
theorem insertAll_mono (s : TypeStore) (decls : List TypeDecl) :
    let ts := s.system
    let ts' := (s.insertAll decls).system
    (∀ a b, ts.isSubtype a b = true → ts'.isSubtype a b = true) ∧
      (∀ a b, ts.isAssignable a b = true → ts'.isAssignable a b = true) ∧
      (∀ m args, ts.accepts m args = true → ts'.accepts m args = true) ∧
      (∀ m args, ts.acceptsValue m args = true → ts'.acceptsValue m args = true) ∧
      ∀ name call receiver, (ts.serves? name call receiver).isSome = true →
        (ts'.serves? name call receiver).isSome = true := by
  intro ts ts'
  have hkept : s.KeptBy (s.insertAll decls) := s.keptBy_insertAll decls
  refine ⟨?_, ?_, ?_, ?_, ?_⟩
  · intro a b
    exact TypeSystem.isSubtype_mono hkept.inherits
  · intro a b
    exact TypeSystem.isAssignable_mono hkept.inherits
  · intro m args
    exact hkept.accepts
  · intro m args
    exact hkept.acceptsValue
  · intro name call receiver
    exact hkept.serves?

/-- The first insertion fails, since the script is declared. The second declares a type that was
only mentioned before, with a supertype of which nothing was known. A text may be passed to `print`
only afterwards. -/
theorem insertAll_mono_string :
    let s := scriptStore
    let t := s.insertAll [.ofClass "a.Script",
      { TypeDecl.ofClass "java.lang.String" with interfaces := ["java.lang.CharSequence"] }]
    let script : TypeExpr := .declared "a.Script"
    let base : TypeExpr := .declared "a.Base"
    let setLevel := Member.method "a.Handler" "setLevel" [.single "v" (.basic "int")] .void
    let call : Call := ⟨some "foo", [.declared "java.lang.String"]⟩
    let string : TypeExpr := .declared "java.lang.String"
    let chars : TypeExpr := .declared "java.lang.CharSequence"
    let print := Member.method "a.Script" "print" [.single "v" chars] .void
    (s.system.isSubtype script base = true ∧ t.system.isSubtype script base = true) ∧
      (s.system.isAssignable script base = true ∧ t.system.isAssignable script base = true) ∧
      (s.system.accepts setLevel [.basic "int"] = true ∧
        t.system.accepts setLevel [.basic "int"] = true) ∧
      (s.system.acceptsValue setLevel [.basic "int"] = true ∧
        t.system.acceptsValue setLevel [.basic "int"] = true) ∧
      ((s.system.serves? "foo" call "a.Handler").isSome = true ∧
        (t.system.serves? "foo" call "a.Handler").isSome = true) ∧
      (s.system.isSubtype string chars = false ∧ t.system.isSubtype string chars = true) ∧
      (s.system.accepts print [string] = false ∧ t.system.accepts print [string] = true) := by
  intro s t script base setLevel call string chars print
  have hsubtype : s.system.isSubtype script base = true := by
    have hscript : script.DeclaredBases := trivial
    have hbase : base.DeclaredBases := trivial
    exact (TypeSystem.isSubtype_iff_below hscript hbase).2 (.inheritance inherits_scriptStore)
  have hassignable : s.system.isAssignable script base = true :=
    TypeSystem.isAssignable_iff_passes.2 (.subtype hsubtype)
  have haccepts : s.system.accepts setLevel [.basic "int"] = true :=
    s.system.accepts_own_types (m := setLevel) rfl
  have hvalue : s.system.acceptsValue setLevel [.basic "int"] = true :=
    s.system.acceptsValue_own_type (m := setLevel) rfl rfl
  have hmentioned : s.system.ancestors "java.lang.String" = [] := by cbv
  have hdecls : t = ⟨scriptStore.decls ++
      [{ TypeDecl.ofClass "java.lang.String" with interfaces := ["java.lang.CharSequence"] }]⟩ := by
    rfl
  have hdeclared : t.system.ancestors "java.lang.String" = ["java.lang.CharSequence"] := by
    rw [hdecls]
    cbv
  have hunrelated : s.system.isSubtype string chars = false := by
    simp [string, chars, TypeSystem.isSubtype, TypeSystem.inherits, hmentioned, TypeExpr.isObject,
      TypeExpr.name?, TypeExpr.objectName]
  have hrelated : t.system.isSubtype string chars = true := by
    simp [string, chars, TypeSystem.isSubtype, TypeSystem.inherits, hdeclared, TypeExpr.isObject,
      TypeExpr.name?, TypeExpr.objectName]
  have hprint (ts : TypeSystem) : ts.accepts print [string] = ts.isSubtype string chars := by
    have hpassed : ts.isAssignable string chars = ts.isSubtype string chars := by
      simp [string, chars, TypeSystem.isAssignable, TypeSystem.isConvertible, TypeSystem.isWildcard,
        TypeExpr.isNull]
    simp [print, TypeSystem.accepts, Member.method, Parameter.single, TypeSystem.acceptsFixed,
      TypeSystem.acceptsVarargs, hpassed]
  obtain ⟨hsubtype', hassignable', haccepts', hvalue', hserved'⟩ := s.insertAll_mono
    [.ofClass "a.Script",
      { TypeDecl.ofClass "java.lang.String" with interfaces := ["java.lang.CharSequence"] }]
  exact ⟨⟨hsubtype, hsubtype' _ _ hsubtype⟩, ⟨hassignable, hassignable' _ _ hassignable⟩,
    ⟨haccepts, haccepts' _ _ haccepts⟩, ⟨hvalue, hvalue' _ _ hvalue⟩,
    ⟨isSome_serves?_foo, hserved' _ _ _ isSome_serves?_foo⟩, ⟨hunrelated, hrelated⟩,
    ⟨(hprint s.system).trans hunrelated, (hprint t.system).trans hrelated⟩⟩

end TypeStore

end Referent
