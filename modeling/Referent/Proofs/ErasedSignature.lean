import Referent.Proofs.Assignability

/-!
# What a signature says about calls

Which calls a member can serve is decided by the erased types of its parameters and by which of
these take any number of arguments. The signature that tells members of one name apart holds the
former, so that of two members with one signature either can stand for the other.

* `Parameter.plain`, `Member.plain` — what a call sees of a parameter and of a member.

Results:
* `accepts_plain`: whether a member accepts a call is decided by what the call sees of it.
* `accepts_eq_of_key_eq`: members with one key and the same varargs marks accept the same calls.
-/

namespace Referent

/-- What a call sees of a parameter: the type that its erasure names, and the varargs mark. -/
def Parameter.plain (p : Parameter) : Parameter :=
  ⟨"", p.type.plain, p.isVarargs⟩

/-- The member with what a call sees of its parameters. -/
def Member.plain (m : Member) : Member :=
  { m with parameters := m.parameters.map (List.map Parameter.plain) }

theorem Member.plain_parameters {m : Member} (h : m.parameters.isSome = true) :
    m.plain.parameters = some (m.parameterList.map Parameter.plain) := by
  obtain ⟨params, hparams⟩ := Option.isSome_iff_exists.1 h
  rw [plain, parameterList, hparams]
  rfl

namespace TypeSystem

variable (ts : TypeSystem) {params : List Parameter}

theorem acceptsFixed_map_plain (h : ∀ p ∈ params, p.type.Regular) (args : List TypeExpr) :
    ts.acceptsFixed (params.map Parameter.plain) args = ts.acceptsFixed params args := by
  induction params generalizing args with
  | nil => rfl
  | cons p ps ih =>
    obtain ⟨hp, hps⟩ := List.forall_mem_cons.1 h
    cases args with
    | nil => rfl
    | cons a as =>
      rw [List.map_cons, acceptsFixed, acceptsFixed, ih hps, Parameter.plain,
        isAssignable_plain a hp]

theorem acceptsTail_plain {last : Parameter} {element : TypeExpr} (hlast : last.type.Regular)
    (helement : element.Regular) (args : List TypeExpr) :
    ts.acceptsTail last.plain element.plain args = ts.acceptsTail last element args := by
  unfold acceptsTail
  split
  · rfl
  · rw [Parameter.plain, isAssignable_plain _ hlast, isAssignable_plain _ helement]
  · congr 1
    funext a
    exact isAssignable_plain a helement

theorem acceptsVarargs_map_plain (h : ∀ p ∈ params, p.type.Regular) (args : List TypeExpr) :
    ts.acceptsVarargs (params.map Parameter.plain) args = ts.acceptsVarargs params args := by
  unfold acceptsVarargs
  rw [List.getLast?_map, List.length_map]
  cases hlast : params.getLast? with
  | none => rfl
  | some last =>
    have hregular : last.type.Regular := h last (List.mem_of_getLast? hlast)
    have hfixed : ∀ p ∈ params.take (params.length - 1), p.type.Regular :=
      fun p hp => h p (List.mem_of_mem_take hp)
    have hdimension : last.plain.type.withoutDimension =
        last.type.withoutDimension.map TypeExpr.plain := hregular.withoutDimension_plain
    dsimp only [Option.map_some]
    rw [hdimension, show last.plain.isVarargs = last.isVarargs from rfl]
    cases last.isVarargs with
    | false => rfl
    | true =>
      cases helement : last.type.withoutDimension with
      | none => rfl
      | some element =>
        have helement : element.Regular := hregular.withoutDimension helement
        dsimp only [Option.map_some]
        rw [← List.map_take, acceptsFixed_map_plain ts hfixed,
          acceptsTail_plain ts hregular helement]

theorem regular_parameters {m : Member} (h : ∀ t ∈ m.parameterTypes, t.Regular) :
    ∀ p ∈ m.parameterList, p.type.Regular :=
  fun p hp => h p.type (List.mem_map_of_mem hp)

/-- A call sees of a member what is left of its parameters. -/
theorem accepts_plain {m : Member} (h : ∀ t ∈ m.parameterTypes, t.Regular) (args : List TypeExpr) :
    ts.accepts m.plain args = ts.accepts m args := by
  have hregular := regular_parameters h
  unfold accepts Member.plain
  cases hparams : m.parameters with
  | none => rfl
  | some params =>
    obtain rfl : m.parameterList = params := by rw [Member.parameterList, hparams, Option.getD_some]
    dsimp only [Option.map_some]
    rw [acceptsFixed_map_plain ts hregular, acceptsVarargs_map_plain ts hregular]

/-! ## Members with one signature -/

theorem plain_eq {p q : Parameter} (hp : p.type.Regular) (hq : q.type.Regular)
    (herasure : p.type.erasure = q.type.erasure) (hmark : p.isVarargs = q.isVarargs) :
    p.plain = q.plain := by
  rw [Parameter.plain, Parameter.plain, hmark,
    hp.wellFormed.plain_eq_of_erasure_eq hq.wellFormed herasure]

/-- Parameters with the same erased types and varargs marks leave the same. -/
theorem map_plain_eq {ps qs : List Parameter} (hps : ∀ p ∈ ps, p.type.Regular)
    (hqs : ∀ q ∈ qs, q.type.Regular)
    (herasures : ps.map (·.type.erasure) = qs.map (·.type.erasure))
    (hmarks : ps.map (·.isVarargs) = qs.map (·.isVarargs)) :
    ps.map Parameter.plain = qs.map Parameter.plain := by
  induction ps generalizing qs with
  | nil =>
    rw [List.map_nil, eq_comm, List.map_eq_nil_iff] at herasures
    rw [herasures]
  | cons p ps ih =>
    cases qs with
    | nil => cases herasures
    | cons q qs =>
      obtain ⟨hp, hps⟩ := List.forall_mem_cons.1 hps
      obtain ⟨hq, hqs⟩ := List.forall_mem_cons.1 hqs
      obtain ⟨herasure, herasures⟩ := List.cons.inj herasures
      obtain ⟨hmark, hmarks⟩ := List.cons.inj hmarks
      rw [List.map_cons, List.map_cons, plain_eq hp hq herasure hmark, ih hps hqs herasures hmarks]

variable {m n : Member}

/-- Two members with parameter lists accept the same calls if they have one key and take any number
of arguments at the same positions. The types of the parameters are ones that can be written, with
no generic type on a basic one, and those of the arguments are any types. -/
theorem accepts_eq_of_key_eq
    (hm : ∀ t ∈ m.parameterTypes, (∃ text, TypeExpr.parse text = .ok t) ∧ t.NoBasicBase)
    (hn : ∀ t ∈ n.parameterTypes, (∃ text, TypeExpr.parse text = .ok t) ∧ t.NoBasicBase)
    (hmlist : m.parameters.isSome = true) (hnlist : n.parameters.isSome = true)
    (hkey : m.key = n.key)
    (hmarks : m.parameterList.map (·.isVarargs) = n.parameterList.map (·.isVarargs))
    (args : List TypeExpr) : ts.accepts m args = ts.accepts n args := by
  have hm' : ∀ t ∈ m.parameterTypes, t.Regular :=
    fun t ht => TypeExpr.regular_of_parse (hm t ht).1 (hm t ht).2
  have hn' : ∀ t ∈ n.parameterTypes, t.Regular :=
    fun t ht => TypeExpr.regular_of_parse (hn t ht).1 (hn t ht).2
  have herasures : m.parameterList.map (·.type.erasure) = n.parameterList.map (·.type.erasure) := by
    simpa [Member.key, Member.parameterTypes, Function.comp_def] using hkey
  have hplain : m.plain.parameters = n.plain.parameters := by
    rw [Member.plain_parameters hmlist, Member.plain_parameters hnlist,
      map_plain_eq (regular_parameters hm') (regular_parameters hn') herasures hmarks]
  rw [← accepts_plain ts hm' args, ← accepts_plain ts hn' args, accepts, accepts, hplain]

/-- A method with a list, a wildcard and any number of maps as parameters, written with arguments. -/
def copyMaps : Member :=
  .method "a.Script" "copy" [
    .single "names" (.generic (.declared "List") [.declared "T"]),
    .single "name" (.bounded true (.declared "T")),
    .varargs "maps" (.generic (.declared "Map") [.declared "K", .basic "int"])] .void

/-- The same without generic arguments, and with an unknown type in place of the wildcard. -/
def copyRawMaps : Member :=
  .method "a.Base" "copyAll" [
    .single "list" (.declared "List"), .single "item" .unknown,
    .varargs "others" (.declared "Map")] .void

/-- Both methods accept a list, an `int` and two maps. -/
theorem accepts_eq_of_key_eq_copyMaps :
    let args := [TypeExpr.declared "List", .basic "int",
      .generic (.declared "Map") [.unknown], .declared "Map"]
    copyMaps.key = copyRawMaps.key ∧ copyMaps ≠ copyRawMaps ∧
      empty.accepts copyMaps args = empty.accepts copyRawMaps args ∧
      empty.accepts copyRawMaps args = true := by
  intro args
  have hname (name : String) (h : (TypeExpr.isTypeName name.toList = true ∧
      name.toList.all TypeExpr.isNameChar = true) ∧ ¬TypeExpr.isBasicName name = true) :
      TypeExpr.WellFormed (.declared name) := TypeExpr.wellFormed_declared_iff.2 h
  have hT := hname "T" (by decide +kernel)
  have hK := hname "K" (by decide +kernel)
  have hList := hname "List" (by decide +kernel)
  have hMap := hname "Map" (by decide +kernel)
  have hint : TypeExpr.WellFormed (.basic "int") := .basic (.inl (by decide))
  have hnames : TypeExpr.WellFormed (.generic (.declared "List") [.declared "T"]) :=
    .generic hList rfl (by simp) (by simpa using hT)
  have hmaps : TypeExpr.WellFormed (.generic (.declared "Map") [.declared "K", .basic "int"]) :=
    .generic hMap rfl (by simp) (by simpa using ⟨hK, hint⟩)
  have hm : ∀ t ∈ copyMaps.parameterTypes,
      (∃ text, TypeExpr.parse text = .ok t) ∧ t.NoBasicBase := by
    simp only [copyMaps, Member.parameterTypes, Member.parameterList, Member.method,
      Option.getD_some, List.map_cons, List.map_nil, List.forall_mem_cons]
    refine ⟨⟨⟨_, hnames.parse_text⟩, fun name h => ?_⟩,
      ⟨⟨_, (TypeExpr.WellFormed.bounded hT).parse_text⟩, trivial⟩,
      ⟨⟨_, (TypeExpr.WellFormed.array hmaps (.inr rfl) (le_refl 1)).parse_text⟩, fun name h => ?_⟩,
      List.forall_mem_nil _⟩ <;> cases h
  have hn : ∀ t ∈ copyRawMaps.parameterTypes,
      (∃ text, TypeExpr.parse text = .ok t) ∧ t.NoBasicBase := by
    simp only [copyRawMaps, Member.parameterTypes, Member.parameterList, Member.method,
      Option.getD_some, List.map_cons, List.map_nil, List.forall_mem_cons]
    exact ⟨⟨⟨_, hList.parse_text⟩, trivial⟩, ⟨⟨_, TypeExpr.WellFormed.unknown.parse_text⟩, trivial⟩,
      ⟨⟨_, (TypeExpr.WellFormed.array hMap (.inl rfl) (le_refl 1)).parse_text⟩, trivial⟩,
      List.forall_mem_nil _⟩
  have hkey : copyMaps.key = copyRawMaps.key := by rfl
  have haccepts : empty.accepts copyRawMaps args = true := by decide +kernel
  exact ⟨hkey, by decide, accepts_eq_of_key_eq empty hm hn rfl rfl hkey rfl args, haccepts⟩

/-- Without the mark an array parameter takes one argument. -/
example :
    let array := TypeExpr.array (.declared "Map") 1
    empty.accepts (.method "a.Script" "copy" [⟨"maps", array, true⟩] .void) [] = true ∧
      empty.accepts (.method "a.Script" "copy" [⟨"maps", array, false⟩] .void) [] = false := by
  decide

end TypeSystem

end Referent
