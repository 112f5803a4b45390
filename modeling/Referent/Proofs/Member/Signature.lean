import Referent.Proofs.TypeExpr.RoundTrip
import Referent.Proofs.Varargs

/-!
# Signatures

A signature shows each parameter as source code declares it, with the type of one argument in front
of the dots of a varargs parameter. There is one exception. A varargs parameter keeps an array of
that type, and only an array of one dimension is shown without its brackets. If the arguments are
arrays themselves, all dimensions of the kept array are shown, which is one too many.

* `Forks`: two texts that go on with different characters behind what they share.
* `Parameter.Declared`: a parameter as source code declares it, and what is made of it.

Results:
* `forks_intercalate`: texts that are joined fork where the first of them do.
* `Parameter.Declared.shown_parameter`: what is shown of such a parameter.
* `Member.signature_eq_iff`: signatures are as source code would have them exactly if no parameter
  takes any number of arrays.
* `Member.not_signature_eq`: the signature of a method that takes rows of texts.
-/

namespace Referent

/-! ## Texts that fork -/

/-- The texts share a front, behind which each of them goes on with another character. -/
def Forks (s t : String) : Prop :=
  ∃ front c d cs ds, c ≠ d ∧ s.toList = front ++ c :: cs ∧ t.toList = front ++ d :: ds

namespace Forks

variable {s t : String}

theorem ne (h : Forks s t) : s ≠ t := by
  rintro rfl
  obtain ⟨front, c, d, cs, ds, hne, hs, ht⟩ := h
  rw [hs] at ht
  exact hne (List.cons.inj (List.append_cancel_left ht)).1

/-- Whatever stands behind them, they fork. -/
theorem append (h : Forks s t) (u v : String) : Forks (s ++ u) (t ++ v) := by
  obtain ⟨front, c, d, cs, ds, hne, hs, ht⟩ := h
  exact ⟨front, c, d, cs ++ u.toList, ds ++ v.toList, hne, by simp [hs], by simp [ht]⟩

theorem prepend (u : String) (h : Forks s t) : Forks (u ++ s) (u ++ t) := by
  obtain ⟨front, c, d, cs, ds, hne, hs, ht⟩ := h
  exact ⟨u.toList ++ front, c, d, cs, ds, hne, by simp [hs], by simp [ht]⟩

end Forks

/-- What is joined starts with the first text. -/
theorem exists_intercalate_cons (separator text : String) (texts : List String) :
    ∃ rest, separator.intercalate (text :: texts) = text ++ rest := by
  cases texts with
  | nil => exact ⟨"", by simp⟩
  | cons next texts =>
    exact ⟨separator ++ separator.intercalate (next :: texts), by
      rw [String.intercalate_cons_cons, String.append_assoc]⟩

/-- If texts are the same as their counterparts or fork, the joined texts fork where the first of
them do. -/
theorem forks_intercalate {α : Type} {f g : α → String} {as : List α} (separator : String)
    (hall : ∀ a ∈ as, f a = g a ∨ Forks (f a) (g a)) (hfork : ∃ a ∈ as, Forks (f a) (g a)) :
    Forks (separator.intercalate (as.map f)) (separator.intercalate (as.map g)) := by
  induction as with
  | nil => simp at hfork
  | cons a as ih =>
    rw [List.map_cons, List.map_cons]
    rcases hall a (by simp) with heq | ha
    · obtain ⟨b, hb, hforks⟩ := hfork
      have hmem : b ∈ as := (List.mem_cons.1 hb).resolve_left fun hba => by
        rw [hba] at hforks
        exact hforks.ne heq
      have hne : as ≠ [] := List.ne_nil_of_mem hmem
      rw [String.intercalate_cons_of_ne_nil (by simpa using hne),
        String.intercalate_cons_of_ne_nil (by simpa using hne), heq]
      exact (ih (fun a' ha' => hall a' (by simp [ha'])) ⟨b, hmem, hforks⟩).prepend _
    · obtain ⟨u, hu⟩ := exists_intercalate_cons separator (f a) (as.map f)
      obtain ⟨v, hv⟩ := exists_intercalate_cons separator (g a) (as.map g)
      rw [hu, hv]
      exact ha.append u v

/-! ## Arrays of arrays -/

namespace TypeExpr

theorem brackets_succ (dimensions : ℕ) :
    brackets (dimensions + 1) = brackets dimensions ++ "[]" := by
  unfold brackets
  rw [List.replicate_succ', String.join_append]
  rfl

theorem brackets_succ_front (dimensions : ℕ) :
    brackets (dimensions + 1) = "[]" ++ brackets dimensions := by
  unfold brackets
  rw [List.replicate_succ, String.join_cons]

/-- Two numbers of dimensions can be told apart by what stands behind the brackets. -/
theorem forks_brackets {m n : ℕ} (hne : m ≠ n) :
    Forks (brackets m ++ "...") (brackets n ++ "...") := by
  induction m generalizing n with
  | zero =>
    cases n with
    | zero => exact absurd rfl hne
    | succ n =>
      rw [brackets_succ_front, String.append_assoc]
      exact ⟨[], '.', '[', ['.', '.'], _, by decide, rfl, String.toList_append⟩
  | succ m ih =>
    cases n with
    | zero =>
      rw [brackets_succ_front, String.append_assoc]
      exact ⟨[], '[', '.', _, ['.', '.'], by decide, String.toList_append, rfl⟩
    | succ n =>
      rw [brackets_succ_front, brackets_succ_front, String.append_assoc, String.append_assoc]
      exact (ih fun heq => hne (congrArg _ heq)).prepend _

/-- The brackets of one more dimension come last, if one more can be counted. -/
theorem text_arrayOf_array (element : TypeExpr) {dimensions : Dimensions}
    (hdimensions : dimensions ≠ .greatest) :
    (arrayOf (.array element dimensions)).text =
      (TypeExpr.array element dimensions).text ++ "[]" := by
  rw [arrayOf, text, text, Dimensions.toNat_add_one hdimensions, brackets_succ,
    String.append_assoc]

end TypeExpr

/-! ## Declared parameters -/

namespace Parameter

/-- A parameter as source code declares it: with its type, or with the type of each of any number of
arguments. -/
inductive Declared where
  | single (name : String) (type : TypeExpr)
  | varargs (name : String) (element : TypeExpr)

namespace Declared

/-- The parameter that is made of it. -/
def parameter : Declared → Parameter
  | single name type => Parameter.single name type
  | varargs name element => Parameter.varargs name element

/-- The type of an argument. -/
def type : Declared → TypeExpr
  | single _ type => type
  | varargs _ element => element

/-- The parameter in source code, without its name. -/
def text : Declared → String
  | single _ type => type.text
  | varargs _ element => element.text ++ "..."

/-- The parameter takes any number of arrays. -/
def takesArrays : Declared → Bool
  | varargs _ (.array _ _) => true
  | _ => false

/-- The parameter takes any number of arrays that have as many dimensions as can be counted. -/
def takesFull : Declared → Bool
  | varargs _ element => element.isFull
  | single _ _ => false

variable {p : Declared}

theorem ne_greatest_of_takesFull {name : String} {element : TypeExpr} {dimensions : Dimensions}
    (hfull : (varargs name (.array element dimensions)).takesFull = false) :
    dimensions ≠ .greatest := by
  simpa [takesFull, TypeExpr.isFull] using hfull

theorem ne_zero_of_wellFormed {name : String} {element : TypeExpr} {dimensions : Dimensions}
    (hp : TypeExpr.WellFormed (varargs name (.array element dimensions)).type) :
    dimensions ≠ 0 := by
  cases hp with
  | array _ _ h => exact Dimensions.one_le_iff.1 h

/-- The dimensions of the kept array are shown, of which there are at least two. -/
theorem shown_varargs_array (name : String) (element : TypeExpr) {dimensions : Dimensions}
    (hdimensions : dimensions ≠ 0) :
    (Parameter.varargs name (.array element dimensions)).shown =
      (TypeExpr.arrayOf (.array element dimensions)).text ++ "..." := by
  have hone : dimensions + 1 ≠ 1 := Dimensions.add_one_ne_one hdimensions
  simp only [Parameter.shown, Parameter.varargs, TypeExpr.arrayOf, if_true]
  split
  · next heq => exact absurd (TypeExpr.array.inj heq).2 hone
  · rfl

/-- What is shown has a pair of brackets too many if the parameter takes any number of arrays. -/
theorem shown_parameter (hp : TypeExpr.WellFormed p.type) (hfull : p.takesFull = false) :
    p.parameter.shown = if p.takesArrays then p.type.text ++ "[]..." else p.text := by
  cases p with
  | single name type => rfl
  | varargs name element =>
    cases element with
    | array element dimensions =>
      rw [parameter, shown_varargs_array name element (ne_zero_of_wellFormed hp),
        TypeExpr.text_arrayOf_array element (ne_greatest_of_takesFull hfull), String.append_assoc]
      rfl
    | _ => rfl

/-- However many dimensions there are, what is shown of them is not what is declared. -/
theorem forks_shown_parameter (hp : TypeExpr.WellFormed p.type) (harrays : p.takesArrays = true) :
    Forks p.parameter.shown p.text := by
  cases p with
  | single name type => cases harrays
  | varargs name element =>
    cases element with
    | array element dimensions =>
      rw [parameter, shown_varargs_array name element (ne_zero_of_wellFormed hp), text,
        TypeExpr.arrayOf, TypeExpr.text, TypeExpr.text, String.append_assoc, String.append_assoc]
      exact (TypeExpr.forks_brackets fun heq =>
        Dimensions.add_one_ne_self (UInt64.toNat_inj.1 heq)).prepend _
    | _ => cases harrays

/-- Other parameters are shown as they are declared. -/
theorem shown_parameter_of_takesArrays (harrays : p.takesArrays = false) :
    p.parameter.shown = p.text := by
  cases p with
  | single name type => rfl
  | varargs name element =>
    cases element with
    | array element dimensions => cases harrays
    | _ => rfl

/-- The item of a varargs parameter is the type that was declared for one argument. -/
theorem itemOf_parameter_iff (hp : TypeExpr.WellFormed p.type) (hfull : p.takesFull = false)
    (hvarargs : p.parameter.isVarargs = true) {item : TypeExpr} :
    TypeExpr.ItemOf item p.parameter.type ↔ item = p.type := by
  cases p with
  | single name type => cases hvarargs
  | varargs name element =>
    refine TypeExpr.itemOf_arrayOf_iff (fun e he => ?_) fun e he => ?_
    · rw [he] at hp
      exact ne_zero_of_wellFormed hp rfl
    · rw [he] at hfull
      exact ne_greatest_of_takesFull hfull rfl

end Declared

end Parameter

/-! ## Signatures of methods -/

namespace Member

open Parameter (Declared)

/-- The signature that source code has for a method. -/
def declaredSignature (name : String) (ps : List Declared) (returns : TypeExpr) : String :=
  name ++ "(" ++ ", ".intercalate (ps.map (·.text)) ++ "): " ++ returns.text

theorem signature_method (owner name : String) (ps : List Parameter) (returns : TypeExpr) :
    (method owner name ps returns).signature =
      name ++ "(" ++ ", ".intercalate (ps.map (·.shown)) ++ "): " ++ returns.text := rfl

/-- The signature of a method is the one in source code exactly if no parameter takes any number of
arrays. A parameter that does is shown with one pair of brackets more than its type has, although
each of its arguments is matched against the type itself. Only of arrays to which no dimension can
be added are fewer brackets shown; no text of fewer than `2 ^ 64` characters gives such arrays
(`isFull_of_parse`). -/
theorem signature_eq_iff (owner name : String) {ps : List Declared}
    (hps : ∀ p ∈ ps, ∃ text, TypeExpr.parse text = .ok p.type) (returns : TypeExpr) :
    ((method owner name (ps.map (·.parameter)) returns).signature =
        declaredSignature name ps returns ↔ ∀ p ∈ ps, p.takesArrays = false) ∧
      ∀ p ∈ ps, p.takesFull = false →
        p.parameter.shown = (if p.takesArrays then p.type.text ++ "[]..." else p.text) ∧
        (p.parameter.isVarargs = true →
          ∀ item, TypeExpr.ItemOf item p.parameter.type ↔ item = p.type) := by
  have hwell (p : Declared) (hp : p ∈ ps) : TypeExpr.WellFormed p.type :=
    TypeExpr.exists_parse_iff_wellFormed.1 (hps p hp)
  refine ⟨?_, fun p hp hfull => ⟨Declared.shown_parameter (hwell p hp) hfull, fun hvarargs item =>
    Declared.itemOf_parameter_iff (hwell p hp) hfull hvarargs⟩⟩
  rw [signature_method, declaredSignature, List.map_map]
  constructor
  · intro heq p hp
    by_contra harrays
    refine (forks_intercalate ", " (f := (·.parameter.shown)) (g := Declared.text)
      (fun q hq => ?_) ⟨p, hp, ?_⟩).ne ?_
    · cases hq' : q.takesArrays with
      | true => exact .inr (Declared.forks_shown_parameter (hwell q hq) hq')
      | false => exact .inl (Declared.shown_parameter_of_takesArrays hq')
    · exact Declared.forks_shown_parameter (hwell p hp) (by simpa using harrays)
    · simpa [Function.comp_def] using heq
  · intro hnone
    have htexts : ps.map ((·.shown) ∘ (·.parameter)) = ps.map Declared.text :=
      List.map_congr_left fun p hp => Declared.shown_parameter_of_takesArrays (hnone p hp)
    rw [htexts]

/-- A method that takes a width and any number of lists shows the list in front of the dots. -/
theorem signature_eq_iff_lists :
    let list : TypeExpr := .generic (.declared "java.util.List") [.declared "java.lang.String"]
    let ps : List Declared := [.single "width" (.basic "int"), .varargs "lists" list]
    (∀ p ∈ ps, ∃ text, TypeExpr.parse text = .ok p.type) ∧ (∀ p ∈ ps, p.takesFull = false) ∧
      (∀ p ∈ ps, p.takesArrays = false) ∧
      (method "a.Table" "print" (ps.map (·.parameter)) .void).signature =
        "print(int, java.util.List<java.lang.String>...): void" ∧
      TypeExpr.ItemOf list (.array list 1) := by
  intro list ps
  have hint : TypeExpr.WellFormed (.basic "int") := .basic (.inl (by decide))
  have hlist : TypeExpr.WellFormed list :=
    .generic (TypeExpr.wellFormed_declared_iff.2 (by decide +kernel)) rfl (by simp)
      (by simpa using TypeExpr.wellFormed_declared_iff.2 (by decide +kernel))
  have hps : ∀ p ∈ ps, ∃ text, TypeExpr.parse text = .ok p.type := by
    simpa [ps] using ⟨⟨_, hint.parse_text⟩, ⟨_, hlist.parse_text⟩⟩
  have harrays : ∀ p ∈ ps, p.takesArrays = false := by simp [ps, list, Declared.takesArrays]
  have hfull : ∀ p ∈ ps, p.takesFull = false := by
    simp [ps, list, Declared.takesFull, TypeExpr.isFull]
  obtain ⟨hsignature, hshown⟩ := signature_eq_iff "a.Table" "print" hps .void
  have hmem : .varargs "lists" list ∈ ps := by simp [ps]
  have hitem := (hshown _ hmem (hfull _ hmem)).2 rfl list
  refine ⟨hps, hfull, harrays, ?_, hitem.2 rfl⟩
  rw [hsignature.2 harrays]
  decide +kernel

/-- The rows of a table are arrays of texts, and the signature shows arrays of such arrays. -/
theorem not_signature_eq :
    ¬∀ (owner name : String) (ps : List Declared) (returns : TypeExpr),
      (∀ p ∈ ps, ∃ text, TypeExpr.parse text = .ok p.type) →
        (∃ text, TypeExpr.parse text = .ok returns) →
          (method owner name (ps.map (·.parameter)) returns).signature =
            declaredSignature name ps returns := by
  intro hall
  let row : TypeExpr := .array (.declared "java.lang.String") 1
  have hrow : TypeExpr.WellFormed row :=
    .array (TypeExpr.wellFormed_declared_iff.2 (by decide +kernel)) (.inl rfl) (by decide)
  have hvoid : TypeExpr.WellFormed .void := .basic (.inl (by decide))
  have heq := hall "a.Table" "print" [.varargs "rows" row] .void
    (by simpa using ⟨_, hrow.parse_text⟩) ⟨_, hvoid.parse_text⟩
  have hshown : (method "a.Table" "print" [.varargs "rows" row] .void).signature =
      "print(java.lang.String[][]...): void" := by decide +kernel
  have hdeclared : declaredSignature "print" [.varargs "rows" row] .void =
      "print(java.lang.String[]...): void" := by decide +kernel
  rw [hdeclared] at heq
  exact absurd (hshown.symm.trans heq) (by decide)

end Member

end Referent
