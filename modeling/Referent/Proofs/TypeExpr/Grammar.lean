import Referent.TypeExpr.Parser
import Referent.Proofs.Text.Blanks
import Referent.Proofs.TypeExpr.Dimensions

/-!
# The grammar of type text

Which type a text derives, said without a reader. Blanks may stand before every token:

    text = type blanks
    type = blanks "<unknown>"
         | blanks "?" [blanks ("extends" | "super") type]
         | blanks name [blanks "<" args blanks ">"] {blanks "[" blanks "]"}
    args = type {blanks "," type}

* `IsName`, `Denotes` — a name, and the type that it denotes by itself.
* `Brackets` — pairs of brackets, each of which is a dimension.
* `Derives`, `DerivesArgs`, `DerivesText` — a type, the arguments of a generic type, and a text.
-/

namespace Referent.TypeExpr

open Referent.Text (Blanks first?)

/-! ## Names -/

/-- At least one letter, digit, `_`, `$` or `.`, without a point at either end. -/
structure IsName (cs : List Char) : Prop where
  ne_nil : cs ≠ []
  chars : ∀ c ∈ cs, Text.isAlphanumeric c = true ∨ c = '_' ∨ c = '$' ∨ c = '.'
  head_ne : cs.head? ≠ some '.'
  last_ne : cs.getLast? ≠ some '.'

/-- The type that a name denotes: the name itself if it is a primitive one or `null`, and else a
declared type. -/
inductive Denotes (name : String) : TypeExpr → Prop
  | basic (h : name ∈ primitiveNames ∨ name = nullName) : Denotes name (.basic name)
  | declared (h : ¬(name ∈ primitiveNames ∨ name = nullName)) : Denotes name (.declared name)

theorem isBasicName_iff {name : String} :
    isBasicName name = true ↔ name ∈ primitiveNames ∨ name = nullName := by
  rw [isBasicName, Bool.or_eq_true, List.contains_iff_mem, beq_iff_eq]

theorem denotes_iff {name : String} {t : TypeExpr} : Denotes name t ↔ t = ofName name := by
  unfold ofName
  split_ifs with hbasic
  · have hname := isBasicName_iff.1 hbasic
    constructor
    · rintro (_ | h)
      · rfl
      · exact absurd hname h
    · rintro rfl
      exact .basic hname
  · have hname := mt isBasicName_iff.2 hbasic
    constructor
    · rintro (h | _)
      · exact absurd h hname
      · rfl
    · rintro rfl
      exact .declared hname

theorem isNameChar_iff {c : Char} :
    isNameChar c = true ↔ Text.isAlphanumeric c = true ∨ c = '_' ∨ c = '$' ∨ c = '.' := by
  simp only [isNameChar, Bool.or_eq_true, beq_iff_eq, or_assoc]

theorem isTypeName_iff {cs : List Char} :
    isTypeName cs = true ↔ cs ≠ [] ∧ cs.head? ≠ some '.' ∧ cs.getLast? ≠ some '.' := by
  simp only [isTypeName, Bool.and_eq_true, bne_iff_ne, and_assoc]

/-- No blank can stand in a name. -/
theorem isNameChar_of_isBlank {c : Char} (h : Text.isBlank c = true) : isNameChar c = false := by
  rw [← Bool.not_eq_true, isNameChar_iff]
  rintro (halpha | rfl | rfl | rfl)
  · rw [Text.isAlphanumeric_of_isBlank h] at halpha
    cases halpha
  all_goals cases h

theorem isName_iff {cs : List Char} :
    IsName cs ↔ isTypeName cs = true ∧ cs.all isNameChar = true := by
  simp only [isTypeName_iff, List.all_eq_true, isNameChar_iff]
  constructor
  · exact fun h => ⟨⟨h.ne_nil, h.head_ne, h.last_ne⟩, h.chars⟩
  · exact fun ⟨⟨hne, hhead, hlast⟩, hchars⟩ => ⟨hne, hchars, hhead, hlast⟩

/-- The names of the primitive types and `null` are names. -/
theorem isName_of_basic {name : String} (h : name ∈ primitiveNames ∨ name = nullName) :
    IsName name.toList := by
  have hall : ∀ name ∈ nullName :: primitiveNames,
      isTypeName name.toList = true ∧ name.toList.all isNameChar = true := by
    decide +kernel
  exact isName_iff.2 (hall name (List.mem_cons.2 h.symm))

/-- A name starts with a character of a name, which is no blank. -/
theorem IsName.exists_cons {cs : List Char} (h : IsName cs) :
    ∃ c rest, cs = c :: rest ∧ isNameChar c = true ∧ Text.isBlank c = false := by
  obtain ⟨c, rest, rfl⟩ := List.exists_cons_of_ne_nil h.ne_nil
  have hc : isNameChar c = true := isNameChar_iff.2 (h.chars c List.mem_cons_self)
  refine ⟨c, rest, rfl, hc, ?_⟩
  rw [← Bool.not_eq_true]
  intro hblank
  rw [isNameChar_of_isBlank hblank] at hc
  cases hc

/-! ## Brackets -/

/-- A number of pairs of brackets, with blanks before each bracket. -/
inductive Brackets : ℕ → List Char → Prop
  | none : Brackets 0 []
  | pair {bs bs' cs : List Char} {k : ℕ} (hbs : Blanks bs) (hbs' : Blanks bs')
      (h : Brackets k cs) : Brackets (k + 1) (bs ++ '[' :: (bs' ++ ']' :: cs))

theorem brackets_zero : Brackets (0 : Dimensions) [] :=
  .none

/-- As many brackets as dimensions can be counted are brackets for so many dimensions. -/
theorem Brackets.natCast {k : ℕ} {cs : List Char} (h : Brackets k cs)
    (hk : k ≤ Dimensions.greatest) : Brackets (k : Dimensions) cs := by
  rwa [Dimensions.toNat_natCast hk]

theorem Brackets.eq_nil {cs : List Char} (h : Brackets 0 cs) : cs = [] := by
  cases h
  rfl

/-- A pair of brackets takes two characters at least. -/
theorem Brackets.two_mul_le {k : ℕ} {cs : List Char} (h : Brackets k cs) : 2 * k ≤ cs.length := by
  induction h with
  | none => exact Nat.le_refl _
  | pair _ _ _ ih =>
    simp only [List.length_append, List.length_cons]
    omega

theorem ofName_ne_array (name : String) (element : TypeExpr) (dimensions : Dimensions) :
    ofName name ≠ .array element dimensions := by
  intro h
  unfold ofName at h
  split_ifs at h

/-! ## Types -/

/-- The word before an upper and before a lower bound. -/
def boundWord : Bool → List Char
  | true => ['e', 'x', 't', 'e', 'n', 'd', 's']
  | false => ['s', 'u', 'p', 'e', 'r']

mutual

/-- The text derives the type. -/
inductive Derives : List Char → TypeExpr → Prop
  | unknown {bs : List Char} (hbs : Blanks bs) : Derives (bs ++ "<unknown>".toList) .unknown
  | wildcard {bs : List Char} (hbs : Blanks bs) : Derives (bs ++ ['?']) (.wildcard true)
  | bounded {bs bs' cs : List Char} {upper : Bool} {bound : TypeExpr} (hbs : Blanks bs)
      (hbs' : Blanks bs') (h : Derives cs bound) :
      Derives (bs ++ '?' :: (bs' ++ boundWord upper ++ cs)) (.bounded upper bound)
  | plain {bs name ds : List Char} {t : TypeExpr} {k : Dimensions} (hbs : Blanks bs)
      (hname : IsName name) (ht : Denotes (String.ofList name) t) (hds : Brackets k ds) :
      Derives (bs ++ name ++ ds) (t.withDimensions k)
  | generic {bs name bs' as bs'' ds : List Char} {t : TypeExpr} {args : List TypeExpr}
      {k : Dimensions} (hbs : Blanks bs) (hname : IsName name) (ht : Denotes (String.ofList name) t)
      (hbs' : Blanks bs') (hargs : DerivesArgs as args) (hbs'' : Blanks bs'')
      (hds : Brackets k ds) :
      Derives (bs ++ name ++ (bs' ++ '<' :: (as ++ (bs'' ++ '>' :: ds))))
        ((TypeExpr.generic t args).withDimensions k)

/-- The text derives the arguments of a generic type, at least one. -/
inductive DerivesArgs : List Char → List TypeExpr → Prop
  | one {cs : List Char} {t : TypeExpr} (h : Derives cs t) : DerivesArgs cs [t]
  | more {cs bs ds : List Char} {t : TypeExpr} {ts : List TypeExpr} (h : Derives cs t)
      (hbs : Blanks bs) (hrest : DerivesArgs ds ts) :
      DerivesArgs (cs ++ (bs ++ ',' :: ds)) (t :: ts)

end

/-- The array of a text with no more characters than dimensions can be counted has room for more. -/
theorem isFull_withDimensions {t : TypeExpr} {k : Dimensions} {ds : List Char}
    (ht : t.isFull = false) (hds : Brackets k ds) (hlength : ds.length ≤ Dimensions.greatest) :
    (t.withDimensions k).isFull = false := by
  unfold TypeExpr.withDimensions
  split_ifs
  · exact ht
  · have hle := hds.two_mul_le
    rw [isFull, beq_eq_false_iff_ne]
    rintro rfl
    rw [Dimensions.toNat_greatest] at hle hlength
    omega

theorem Derives.isFull {cs : List Char} {t : TypeExpr} (h : Derives cs t)
    (hlength : cs.length ≤ Dimensions.greatest) : t.isFull = false := by
  cases h with
  | plain _ _ ht hds =>
    rw [List.length_append] at hlength
    exact isFull_withDimensions (by cases ht <;> rfl) hds (by omega)
  | generic _ _ _ _ _ _ hds =>
    simp only [List.length_append, List.length_cons] at hlength
    exact isFull_withDimensions rfl hds (by omega)
  | _ => rfl

/-- The text is one type with blanks around it. -/
def DerivesText (cs : List Char) (t : TypeExpr) : Prop :=
  ∃ span bs, cs = span ++ bs ∧ Derives span t ∧ Blanks bs

end Referent.TypeExpr
