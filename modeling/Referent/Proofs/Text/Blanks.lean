import Referent.Text.Alphanumeric
import Referent.Text.Blank
import Mathlib.Data.List.TakeWhile

/-!
# Blanks before a token

Results:
* `exists_blanks_append`: what is skipped is a run of blanks at the front.
* `first?_append`, `first?_cons`: the first character that is not skipped.
* `isAlphanumeric_of_isBlank`: no blank is a letter or a number.
-/

namespace Referent.Text

/-! ## Runs of blanks -/

/-- Nothing but blanks. -/
def Blanks (cs : List Char) : Prop :=
  ∀ c ∈ cs, isBlank c = true

theorem blanks_nil : Blanks [] := fun _ hc => nomatch hc

theorem blanks_space : Blanks [' '] := fun c hc => by
  rw [List.mem_singleton.1 hc]
  rfl

theorem Blanks.append {bs cs : List Char} (hbs : Blanks bs) (hcs : Blanks cs) :
    Blanks (bs ++ cs) := fun c hc =>
  (List.mem_append.1 hc).elim (hbs c) (hcs c)

theorem skipBlanks_append {bs : List Char} (hbs : Blanks bs) (cs : List Char) :
    skipBlanks (bs ++ cs) = skipBlanks cs :=
  List.dropWhile_append_of_pos hbs

theorem exists_blanks_append (cs : List Char) : ∃ bs, Blanks bs ∧ cs = bs ++ skipBlanks cs :=
  ⟨cs.takeWhile isBlank, fun _ hc => List.mem_takeWhile_imp hc,
    List.takeWhile_append_dropWhile.symm⟩

theorem skipBlanks_eq_nil_iff {cs : List Char} : skipBlanks cs = [] ↔ Blanks cs :=
  List.dropWhile_eq_nil_iff

/-! ## The first character after blanks -/

/-- The first character that is no blank. -/
def first? (cs : List Char) : Option Char :=
  (skipBlanks cs).head?

theorem first?_append {bs : List Char} (hbs : Blanks bs) (cs : List Char) :
    first? (bs ++ cs) = first? cs := by
  rw [first?, skipBlanks_append hbs, first?]

theorem skipBlanks_cons {c : Char} (hc : isBlank c = false) (cs : List Char) :
    skipBlanks (c :: cs) = c :: cs := by
  rw [skipBlanks, List.dropWhile_cons_of_neg (by simp [hc])]

theorem first?_cons {c : Char} (hc : isBlank c = false) (cs : List Char) :
    first? (c :: cs) = some c := by
  rw [first?, skipBlanks_cons hc, List.head?_cons]

/-- A text starts with a blank or with its first character that is none. -/
theorem head?_of_first? {cs : List Char} {c : Char} (h : cs.head? = some c) :
    isBlank c = true ∨ first? cs = some c := by
  cases cs with
  | nil => cases h
  | cons d ds =>
    obtain rfl : d = c := by simpa using h
    cases hd : isBlank d with
    | true => exact .inl rfl
    | false => exact .inr (first?_cons hd ds)

/-! ## Blanks and letters -/

/-- The code points of the blanks. -/
def blankCodes : List ℕ :=
  [0x9, 0xA, 0xB, 0xC, 0xD, 0x20, 0x85, 0xA0, 0x1680, 0x2000, 0x2001, 0x2002, 0x2003, 0x2004,
   0x2005, 0x2006, 0x2007, 0x2008, 0x2009, 0x200A, 0x2028, 0x2029, 0x202F, 0x205F, 0x3000]

theorem toNat_mem_blankCodes {c : Char} (h : isBlank c = true) : c.toNat ∈ blankCodes := by
  simp only [isBlank, Bool.or_eq_true, Bool.and_eq_true, decide_eq_true_eq, beq_iff_eq] at h
  simp only [blankCodes, List.mem_cons, List.not_mem_nil, or_false]
  omega

theorem isAlphanumeric_of_mem_blankCodes :
    ∀ n ∈ blankCodes, isAlphanumeric (Char.ofNat n) = false := by
  decide +kernel

theorem isAlphanumeric_of_isBlank {c : Char} (h : isBlank c = true) :
    isAlphanumeric c = false := by
  rw [← Char.ofNat_toNat c]
  exact isAlphanumeric_of_mem_blankCodes _ (toNat_mem_blankCodes h)

end Referent.Text
