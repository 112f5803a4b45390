/-!
# Reading off the front of a text

A reader takes something off the front of a list of characters and leaves a shorter list, so that
reading in a loop comes to an end.

* `Taken` — what was read, the text after it, and the proof that it is shorter.
* `Taken.followedBy`, `Taken.leaving`, `Taken.behind` — readings one after the other.
* `run?` — the characters at the front that a predicate holds of.
* `strip?` — the text after a fixed token.
-/

namespace Referent.Text

/-! ## Readings -/

/-- Something read off the front of `cs`, and the shorter text after it. -/
structure Taken (α : Type) (cs : List Char) where
  value : α
  rest : List Char
  shorter : rest.length < cs.length

/-- A text no longer than `cs`, as a part that may be missing leaves it. -/
abbrev Left (cs : List Char) : Type :=
  { rest : List Char // rest.length ≤ cs.length }

namespace Left

/-- All of the text is left. -/
def all (cs : List Char) : Left cs :=
  ⟨cs, Nat.le_refl _⟩

/-- What is left of a text behind a character, as left of the whole. -/
def behind {cs : List Char} (c : Char) (left : Left cs) : Left (c :: cs) :=
  ⟨left.val, Nat.le_succ_of_le left.property⟩

end Left

namespace Taken

variable {α β : Type} {cs : List Char}

/-- The same reading with another value. -/
def map (f : α → β) (t : Taken α cs) : Taken β cs :=
  ⟨f t.value, t.rest, t.shorter⟩

/-- What is read second, as a reading of the whole text. -/
def followedBy (first : Taken α cs) (second : Taken β first.rest) : Taken β cs :=
  ⟨second.value, second.rest, Nat.lt_trans second.shorter first.shorter⟩

/-- A value made of what was read and of an optional part after it, which leaves `left`. -/
def leaving (first : Taken α cs) (value : β) (left : Left first.rest) : Taken β cs :=
  ⟨value, left.val, Nat.lt_of_le_of_lt left.property first.shorter⟩

/-- What is read behind a character, as a reading of the whole text. -/
def behind (c : Char) (t : Taken α cs) : Taken α (c :: cs) :=
  ⟨t.value, t.rest, Nat.lt_succ_of_lt t.shorter⟩

/-- The text after what was read, as what is left of the whole. -/
def left (t : Taken α cs) : Left cs :=
  ⟨t.rest, Nat.le_of_lt t.shorter⟩

end Taken

/-! ## Runs -/

theorem length_dropWhile_lt {p : Char → Bool} {cs : List Char} (h : cs.takeWhile p ≠ []) :
    (cs.dropWhile p).length < cs.length := by
  have h₁ : (cs.takeWhile p).length + (cs.dropWhile p).length = cs.length := by
    rw [← List.length_append, List.takeWhile_append_dropWhile]
  have h₂ := List.length_pos_iff.2 h
  omega

/-- The characters up to the first one that a predicate does not hold of, at least one. -/
def run? (p : Char → Bool) (cs : List Char) : Option (Taken (List Char) cs) :=
  if h : cs.takeWhile p ≠ [] then some ⟨cs.takeWhile p, cs.dropWhile p, length_dropWhile_lt h⟩
  else none

/-! ## Tokens -/

/-- The text after a token that it starts with. -/
def strip? : (token cs : List Char) → Option (List Char)
  | [], cs => some cs
  | _ :: _, [] => none
  | t :: token, c :: cs => if t = c then strip? token cs else none

theorem strip?_eq_some_iff {token cs rest : List Char} :
    strip? token cs = some rest ↔ cs = token ++ rest := by
  induction token generalizing cs with
  | nil => simp [strip?]
  | cons t token ih =>
    cases cs with
    | nil => simp [strip?]
    | cons c cs =>
      by_cases h : t = c
      · simp [strip?, h, ih]
      · simp [strip?, h, Ne.symm h]

theorem length_of_strip? {token cs rest : List Char} (h : strip? token cs = some rest) :
    cs.length = token.length + rest.length := by
  rw [strip?_eq_some_iff.1 h, List.length_append]

theorem length_lt_of_strip? {token cs rest : List Char} (htoken : token ≠ [])
    (h : strip? token cs = some rest) : rest.length < cs.length := by
  have h₁ := length_of_strip? h
  have h₂ := List.length_pos_iff.2 htoken
  omega

end Referent.Text
