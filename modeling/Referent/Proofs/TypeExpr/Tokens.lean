import Referent.Proofs.Except
import Referent.Proofs.TypeExpr.Grammar

/-!
# Reading tokens, names and brackets

Each reader takes exactly what the grammar says off the front of a text: what it took derives the
value, and it takes such a text if what follows cannot go on with it.

Results:
* `Token.exists_of_take?`, `Token.take?_of_eq`: tokens.
* `exists_of_boundWord?`, `boundWord?_of_eq`: the words before a bound.
* `exists_of_readName`, `readName_of_eq`: names.
* `exists_of_readBrackets`, `readBrackets_of_eq`: pairs of brackets, as many as can be counted.
-/

namespace Referent.TypeExpr

open Referent.Text (Blanks Left Taken first?)

/-! ## Tokens -/

namespace Token

variable {token : Token} {cs : List Char}

theorem take?_eq_some_iff {r : Taken Token cs} :
    token.take? cs = some r ↔ r.value = token ∧ Text.skipBlanks cs = token.spelling ++ r.rest := by
  rw [← Text.strip?_eq_some_iff]
  unfold take?
  constructor
  · intro h
    split at h
    · rename_i rest hrest
      cases h
      exact ⟨rfl, hrest⟩
    · cases h
  · obtain ⟨value, rest, hshorter⟩ := r
    rintro ⟨rfl, hrest⟩
    split
    · rename_i rest' hrest'
      obtain rfl : rest' = rest := Option.some.inj (hrest'.symm.trans hrest)
      rfl
    · rename_i hnone
      cases hnone.symm.trans hrest

theorem skipBlanks_spelling (token : Token) (rest : List Char) :
    Text.skipBlanks (token.spelling ++ rest) = token.spelling ++ rest := by
  cases token <;> exact Text.skipBlanks_cons rfl _

/-- A token is taken together with the blanks before it. -/
theorem exists_of_take? {r : Taken Token cs} (h : token.take? cs = some r) :
    ∃ bs, Blanks bs ∧ cs = bs ++ (token.spelling ++ r.rest) := by
  obtain ⟨bs, hbs, hcs⟩ := Text.exists_blanks_append cs
  refine ⟨bs, hbs, ?_⟩
  rw [← (take?_eq_some_iff.1 h).2]
  exact hcs

theorem take?_of_eq (token : Token) {bs rest : List Char} (hbs : Blanks bs)
    (hcs : cs = bs ++ (token.spelling ++ rest)) : ∃ h, token.take? cs = some ⟨token, rest, h⟩ := by
  have hshorter : rest.length < cs.length := by
    have := List.length_pos_iff.2 token.spelling_ne_nil
    rw [hcs, List.length_append, List.length_append]
    omega
  have hskip : Text.skipBlanks cs = token.spelling ++ rest := by
    rw [hcs, Text.skipBlanks_append hbs, skipBlanks_spelling]
  exact ⟨hshorter, take?_eq_some_iff.2 ⟨rfl, hskip⟩⟩

theorem take?_char (token : Token) {c : Char} (htoken : token.spelling = [c]) {bs rest : List Char}
    (hbs : Blanks bs) (hcs : cs = bs ++ c :: rest) :
    ∃ h, token.take? cs = some ⟨token, rest, h⟩ :=
  take?_of_eq token hbs (by rw [hcs, htoken, List.singleton_append])

/-- A token is not taken if the text goes on with another character. -/
theorem take?_eq_none (h : first? cs ≠ token.spelling.head?) : token.take? cs = none := by
  rw [Option.eq_none_iff_forall_ne_some]
  intro r hr
  refine h ?_
  rw [first?, (take?_eq_some_iff.1 hr).2]
  cases token <;> rfl

end Token

/-! ## Bounds -/

theorem exists_of_boundWord? {cs : List Char} {r : Taken Bool cs} (h : boundWord? cs = some r) :
    ∃ bs, Blanks bs ∧ cs = bs ++ (boundWord r.value ++ r.rest) := by
  unfold boundWord? at h
  split at h
  · rename_i word hword
    cases h
    exact Token.exists_of_take? hword
  · obtain ⟨word, hword, rfl⟩ := Option.map_eq_some_iff.1 h
    exact Token.exists_of_take? hword

theorem boundWord?_of_eq {upper : Bool} {cs bs rest : List Char} (hbs : Blanks bs)
    (hcs : cs = bs ++ (boundWord upper ++ rest)) :
    ∃ h, boundWord? cs = some ⟨upper, rest, h⟩ := by
  unfold boundWord?
  cases upper with
  | true =>
    obtain ⟨h, htake⟩ := Token.extendsWord.take?_of_eq hbs hcs
    rw [htake]
    exact ⟨h, rfl⟩
  | false =>
    obtain ⟨h, htake⟩ := Token.superWord.take?_of_eq hbs hcs
    have hfirst : first? cs = some 's' := by
      rw [hcs, Text.first?_append hbs]
      rfl
    have hother : Token.extendsWord.take? cs = none :=
      Token.take?_eq_none (by rw [hfirst]; decide)
    rw [hother, htake]
    exact ⟨h, rfl⟩

theorem boundWord?_eq_none {cs : List Char} (hupper : first? cs ≠ some 'e')
    (hlower : first? cs ≠ some 's') : boundWord? cs = none := by
  unfold boundWord?
  rw [Token.take?_eq_none hupper, Token.take?_eq_none hlower]
  rfl

/-! ## Names -/

theorem exists_of_readName {cs : List Char} {r : Taken String cs} (h : readName cs = .ok r) :
    ∃ bs name, Blanks bs ∧ IsName name ∧ cs = bs ++ (name ++ r.rest) ∧
      r.value = String.ofList name := by
  unfold readName at h
  dsimp only at h
  split_ifs at h with hname
  cases h
  obtain ⟨hne, hhead, hlast⟩ := isTypeName_iff.1 hname
  obtain ⟨bs, hbs, hcs⟩ := Text.exists_blanks_append cs
  refine ⟨bs, _, hbs, ⟨hne, fun c hc => isNameChar_iff.1 (List.mem_takeWhile_imp hc), hhead, hlast⟩,
    ?_, rfl⟩
  rw [List.takeWhile_append_dropWhile]
  exact hcs

/-- A name is read up to the first character that cannot stand in a name. -/
theorem readName_of_eq {cs bs name rest : List Char} (hbs : Blanks bs) (hname : IsName name)
    (hrest : ∀ c, rest.head? = some c → isNameChar c = false) (hcs : cs = bs ++ (name ++ rest)) :
    ∃ h, readName cs = .ok ⟨String.ofList name, rest, h⟩ := by
  have hskip : Text.skipBlanks cs = name ++ rest := by
    obtain ⟨c, name, rfl, -, hc⟩ := hname.exists_cons
    rw [hcs, Text.skipBlanks_append hbs]
    exact Text.skipBlanks_cons hc _
  have hchars : ∀ c ∈ name, isNameChar c = true := fun c hc => isNameChar_iff.2 (hname.chars c hc)
  have hstop : rest.takeWhile isNameChar = [] ∧ rest.dropWhile isNameChar = rest := by
    cases rest with
    | nil => exact ⟨rfl, rfl⟩
    | cons c cs => simp [hrest c rfl]
  have htake : (name ++ rest).takeWhile isNameChar = name := by
    rw [List.takeWhile_append_of_pos hchars, hstop.1, List.append_nil]
  have hdrop : (name ++ rest).dropWhile isNameChar = rest := by
    rw [List.dropWhile_append_of_pos hchars, hstop.2]
  have hshorter : rest.length < cs.length := by
    have := List.length_pos_iff.2 hname.ne_nil
    rw [hcs, List.length_append, List.length_append]
    omega
  refine ⟨hshorter, ?_⟩
  unfold readName
  simp only [hskip, htake, hdrop]
  rw [dif_pos (isTypeName_iff.2 ⟨hname.ne_nil, hname.head_ne, hname.last_ne⟩)]

/-! ## Brackets -/

/-- As many pairs of brackets are taken as there is room for dimensions. -/
theorem exists_iterate_of_readBrackets {t u : TypeExpr} {cs rest : List Char}
    {hle : rest.length ≤ cs.length} (h : readBrackets t cs = .ok (u, ⟨rest, hle⟩)) :
    ∃ k ds, Brackets k ds ∧ cs = ds ++ rest ∧ k ≤ t.room ∧ u = arrayOf^[k] t := by
  have hnone : ∃ k ds, Brackets k ds ∧ cs = ds ++ cs ∧ k ≤ t.room ∧ t = arrayOf^[k] t :=
    ⟨0, [], .none, rfl, Nat.zero_le _, rfl⟩
  rw [readBrackets] at h
  split at h
  · cases h
    exact hnone
  rename_i hfull
  split at h
  · cases h
    exact hnone
  · rename_i opened hopened
    obtain ⟨_, inner, hinner⟩ := opened
    split at h
    · cases h
    · rename_i closed hclosed
      obtain ⟨_, after, hafter⟩ := closed
      obtain ⟨⟨v, last, hlast⟩, hv, h⟩ := bind_eq_ok_iff.1 h
      cases h
      have hlt : after.length < cs.length := Nat.lt_trans hafter hinner
      obtain ⟨k, ds, hds, rfl, hk, hu⟩ := exists_iterate_of_readBrackets hv
      obtain ⟨bs, hbs, hcs⟩ := Token.exists_of_take? hopened
      obtain ⟨bs', hbs', hcs'⟩ := Token.exists_of_take? hclosed
      refine ⟨k + 1, _, .pair hbs hbs' hds, ?_, ?_, hu⟩
      · change cs = bs ++ '[' :: (bs' ++ ']' :: ds) ++ last
        dsimp only at hcs hcs'
        rw [hcs, hcs']
        simp [Token.spelling]
      · rw [← room_arrayOf (Bool.eq_false_iff.2 hfull)]
        exact Nat.succ_le_succ hk
termination_by cs.length

/-- Pairs of brackets are read until something else follows. -/
theorem readBrackets_of_iterate {k : ℕ} {cs ds rest : List Char} (hds : Brackets k ds)
    {t : TypeExpr} (hk : k ≤ t.room) (hrest : first? rest ≠ some '[') (hcs : cs = ds ++ rest) :
    ∃ h, readBrackets t cs = .ok (arrayOf^[k] t, ⟨rest, h⟩) := by
  induction hds generalizing t cs with
  | none =>
    obtain rfl : cs = rest := hcs
    refine ⟨Nat.le_refl _, ?_⟩
    rw [readBrackets, Token.take?_eq_none hrest]
    split_ifs <;> rfl
  | @pair bs bs' ds k hbs hbs' _ ih =>
    have hfull : ¬t.isFull = true := by
      rw [isFull_iff]
      omega
    have hroom := room_arrayOf (Bool.eq_false_iff.2 hfull)
    have hcs : cs = bs ++ '[' :: (bs' ++ ']' :: (ds ++ rest)) := by
      rw [hcs]
      simp
    obtain ⟨hlt, hopened⟩ := Token.openBracket.take?_char rfl hbs hcs
    obtain ⟨hlt', hclosed⟩ : ∃ h, Token.closeBracket.take? (bs' ++ ']' :: (ds ++ rest)) =
        some ⟨.closeBracket, ds ++ rest, h⟩ := Token.closeBracket.take?_char rfl hbs' rfl
    obtain ⟨hle, hds⟩ := ih (t := t.arrayOf) (by omega) rfl
    refine ⟨Nat.le_of_lt (Nat.lt_of_le_of_lt hle (Nat.lt_trans hlt' hlt)), ?_⟩
    rw [readBrackets, if_neg hfull, hopened]
    dsimp only
    rw [hclosed]
    dsimp only
    rw [hds]
    rfl

/-- Behind a type that is no array the pairs of brackets are its dimensions. -/
theorem exists_of_readBrackets {t u : TypeExpr} {cs rest : List Char}
    {hle : rest.length ≤ cs.length} (ht : ∀ element dimensions, t ≠ .array element dimensions)
    (h : readBrackets t cs = .ok (u, ⟨rest, hle⟩)) :
    ∃ (k : Dimensions) (ds : List Char),
      Brackets k ds ∧ cs = ds ++ rest ∧ u = t.withDimensions k := by
  obtain ⟨k, ds, hds, hcs, hk, hu⟩ := exists_iterate_of_readBrackets h
  rw [room_of_not_array ht] at hk
  exact ⟨k, ds, hds.natCast hk, hcs, hu.trans (iterate_arrayOf ht hk)⟩

theorem readBrackets_of_eq {k : Dimensions} {cs ds rest : List Char} (hds : Brackets k ds)
    {t : TypeExpr} (ht : ∀ element dimensions, t ≠ .array element dimensions)
    (hrest : first? rest ≠ some '[') (hcs : cs = ds ++ rest) :
    ∃ h, readBrackets t cs = .ok (t.withDimensions k, ⟨rest, h⟩) := by
  have hk : (k : ℕ) ≤ t.room := by
    rw [room_of_not_array ht]
    exact k.le_greatest
  have hread := readBrackets_of_iterate hds hk hrest hcs
  rwa [iterate_arrayOf ht k.le_greatest, Dimensions.natCast_toNat] at hread

end Referent.TypeExpr
