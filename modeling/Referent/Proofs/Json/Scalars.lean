import Mathlib.Tactic.IntervalCases
import Referent.Json.Printer
import Referent.Json.Reader

/-!
# Reading words, numbers and strings back

Results:
* `readWord_spelling`: a word is read as its value.
* `readNumber_toString`: a natural number of 64 bits is read as itself, if nothing stands behind it
  that could be part of a number.
* `readText_quote`: a string is read as the text that was quoted.
-/

namespace Referent.Json

/-! ## Words -/

/-- A word is read as its value. -/
theorem readWord_spelling (w : Word) (rest : List Char) :
    ∃ h, readWord (w.spelling ++ rest) = some ⟨w.value, rest, h⟩ := by
  cases w <;> exact ⟨_, rfl⟩

theorem Word.take?_eq_none {w : Word} {cs : List Char} (h : Text.strip? w.spelling cs = none) :
    w.take? cs = none := by
  unfold take?
  split
  next rest hsome => rw [h] at hsome; cases hsome
  next => rfl

/-- No word starts with another letter. -/
theorem readWord_eq_none {c : Char} {cs : List Char} (h : c ≠ 'n' ∧ c ≠ 't' ∧ c ≠ 'f') :
    readWord (c :: cs) = none := by
  have hnone (w : Word) : w.take? (c :: cs) = none := by
    apply Word.take?_eq_none
    cases w <;> simp [Word.spelling, Text.strip?, h.1.symm, h.2.1.symm, h.2.2.symm]
  simp [readWord, hnone]

/-! ## Numbers -/

theorem digitsValue_eq (ds : List Char) : digitsValue ds = Nat.ofDigitChars 10 ds 0 := by
  simp only [digitsValue, Nat.ofDigitChars, Double.digitValue, Nat.mul_comm]

theorem le_ofDigitChars (start : ℕ) (ds : List Char) : start ≤ Nat.ofDigitChars 10 ds start := by
  induction ds generalizing start with
  | nil => rw [Nat.ofDigitChars_nil]
  | cons d ds ih =>
    rw [Nat.ofDigitChars_cons]
    have := ih (10 * start + (d.toNat - '0'.toNat))
    omega

/-- Digits that write a number of 64 bits are kept, all of them. -/
theorem keepDigits_eq {start : ℕ} {ds : List Char}
    (h : Nat.ofDigitChars 10 ds start < UInt64.size) :
    Double.keepDigits start ds = (Nat.ofDigitChars 10 ds start, 0) := by
  induction ds generalizing start with
  | nil => rfl
  | cons d ds ih =>
    rw [Nat.ofDigitChars_cons, Nat.mul_comm 10 start] at h ⊢
    have hnext := Nat.lt_of_le_of_lt (le_ofDigitChars _ ds) h
    rw [Double.keepDigits]
    exact (if_pos hnext).trans (ih h)

/-- Rounding at most doubles a number: it goes up only if what it takes away is half a unit. -/
theorem roundTo53_le (n : ℕ) : Double.roundTo53 n ≤ 2 * n := by
  have hdiv := Nat.div_add_mod' n (Nat.pow 2 (n.log2 - 52))
  simp only [Double.roundTo53]
  generalize Nat.pow 2 (n.log2 - 52) = unit at hdiv ⊢
  split_ifs with hup
  · have hunit : unit ≤ 2 * (n % unit) := by omega
    rw [Nat.succ_mul]
    omega
  · omega

/-- A natural number of 64 bits can be held. -/
theorem isFinite_digits {n : ℕ} (h : n < UInt64.size) :
    Double.isFinite (Nat.toDigits 10 n) [] 0 = true := by
  have hvalue : Nat.ofDigitChars 10 (Nat.toDigits 10 n) 0 = n := Nat.ofDigitChars_ten_toDigits
  have hkeep : Double.keepDigits 0 (Nat.toDigits 10 n) = (n, 0) := by
    rw [keepDigits_eq (by rwa [hvalue]), hvalue]
  have hsmall : Double.roundTo53 n * Double.roundTo53 1 < Double.halfway := by
    have hone : Double.roundTo53 1 = 1 := by decide
    have hhalfway : 2 * UInt64.size ≤ Double.halfway := by decide +kernel
    have hle := roundTo53_le n
    rw [hone, Nat.mul_one]
    omega
  simp [Double.isFinite, hkeep, Double.keepDigits, Double.isFiniteProduct, hsmall]

/-- Nothing at the front of the text could be part of a number before it. -/
def EndsNumber (cs : List Char) : Prop :=
  ∀ c ∈ cs.head?, c.isDigit = false ∧ c ≠ '.' ∧ c ≠ 'e' ∧ c ≠ 'E'

theorem readDigits_append {ds rest : List Char} (hne : ds ≠ [])
    (hdigits : ∀ d ∈ ds, d.isDigit = true) (hrest : EndsNumber rest) :
    ∃ h, readDigits (ds ++ rest) = some ⟨ds, rest, h⟩ := by
  have hnone : rest.takeWhile Char.isDigit = [] ∧ rest.dropWhile Char.isDigit = rest := by
    cases rest with
    | nil => exact ⟨rfl, rfl⟩
    | cons c cs =>
      have hc : ¬c.isDigit = true := by simp [(hrest c rfl).1]
      exact ⟨List.takeWhile_cons_of_neg hc, List.dropWhile_cons_of_neg hc⟩
  have htake : (ds ++ rest).takeWhile Char.isDigit = ds := by
    rw [List.takeWhile_append_of_pos hdigits, hnone.1, List.append_nil]
  have hdrop : (ds ++ rest).dropWhile Char.isDigit = rest := by
    rw [List.dropWhile_append_of_pos hdigits, hnone.2]
  refine ⟨by simpa using List.length_pos_iff.2 hne, ?_⟩
  rw [readDigits, Text.run?, dif_pos (by rwa [htake])]
  simp only [htake, hdrop]

theorem exists_toDigits_eq_cons (n : ℕ) :
    ∃ d ds, Nat.toDigits 10 n = d :: ds ∧ d.isDigit = true := by
  have hne : Nat.toDigits 10 n ≠ [] := Nat.toDigits_ne_nil
  obtain ⟨d, ds, hds⟩ := List.exists_cons_of_ne_nil hne
  have hmem : d ∈ Nat.toDigits 10 n := hds ▸ List.mem_cons_self
  exact ⟨d, ds, hds, Nat.isDigit_of_mem_toDigits (by decide) (by decide) hmem⟩

/-- A natural number starts with a zero only if it is zero. -/
theorem head?_toDigits_ne {n : ℕ} (h : n ≠ 0) : (Nat.toDigits 10 n).head? ≠ some '0' := by
  induction n using Nat.strongRecOn with
  | ind n ih =>
    rcases Nat.lt_or_ge n 10 with hlt | hge
    · rw [Nat.toDigits_of_lt_base hlt]
      interval_cases n <;> simp_all
    · have hpos : n / 10 ≠ 0 := by omega
      have hhead := ih (n / 10) (by omega) hpos
      obtain ⟨d, ds, hds, -⟩ := exists_toDigits_eq_cons (n / 10)
      rw [Nat.toDigits_of_base_le (by decide) hge]
      rwa [hds] at hhead ⊢

theorem readWhole_toDigits (n : ℕ) {rest : List Char} (hrest : EndsNumber rest) :
    ∃ h, readWhole (Nat.toDigits 10 n ++ rest) = some ⟨Nat.toDigits 10 n, rest, h⟩ := by
  have hdigits : ∀ d ∈ Nat.toDigits 10 n, d.isDigit = true :=
    fun d hd => Nat.isDigit_of_mem_toDigits (by decide) (by decide) hd
  obtain ⟨h, hread⟩ := readDigits_append Nat.toDigits_ne_nil hdigits hrest
  have hzero : ¬((Nat.toDigits 10 n).head? = some '0' ∧ (Nat.toDigits 10 n).length ≠ 1) := by
    rintro ⟨hhead, hlength⟩
    rcases Nat.eq_zero_or_pos n with rfl | hn
    · exact hlength rfl
    · exact head?_toDigits_ne (Nat.ne_of_gt hn) hhead
  refine ⟨h, ?_⟩
  rw [readWhole, hread, Option.bind_eq_bind, Option.bind_some, if_neg hzero]

theorem readFraction_of_endsNumber {cs : List Char} (h : EndsNumber cs) :
    readFraction cs = some (none, Text.Left.all cs) := by
  unfold readFraction
  split
  · exact absurd rfl (h '.' rfl).2.1
  · rfl

theorem readExponent_of_endsNumber {cs : List Char} (h : EndsNumber cs) :
    readExponent cs = some (none, Text.Left.all cs) := by
  cases cs with
  | nil => rfl
  | cons c cs =>
    have hc := h c rfl
    rw [readExponent, if_neg (by simp [hc])]

theorem readUnsigned_toDigits (negative : Bool) (n : ℕ) {rest : List Char}
    (hrest : EndsNumber rest) :
    ∃ h, readUnsigned negative (Nat.toDigits 10 n ++ rest) =
      some ⟨⟨negative, Nat.toDigits 10 n, none, none⟩, rest, h⟩ := by
  obtain ⟨h, hwhole⟩ := readWhole_toDigits n hrest
  refine ⟨h, ?_⟩
  rw [readUnsigned, hwhole]
  simp only [Option.bind_eq_bind, Option.bind_some, readFraction_of_endsNumber hrest,
    Text.Taken.leaving, Text.Left.all, readExponent_of_endsNumber hrest]
  rfl

theorem readSigned_toDigits (n : ℕ) {rest : List Char} (hrest : EndsNumber rest) :
    ∃ h, readSigned (Nat.toDigits 10 n ++ rest) =
      some ⟨⟨false, Nat.toDigits 10 n, none, none⟩, rest, h⟩ := by
  obtain ⟨h, hread⟩ := readUnsigned_toDigits false n hrest
  refine ⟨h, Eq.trans ?_ hread⟩
  obtain ⟨d, ds, hds, hdigit⟩ := exists_toDigits_eq_cons n
  rw [hds, List.cons_append, readSigned]
  rintro cs heq
  rw [(List.cons.inj heq).1] at hdigit
  cases hdigit

/-- A natural number of 64 bits is read as itself. -/
theorem readNumber_toString {n : ℕ} (h : n < UInt64.size) {rest : List Char}
    (hrest : EndsNumber rest) :
    ∃ h, readNumber ((toString n).toList ++ rest) = some ⟨.natural n, rest, h⟩ := by
  obtain ⟨hshorter, hread⟩ := readSigned_toDigits n hrest
  have hvalue : ∀ literal, NumberParts.value ⟨false, Nat.toDigits 10 n, none, none⟩ literal =
      .natural n := by
    intro literal
    rw [NumberParts.value, Option.getD_none, Option.getD_none, if_pos (isFinite_digits h)]
    simp [digitsValue_eq, Nat.ofDigitChars_ten_toDigits]
  have htext : (toString n).toList = Nat.toDigits 10 n := Nat.toList_repr
  rw [htext]
  refine ⟨hshorter, ?_⟩
  rw [readNumber, hread, Option.bind_eq_bind, Option.bind_some]
  simp only [Text.Taken.map, hvalue]
  rfl

/-! ## Strings -/

/-- How a character is read back from a string: controls without a letter of their own by their
number. -/
def pieceOf (c : Char) : Piece :=
  if c.toNat < 0x20 ∧ c.toNat ∉ [0x8, 0x9, 0xA, 0xC, 0xD] then .unit c.toNat else .char c

theorem hexValue?_digitChar : ∀ n < 16, hexValue? (Nat.digitChar n) = some n := by
  decide

theorem hexUnit?_digitChar {n : ℕ} (h : n < 0x20) :
    hexUnit? '0' '0' (Nat.digitChar (n / 16)) (Nat.digitChar (n % 16)) = some n := by
  have hzero : hexValue? '0' = some 0 := by decide
  rw [hexUnit?, hzero, hexValue?_digitChar (n / 16) (by omega),
    hexValue?_digitChar (n % 16) (by omega)]
  simp only [Option.bind_eq_bind, Option.bind_some, Option.pure_def, Option.some.injEq]
  omega

/-- A character is escaped by a letter, is a control that is escaped by its number, or stands for
itself. -/
theorem escapedChar_cases (c : Char) :
    (∃ e, e ≠ 'u' ∧ escape? e = some c ∧ escapedChar c = ['\\', e] ∧ pieceOf c = .char c) ∨
    (c.toNat < 0x20 ∧ escapedChar c =
      ['\\', 'u', '0', '0', Nat.digitChar (c.toNat / 16), Nat.digitChar (c.toNat % 16)] ∧
      pieceOf c = .unit c.toNat) ∨
    (c ≠ '"' ∧ c ≠ '\\' ∧ ¬c.toNat < 0x20 ∧ escapedChar c = [c] ∧ pieceOf c = .char c) := by
  have hletter : ∀ {n : ℕ} {d : Char}, d.toNat = n → c.toNat = n → c = d :=
    fun hd hc => Char.toNat_inj.1 (hc.trans hd.symm)
  by_cases hquote : c = '"'
  · exact .inl ⟨'"', by subst hquote; decide⟩
  by_cases hslash : c = '\\'
  · exact .inl ⟨'\\', by subst hslash; decide⟩
  by_cases h8 : c.toNat = 0x8
  · exact .inl ⟨'b', by cases hletter (d := '\x08') rfl h8; decide⟩
  by_cases h9 : c.toNat = 0x9
  · exact .inl ⟨'t', by cases hletter (d := '\t') rfl h9; decide⟩
  by_cases hA : c.toNat = 0xA
  · exact .inl ⟨'n', by cases hletter (d := '\n') rfl hA; decide⟩
  by_cases hC : c.toNat = 0xC
  · exact .inl ⟨'f', by cases hletter (d := '\x0c') rfl hC; decide⟩
  by_cases hD : c.toNat = 0xD
  · exact .inl ⟨'r', by cases hletter (d := '\r') rfl hD; decide⟩
  have hescaped : escapedChar c = if c.toNat < 0x20 then
      ['\\', 'u', '0', '0', Nat.digitChar (c.toNat / 16), Nat.digitChar (c.toNat % 16)] else [c] := by
    simp only [escapedChar, hquote, hslash, h8, h9, hA, hC, hD, if_false]
  have hpiece : pieceOf c = if c.toNat < 0x20 then .unit c.toNat else .char c := by
    simp [pieceOf, h8, h9, hA, hC, hD]
  by_cases hcontrol : c.toNat < 0x20
  · rw [if_pos hcontrol] at hescaped hpiece
    exact .inr (.inl ⟨hcontrol, hescaped, hpiece⟩)
  · rw [if_neg hcontrol] at hescaped hpiece
    exact .inr (.inr ⟨hquote, hslash, hcontrol, hescaped, hpiece⟩)

/-- A character inside a string is read as its piece. -/
theorem readPieces_escapedChar (c : Char) (cs : List Char) :
    readPieces (escapedChar c ++ cs) =
      (readPieces cs).map fun (pieces, rest) => (pieceOf c :: pieces, rest) := by
  obtain ⟨e, hu, he, hescaped, hpiece⟩ | ⟨hcontrol, hescaped, hpiece⟩ |
    ⟨hquote, hslash, hcontrol, hescaped, hpiece⟩ := escapedChar_cases c
  · rw [hescaped, hpiece, List.cons_append, List.cons_append, List.nil_append, readPieces]
    · rw [he]
      cases readPieces cs <;> rfl
    · exact fun a b d f rest heq _ => hu heq
  · rw [hescaped, hpiece]
    simp only [List.cons_append, List.nil_append]
    rw [readPieces, hexUnit?_digitChar hcontrol]
    cases readPieces cs <;> rfl
  · rw [hescaped, hpiece, List.cons_append, List.nil_append, readPieces]
    · rw [if_neg (by simp [hcontrol, hslash])]
      cases readPieces cs <;> rfl
    all_goals simp [hquote, hslash]

theorem readPieces_quoted (cs rest : List Char) :
    readPieces (cs.flatMap escapedChar ++ '"' :: rest) = some (cs.map pieceOf, rest) := by
  induction cs with
  | nil => rfl
  | cons c cs ih =>
    rw [List.flatMap_cons, List.append_assoc, readPieces_escapedChar, ih]
    rfl

theorem joinPieces_unit {n : ℕ} (h : n < 0x20) (pieces : List Piece) :
    joinPieces (.unit n :: pieces) = (joinPieces pieces).map (Char.ofNat n :: ·) := by
  have hpair (m : ℕ) : ¬(0xD800 ≤ n ∧ n < 0xDC00 ∧ 0xDC00 ≤ m ∧ m < 0xE000) := by omega
  have hhalf : ¬(0xD800 ≤ n ∧ n < 0xE000) := by omega
  cases pieces with
  | nil => simp [joinPieces, hhalf]
  | cons p ps =>
    cases p with
    | char c => simp [joinPieces, hhalf]
    | unit m => rw [joinPieces, if_neg (hpair m), if_neg hhalf]

theorem joinPieces_cons_pieceOf (c : Char) (pieces : List Piece) :
    joinPieces (pieceOf c :: pieces) = (joinPieces pieces).map (c :: ·) := by
  rw [pieceOf]
  split_ifs with h
  · rw [joinPieces_unit h.1, Char.ofNat_toNat]
  · rw [joinPieces]

theorem joinPieces_map_pieceOf (cs : List Char) : joinPieces (cs.map pieceOf) = some cs := by
  induction cs with
  | nil => rfl
  | cons c cs ih =>
    rw [List.map_cons, joinPieces_cons_pieceOf, ih]
    rfl

/-- A string is read as the text that was quoted. -/
theorem readText_quote (text : String) (rest : List Char) :
    ∃ tail, (quote text).toList ++ rest = '"' :: tail ∧
      ∃ h, readText tail = some ⟨some text, rest, h⟩ := by
  refine ⟨text.toList.flatMap escapedChar ++ '"' :: rest, ?_, ?_⟩
  · rw [quote, String.toList_ofList, List.cons_append, List.cons_append, List.append_assoc]
    rfl
  · have hpieces := readPieces_quoted text.toList rest
    refine ⟨length_of_readPieces hpieces, ?_⟩
    unfold readText
    split
    next hnone => rw [hpieces] at hnone; cases hnone
    next pieces after hsome =>
      obtain ⟨rfl, rfl⟩ : _ ∧ _ := by simpa [hpieces] using hsome
      simp only [joinPieces_map_pieceOf, Option.map_some, String.ofList_toList]

end Referent.Json
