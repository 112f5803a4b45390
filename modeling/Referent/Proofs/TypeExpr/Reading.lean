import Referent.Proofs.TypeExpr.Tokens

/-!
# Reading type text

The reader accepts exactly the texts of the grammar. What it took off the front of a text derives
the type, because each branch takes one row of the grammar. A text that derives a type is taken as
a whole, because no other row starts with the same character and what may follow a type (a comma, a
closing bracket or the end) cannot go on with it.

Results:
* `exists_of_readType`, `readType_of_eq`: the two directions for a type inside a text.
* `readAll_eq_ok_iff`: whole texts.
* `parse_eq_ok_iff_derives`: parsing a text gives a type exactly if the text derives it, a text
  derives at most one type, and every other text is refused.
* `isFull_of_parse`: no array is full, as far as texts can reach.
-/

namespace Referent.TypeExpr

open Referent.Text (Blanks first?)

/-! ## What is taken derives the type -/

-- The recursion follows the readers, on the length of the text. The first argument is read before
-- `readArgs` starts, so its derivation is handed on.
mutual

theorem exists_of_readType {cs rest : List Char} {t : TypeExpr} {hlt : rest.length < cs.length}
    (h : readType cs = .ok ⟨t, rest, hlt⟩) : ∃ span, Derives span t ∧ cs = span ++ rest := by
  rw [readType] at h
  split at h
  · rename_i token htoken
    obtain ⟨_, after, hafter⟩ := token
    obtain ⟨bs, hbs, hcs⟩ := Token.exists_of_take? htoken
    cases h
    refine ⟨_, .unknown hbs, ?_⟩
    rw [List.append_assoc]
    exact hcs
  · split at h
    · rename_i mark hmark
      obtain ⟨_, inner, hinner⟩ := mark
      obtain ⟨bs, hbs, hcs⟩ := Token.exists_of_take? hmark
      split at h
      · cases h
        refine ⟨_, .wildcard hbs, ?_⟩
        rw [List.append_assoc]
        exact hcs
      · rename_i word hword
        obtain ⟨upper, after, hafter⟩ := word
        obtain ⟨bs', hbs', hcs'⟩ := exists_of_boundWord? hword
        obtain ⟨⟨bound, last, hlast⟩, hbound, h⟩ := bind_eq_ok_iff.1 h
        cases h
        have hlt : after.length < cs.length := Nat.lt_trans hafter hinner
        obtain ⟨span, hspan, rfl⟩ := exists_of_readType hbound
        refine ⟨_, .bounded hbs hbs' hspan, ?_⟩
        change cs = bs ++ '?' :: (bs' ++ boundWord upper ++ span) ++ last
        dsimp only at hcs hcs'
        rw [hcs, hcs']
        simp [Token.spelling]
    · obtain ⟨⟨name, after, hafter⟩, hname, h⟩ := bind_eq_ok_iff.1 h
      obtain ⟨bs, cs', hbs, hcs', hcs, rfl⟩ := exists_of_readName hname
      split at h
      · obtain ⟨⟨u, last, hlast⟩, hbrackets, h⟩ := bind_eq_ok_iff.1 h
        cases h
        obtain ⟨k, ds, hds, rfl, rfl⟩ := exists_of_readBrackets (ofName_ne_array _) hbrackets
        refine ⟨_, .plain hbs hcs' (denotes_iff.2 rfl) hds, ?_⟩
        change cs = _ ++ last
        rw [hcs]
        simp
      · rename_i opened hopened
        obtain ⟨_, inner, hinner⟩ := opened
        obtain ⟨bs', hbs', hafter'⟩ := Token.exists_of_take? hopened
        obtain ⟨⟨first, more, hmore⟩, hfirst, h⟩ := bind_eq_ok_iff.1 h
        obtain ⟨⟨others, close, hclose⟩, hothers, h⟩ := bind_eq_ok_iff.1 h
        obtain ⟨⟨u, last, hlast⟩, hbrackets, h⟩ := bind_eq_ok_iff.1 h
        cases h
        have hlt : inner.length < cs.length := Nat.lt_trans hinner hafter
        have hlt' : more.length < cs.length := Nat.lt_trans hmore hlt
        obtain ⟨span, hspan, hinner'⟩ := exists_of_readType hfirst
        obtain ⟨as, bs'', has, hbs'', hspan'⟩ := exists_of_readArgs hothers hspan
        obtain ⟨k, ds, hds, hclose', rfl⟩ := exists_of_readBrackets (by simp) hbrackets
        change close = ds ++ last at hclose'
        refine ⟨_, .generic hbs hcs' (denotes_iff.2 rfl) hbs' has hbs'' hds, ?_⟩
        change cs = _ ++ last
        dsimp only at hcs hafter' hinner' hspan'
        rw [hcs, hafter', hinner', hspan', hclose']
        simp [Token.spelling]
termination_by cs.length

/-- The arguments behind a first one. -/
theorem exists_of_readArgs {cs rest : List Char} {ts : List TypeExpr}
    {hlt : rest.length < cs.length} (h : readArgs cs = .ok ⟨ts, rest, hlt⟩) {span : List Char}
    {t : TypeExpr} (hspan : Derives span t) :
    ∃ as bs, DerivesArgs as (t :: ts) ∧ Blanks bs ∧ span ++ cs = as ++ (bs ++ '>' :: rest) := by
  rw [readArgs] at h
  split at h
  · rename_i comma hcomma
    obtain ⟨_, inner, hinner⟩ := comma
    obtain ⟨bs, hbs, hcs⟩ := Token.exists_of_take? hcomma
    obtain ⟨⟨first, more, hmore⟩, hfirst, h⟩ := bind_eq_ok_iff.1 h
    obtain ⟨⟨others, close, hclose⟩, hothers, h⟩ := bind_eq_ok_iff.1 h
    cases h
    have hlt' : more.length < cs.length := Nat.lt_trans hmore hinner
    obtain ⟨span', hspan', hinner'⟩ := exists_of_readType hfirst
    obtain ⟨as, bs', has, hbs', hargs⟩ := exists_of_readArgs hothers hspan'
    refine ⟨_, bs', .more hspan hbs has, hbs', ?_⟩
    change span ++ cs = _ ++ (bs' ++ '>' :: close)
    dsimp only at hcs hinner' hargs
    rw [hcs, hinner', hargs]
    simp [Token.spelling]
  · split at h
    · rename_i closed hclosed
      obtain ⟨_, after, hafter⟩ := closed
      obtain ⟨bs, hbs, hcs⟩ := Token.exists_of_take? hclosed
      cases h
      exact ⟨span, bs, .one hspan, hbs, congrArg (span ++ ·) hcs⟩
    · cases h
termination_by cs.length

end

/-! ## What derives a type is taken -/

/-- What may follow a type: a comma or a closing bracket, or nothing but blanks. -/
def Stops (rest : List Char) : Prop :=
  first? rest = none ∨ first? rest = some ',' ∨ first? rest = some '>'

theorem Stops.first?_ne {rest : List Char} (h : Stops rest) {c : Char} (hcomma : c ≠ ',')
    (hclose : c ≠ '>') : first? rest ≠ some c := by
  rintro hc
  rw [Stops, hc] at h
  rcases h with h | h | h
  · cases h
  · exact hcomma (Option.some.inj h)
  · exact hclose (Option.some.inj h)

theorem stops_comma {bs : List Char} (hbs : Blanks bs) (rest : List Char) :
    Stops (bs ++ ',' :: rest) := by
  rw [Stops, Text.first?_append hbs]
  exact .inr (.inl (Text.first?_cons rfl rest))

theorem stops_closeAngle {bs : List Char} (hbs : Blanks bs) (rest : List Char) :
    Stops (bs ++ '>' :: rest) := by
  rw [Stops, Text.first?_append hbs]
  exact .inr (.inr (Text.first?_cons rfl rest))

theorem stops_blanks {bs : List Char} (hbs : Blanks bs) : Stops bs := by
  rw [Stops, first?, Text.skipBlanks_eq_nil_iff.2 hbs]
  exact .inl rfl

/-- Behind a name there are brackets or what may follow a type. -/
theorem first?_brackets {k : ℕ} {ds : List Char} (hds : Brackets k ds) (rest : List Char) :
    first? (ds ++ rest) = some '[' ∨ first? (ds ++ rest) = first? rest := by
  cases hds with
  | none => exact .inr rfl
  | pair hbs hbs' _ =>
    refine .inl ?_
    rw [List.append_assoc, Text.first?_append hbs]
    exact Text.first?_cons rfl _

theorem first?_brackets_ne {k : ℕ} {ds rest : List Char} (hds : Brackets k ds)
    (hrest : Stops rest) {c : Char} (hopen : c ≠ '[') (hcomma : c ≠ ',') (hclose : c ≠ '>') :
    first? (ds ++ rest) ≠ some c := by
  rcases first?_brackets hds rest with h | h
  · rw [h]
    exact fun heq => hopen (Option.some.inj heq).symm
  · rw [h]
    exact hrest.first?_ne hcomma hclose

/-- A text whose first character besides blanks cannot stand in a name does not go on with one. -/
theorem isNameChar_head {cs : List Char} (h : ∀ c, isNameChar c = true → first? cs ≠ some c)
    (c : Char) (hc : cs.head? = some c) : isNameChar c = false := by
  rcases Text.head?_of_first? hc with hblank | hfirst
  · exact isNameChar_of_isBlank hblank
  · rw [← Bool.not_eq_true]
    exact fun hname => h c hname hfirst

theorem isNameChar_head_openAngle {bs : List Char} (hbs : Blanks bs) (rest : List Char) (c : Char)
    (hc : (bs ++ '<' :: rest).head? = some c) : isNameChar c = false := by
  refine isNameChar_head (fun c hname hfirst => ?_) c hc
  rw [Text.first?_append hbs, Text.first?_cons rfl] at hfirst
  cases hfirst
  cases hname

/-- A name is not the start of a token, so the readers tried before it pass. -/
theorem no_token_of_name {cs bs name rest : List Char} (hbs : Blanks bs) (hname : IsName name)
    (hcs : cs = bs ++ (name ++ rest)) :
    Token.unknownType.take? cs = none ∧ Token.questionMark.take? cs = none := by
  obtain ⟨c, name, rfl, hc, hblank⟩ := hname.exists_cons
  have hfirst : first? cs = some c := by
    rw [hcs, Text.first?_append hbs]
    exact Text.first?_cons hblank _
  have hne (token : Token) (htoken : token.spelling.head?.all (!isNameChar ·) = true) :
      token.take? cs = none := by
    refine Token.take?_eq_none fun heq => ?_
    rw [← heq, hfirst] at htoken
    simp [hc] at htoken
  exact ⟨hne .unknownType (by decide), hne .questionMark (by decide)⟩

theorem unknownType_of_questionMark {cs bs rest : List Char} (hbs : Blanks bs)
    (hcs : cs = bs ++ '?' :: rest) : Token.unknownType.take? cs = none := by
  refine Token.take?_eq_none ?_
  rw [hcs, Text.first?_append hbs, Text.first?_cons rfl]
  decide

-- The recursion is on the derivation, with any text behind it that a type cannot go on with. In
-- each case the readers that are tried before the right one pass.
mutual

theorem readType_of_eq : ∀ {span : List Char} {t : TypeExpr}, Derives span t →
    ∀ {cs rest : List Char}, Stops rest → cs = span ++ rest →
      ∃ hlt, readType cs = .ok ⟨t, rest, hlt⟩
  | _, _, .unknown hbs, cs, rest, _, hcs => by
    rw [List.append_assoc] at hcs
    obtain ⟨hlt, htoken⟩ := Token.unknownType.take?_of_eq hbs hcs
    refine ⟨hlt, ?_⟩
    rw [readType, htoken]
    rfl
  | _, _, .wildcard hbs, cs, rest, hrest, hcs => by
    rw [List.append_assoc, List.singleton_append] at hcs
    obtain ⟨hlt, hmark⟩ := Token.questionMark.take?_char rfl hbs hcs
    have hword : boundWord? rest = none :=
      boundWord?_eq_none (hrest.first?_ne (by decide) (by decide))
        (hrest.first?_ne (by decide) (by decide))
    refine ⟨hlt, ?_⟩
    rw [readType, unknownType_of_questionMark hbs hcs, hmark]
    dsimp only
    rw [hword]
    rfl
  | _, _, @Derives.bounded bs bs' span upper bound hbs hbs' hspan, cs, rest, hrest, hcs => by
    have hcs : cs = bs ++ '?' :: (bs' ++ (boundWord upper ++ (span ++ rest))) := by
      rw [hcs]
      simp
    obtain ⟨hlt, hmark⟩ := Token.questionMark.take?_char rfl hbs hcs
    obtain ⟨hlt', hword⟩ := boundWord?_of_eq hbs' rfl
    obtain ⟨hlt'', hbound⟩ := readType_of_eq hspan hrest rfl
    refine ⟨Nat.lt_trans hlt'' (Nat.lt_trans hlt' hlt), ?_⟩
    rw [readType, unknownType_of_questionMark hbs hcs, hmark]
    dsimp only
    rw [hword]
    dsimp only
    rw [hbound]
    rfl
  | _, _, @Derives.plain bs name ds t k hbs hname ht hds, cs, rest, hrest, hcs => by
    obtain rfl := denotes_iff.1 ht
    have hcs : cs = bs ++ (name ++ (ds ++ rest)) := by
      rw [hcs]
      simp
    have hhead := isNameChar_head fun c hc => first?_brackets_ne hds hrest
      (by rintro rfl; cases hc) (by rintro rfl; cases hc) (by rintro rfl; cases hc)
    obtain ⟨hlt, hread⟩ := readName_of_eq hbs hname hhead hcs
    obtain ⟨hle, hbrackets⟩ := readBrackets_of_eq hds (ofName_ne_array (String.ofList name))
      (hrest.first?_ne (by decide) (by decide)) rfl
    have hopen : Token.openAngle.take? (ds ++ rest) = none :=
      Token.take?_eq_none (first?_brackets_ne hds hrest (by decide) (by decide) (by decide))
    obtain ⟨hunknown, hmark⟩ := no_token_of_name hbs hname hcs
    refine ⟨Nat.lt_of_le_of_lt hle hlt, ?_⟩
    rw [readType, hunknown]
    dsimp only
    rw [hmark]
    dsimp only
    rw [hread, ok_bind]
    dsimp only
    rw [hopen]
    dsimp only
    rw [hbrackets]
    rfl
  | _, _, @Derives.generic bs name bs' as bs'' ds t args k hbs hname ht hbs' hargs hbs'' hds, cs,
      rest, hrest, hcs => by
    obtain rfl := denotes_iff.1 ht
    let inner := as ++ (bs'' ++ '>' :: (ds ++ rest))
    have hcs : cs = bs ++ (name ++ (bs' ++ '<' :: inner)) := by
      rw [hcs]
      simp [inner]
    obtain ⟨hlt, hread⟩ := readName_of_eq hbs hname (isNameChar_head_openAngle hbs' inner) hcs
    obtain ⟨hlt', hopen⟩ : ∃ h, Token.openAngle.take? (bs' ++ '<' :: inner) =
        some ⟨.openAngle, inner, h⟩ := Token.openAngle.take?_char rfl hbs' rfl
    obtain ⟨first, others, more, hmore, hothers, rfl, hfirst, hrestArgs⟩ :=
      readArgs_of_eq hargs hbs'' rfl
    obtain ⟨hle, hbrackets⟩ := readBrackets_of_eq
      (t := .generic (ofName (String.ofList name)) (first :: others)) hds (by simp)
      (hrest.first?_ne (by decide) (by decide)) rfl
    obtain ⟨hunknown, hmark⟩ := no_token_of_name hbs hname hcs
    refine ⟨Nat.lt_of_le_of_lt hle (Nat.lt_trans hothers
      (Nat.lt_trans hmore (Nat.lt_trans hlt' hlt))), ?_⟩
    rw [readType, hunknown]
    dsimp only
    rw [hmark]
    dsimp only
    rw [hread, ok_bind]
    dsimp only
    rw [hopen]
    dsimp only
    rw [hfirst, ok_bind]
    dsimp only
    rw [hrestArgs, ok_bind]
    dsimp only [Text.Taken.followedBy, Text.Taken.map]
    rw [hbrackets]
    rfl

theorem readArgs_of_eq : ∀ {as : List Char} {ts : List TypeExpr}, DerivesArgs as ts →
    ∀ {cs bs rest : List Char}, Blanks bs → cs = as ++ (bs ++ '>' :: rest) →
      ∃ t ts' more hmore hlt, ts = t :: ts' ∧ readType cs = .ok ⟨t, more, hmore⟩ ∧
        readArgs more = .ok ⟨ts', rest, hlt⟩
  | _, _, @DerivesArgs.one as t h, cs, bs, rest, hbs, hcs => by
    obtain ⟨hmore, hread⟩ := readType_of_eq h (stops_closeAngle hbs rest) hcs
    obtain ⟨hlt, hclose⟩ : ∃ h, Token.closeAngle.take? (bs ++ '>' :: rest) =
        some ⟨.closeAngle, rest, h⟩ := Token.closeAngle.take?_char rfl hbs rfl
    refine ⟨t, [], _, hmore, hlt, rfl, hread, ?_⟩
    have hcomma : Token.comma.take? (bs ++ '>' :: rest) = none := by
      refine Token.take?_eq_none ?_
      rw [Text.first?_append hbs, Text.first?_cons rfl]
      decide
    rw [readArgs, hcomma]
    dsimp only
    rw [hclose]
    rfl
  | _, _, @DerivesArgs.more cs' bs as t ts h hbs hargs, cs, bs', rest, hbs', hcs => by
    have hcs : cs = cs' ++ (bs ++ ',' :: (as ++ (bs' ++ '>' :: rest))) := by
      rw [hcs]
      simp
    obtain ⟨hmore, hread⟩ := readType_of_eq h (stops_comma hbs _) hcs
    obtain ⟨hlt, hcomma⟩ : ∃ h, Token.comma.take? (bs ++ ',' :: (as ++ (bs' ++ '>' :: rest))) =
        some ⟨.comma, as ++ (bs' ++ '>' :: rest), h⟩ := Token.comma.take?_char rfl hbs rfl
    obtain ⟨first, others, more, hlt', hlt'', rfl, hfirst, hothers⟩ := readArgs_of_eq hargs hbs' rfl
    refine ⟨t, first :: others, _, hmore, Nat.lt_trans hlt'' (Nat.lt_trans hlt' hlt), rfl, hread,
      ?_⟩
    rw [readArgs, hcomma]
    dsimp only
    rw [hfirst, ok_bind]
    dsimp only
    rw [hothers]
    rfl

end

/-! ## Whole texts -/

/-- A whole text is read exactly if it derives the type. -/
theorem readAll_eq_ok_iff {cs : List Char} {t : TypeExpr} :
    readAll cs = .ok t ↔ DerivesText cs t := by
  unfold readAll
  constructor
  · intro h
    obtain ⟨⟨u, rest, hlt⟩, hread, h⟩ := bind_eq_ok_iff.1 h
    obtain ⟨span, hspan, hcs⟩ := exists_of_readType hread
    dsimp only at h
    split at h
    · rename_i hrest
      cases h
      exact ⟨span, rest, hcs, hspan, Text.skipBlanks_eq_nil_iff.1 hrest⟩
    · cases h
  · rintro ⟨span, bs, hcs, hspan, hbs⟩
    obtain ⟨hlt, hread⟩ := readType_of_eq hspan (stops_blanks hbs) hcs
    rw [hread, ok_bind]
    dsimp only
    rw [Text.skipBlanks_eq_nil_iff.2 hbs]

theorem parse_eq_ok_iff {text : String} {t : TypeExpr} :
    parse text = .ok t ↔ DerivesText text.toList t := by
  rw [← readAll_eq_ok_iff, parse]
  cases readAll text.toList with
  | error fault => simp [Except.mapError]
  | ok u => simp [Except.mapError]

/-- Parsing a text gives a type exactly if the text derives it. A text derives at most one type,
and it is refused if it derives none. -/
theorem parse_eq_ok_iff_derives (text : String) :
    (∀ t, parse text = .ok t ↔ DerivesText text.toList t) ∧
      (∀ t u, DerivesText text.toList t → DerivesText text.toList u → t = u) ∧
      ((∃ t, parse text = .ok t) ∨
        ∃ e, parse text = .error e ∧ ∀ t, ¬DerivesText text.toList t) := by
  refine ⟨fun t => parse_eq_ok_iff, fun t u ht hu => ?_, ?_⟩
  · exact Except.ok.inj ((parse_eq_ok_iff.2 ht).symm.trans (parse_eq_ok_iff.2 hu))
  · cases hparse : parse text with
    | ok t => exact .inl ⟨t, rfl⟩
    | error e =>
      refine .inr ⟨e, rfl, fun t ht => ?_⟩
      cases hparse.symm.trans (parse_eq_ok_iff.2 ht)

/-- Too few brackets fit into a text of fewer than `2 ^ 64` characters to fill an array. -/
theorem isFull_of_parse {text : String} {t : TypeExpr} (hparse : parse text = .ok t)
    (hlength : text.length ≤ Dimensions.greatest) : t.isFull = false := by
  obtain ⟨span, bs, htext, hspan, -⟩ := parse_eq_ok_iff.1 hparse
  refine hspan.isFull (Nat.le_trans ?_ hlength)
  rw [← String.length_toList, htext, List.length_append]
  exact Nat.le_add_right _ _

/-- No blank is needed behind `extends`, and blanks may stand in brackets: the text is read as its
one type, which is not the wildcard that it starts with. -/
theorem parse_eq_ok_iff_derives_bounded :
    let text := "?extendsList<T>[ ]"
    let t : TypeExpr := .bounded true (.array (.generic (.declared "List") [.declared "T"]) 1)
    DerivesText text.toList t ∧ parse text = .ok t ∧
      ¬DerivesText text.toList (.wildcard true) := by
  intro text t
  have hargument : Derives "T".toList (.declared "T") :=
    @Derives.plain [] "T".toList [] _ 0 Text.blanks_nil (isName_iff.2 (by decide +kernel))
      (.declared (by decide +kernel)) .none
  have hbound : Derives "List<T>[ ]".toList
      (.array (.generic (.declared "List") [.declared "T"]) 1) :=
    @Derives.generic [] "List".toList _ _ _ _ _ _ 1 Text.blanks_nil
      (isName_iff.2 (by decide +kernel)) (.declared (by decide +kernel))
      Text.blanks_nil (.one hargument) Text.blanks_nil
      (.pair Text.blanks_nil Text.blanks_space .none)
  have htext : text.toList = [] ++ '?' :: ([] ++ boundWord true ++ "List<T>[ ]".toList) := by
    decide +kernel
  have htype : Derives text.toList t := htext ▸ .bounded Text.blanks_nil Text.blanks_nil hbound
  have ht : DerivesText text.toList t := ⟨_, [], (List.append_nil _).symm, htype, Text.blanks_nil⟩
  obtain ⟨hparse, hunique, -⟩ := parse_eq_ok_iff_derives text
  refine ⟨ht, (hparse t).2 ht, fun hwildcard => ?_⟩
  have heq : t = .wildcard true := hunique t _ ht hwildcard
  simp [t] at heq

end Referent.TypeExpr
